import StorySuite.Proofs.Script.Parser.Enclosed
import StorySuite.Proofs.Script.Parser.Lines
import StorySuite.Proofs.Script.Parser.Statements
import StorySuite.Sandbox.Script

/-!
# Proofs — Sandbox — the text of a wrapper

A wrapper is a function in parentheses whose parameters and whose first statement are fixed: whatever
stands behind these, they are read as what they are.

* **`functionBody_of_exports`**: the body of a function that begins with the declaration of `exports`.
* **`exists_statements_of_wrapper`**: what a wrapper's function holds.
* `not_reads_of_runner`: no wrapper holds a program that begins with `#!`.
-/

namespace StorySuite

/-- The statement in front of the wrapped program. -/
def SandboxScript.exportsDeclaration : Script.Item :=
  .mk [] (.declaration .var
    [.withDefault (.name "exports") (.member (.name "module") "exports" false)])

namespace Script.Parser

open SandboxScript (exportsDeclaration)

variable {g : Grammar} {c : Context} {s : State} {owes : Bool} {k : Char} {rest : List Char}

/-! ### Parameters that are names -/

/-- Names with commas and blanks between them, up to the closing parenthesis. -/
def namesText : List (List Char) → List Char
  | [] => [')']
  | [name] => name ++ [')']
  | name :: next :: names => name ++ ',' :: ' ' :: namesText (next :: names)

theorem endsName_of_closer (hk : k ∈ closers) : EndsName k := by
  have hall : ∀ k ∈ closers, isNamePart k = false ∧ k ≠ '\\' :=
    List.all_iff_forall_prop.mp (by decide)
  exact ⟨(hall k hk).1, (hall k hk).2⟩

/-- A name in front of a comma or of the closing parenthesis is a parameter. -/
theorem parameter_of_name {name : List Char} {n : Nat} (htypes : c.hasTypes = false)
    (hname : IsWord name) (hmay : mayName c (String.ofList name) = true) (hk : k ∈ closers)
    (hfuel : 0 < c.fuel) :
    parameter (grammar (n + 1)) c (.solid c owes (name ++ k :: rest)) =
      some (.name (String.ofList name), .solid c owes (k :: rest)) := by
  have hends := endsName_of_closer hk
  have htoken : (State.solid c owes (name ++ k :: rest)).token = .name (String.ofList name) false :=
    token_solid_word hname.isSpelling hends
  have hnext : State.next c (.solid c owes (name ++ k :: rest)) = .solid c owes (k :: rest) :=
    next_eq_solid (rest_solid_word hname.isSpelling hends) (isSolid_closer hk rest) hfuel
  have hend : (State.solid c owes (k :: rest)).token ≠ .sign "=" := by
    rw [token_solid_closer hk]
    simp only [closers, List.mem_cons, List.not_mem_nil, or_false] at hk
    rcases hk with rfl | rfl | rfl | rfl | rfl <;> simp
  have hpattern : (grammar (n + 1)).pattern = patternProduction (grammar n) := rfl
  obtain ⟨fuel, hf⟩ := Nat.exists_eq_succ_of_ne_zero (by omega : c.fuel ≠ 0)
  simp [parameter, decorators_of_word htoken hfuel, repeatWhile, hf, repeatUpTo,
    atParameterModifier, htypes, run_takeSign, htoken, hpattern, patternProduction, variableName,
    atVariable, hmay, ensure, anyName, hnext, optionalAnnotation, annotated, hend]

/-- A round reads a name and what is behind it up to the next one. -/
def parameterStep (g : Grammar) : Parser (Option Pattern) := do
  if ← atSign ")" then return none
  else some <$> do
    let p ← parameter g
    unless ← atSign ")" do sign ","
    return p

section Names

variable {name : List Char} {n : Nat}

/-- A name in front of a comma or of the closing parenthesis, as one round reads it. -/
theorem parameterStep_of_name (owes : Bool) (rest : List Char) (htypes : c.hasTypes = false)
    (hname : IsWord name) (hmay : mayName c (String.ofList name) = true) (hk : k ∈ closers)
    (hfuel : 0 < c.fuel) :
    parameterStep (grammar (n + 1)) c (.solid c owes (name ++ k :: rest)) =
      if k = ')' then some (some (.name (String.ofList name)), .solid c owes (k :: rest))
      else (sign "," c (.solid c owes (k :: rest))).map fun r =>
        (some (.name (String.ofList name)), r.2) := by
  have htoken : (State.solid c owes (name ++ k :: rest)).token = .name (String.ofList name) false :=
    token_solid_word hname.isSpelling (endsName_of_closer hk)
  have hend : (State.solid c owes (k :: rest)).token = .sign ")" ↔ k = ')' := by
    rw [token_solid_closer hk]
    simp only [closers, List.mem_cons, List.not_mem_nil, or_false] at hk
    rcases hk with rfl | rfl | rfl | rfl | rfl <;> simp
  simp only [parameterStep, run_bind, run_atSign, htoken, Option.bind_some, run_map, run_ite,
    parameter_of_name htypes hname hmay hk hfuel, run_pure]
  by_cases hparen : k = ')'
  · subst hparen
    simp [hend.mpr rfl]
  · cases sign "," c (.solid c owes (k :: rest)) <;> simp [hparen, mt hend.mp hparen]

theorem repeatUpTo_names (owes : Bool) (rest : List Char) (htypes : c.hasTypes = false)
    (hfuel : 1 < c.fuel) :
    ∀ (names : List (List Char)) (fuel : Nat), names ≠ [] → names.length < fuel →
      (∀ name ∈ names, IsWord name ∧ mayName c (String.ofList name) = true) →
      repeatUpTo (parameterStep (grammar (n + 1))) fuel c (.solid c owes (namesText names ++ rest)) =
        some (names.map fun name => .name (String.ofList name), .solid c owes (')' :: rest))
  | [], _, h, _, _ => absurd rfl h
  | [name], fuel + 2, _, _, hnames => by
      obtain ⟨hname, hmay⟩ := hnames name (by simp)
      have hstep := parameterStep_of_name (k := ')') (n := n) owes rest htypes hname hmay (by decide)
        (by omega)
      have hclose := token_solid_closer (k := ')') (by decide) c owes rest
      have hend : parameterStep (grammar (n + 1)) c (.solid c owes (')' :: rest)) =
          some (none, .solid c owes (')' :: rest)) := by
        simp [parameterStep, hclose]
      simp [repeatUpTo, namesText, hstep, hend]
  | name :: next :: names, fuel + 1, _, hlength, hnames => by
      obtain ⟨hname, hmay⟩ := hnames name (by simp)
      have hstep := parameterStep_of_name (k := ',') (n := n) owes
        (' ' :: (namesText (next :: names) ++ rest)) htypes hname hmay (by decide) (by omega)
      have hmore := repeatUpTo_names owes rest htypes hfuel (next :: names) fuel (by simp)
        (by simpa using hlength) fun name hname => hnames name (List.mem_cons_of_mem _ hname)
      -- behind the comma and the blank the next name begins
      have hsolid : Lexer.IsSolid (namesText (next :: names) ++ rest) := by
        obtain ⟨hnext, -⟩ := hnames next (by simp)
        cases names <;> simp only [namesText, List.append_assoc] <;> exact hnext.isSolid _
      have hcomma := token_solid_closer (k := ',') (by decide) c owes
        (' ' :: (namesText (next :: names) ++ rest))
      have hnext : State.next c (.solid c owes (',' :: ' ' :: (namesText (next :: names) ++ rest))) =
          .solid c owes (namesText (next :: names) ++ rest) :=
        next_eq_space (by simp [State.solid, Lexer.token_bracket (k := ',') (by decide)]) hsolid hfuel
      simp [repeatUpTo, namesText, hstep, hcomma, sign, run_takeSign, hnext, hmore]

/-- **Parameters that are names** are read as these. -/
theorem parameters_of_names (owes : Bool) (rest : List Char) {names : List (List Char)}
    (htypes : c.hasTypes = false) (hchoice : c.inChoice = false)
    (hfuel : names.length + 1 < c.fuel) (hne : names ≠ [])
    (hnames : ∀ name ∈ names, IsWord name ∧ mayName c (String.ofList name) = true)
    (typesThis : Bool) :
    parameters (grammar (n + 1)) typesThis c (.solid c owes ('(' :: (namesText names ++ rest))) =
      some ((names.map fun name => .name (String.ofList name), []), .after c owes rest) := by
  have hopen := token_solid_bracket c owes (by decide : '(' ∈ brackets) (namesText names ++ rest)
  have hsolid : Lexer.IsSolid (namesText names ++ rest) := by
    obtain ⟨name, more, rfl⟩ := List.exists_cons_of_ne_nil hne
    obtain ⟨hname, -⟩ := hnames name (by simp)
    cases more <;> simp only [namesText, List.append_assoc] <;> exact hname.isSolid _
  have hfirst := next_of_bracket (c := c) owes (by decide : '(' ∈ brackets) hsolid (by omega)
  have hclose := token_solid_bracket c owes (by decide : ')' ∈ brackets) rest
  have hlast : State.next c (.solid c owes (')' :: rest)) = .after c owes rest := by
    rw [next_eq_after (by simp [hclose])]
    simp [State.solid, Lexer.token_bracket (by decide : ')' ∈ brackets)]
  have hsame : { c with inChoice := false } = c := by rw [← hchoice]
  have hrounds := repeatUpTo_names (n := n) owes rest htypes (by omega) names c.fuel hne (by omega)
    hnames
  have hseparated : separated ")" (parameter (grammar (n + 1))) c
      (.solid c owes (namesText names ++ rest)) =
        some (names.map fun name => .name (String.ofList name), .after c owes rest) := by
    change (repeatWhile (parameterStep (grammar (n + 1))) >>= fun items =>
      advance >>= fun _ => pure items) c _ = _
    simp [repeatWhile, hrounds, hlast]
  have hthis (s : State) : (hasTypes <&&> takeWord "this") c s = some (false, s) := by simp [htypes]
  simp [parameters, sign, run_takeSign, hopen, hfirst, hthis, hsame, hseparated]

end Names

/-! ### A function behind its word -/

/-- A function without types is read up to its body. -/
theorem functionTail_of_names (owes : Bool) (cs : List Char) {names : List (List Char)} {n : Nat}
    (htypes : c.hasTypes = false) (hambient : c.isAmbient = false)
    (hfuel : names.length + 1 < c.fuel) (hne : names ≠ [])
    (hnames : ∀ name ∈ names, IsWord name ∧
      mayName (inFunction false false c) (String.ofList name) = true) :
    functionTail (grammar (n + 1)) none false false false false c
        (.solid c owes ('(' :: (namesText names ++ ' ' :: '\x7b' :: cs))) =
      (functionBody (grammar (n + 1)) (inFunction false false c)
        (.solid c owes ('\x7b' :: cs))).map fun r =>
          (.mk none false false [] (names.map fun name => .name (String.ofList name)) .block r.1,
            r.2) := by
  let c' := inFunction false false c
  have hparameters : parameters (grammar (n + 1)) true c'
      (.solid c owes ('(' :: (namesText names ++ ' ' :: '\x7b' :: cs))) =
        some ((names.map fun name => .name (String.ofList name), []),
          .solid c owes ('\x7b' :: cs)) := by
    have hread := parameters_of_names (c := c') (n := n) owes (' ' :: '\x7b' :: cs) htypes rfl hfuel
      hne hnames true
    have hbrace : State.after c' owes (' ' :: '\x7b' :: cs) = .solid c' owes ('\x7b' :: cs) :=
      State.start_space (Lexer.isSolid_cons (by decide) (by decide) (by decide) _)
        (Nat.lt_of_le_of_lt (Nat.le_add_left 1 _) hfuel) _ _ _
    rw [hbrace] at hread
    exact hread
  have htoken := token_solid_bracket c owes (by decide : '\x7b' ∈ brackets) cs
  have htypes' : c'.hasTypes = false := htypes
  have hambient' : c'.isAmbient = false := hambient
  have hsame : { c' with isAmbient := false } = c' := by rw [← hambient']
  have hoptional (s : State) : optionalTypeParameters (grammar (n + 1)) c' s = some ([], s) := by
    simp [optionalTypeParameters, htypes']
  have hresult (s : State) : resultAnnotation (grammar (n + 1)) c' s = some ([], s) := by
    simp [htypes', resultAnnotation]
  simp only [functionTail, run_within]
  change (_ : Parser Function) c' _ = Option.map _ (functionBody _ c' _)
  simp [ensure, hoptional, hparameters, hresult, htoken, hsame]

/-- A function without a name whose parameters are names is read up to its body. -/
theorem functionAfterWord_of_names {names : List (List Char)} {n : Nat} {cs : List Char}
    (htypes : c.hasTypes = false) (hambient : c.isAmbient = false)
    (hfuel : names.length + 1 < c.fuel) (hne : names ≠ [])
    (hnames : ∀ name ∈ names, IsWord name ∧
      mayName (inFunction false false c) (String.ofList name) = true) :
    functionAfterWord (grammar (n + 1)) false true false c
        (.solid c owes ('(' :: (namesText names ++ ' ' :: '\x7b' :: cs))) =
      (functionBody (grammar (n + 1)) (inFunction false false c)
        (.solid c owes ('\x7b' :: cs))).map fun r =>
          (.mk none false false [] (names.map fun name => .name (String.ofList name)) .block r.1,
            r.2) := by
  have hopen := token_solid_bracket c owes (by decide : '(' ∈ brackets)
    (namesText names ++ ' ' :: '\x7b' :: cs)
  have htail := functionTail_of_names (n := n) owes cs htypes hambient hfuel hne hnames
  simp [functionAfterWord, run_takeSign, hopen, ensure, htail]

/-! ### The declaration of the exports -/

/-- What a module exports is an operand. -/
theorem unaryProduction_of_exports (hk : k ∈ closers) (hs : s.token = .name "module" false)
    (hrest : s.rest = '.' :: ("exports".toList ++ k :: rest)) (hfuel : 1 < c.fuel) :
    unaryProduction g c s =
      some (.member (.name "module") "exports" false, .solid c s.owesPattern (k :: rest)) := by
  have hexports : IsWord "exports".toList :=
    ⟨by decide, List.all_iff_forall_prop.mp (by decide)⟩
  have hnext : State.next c s = .solid c s.owesPattern ('.' :: ("exports".toList ++ k :: rest)) :=
    next_eq_solid hrest (Lexer.isSolid_cons (by decide) (by decide) (by decide) _) (by omega)
  have hprimary := primary_of_variable (g := g) (c := c) hs
    (by simp [mayName, isReserved, reservedWords]) (by decide)
  have hpoint := suffix?_point g (c := c) s.owesPattern rest (e := .name "module") hexports
    (endsName_of_closer hk) rfl (by omega)
  have hafter : State.after c s.owesPattern (k :: rest) = .solid c s.owesPattern (k :: rest) :=
    State.start_solid (isSolid_closer hk rest) (by omega) _ _ _
  have hend : suffix? g true (.member (.name "module") "exports" false) c
      (.solid c s.owesPattern (k :: rest)) = some (none, .solid c s.owesPattern (k :: rest)) :=
    suffix?_closer hk true
  -- one member, and then the end
  have hsuffixes : suffixes g true (.name "module") c (State.next c s) =
      some (.member (.name "module") "exports" false, .solid c s.owesPattern (k :: rest)) := by
    obtain ⟨fuel, hf⟩ : ∃ fuel, c.fuel = fuel + 2 := ⟨c.fuel - 2, by omega⟩
    show iterateUpTo _ c.fuel _ c _ = _
    rw [hnext, hf, iterateUpTo_some hpoint, hafter]
    exact iterateUpTo_none hend
  have hlast : ∀ u ∈ ["++", "--"], (State.solid c s.owesPattern (k :: rest)).token ≠ .sign u := by
    rw [token_solid_closer hk]
    simp only [closers, List.mem_cons, List.not_mem_nil, or_false] at hk
    rcases hk with rfl | rfl | rfl | rfl | rfl <;> simp
  simp only [List.forall_mem_cons] at hlast
  simp [unaryProduction, hs, UnaryOp.ofToken?, leftSide, run_takeWord, hprimary, hsuffixes, hlast]

/-- **What a module exports** is read as this member. -/
theorem readsAs_exports :
    ReadsAs ("module".toList ++ '.' :: "exports".toList)
      (.member (.name "module") "exports" false) := by
  intro n c s k rest hk hs hfuel hdepth
  obtain ⟨m, rfl⟩ : ∃ m, n = m + 1 := ⟨n - 1, by omega⟩
  rw [List.append_assoc, List.cons_append, Lexer.token_spelling (by decide) (by decide) (by decide),
    Prod.mk.injEq] at hs
  obtain ⟨htoken, hrest⟩ := hs
  simp only [List.length_append, List.length_cons] at hfuel
  have hnext := next_eq_solid (c := c) hrest.symm
    (Lexer.isSolid_cons (by decide) (by decide) (by decide) _) (by omega)
  have harrow : arrow? (grammar m) c s = some (none, s) := by
    refine arrow?_of_word htoken.symm (by decide) ?_
    rw [hnext, State.solid, Lexer.token_point_spelling (by decide) c.fuel _]
    simp
  exact assignmentProduction_of_operand (by simp [← htoken]) (by simp [← htoken]) harrow hk
    (by omega) rfl fun owes =>
      unaryProduction_of_exports (s := { s with owesPattern := owes }) hk htoken.symm hrest.symm
        (by omega)

/-- A statement that begins with the word for variables declares them. -/
theorem statementBody_of_var (hs : s.token = .name "var" false) (hfuel : 0 < c.fuel) :
    statementBody g c s = variablesTail g .var c (State.next c s) := by
  have hkind : variableKind? c s = some (some .var, State.next c s) := by
    simp [variableKind?, hs]
  have htyped : typedDeclaration? g c s = some (none, s) := by
    cases htypes : c.hasTypes <;> simp [typedDeclaration?, htypes, hs]
  have hdeclaration : anyDeclaration? g [] c s =
      (variablesTail g .var c (State.next c s)).map fun r => (some r.1, r.2) := by
    simp [anyDeclaration?, declaration?, hkind, htyped, hs, word, run_takeWord]
  simp [statementBody, run_takeSign, hs, decorators_of_word hs hfuel, run_takeWord, atImport, word,
    hdeclaration, ensure]
  cases variablesTail g .var c (State.next c s) <;> rfl

/-- The line that declares what a module exports. -/
def exportsLine : List Char :=
  "var".toList ++ ' ' :: ("exports".toList ++ ' ' :: '=' :: ' ' ::
    ("module".toList ++ '.' :: "exports".toList ++ [';']))

theorem exportsLine_append (rest : List Char) :
    exportsLine ++ rest = "var".toList ++ ' ' :: ("exports".toList ++
      ' ' :: '=' :: ' ' :: ("module".toList ++ '.' :: "exports".toList ++ ';' :: rest)) := by
  simp [exportsLine]

/-- **The line that declares what a module exports** is read as this declaration. -/
theorem readsLine_exports {n : Nat} (hc : c.IsOutermost) (hdepth : 14 ≤ n) :
    ReadsLine c (n + 3) exportsLine (some exportsDeclaration.stmt) := by
  intro owes rest hfuel
  have htext := exportsLine_append ('\n' :: rest)
  obtain ⟨htoken, hrest⟩ := fresh_word c owes (by decide) endsName_space htext
  have hexports : IsWord "exports".toList :=
    ⟨by decide, List.all_iff_forall_prop.mp (by decide)⟩
  have hmany : 1 < c.fuel := by
    rw [htext] at hfuel
    simp only [List.length_append, List.length_cons] at hfuel
    omega
  have hnext := next_eq_space hrest (hexports.isSolid _) hmany
  have hmay : mayName c (String.ofList "exports".toList) = true := by
    simp [mayName, isReserved, reservedWords]
  have hvalue : ("module".toList ++ '.' :: "exports".toList ++ ';' :: '\n' :: rest).length <
      c.fuel := by
    rw [htext] at hfuel
    simp only [List.length_append, List.length_cons] at hfuel ⊢
    omega
  have hlength : ("module".toList ++ '.' :: "exports".toList).length = 14 := by decide
  have htail := variablesTail_of_name (n := n + 1) owes .var hexports hmay
    (fun rest => Lexer.isSolid_cons (by decide) (by decide) (by decide) _) readsAs_exports hvalue
    (by omega)
  rw [statement_of_fresh hc, statementBody_of_var htoken (by omega), hnext]
  exact congrArg (Option.map _) htail

/-! ### The body of the function -/

/-- The place behind a line, in front of another one. -/
theorem start_newline {cs : List Char} (hcs : Lexer.IsSolid cs) (hfuel : 1 < c.fuel)
    (script : Bool) : State.start c.fuel script false false owes ('\n' :: cs) = .fresh c owes cs := by
  obtain ⟨fuel, hf⟩ : ∃ fuel, c.fuel = fuel + 2 := ⟨c.fuel - 2, by omega⟩
  simp [State.start, State.fresh, State.solid, hf, Lexer.skipGap?_newline, Lexer.Gap.endLine,
    hcs fuel]

/-- One round of reading the body of a function. -/
def bodyStep (g : Grammar) : Parser (Option Item) := do
  if ← atSign "\x7d" then return none else some <$> g.statement

/-- A round gives a statement. -/
theorem bodyStep_gives {n : Nat} :
    Gives (IfAny fun item => item.stmt.IsProper) (bodyStep (grammar n)) := by
  refine .bind fun _ => ?_
  split
  · exact .pure ifAny_none
  · exact statement_gives.found

/-- The comments behind the last statement are one more item. -/
def endings (s : State) : List Item :=
  if s.gap.comments.isEmpty then [] else [.mk s.gap.comments.reverse .ending]

/-- A body without directives is its statements and the comments behind them. -/
theorem body_of_statements (h : repeatWhile directive? c s = some ([], s)) :
    body g (atSign "\x7d") c s =
      (repeatWhile (bodyStep g) c s).map fun r => (r.1 ++ endings r.2, r.2) := by
  show (repeatWhile directive? c s).bind _ = _
  rw [h]
  show (repeatWhile (bodyStep g) c s).bind _ = _
  cases repeatWhile (bodyStep g) c s with
  | none => rfl
  | some r => simp [endings]

/-- **The body of a function that begins with the declaration of the exports** is this declaration
and the statements behind it. -/
theorem functionBody_of_exports (owes : Bool) {n : Nat} {text : List Char}
    (hc : c.IsOutermost) (hdepth : 14 ≤ n)
    (hfuel : (exportsLine ++ '\n' :: text).length + 1 < c.fuel) :
    functionBody (grammar (n + 3)) c
        (.solid c owes ('\x7b' :: '\n' :: (exportsLine ++ '\n' :: text))) =
      (repeatUpTo (bodyStep (grammar (n + 3))) (c.fuel - 1) c (.after c owes ('\n' :: text))).map
        fun r => (exportsDeclaration :: r.1 ++ endings r.2, State.next c r.2) := by
  obtain ⟨fuel, hf⟩ : ∃ fuel, c.fuel = fuel + 1 := ⟨c.fuel - 1, by omega⟩
  have hopen := token_solid_bracket c owes (by decide : '\x7b' ∈ brackets)
    ('\n' :: (exportsLine ++ '\n' :: text))
  have hsolid : Lexer.IsSolid (exportsLine ++ '\n' :: text) :=
    Lexer.isSolid_cons (by decide) (by decide) (by decide) _
  have hnext : State.next c (.solid c owes ('\x7b' :: '\n' :: (exportsLine ++ '\n' :: text))) =
      .fresh c owes (exportsLine ++ '\n' :: text) := by
    rw [next_eq_after (by simp [hopen])]
    simp only [State.solid, Lexer.token_bracket (by decide : '\x7b' ∈ brackets)]
    exact start_newline hsolid (by omega) _
  have htoken : (State.fresh c owes (exportsLine ++ '\n' :: text)).token = .name "var" false :=
    (fresh_word c owes (by decide) endsName_space (exportsLine_append ('\n' :: text))).1
  -- the word `var` begins no directive
  have hdirective : repeatWhile directive? c (.fresh c owes (exportsLine ++ '\n' :: text)) =
      some ([], .fresh c owes (exportsLine ++ '\n' :: text)) := by
    simp [repeatWhile, hf, repeatUpTo, directive?, htoken]
  have hline := readsLine_exports hc hdepth owes text (by omega)
  have hfirst : bodyStep (grammar (n + 3)) c (.fresh c owes (exportsLine ++ '\n' :: text)) =
      some (some exportsDeclaration, .after c owes ('\n' :: text)) := by
    simp [bodyStep, htoken, hline]
    rfl
  -- the first round reads the declaration, the others what is behind it
  have hitems : repeatWhile (bodyStep (grammar (n + 3))) c
      (.fresh c owes (exportsLine ++ '\n' :: text)) =
    (repeatUpTo (bodyStep (grammar (n + 3))) fuel c (.after c owes ('\n' :: text))).map fun r =>
      (exportsDeclaration :: r.1, r.2) := by
    simp [repeatWhile, hf, repeatUpTo, hfirst]
  have hbody := body_of_statements (g := grammar (n + 3)) hdirective
  rw [hitems] at hbody
  simp [functionBody, sign, run_takeSign, hopen, hnext, hbody, hf]
  cases repeatUpTo (bodyStep (grammar (n + 3))) fuel c (.after c owes ('\n' :: text)) <;> rfl

/-! ### The function as an expression -/

variable {e : Expr} {t : State}

/-- Where the word for functions is in front, an operand is a function. -/
theorem primary_of_function (hs : s.token = .name "function" false) :
    primary g c s =
      (functionAfterWord g false true false c (State.next c s)).map
        fun r => (.function r.1, r.2) := by
  simp [primary, hs]

/-- An expression that begins with the word for functions, and is a function, is the one behind that
word. -/
theorem functionAfterWord_of_expression {m : Nat} {f : Function} (hs : AtOperand c s)
    (hfunction : s.token = .name "function" false) (hnext : (State.next c s).token ≠ .sign "=>")
    (h : (grammar (m + 2)).expression c s = some (.function f, t)) :
    functionAfterWord (grammar m) false true false c (State.next c s) = some (f, t) := by
  have hassignment : assignmentProduction (grammar m) c s = some (.function f, t) :=
    assignment_of_expressionProduction h rfl
  have harrow := arrow?_of_word (g := grammar m) hfunction (by decide) hnext
  have hless : assignmentOrLess (grammar m) c s = some (.function f, t) := by
    simpa [assignmentProduction, hfunction, harrow] using hassignment
  have hprimary := assignmentOrLess_of_operand hs hless rfl
  rw [primary_of_function hfunction] at hprimary
  simp only [Option.map_eq_some_iff, Prod.mk.injEq, Expr.function.injEq] at hprimary
  obtain ⟨⟨_, _⟩, hread, rfl, rfl⟩ := hprimary
  exact hread

/-! ### Where no word begins -/

/-- No operand begins with what is no word. -/
theorem conditional_of_bad (hs : s.token = .bad) : conditional g c s = none := by
  have hleft : leftSide g c s = none := by
    simp [leftSide, run_takeWord, hs, primary]
  have hunary : unaryProduction g c s = none := by
    simp [unaryProduction, hs, UnaryOp.ofToken?, hleft]
  simp only [conditional, binaryProduction, operand, run_bind, run_get, run_token, hs,
    Option.bind_some, hunary, Option.bind_none]

/-- No expression begins with what is no word. -/
theorem expression_of_bad {n : Nat} (htypes : c.hasTypes = false) (hs : s.token = .bad) :
    (grammar (n + 2)).expression c s = none := by
  have hhead : arrowHead? (grammar n) c s = some (none, s) := by
    simp [arrowHead?, opensTypeParameters, htypes, hs, nameHead, variableName, atVariable, ensure]
  have harrow : arrow? (grammar n) c s = some (none, s) := by
    cases hchoice : c.inChoice <;> simp [arrow?, hchoice, hhead]
  exact expression_of_conditional_none (by simp [hs]) harrow (conditional_of_bad hs)

/-- No statement begins with what is no word. -/
theorem statement_of_bad {n : Nat} (htypes : c.hasTypes = false) (hs : s.token = .bad)
    (hfuel : 0 < c.fuel) : (grammar (n + 3)).statement c s = none := by
  obtain ⟨fuel, hf⟩ := Nat.exists_eq_succ_of_ne_zero (by omega : c.fuel ≠ 0)
  have hbody (c : Context) (htypes : c.hasTypes = false) (hf : c.fuel = fuel + 1) :
      statementBody (grammar (n + 2)) c s = none := by
    have hkind : variableKind? c s = some (none, s) := by
      simp [variableKind?, hs, word, run_takeWord]
    have hdeclaration : anyDeclaration? (grammar (n + 2)) [] c s = some (none, s) := by
      simp [anyDeclaration?, declaration?, typedDeclaration?, hkind, htypes, hs, atAsyncFunction,
        word, run_takeWord]
    have hdecorators : decorators (grammar (n + 2)) c s = some ([], s) := by
      simp [decorators, repeatWhile, hf, repeatUpTo, run_takeSign, hs]
    simp [statementBody, run_takeSign, hs, hdecorators, run_takeWord, atImport, word, hdeclaration,
      plainStatement, atLabel, variableName, atVariable, ensure, atAnyWord,
      expression_of_bad htypes hs]
  show statementProduction (grammar (n + 2)) c s = none
  simp [statementProduction, hbody, htypes, hf]

end Script.Parser

namespace SandboxScript

open Script Script.Parser

/-! ### The text of a wrapper -/

/-- A wrapper's text, up to the program in it and behind that. -/
theorem toList_wrap (code : String) :
    (wrap code).toList = '(' :: ("function".toList ++ ' ' :: '(' ::
      (namesText (wrapperParameters.map String.toList) ++ ' ' :: '\x7b' :: '\n' ::
        (exportsLine ++ '\n' :: (code.toList ++ ['\n', '\x7d', ')'])))) := by
  have hfront : "(function (".toList ++ (", ".intercalate wrapperParameters).toList ++
      ") \x7b\nvar exports = module.exports;\n".toList =
      '(' :: ("function".toList ++ ' ' :: '(' :: (namesText (wrapperParameters.map String.toList) ++
        ' ' :: '\x7b' :: '\n' :: (exportsLine ++ ['\n']))) := by
    decide
  have hback : "\n\x7d)".toList = ['\n', '\x7d', ')'] := rfl
  simp only [wrap, String.toList_append, hback]
  rw [hfront]
  simp

/-- What is run in the sandbox is read as a script. -/
def goal : Goal :=
  { dialect := .js, isModule := false }

/-- The program that is one function in parentheses, which takes the module's scope. -/
def wrapper (body : List Item) : Program where
  runner := none
  items := [.mk [] (.expr (.paren (.function
    (.mk none false false [] (wrapperParameters.map .name) .block body))))]

/-- What stands behind the parenthesis that opens the parameters. -/
def functionTailText (code : String) : List Char :=
  namesText (wrapperParameters.map String.toList) ++ ' ' :: '\x7b' :: '\n' ::
    (exportsLine ++ '\n' :: (code.toList ++ ['\n', '\x7d', ')']))

/-- The text of a wrapper behind its parenthesis. -/
def wrapperTail (code : String) : List Char :=
  "function".toList ++ ' ' :: '(' :: functionTailText code

/-- What holds in a wrapper, outside of its function. -/
def wrapperContext (code : String) : Context :=
  goal.context ((wrapperTail code).length + 1)

/-- What holds in the body of a wrapper's function. -/
def bodyContext (code : String) : Context :=
  inFunction false false (wrapperContext code)

/-- The place behind the declaration of the exports. -/
def behindExports (code : String) : State :=
  .after (bodyContext code) false ('\n' :: (code.toList ++ ['\n', '\x7d', ')']))

/-- The grammar that reads the body of a wrapper's function. -/
def bodyGrammar (code : String) : Grammar :=
  grammar (8 * (wrapperTail code).length + 19)

/-- The word for functions stands behind the parenthesis, and the parameters behind that. -/
theorem function_in_front (code : String) :
    let c := wrapperContext code
    let s := State.solid c false (wrapperTail code)
    s.token = .name "function" false ∧
      State.next c (goal.front ('(' :: wrapperTail code)) = s ∧
      State.next c s = .solid c false ('(' :: functionTailText code) := by
  have hword : IsWord "function".toList :=
    ⟨by decide, List.all_iff_forall_prop.mp (by decide)⟩
  refine ⟨token_solid_word hword.isSpelling endsName_space, ?_, ?_⟩
  · rw [Program.front_of_open]
    exact next_eq_solid rfl (hword.isSolid _) (Nat.succ_pos _)
  · exact next_eq_space (rest_solid_word hword.isSpelling endsName_space)
      (Lexer.isSolid_cons (by decide) (by decide) (by decide) _)
      (by simp [wrapperContext, Goal.context])

theorem length_wrapperTail (code : String) :
    (wrapperTail code).length = (functionTailText code).length + 10 := by
  unfold wrapperTail
  generalize functionTailText code = text
  simp

theorem length_body_lt (code : String) :
    (exportsLine ++ '\n' :: (code.toList ++ ['\n', '\x7d', ')'])).length + 1 <
      (bodyContext code).fuel := by
  have hfuel : (bodyContext code).fuel = (wrapperTail code).length + 3 := rfl
  have hlength := length_wrapperTail code
  rw [functionTailText] at hlength
  generalize exportsLine ++ '\n' :: (code.toList ++ ['\n', '\x7d', ')']) = text at hlength ⊢
  generalize namesText (wrapperParameters.map String.toList) = names at hlength
  rw [List.length_append, List.length_cons, List.length_cons, List.length_cons] at hlength
  omega

theorem length_parameters_lt (code : String) :
    (wrapperParameters.map String.toList).length + 1 < (wrapperContext code).fuel := by
  have hcount : (wrapperParameters.map String.toList).length = 4 := rfl
  have hfuel : (wrapperContext code).fuel = (wrapperTail code).length + 3 := rfl
  have hlength := length_wrapperTail code
  omega

/-- The parameters of a wrapper can name variables. -/
theorem parameter_isName (c : Context) : ∀ name ∈ wrapperParameters.map String.toList,
    IsWord name ∧ mayName (inFunction false false c) (String.ofList name) = true := by
  have hall : ∀ name ∈ wrapperParameters.map String.toList,
      IsSpelling name ∧ name.all BindingName.isNameChar = true ∧
        isReserved (String.ofList name) = false :=
    List.all_iff_forall_prop.mp (by decide)
  intro name hname
  obtain ⟨hspelling, hchars, hreserved⟩ := hall name hname
  exact ⟨⟨hspelling, List.all_eq_true.mp hchars⟩, by simp [mayName, hreserved, inFunction]⟩

/-- **What a wrapper's function holds**: the declaration of the exports, and what is read behind
it. -/
theorem exists_statements_of_wrapper {code : String} {body : List Item}
    (h : Program.parse? goal (wrap code) = some (wrapper body)) :
    ∃ fuel items u, repeatUpTo (bodyStep (bodyGrammar code)) fuel (bodyContext code)
      (behindExports code) = some (items, u) ∧ body = exportsDeclaration :: items ++ endings u := by
  rw [Program.parse?_eq_read?, toList_wrap] at h
  change Program.read? goal ('(' :: wrapperTail code) = _ at h
  obtain ⟨-, hcases⟩ := Program.isEnclosed_of_read? rfl h rfl rfl
  -- the text is in parentheses, and no arrow stands behind them
  obtain ⟨_, harrow⟩ | ⟨_, ⟨inner, u, hinner, ⟨hexpression, -⟩, -⟩, -⟩ := hcases
  · cases harrow
  cases hinner
  obtain ⟨hfunction, hnext, hopen⟩ := function_in_front code
  change (grammar _).expression (wrapperContext code) (State.next (wrapperContext code) _) = _
    at hexpression
  rw [hnext] at hexpression
  have htoken := token_solid_bracket (wrapperContext code) false (by decide : '(' ∈ brackets)
    (functionTailText code)
  -- so what is in them is the function, read up to its body
  have hread := functionAfterWord_of_expression (m := 8 * (wrapperTail code).length + 19)
    ⟨rfl, rfl, .inr hfunction, rfl, rfl⟩ hfunction (by simp [hopen, htoken]) hexpression
  rw [hopen, functionTailText, functionAfterWord_of_names rfl rfl
    (length_parameters_lt code) (by decide) (parameter_isName _)] at hread
  simp only [Option.map_eq_some_iff, Prod.mk.injEq, Function.mk.injEq] at hread
  obtain ⟨⟨_, t⟩, hbody, ⟨-, -, -, -, -, -, rfl⟩, rfl⟩ := hread
  -- and the body begins with the declaration
  have hexports := functionBody_of_exports (c := bodyContext code) false
    (n := 8 * (wrapperTail code).length + 16) ⟨rfl, rfl, rfl, rfl⟩ (by omega) (length_body_lt code)
  have hitems := hexports.symm.trans hbody
  simp only [Option.map_eq_some_iff, Prod.mk.injEq] at hitems
  obtain ⟨⟨items, u⟩, hitems, rfl, -⟩ := hitems
  exact ⟨_, items, u, hitems, rfl⟩

/-- Where `#!` is not at the front of what is read, no word begins with it. -/
theorem token_behindExports {code : String} {cs : List Char} (h : code.toList = '#' :: '!' :: cs) :
    (behindExports code).token = .bad := by
  have hsolid : Lexer.IsSolid ('#' :: '!' :: (cs ++ ['\n', '\x7d', ')'])) :=
    Lexer.isSolid_cons (by decide) (by decide) (by decide) _
  have hfuel : 1 < (bodyContext code).fuel := Nat.lt_of_le_of_lt (Nat.le_add_left 1 _)
    (length_body_lt code)
  rw [behindExports, h, List.cons_append, List.cons_append, State.after, start_newline hsolid hfuel]
  have hname : isNameStart '#' = false ∧ isNameStart '!' = false := by decide
  simp [State.fresh, State.solid, Lexer.token, hname]

/-- A line that names what runs a program begins with `#!`. -/
theorem exists_of_splitRunner {cs : List Char} {line : String}
    (h : (Program.splitRunner cs).1 = some line) : ∃ rest, cs = '#' :: '!' :: rest := by
  unfold Program.splitRunner at h
  split at h
  · exact ⟨_, rfl⟩
  · cases h

/-- A program with a line that names what runs it is no program in a wrapper. -/
theorem not_reads_of_runner {code : String} {cs : List Char} {body : List Item}
    (h : code.toList = '#' :: '!' :: cs) :
    Program.parse? goal (wrap code) ≠ some (wrapper body) := by
  intro hread
  obtain ⟨fuel, items, u, hitems, -⟩ := exists_statements_of_wrapper hread
  have hbad := token_behindExports h
  have hstatement : (bodyGrammar code).statement (bodyContext code) (behindExports code) = none :=
    statement_of_bad rfl hbad (Nat.lt_of_le_of_lt (Nat.zero_le _) (length_body_lt code))
  cases fuel with
  | zero => cases hitems
  | succ fuel => simp [repeatUpTo, bodyStep, hbad, hstatement] at hitems

end SandboxScript

end StorySuite
