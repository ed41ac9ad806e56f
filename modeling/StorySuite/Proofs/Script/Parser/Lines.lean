import StorySuite.Proofs.Script.Parser.Members
import StorySuite.Proofs.Script.Reading

/-!
# Proofs — Script — Parser — lines

A line of generated code is one statement.  It declares a constant, or it assigns a member of the
place of the call.  Its names are accepted ones.  If they can name variables, the statement is read;
else one of them breaks off, and there is none: the parser fails at a character that is no word.

* **`readsLine_constant`**: the line of a constant.
* **`readsLine_assignment`**: the line of an assignment.
-/

namespace StorySuite.Script

/-- Statements stand here, and in nothing that they are a part of. -/
structure Context.IsOutermost (c : Context) : Prop where
  allowIn : c.allowIn = true
  inChoice : c.inChoice = false
  allowTypeChoice : c.allowTypeChoice = true
  isAmbient : c.isAmbient = false

namespace Parser

open Json

variable {g : Grammar} {c : Context} {s : State} {owes : Bool} {k : Char} {rest : List Char}

/-! ### Statements -/

theorem decorators_of_word {w : String} (hs : s.token = .name w false) (hfuel : 0 < c.fuel) :
    decorators g c s = some ([], s) := by
  obtain ⟨fuel, hf⟩ := Nat.exists_eq_succ_of_ne_zero (by omega : c.fuel ≠ 0)
  simp [decorators, repeatWhile, hf, repeatUpTo, run_takeSign, hs]

/-- Where one of these words begins no declaration, an expression is the statement. -/
theorem statementBody_of_word {w : String} (hs : s.token = .name w false) (hw : w ∈ ["this", "const"])
    (hdeclaration : anyDeclaration? g [] c s = some (none, s)) (hfuel : 0 < c.fuel) :
    statementBody g c s =
      (g.expression c s).bind fun r => (semicolon c r.2).map fun q => (.expr r.1, q.2) := by
  simp only [List.mem_cons, List.not_mem_nil, or_false] at hw
  have hvariable : atVariable c s = some (false, s) := by
    rcases hw with rfl | rfl <;> simp [atVariable, hs, mayName, isReserved, reservedWords]
  rcases hw with rfl | rfl <;>
    simp [statementBody, run_takeSign, hs, decorators_of_word hs hfuel, run_takeWord, atImport, word,
      hdeclaration, plainStatement, wordStatement?, atLabel, variableName, hvariable, ensure,
      atAnyWord]

/-- A statement that begins with the place of a call is an expression. -/
theorem statementBody_of_this (hs : s.token = .name "this" false) (hfuel : 0 < c.fuel) :
    statementBody g c s =
      (g.expression c s).bind fun r => (semicolon c r.2).map fun q => (.expr r.1, q.2) := by
  have hkind : variableKind? c s = some (none, s) := by
    simp [variableKind?, hs, word, run_takeWord]
  have htyped : typedDeclaration? g c s = some (none, s) := by
    cases htypes : c.hasTypes <;> simp [typedDeclaration?, htypes, hs]
  have hdeclaration : anyDeclaration? g [] c s = some (none, s) := by
    simp [anyDeclaration?, declaration?, hkind, htyped, hs, atAsyncFunction, word, run_takeWord]
  exact statementBody_of_word hs (by decide) hdeclaration hfuel

/-- A statement that begins with the word for constants declares them. -/
theorem statementBody_of_const (hs : s.token = .name "const" false) (hfuel : 0 < c.fuel)
    (henum : (State.next c s).token ≠ .name "enum" false) :
    statementBody g c s = variablesTail g .const c (State.next c s) := by
  have hkind : variableKind? c s = some (some .const, State.next c s) := by
    simp [variableKind?, hs, word, run_takeWord, henum]
  have htyped : typedDeclaration? g c s = some (none, s) := by
    cases htypes : c.hasTypes <;> simp [typedDeclaration?, htypes, hs, henum]
  have hdeclaration : anyDeclaration? g [] c s =
      (variablesTail g .const c (State.next c s)).map fun r => (some r.1, r.2) := by
    simp [anyDeclaration?, declaration?, hkind, htyped, hs, atAsyncFunction, word, run_takeWord]
  simp [statementBody, run_takeSign, hs, decorators_of_word hs hfuel, run_takeWord, atImport, word,
    hdeclaration, ensure]
  cases variablesTail g .const c (State.next c s) <;> rfl

/-- A semicolon ends a statement. -/
theorem semicolon_of_solid (c : Context) (owes : Bool) (rest : List Char) :
    semicolon c (.solid c owes (';' :: rest)) = some ((), .after c owes rest) := by
  have htoken := token_solid_bracket c owes (by decide : ';' ∈ brackets) rest
  have hnext : State.next c (.solid c owes (';' :: rest)) = .after c owes rest := by
    rw [next_eq_after (by simp [htoken])]
    simp [State.solid, Lexer.token_bracket (by decide : ';' ∈ brackets)]
  simp [semicolon, run_takeSign, htoken, hnext]

/-- A variable with its value, up to the end of the statement. -/
theorem variablesTail_of_name (owes : Bool) (kind : VariableKind) {name cs : List Char} {value : Expr}
    {n : Nat}
    (hname : IsWord name) (hvariable : mayName c (String.ofList name) = true)
    (hcs : ∀ rest, Lexer.IsSolid (cs ++ rest)) (hvalue : ReadsAs cs value)
    (hfuel : (cs ++ ';' :: rest).length < c.fuel) (hdepth : cs.length ≤ n) :
    variablesTail (grammar (n + 1)) kind c
        (.solid c owes (name ++ ' ' :: '=' :: ' ' :: (cs ++ ';' :: rest))) =
      some (.declaration kind [.withDefault (.name (String.ofList name)) value],
        .after c owes rest) := by
  have hlength : 1 < c.fuel := by
    simp only [List.length_append, List.length_cons] at hfuel
    omega
  -- the name, the sign, the value and the end, one after the other
  have htoken : (State.solid c owes (name ++ ' ' :: '=' :: ' ' :: (cs ++ ';' :: rest))).token =
      .name (String.ofList name) false :=
    token_solid_word hname.isSpelling endsName_space
  have hnext : State.next c (.solid c owes (name ++ ' ' :: '=' :: ' ' :: (cs ++ ';' :: rest))) =
      .solid c owes ('=' :: ' ' :: (cs ++ ';' :: rest)) :=
    next_eq_space (rest_solid_word hname.isSpelling endsName_space)
      (Lexer.isSolid_cons (by decide) (by decide) (by decide) _) hlength
  have hequals : (State.solid c owes ('=' :: ' ' :: (cs ++ ';' :: rest))).token = .sign "=" := by
    simp [State.solid, Lexer.token_equals]
  have hbehind : State.next c (.solid c owes ('=' :: ' ' :: (cs ++ ';' :: rest))) =
      .solid c owes (cs ++ ';' :: rest) :=
    next_eq_space (by simp [State.solid, Lexer.token_equals]) (hcs _) hlength
  have hread : (grammar (n + 1)).assignment c (.solid c owes (cs ++ ';' :: rest)) =
      some (value, .solid c owes (';' :: rest)) :=
    hvalue (by decide) rfl hfuel (by omega)
  have hend := token_solid_bracket c owes (by decide : ';' ∈ brackets) rest
  have hpattern : (grammar (n + 1)).pattern = patternProduction (grammar n) := rfl
  have hdeclared : declared (grammar (n + 1)) (needsValue kind) c
      (.solid c owes (name ++ ' ' :: '=' :: ' ' :: (cs ++ ';' :: rest))) =
        some (.withDefault (.name (String.ofList name)) value, .solid c owes (';' :: rest)) := by
    cases htypes : c.hasTypes <;>
      simp [declared, hpattern, patternProduction, htoken, variableName, atVariable, hvariable,
        ensure, anyName, hnext, htypes, run_takeSign, hequals, optionalAnnotation, annotated, hbehind,
        hread]
  obtain ⟨fuel, hf⟩ := Nat.exists_eq_succ_of_ne_zero (by omega : c.fuel ≠ 0)
  simp [variablesTail, declaredAll, hdeclared, lacksValue, ensure, repeatWhile, hf, repeatUpTo,
    run_takeSign, hend, semicolon_of_solid]

/-- No constant has a name that begins with an alien. -/
theorem variablesTail_of_alien {a : Char} {n : Nat} (ha : IsAlien a) :
    variablesTail (grammar (n + 1)) .const c (.solid c owes (a :: rest)) = none := by
  have hbad : (State.solid c owes (a :: rest)).token = .bad := token_solid_alien ha
  have hpattern : (grammar (n + 1)).pattern c (.solid c owes (a :: rest)) = none := by
    show patternProduction (grammar n) c _ = none
    simp [patternProduction, hbad, variableName, atVariable, ensure]
  simp only [variablesTail, declaredAll, declared, run_bind, hpattern, Option.bind_none]

/-- No constant has a name that an alien goes on with. -/
theorem variablesTail_of_breaksOff {name : List Char} {a : Char} {n : Nat} (hname : IsWord name)
    (hpart : isNamePart a = false) (ha : IsAlien a) (hambient : c.isAmbient = false)
    (hfuel : 0 < c.fuel) :
    variablesTail (grammar (n + 1)) .const c (.solid c owes (name ++ a :: rest)) = none := by
  have hends := EndsName.of_alien ha hpart
  have htoken : (State.solid c owes (name ++ a :: rest)).token = .name (String.ofList name) false :=
    token_solid_word hname.isSpelling hends
  have hnext : State.next c (.solid c owes (name ++ a :: rest)) = .solid c owes (a :: rest) :=
    next_eq_solid (rest_solid_word hname.isSpelling hends) (ha.isSolid rest) hfuel
  have hbad : (State.solid c owes (a :: rest)).token = .bad := token_solid_alien ha
  have hpattern : (grammar (n + 1)).pattern = patternProduction (grammar n) := rfl
  have hdeclared : declared (grammar (n + 1)) true c (.solid c owes (name ++ a :: rest)) = none := by
    cases hvariable : mayName c (String.ofList name) <;> cases htypes : c.hasTypes <;>
      simp [declared, hpattern, patternProduction, htoken, variableName, atVariable, hvariable,
        ensure, anyName, hnext, htypes, run_takeSign, hbad, optionalAnnotation, hambient]
  simp [variablesTail, declaredAll, needsValue, hdeclared]

/-- Behind `const enum`, an alien makes no declaration and no expression. -/
theorem statementBody_of_const_enum {n : Nat} (hs : s.token = .name "const" false)
    (hfuel : 0 < c.fuel) (henum : (State.next c s).token = .name "enum" false)
    (hbad : (State.next c (State.next c s)).token = .bad) :
    statementBody (grammar (n + 2)) c s = none := by
  have hleft (owes : Bool) : leftSide (grammar n) c { s with owesPattern := owes } = none := by
    simp [leftSide, run_takeWord, hs, primary, atAsyncFunction, word, primary.wordValue?,
      variableName, atVariable, mayName, isReserved, reservedWords, ensure]
  have hexpression : (grammar (n + 2)).expression c s = none :=
    expression_of_conditional_none (by simp [hs]) (arrow?_of_word hs (by decide) (by simp [henum]))
      (conditional_of_leftSide_none (s := { s with owesPattern := false }) hs (by simp) (hleft false))
  have hkind : variableKind? c s = some (none, s) := by
    simp [variableKind?, hs, word, run_takeWord, henum]
  cases htypes : c.hasTypes with
  | false =>
      have htyped : typedDeclaration? (grammar (n + 2)) c s = some (none, s) := by
        simp [typedDeclaration?, htypes]
      have hdeclaration : anyDeclaration? (grammar (n + 2)) [] c s = some (none, s) := by
        simp [anyDeclaration?, declaration?, hkind, htyped, hs, atAsyncFunction, word, run_takeWord]
      rw [statementBody_of_word hs (by decide) hdeclaration hfuel, hexpression, Option.bind_none]
  | true =>
      have htyped : typedDeclaration? (grammar (n + 2)) c s = none := by
        simp [typedDeclaration?, htypes, hs, henum, enumTail, variableName, atVariable, hbad, ensure]
      have hdeclaration : anyDeclaration? (grammar (n + 2)) [] c s = none := by
        simp [anyDeclaration?, declaration?, htyped, hs, word, run_takeWord]
      simp [statementBody, run_takeSign, hs, decorators_of_word hs hfuel, run_takeWord, atImport,
        word, hdeclaration]

/-! ### Lines -/

theorem statement_of_fresh {n : Nat} {cs : List Char} (hc : c.IsOutermost) :
    (grammar (n + 1)).statement c (.fresh c owes cs) =
      (statementBody (grammar n) c (.fresh c owes cs)).map fun r => (.mk [] r.1, r.2) := by
  have hsame : { c with allowIn := true, inChoice := false, allowTypeChoice := true } = c := by
    obtain ⟨hin, hchoice, htype, -⟩ := hc
    cases c
    simp_all
  have hcomments : comments c (.fresh c owes cs) = some ([], .fresh c owes cs) := rfl
  show statementProduction (grammar n) c (.fresh c owes cs) = _
  simp only [statementProduction, run_bind, run_within, hsame, hcomments, Option.bind_some]
  cases statementBody (grammar n) c (.fresh c owes cs) <;> rfl

/-- The text is that of a line with this statement on it; if there is none, the line is not read. -/
def ReadsLine (c : Context) (n : Nat) (text : List Char) (stmt? : Option Stmt) : Prop :=
  ∀ owes rest, (text ++ '\n' :: rest).length < c.fuel →
    (grammar n).statement c (.fresh c owes (text ++ '\n' :: rest)) =
      stmt?.map fun stmt => (.mk [] stmt, .after c owes ('\n' :: rest))

/-- The word at the front of a line, and what is left behind it. -/
theorem fresh_word (c : Context) (owes : Bool) {w cs : List Char} (hw : IsSpelling w)
    (hk : EndsName k) (hcs : cs = w ++ k :: rest) :
    (State.fresh c owes cs).token = .name (String.ofList w) false ∧
      (State.fresh c owes cs).rest = k :: rest := by
  have htoken : (State.solid c owes (w ++ k :: rest)).token = .name (String.ofList w) false :=
    token_solid_word hw hk
  have hrest : (State.solid c owes (w ++ k :: rest)).rest = k :: rest := rest_solid_word hw hk
  rw [hcs]
  exact ⟨htoken, hrest⟩

/-- The line that declares a constant. -/
def constantLine (name value : List Char) : List Char :=
  "const".toList ++ ' ' :: (name ++ ' ' :: '=' :: ' ' :: (value ++ [';']))

theorem constantLine_append (name value rest : List Char) :
    constantLine name value ++ rest =
      "const".toList ++ ' ' :: (name ++ ' ' :: '=' :: ' ' :: (value ++ ';' :: rest)) := by
  simp [constantLine]

theorem BreaksOff.isWord {name front after : List Char} {a : Char}
    (h : BreaksOff name front a after) (hchars : ∀ c ∈ name, BindingName.isNameChar c = true)
    (hfront : IsSpelling front) : IsWord front :=
  ⟨hfront, fun d hd => hchars d (h.eq ▸ List.mem_append_left _ hd)⟩

theorem isWord_toList {name : String} (h : BindingName.isWellFormed name = true)
    (hspelling : IsSpelling name.toList) : IsWord name.toList := by
  obtain ⟨d, ds, hname, -, hchars⟩ := isWellFormed_iff.mp h
  exact ⟨hspelling, hname ▸ hchars⟩

/-- An accepted name that writes a name names a variable. -/
theorem mayName_of_isIdentifier {name : String} (h : BindingName.isIdentifier name = true) :
    mayName c name = true := by
  obtain ⟨-, hfree⟩ := isIdentifier_iff.mp h
  rw [List.mem_append, not_or] at hfree
  have hawait : name ≠ "await" := fun heq => hfree.2 (heq ▸ by decide)
  have hyield : name ≠ "yield" := fun heq => hfree.2 (heq ▸ by decide)
  simp [mayName, isReserved, hfree.1, hawait, hyield]

/-- A constant is declared under a name that can name a variable. -/
theorem statementBody_of_constant {name : String} {cs : List Char} {value : Expr} {n : Nat}
    (hs : s.token = .name "const" false)
    (hrest : s.rest = ' ' :: (name.toList ++ ' ' :: '=' :: ' ' :: (cs ++ ';' :: rest)))
    (hname : BindingName.isIdentifier name = true) (hbinding : IsBindingIdentifier name)
    (hcs : ∀ rest, Lexer.IsSolid (cs ++ rest)) (hvalue : ReadsAs cs value)
    (hfuel : (cs ++ ';' :: rest).length < c.fuel) (hdepth : cs.length ≤ n) :
    statementBody (grammar (n + 1)) c s =
      some (.declaration .const [.withDefault (.name name) value], .after c s.owesPattern rest) := by
  have hlength : 1 < c.fuel := by
    simp only [List.length_append, List.length_cons] at hfuel
    omega
  have hword := isWord_toList (isIdentifier_iff.mp hname).1 hbinding.isSpelling
  have hnext := next_eq_space (c := c) hrest (hword.isSolid _) hlength
  -- `const enum` would begin another declaration, but `enum` is reserved
  have henum : (State.next c s).token ≠ .name "enum" false := by
    rw [hnext, token_solid_word hword.isSpelling endsName_space, String.ofList_toList]
    intro heq
    have hfree := hbinding.notReserved
    rw [(Token.name.inj heq).1] at hfree
    exact hfree (by decide)
  have htail := variablesTail_of_name (c := c) s.owesPattern .const hword
    (by rw [String.ofList_toList]; exact mayName_of_isIdentifier hname) hcs hvalue hfuel hdepth
  rw [String.ofList_toList] at htail
  rw [statementBody_of_const hs (by omega) henum, hnext, htail]

/-- No constant is declared under a name that breaks off. -/
theorem statementBody_of_constant_breaksOff {name front : List Char} {a : Char} {after : List Char}
    {n : Nat} (hs : s.token = .name "const" false) (hrest : s.rest = ' ' :: (name ++ rest))
    (hchars : ∀ c ∈ name, BindingName.isNameChar c = true) (hbreaks : BreaksOff name front a after)
    (hambient : c.isAmbient = false) (hfuel : 1 < c.fuel) :
    statementBody (grammar (n + 2)) c s = none := by
  have halien := hbreaks.alien
  have heq : name ++ rest = front ++ a :: (after ++ rest) := by
    rw [hbreaks.eq, List.append_assoc, List.cons_append]
  rw [heq] at hrest
  -- the name breaks off at once, or behind a word, which may be `enum`
  rcases hbreaks.before with rfl | hspelling
  · rw [List.nil_append] at hrest
    have hnext := next_eq_space (c := c) hrest (halien.isSolid _) hfuel
    have henum : (State.next c s).token ≠ .name "enum" false := by
      rw [hnext, token_solid_alien halien]
      simp
    rw [statementBody_of_const hs (by omega) henum, hnext]
    exact variablesTail_of_alien halien
  · have hword := BreaksOff.isWord hbreaks hchars hspelling
    have hpart := hbreaks.part hspelling.ne_nil
    have hends := EndsName.of_alien halien hpart
    have hnext := next_eq_space (c := c) hrest (hword.isSolid _) hfuel
    by_cases henum : String.ofList front = "enum"
    · refine statementBody_of_const_enum hs (by omega) ?_ ?_
      · rw [hnext, token_solid_word hspelling hends, henum]
      · have hafter : State.next c (.solid c s.owesPattern (front ++ a :: (after ++ rest))) =
            .solid c s.owesPattern (a :: (after ++ rest)) :=
          next_eq_solid (rest_solid_word hspelling hends) (halien.isSolid _) (by omega)
        rw [hnext, hafter, token_solid_alien halien]
    · rw [statementBody_of_const hs (by omega) ?_, hnext]
      · exact variablesTail_of_breaksOff hword hpart halien hambient (by omega)
      · rw [hnext, token_solid_word hspelling hends]
        simpa using henum

/-- **The declaration of a constant under an accepted name** is read exactly if the name can name a
variable. -/
theorem readsLine_constant {name : String} {cs : List Char} {value : Expr} {n : Nat}
    (hc : c.IsOutermost) (hname : BindingName.isIdentifier name = true)
    (hcs : ∀ rest, Lexer.IsSolid (cs ++ rest)) (hvalue : ReadsAs cs value) (hdepth : cs.length ≤ n) :
    ReadsLine c (n + 3) (constantLine name.toList cs)
      (if IsBindingIdentifier name then
        some (.declaration .const [.withDefault (.name name) value]) else none) := by
  intro owes rest hfuel
  obtain ⟨htoken, hrest⟩ := fresh_word c owes (by decide) endsName_space
    (constantLine_append name.toList cs ('\n' :: rest))
  rw [constantLine_append] at hfuel
  simp only [List.length_append, List.length_cons] at hfuel
  obtain ⟨hformed, -⟩ := isIdentifier_iff.mp hname
  rw [statement_of_fresh hc]
  split
  · rename_i hbinding
    rw [statementBody_of_constant htoken hrest hname hbinding hcs hvalue
      (by simp only [List.length_append, List.length_cons]; omega) (by omega)]
    rfl
  · rename_i hbinding
    obtain ⟨d, ds, hds, -, hchars⟩ := isWellFormed_iff.mp hformed
    rcases isSpelling_or_breaksOff hformed with hspelling | ⟨front, a, after, hbreaks⟩
    · exact absurd ((isBindingIdentifier_iff_isSpelling hname).mpr hspelling) hbinding
    · rw [statementBody_of_constant_breaksOff htoken hrest (hds ▸ hchars) hbreaks hc.isAmbient
        (by omega)]
      rfl

/-! ### Settings -/

/-- Accepted names are all read to their ends, or one of them breaks off behind others that do not. -/
theorem isWord_or_breaksOff : ∀ {names : List (List Char)},
    (∀ name ∈ names, BindingName.isWellFormed (String.ofList name) = true) →
    (∀ name ∈ names, IsWord name) ∨
      ∃ good name more front a after, names = good ++ name :: more ∧
        (∀ name ∈ good, IsWord name) ∧ BreaksOff name front a after
  | [], _ => .inl (by simp)
  | name :: names, h => by
      obtain ⟨hname, hmore⟩ := List.forall_mem_cons.mp h
      have hsplit := isSpelling_or_breaksOff hname
      rw [String.toList_ofList] at hsplit
      rcases hsplit with hspelling | ⟨front, a, after, hbreaks⟩
      · have hword : IsWord name := by
          simpa using isWord_toList hname (by simpa using hspelling)
        rcases isWord_or_breaksOff hmore with
          hall | ⟨good, name', more, front, a, after, rfl, hgood, hbreaks⟩
        · exact .inl (List.forall_mem_cons.mpr ⟨hword, hall⟩)
        · exact .inr ⟨name :: good, name', more, front, a, after, rfl,
            List.forall_mem_cons.mpr ⟨hword, hgood⟩, hbreaks⟩
      · exact .inr ⟨[], name, names, front, a, after, rfl, by simp, hbreaks⟩

/-- No statement ends in front of an alien on the same line. -/
theorem semicolon_of_alien {a : Char} (ha : IsAlien a) :
    semicolon c (.solid c owes (a :: rest)) = none := by
  have hbad : (State.solid c owes (a :: rest)).token = .bad := token_solid_alien ha
  have hline : (State.solid c owes (a :: rest)).gap.newline = false := rfl
  simp [semicolon, run_takeSign, hbad, newline, hline, ensure]

/-- An alien behind an operand ends the expression. -/
theorem expression_of_conditional_alien {e : Expr} {a : Char} {n : Nat}
    (hyield : s.token ≠ .name "yield" false) (harrow : arrow? (grammar n) c s = some (none, s))
    (ha : IsAlien a) (hfuel : 0 < c.fuel)
    (h : conditional (grammar n) c { s with owesPattern := false } =
      some (e, .solid c false (a :: rest))) :
    (grammar (n + 2)).expression c s = some (e, .solid c s.owesPattern (a :: rest)) := by
  have hbad (owes : Bool) : (State.solid c owes (a :: rest)).token = .bad := token_solid_alien ha
  have hassignment : (grammar (n + 1)).assignment c s =
      some (e, .solid c s.owesPattern (a :: rest)) := by
    show assignmentProduction (grammar n) c s = _
    simp [assignmentProduction, hyield, harrow, assignmentOrLess, h, assignmentSign?, hbad]
    simp [State.solid, Lexer.token_alien ha]
  obtain ⟨fuel, hf⟩ := Nat.exists_eq_succ_of_ne_zero (by omega : c.fuel ≠ 0)
  show expressionProduction (grammar (n + 1)) c s = _
  simp [expressionProduction, hassignment, repeatWhile, hf, repeatUpTo, run_takeSign, hbad]

/-- A point behind the place of a call makes no arrow function of it. -/
theorem arrow?_of_this {d : Char} (hs : s.token = .name "this" false)
    (hrest : s.rest = '.' :: d :: rest) (hdigit : d.isDigit = false) (hpoint : d ≠ '.')
    (hfuel : 0 < c.fuel) : arrow? g c s = some (none, s) := by
  have hnext := next_eq_solid (c := c) hrest
    (Lexer.isSolid_cons (by decide) (by decide) (by decide) _) hfuel
  refine arrow?_of_word hs (by decide) ?_
  rw [hnext, State.solid, Lexer.token_point hdigit hpoint]
  simp

theorem points_concat (names : List (List Char)) (name : List Char) :
    points (names ++ [name]) = points names ++ '.' :: name := by
  simp [points]

/-- No member of the place of a call is assigned whose name breaks off. -/
theorem statementBody_of_this_breaksOff {good : List (List Char)} {name front : List Char} {a : Char}
    {after : List Char} {n : Nat} (hs : s.token = .name "this" false)
    (hrest : s.rest = points good ++ '.' :: (name ++ rest)) (hpure : s.gap.pure = false)
    (harrow : arrow? (grammar n) c s = some (none, s))
    (hgood : ∀ name ∈ good, IsWord name) (hchars : ∀ c ∈ name, BindingName.isNameChar c = true)
    (hbreaks : BreaksOff name front a after) (hfuel : s.rest.length < c.fuel) :
    statementBody (grammar (n + 2)) c s = none := by
  have halien := hbreaks.alien
  rw [hbreaks.eq, List.append_assoc, List.cons_append] at hrest
  simp only [hrest, List.length_append, List.length_cons] at hfuel
  have hyield : s.token ≠ .name "yield" false := by simp [hs]
  rw [statementBody_of_this hs (by omega)]
  -- the name breaks off at once, or behind a word, which is then the last member
  rcases hbreaks.before with rfl | hspelling
  · rw [List.nil_append] at hrest
    rw [expression_of_conditional_none hyield harrow (conditional_of_this_alien
      (s := { s with owesPattern := false }) hs hrest hgood halien (by omega)), Option.bind_none]
  · have hword := BreaksOff.isWord hbreaks hchars hspelling
    have hnames : ∀ name ∈ good ++ [front], IsWord name := by
      simpa [or_imp, forall_and] using ⟨hgood, hword⟩
    have hpoints : s.rest = points (good ++ [front]) ++ a :: (after ++ rest) := by
      rw [hrest, points_concat, List.append_assoc, List.cons_append]
    have hafter : State.after c false (a :: (after ++ rest)) =
        .solid c false (a :: (after ++ rest)) :=
      State.start_solid (halien.isSolid _) (by omega) _ _ _
    have hbad : EndsOperand (State.after c false (a :: (after ++ rest))).token := by
      rw [hafter, token_solid_alien halien]
      exact .inr rfl
    have hconditional := conditional_of_this (g := grammar n) (s := { s with owesPattern := false })
      hs hpoints hpure hnames (.of_alien halien (hbreaks.part hspelling.ne_nil)) hbad
      (by rw [points_concat, List.length_append, List.length_cons]; omega)
    rw [hafter] at hconditional
    rw [expression_of_conditional_alien hyield harrow halien (by omega) hconditional,
      Option.bind_some, semicolon_of_alien halien, Option.map_none]

/-- A character of names that is no figure of ASCII is no figure and no point. -/
theorem apart_of_not_isAsciiDigit {d : Char} (hchar : BindingName.isNameChar d = true)
    (hdigit : BindingName.isAsciiDigit d = false) : d.isDigit = false ∧ d ≠ '.' := by
  have hfigures : ∀ d ∈ Lexer.figures, BindingName.isAsciiDigit d = true :=
    List.all_iff_forall_prop.mp (by decide)
  constructor
  · rw [← Bool.not_eq_true]
    intro hfigure
    rw [hfigures d (Lexer.mem_figures_of_isDigit hfigure)] at hdigit
    cases hdigit
  · rintro rfl
    exact absurd hchar (by decide)

/-- An accepted name behind the place of a call makes no arrow function of it. -/
theorem arrow?_of_points {names : List (List Char)} (hs : s.token = .name "this" false)
    (hrest : s.rest = points names ++ rest) (hne : names ≠ [])
    (hnames : ∀ name ∈ names, BindingName.isWellFormed (String.ofList name) = true)
    (hfuel : 0 < c.fuel) : arrow? g c s = some (none, s) := by
  obtain ⟨name, more, rfl⟩ := List.exists_cons_of_ne_nil hne
  obtain ⟨d, ds, hname, hdigit, hchars⟩ := isWellFormed_iff.mp (hnames name List.mem_cons_self)
  rw [String.toList_ofList] at hname
  have hfront : s.rest = '.' :: d :: (ds ++ (points more ++ rest)) := by
    rw [hrest, hname]
    simp [points]
  obtain ⟨hfigure, hpoint⟩ := apart_of_not_isAsciiDigit (hchars d List.mem_cons_self) hdigit
  exact arrow?_of_this hs hfront hfigure hpoint hfuel

/-- The members of the place of a call are assigned exactly if their names are read to their ends. -/
theorem statementBody_of_points {names : List (List Char)} {cs : List Char} {value : Expr} {n : Nat}
    (hs : s.token = .name "this" false)
    (hrest : s.rest = points names ++ ' ' :: '=' :: ' ' :: (cs ++ ';' :: rest))
    (hpure : s.gap.pure = false) (hne : names ≠ [])
    (hnames : ∀ name ∈ names, BindingName.isWellFormed (String.ofList name) = true)
    (hcs : ∀ rest, Lexer.IsSolid (cs ++ rest)) (hvalue : ReadsAs cs value)
    (hfuel : s.rest.length < c.fuel) (hdepth : cs.length < n) :
    statementBody (grammar (n + 2)) c s =
      if ∀ name ∈ names, IsSpelling name then
        some (.expr (.assign none (.target (memberOf .this names)) value),
          .after c s.owesPattern rest)
      else none := by
  have harrow := arrow?_of_points (g := grammar n) hs hrest hne hnames (by omega : 0 < c.fuel)
  have hchars : ∀ name ∈ names, ∀ c ∈ name, BindingName.isNameChar c = true := by
    intro name hname
    obtain ⟨d, ds, heq, -, hchars⟩ := isWellFormed_iff.mp (hnames name hname)
    rw [String.toList_ofList] at heq
    exact heq ▸ hchars
  split
  · rename_i hspellings
    have hwords : ∀ name ∈ names, IsWord name :=
      fun name hname => ⟨hspellings name hname, hchars name hname⟩
    rw [statementBody_of_this hs (by omega), expression_of_this hs hrest hpure harrow hne hwords hcs
      hvalue (hrest ▸ hfuel) hdepth, Option.bind_some, semicolon_of_solid, Option.map_some]
  · rename_i hspellings
    -- the names in front of the first that breaks off are members
    rcases isWord_or_breaksOff hnames with
      hwords | ⟨good, name, more, front, a, after, rfl, hgood, hbreaks⟩
    · exact absurd (fun name hname => (hwords name hname).isSpelling) hspellings
    · have hfront : s.rest = points good ++
          '.' :: (name ++ (points more ++ ' ' :: '=' :: ' ' :: (cs ++ ';' :: rest))) := by
        rw [hrest]
        simp [points]
      exact statementBody_of_this_breaksOff hs hfront hpure harrow hgood
        (hchars name (by simp)) hbreaks hfuel

/-- The line that assigns a member of the place of a call. -/
def assignmentLine (key value : List Char) : List Char :=
  "this".toList ++ '.' :: (key ++ ' ' :: '=' :: ' ' :: (value ++ [';']))

/-- A key is points with the names in it behind them. -/
theorem points_splitChars : ∀ cs : List Char, points (Text.splitChars '.' cs) = '.' :: cs
  | [] => rfl
  | c :: cs => by
      have hrest := points_splitChars cs
      unfold Text.splitChars
      split
      · rename_i hpoint
        rw [hpoint, ← hrest]
        rfl
      · cases hsplit : Text.splitChars '.' cs with
        | nil =>
            rw [hsplit] at hrest
            cases hrest
        | cons piece pieces =>
            rw [hsplit] at hrest
            simpa [points] using hrest

theorem assignmentLine_append (key value rest : List Char) :
    assignmentLine key value ++ rest =
      "this".toList ++ '.' :: (key ++ ' ' :: '=' :: ' ' :: (value ++ ';' :: rest)) := by
  simp [assignmentLine]

/-- **The assignment to a member of the place of a call** whose key consists of accepted names is read
exactly if they can name variables. -/
theorem readsLine_assignment {key : String} {cs : List Char} {value : Expr} {n : Nat}
    (hc : c.IsOutermost) (hkey : ∀ part ∈ Text.splitAt '.' key, BindingName.isIdentifier part = true)
    (hcs : ∀ rest, Lexer.IsSolid (cs ++ rest)) (hvalue : ReadsAs cs value) (hdepth : cs.length < n) :
    ReadsLine c (n + 3) (assignmentLine key.toList cs)
      (if ∀ part ∈ Text.splitAt '.' key, IsBindingIdentifier part then
        some (.expr (.assign none
          (.target (memberOf .this (Text.splitChars '.' key.toList))) value)) else none) := by
  intro owes rest hfuel
  obtain ⟨htoken, hrest⟩ := fresh_word c owes (by decide) endsName_point
    (assignmentLine_append key.toList cs ('\n' :: rest))
  rw [← List.cons_append, ← points_splitChars] at hrest
  have hlength := congrArg List.length hrest
  rw [points_splitChars] at hlength
  rw [assignmentLine_append] at hfuel
  simp only [List.length_append, List.length_cons] at hfuel hlength
  have hne : Text.splitChars '.' key.toList ≠ [] := by
    intro hnil
    have hpoints := points_splitChars key.toList
    rw [hnil] at hpoints
    cases hpoints
  simp only [Text.splitAt, List.forall_mem_map] at hkey ⊢
  have hformed : ∀ part ∈ Text.splitChars '.' key.toList,
      BindingName.isWellFormed (String.ofList part) = true :=
    fun part hpart => (isIdentifier_iff.mp (hkey part hpart)).1
  have hbinding : (∀ part ∈ Text.splitChars '.' key.toList,
      IsBindingIdentifier (String.ofList part)) ↔
        ∀ part ∈ Text.splitChars '.' key.toList, IsSpelling part :=
    forall₂_congr fun part hpart => by
      rw [isBindingIdentifier_iff_isSpelling (hkey part hpart), String.toList_ofList]
  rw [statement_of_fresh hc, statementBody_of_points htoken hrest rfl hne hformed hcs hvalue
    (by omega) hdepth]
  simp only [hbinding]
  split <;> rfl

end Parser

end StorySuite.Script
