import StorySuite.Proofs.Json.Expressions
import StorySuite.Proofs.Script.Names

/-!
# Proofs — Script — Parser — members

The members that the lines of generated code speak of: an export of the module, which a text in
brackets reads off it, and a member of the place of the call, to which names behind points lead.  They
are read alike in every dialect and at every place of a program.  Where a name breaks off, no word is
in front, and the members end there.

* **`readsAs_exportedMember`**: an export of the module is read as this member.
* **`conditional_of_this`**: the members of the place of the call are an operand.
* **`expression_of_this`**: an assignment to one is read to the end of its value.
-/

namespace StorySuite.Script

namespace Lexer

theorem skipGap?_space (fuel : Nat) (script opens broken : Bool) (g : Gap) (cs : List Char) :
    skipGap? (fuel + 1) script opens broken g (' ' :: cs) =
      skipGap? fuel script opens broken g cs := by
  have hline : isLineEnd ' ' = false := by decide
  have hspace : isSpace ' ' = true := by decide
  simp [skipGap?, hline, hspace]

theorem skipGap?_newline (fuel : Nat) (script opens broken : Bool) (g : Gap) (cs : List Char) :
    skipGap? (fuel + 1) script opens broken g ('\n' :: cs) =
      skipGap? fuel script opens broken (g.endLine opens) cs := by
  have hline : isLineEnd '\n' = true := by decide
  simp [skipGap?, hline]

theorem token_equals (fuel : Nat) (rest : List Char) :
    token fuel ('=' :: ' ' :: rest) = (.sign "=", ' ' :: rest) := by
  have hname : isNameStart '=' = false := by decide
  simp [token, sign?, signs, Text.dropStart?, hname]

theorem token_point {d : Char} (hd : d.isDigit = false) (hpoint : d ≠ '.') (fuel : Nat)
    (rest : List Char) : token fuel ('.' :: d :: rest) = (.sign ".", d :: rest) := by
  have hname : isNameStart '.' = false := by decide
  simp [token, sign?, signs, Text.dropStart?, hname, hd, Ne.symm hpoint]

/-- A point in front of a name is a word. -/
theorem token_point_spelling {cs : List Char} (hcs : IsSpelling cs) (fuel : Nat)
    (rest : List Char) : token fuel ('.' :: (cs ++ rest)) = (.sign ".", cs ++ rest) := by
  cases cs with
  | nil => exact absurd hcs id
  | cons c cs =>
      have hdigit : c.isDigit = false := by
        rw [← Bool.not_eq_true]
        intro hdigit
        have hstart := (figure_starts hdigit).1
        rw [hcs.1] at hstart
        cases hstart
      have hpoint : c ≠ '.' := by
        rintro rfl
        exact absurd hcs.1 (by decide)
      exact token_point hdigit hpoint fuel (cs ++ rest)

end Lexer

/-- The place behind a word that opens nothing, where `rest` is left. -/
def State.after (c : Context) (owes : Bool) (rest : List Char) : State :=
  .start c.fuel (!c.isModule) false false owes rest

/-- The place at the front of a line. -/
def State.fresh (c : Context) (owes : Bool) (cs : List Char) : State :=
  { State.solid c owes cs with gap := { newline := true } }

theorem State.start_space {c : Context} {cs : List Char} (hcs : Lexer.IsSolid cs)
    (hfuel : 1 < c.fuel) (script opens owes : Bool) :
    State.start c.fuel script opens false owes (' ' :: cs) = .solid c owes cs := by
  obtain ⟨fuel, hf⟩ : ∃ fuel, c.fuel = fuel + 2 := ⟨c.fuel - 2, by omega⟩
  simp [State.start, State.solid, hf, Lexer.skipGap?_space, hcs fuel]

namespace Parser

open Json

variable {g : Grammar} {c : Context} {s : State} {owes : Bool} {k : Char} {rest : List Char}

/-! ### Names in front -/

/-- The characters write a name that is read from its front to its end. -/
structure IsWord (cs : List Char) : Prop where
  isSpelling : IsSpelling cs
  chars : ∀ c ∈ cs, BindingName.isNameChar c = true

/-- The character ends a name in front of it. -/
structure EndsName (k : Char) : Prop where
  part : isNamePart k = false
  escape : k ≠ '\\'

theorem endsName_point : EndsName '.' :=
  ⟨by decide, by decide⟩

theorem endsName_space : EndsName ' ' :=
  ⟨by decide, by decide⟩

theorem EndsName.of_alien {a : Char} (ha : IsAlien a) (hpart : isNamePart a = false) : EndsName a :=
  ⟨hpart, ha.ne (by decide)⟩

theorem IsWord.isSolid {cs : List Char} (h : IsWord cs) (rest : List Char) :
    Lexer.IsSolid (cs ++ rest) :=
  h.isSpelling.isSolid h.chars rest

/-- A name is the word in front, up to what ends it. -/
theorem token_solid_word {cs : List Char} (hcs : IsSpelling cs) (hk : EndsName k) :
    (State.solid c owes (cs ++ k :: rest)).token = .name (String.ofList cs) false := by
  simp [State.solid, Lexer.token_spelling hcs hk.part hk.escape]

theorem rest_solid_word {cs : List Char} (hcs : IsSpelling cs) (hk : EndsName k) :
    (State.solid c owes (cs ++ k :: rest)).rest = k :: rest := by
  simp [State.solid, Lexer.token_spelling hcs hk.part hk.escape]

/-- An alien in front is no word. -/
theorem token_solid_alien {a : Char} (ha : IsAlien a) :
    (State.solid c owes (a :: rest)).token = .bad := by
  simp [State.solid, Lexer.token_alien ha]

/-! ### Going on -/

/-- Behind a word that opens nothing, the next one is read with nothing open. -/
theorem next_eq_after (h : ∀ u ∈ ["(", "="], s.token ≠ .sign u) :
    State.next c s = .after c s.owesPattern s.rest := by
  simp only [List.forall_mem_cons] at h
  rw [State.next, beq_false_of_ne h.1, beq_false_of_ne h.2.1]
  rfl

theorem next_eq_space {cs : List Char} (hs : s.rest = ' ' :: cs) (hcs : Lexer.IsSolid cs)
    (hfuel : 1 < c.fuel) : State.next c s = .solid c s.owesPattern cs := by
  rw [State.next, hs]
  exact State.start_space hcs hfuel _ _ _

/-- No arrow function begins with a word behind which its sign does not stand. -/
theorem arrow?_of_word {w : String} (hs : s.token = .name w false) (hw : w ≠ "async")
    (hnext : (State.next c s).token ≠ .sign "=>") : arrow? g c s = some (none, s) := by
  have hopens : opensTypeParameters c s = some (false, s) := by
    cases htypes : c.hasTypes <;> cases helements : c.hasElements <;>
      simp [opensTypeParameters, htypes, helements, seems, ahead, sign, run_takeSign, hs]
  have hname : nameHead false c s = none := by
    cases hvariable : mayName c w <;> cases hline : (State.next c s).gap.newline <;>
      simp [nameHead, variableName, atVariable, anyName, ensure, hs, hvariable, arrowSign, hline,
        sign, run_takeSign, hnext]
  have hhead : arrowHead? g c s = some (none, s) := by
    simp [arrowHead?, hopens, attempt, hname, hs, hw]
  cases hchoice : c.inChoice <;> simp [arrow?, hchoice, hhead, attempt]

theorem token_solid_bracket (c : Context) (owes : Bool) {b : Char} (hb : b ∈ brackets)
    (cs : List Char) :
    (State.solid c owes (b :: cs)).token = .sign (String.singleton b) := by
  simp [State.solid, Lexer.token_bracket hb]

theorem next_of_bracket (owes : Bool) {b : Char} (hb : b ∈ brackets) {cs : List Char}
    (hcs : Lexer.IsSolid cs) (hfuel : 0 < c.fuel) :
    State.next c (.solid c owes (b :: cs)) = .solid c owes cs :=
  next_eq_solid (by simp [State.solid, Lexer.token_bracket hb]) hcs hfuel

/-- An expression in front of what ends it, other than a comma, is no list of expressions. -/
theorem expressionProduction_of_assignment {e : Expr} (hk : k ∈ closers) (hcomma : k ≠ ',')
    (hfuel : 0 < c.fuel) (h : g.assignment c s = some (e, .solid c owes (k :: rest))) :
    expressionProduction g c s = some (e, .solid c owes (k :: rest)) := by
  obtain ⟨fuel, hf⟩ := Nat.exists_eq_succ_of_ne_zero (by omega : c.fuel ≠ 0)
  have hne : (State.solid c owes (k :: rest)).token ≠ .sign "," := by
    rw [token_solid_closer hk]
    intro heq
    have hchars := congrArg String.toList (Token.sign.inj heq)
    simp at hchars
    exact hcomma hchars
  simp [expressionProduction, h, repeatWhile, hf, repeatUpTo, run_takeSign, hne]

/-! ### Exports of the module -/

/-- A member of what a module exports. -/
def exportedMember (t : String) : Expr :=
  .index (.member (.name "module") "exports" false) (.literal (.string ⟨t, false⟩)) false

/-- The text of a member of what a module exports. -/
def exportedMemberText (t : String) : List Char :=
  "module".toList ++ '.' :: ("exports".toList ++ '[' :: ((Json.quote t).toList ++ [']']))

/-- A name behind a point is the name of a member. -/
theorem suffix?_point (g : Grammar) (owes : Bool) (rest : List Char) {e : Expr} {cs : List Char}
    {d : Char} (hcs : IsWord cs) (hd : EndsName d) (he : e.isInstantiation = false)
    (hfuel : 0 < c.fuel) :
    suffix? g true e c (.solid c owes ('.' :: (cs ++ d :: rest))) =
      some (some (.member e (String.ofList cs) false), .after c owes (d :: rest)) := by
  have hpoint := Lexer.token_point_spelling hcs.isSpelling c.fuel (d :: rest)
  have htoken : (State.solid c owes ('.' :: (cs ++ d :: rest))).token = .sign "." := by
    simp [State.solid, hpoint]
  have hnext : State.next c (.solid c owes ('.' :: (cs ++ d :: rest))) =
      .solid c owes (cs ++ d :: rest) :=
    next_eq_solid (by simp [State.solid, hpoint]) (hcs.isSolid (d :: rest)) hfuel
  have hmember : (State.solid c owes (cs ++ d :: rest)).token = .name (String.ofList cs) false :=
    token_solid_word hcs.isSpelling hd
  have hafter : State.next c (.solid c owes (cs ++ d :: rest)) = .after c owes (d :: rest) := by
    rw [next_eq_after (by simp [hmember]), rest_solid_word hcs.isSpelling hd]
    rfl
  simp [suffix?, htoken, ensure, he, hnext, memberAfterPoint, hmember, anyName, hafter]

/-- An expression in front of what ends it, other than a comma, is read as an expression. -/
theorem expression_of_readsAs (owes : Bool) (rest : List Char) {cs : List Char} {e : Expr}
    (h : ReadsAs cs e) {n : Nat} (hk : k ∈ closers) (hcomma : k ≠ ',')
    (hfuel : (cs ++ k :: rest).length < c.fuel) (hdepth : cs.length < n) :
    (grammar (n + 1)).expression c (.solid c owes (cs ++ k :: rest)) =
      some (e, .solid c owes (k :: rest)) :=
  expressionProduction_of_assignment hk hcomma (by omega) (h hk rfl hfuel hdepth)

/-- A text in brackets behind an operand. -/
theorem suffix?_text (owes : Bool) (e : Expr) {t : String} {n : Nat} (hk : k ∈ closers)
    (hfuel : (Json.quote t).toList.length + rest.length + 3 < c.fuel)
    (hdepth : (Json.quote t).toList.length < n) :
    suffix? (grammar (n + 1)) true e c
        (.solid c owes ('[' :: ((Json.quote t).toList ++ ']' :: k :: rest))) =
      some (some (.index e (.literal (.string ⟨t, false⟩)) false), .solid c owes (k :: rest)) := by
  have hopen := token_solid_bracket c owes (by decide : '[' ∈ brackets)
    ((Json.quote t).toList ++ ']' :: k :: rest)
  have hclose := token_solid_bracket c owes (by decide : ']' ∈ brackets) (k :: rest)
  have hnext := next_of_bracket (c := c) owes (by decide : '[' ∈ brackets)
    (isSolid_text (.string t) (']' :: k :: rest)) (by omega)
  have hend := next_of_bracket (c := c) owes (by decide : ']' ∈ brackets)
    (isSolid_closer hk rest) (by omega)
  have hkey := expression_of_readsAs (c := { c with allowIn := true, inChoice := false }) owes
    (k :: rest) (readsAs_value (.string t)) (k := ']') (n := n) (by decide) (by decide)
    (by simp only [Value.text, List.length_append, List.length_cons]; omega) hdepth
  have hsame (cs : List Char) :
      State.solid { c with allowIn := true, inChoice := false } owes cs = .solid c owes cs := rfl
  rw [hsame, hsame] at hkey
  simp only [Value.text, Value.expr] at hnext hkey
  simp [suffix?, hopen, hnext, indexTail, hkey, sign, run_takeSign, hclose, hend]

/-- A name that is no word of the language is an operand. -/
theorem primary_of_variable {w : String} (hs : s.token = .name w false) (hw : mayName c w = true)
    (hasync : w ≠ "async") :
    primary g c s = some (.name w, State.next c s) := by
  have hreserved : isReserved w = false := by
    simp only [mayName, Bool.and_eq_true, Bool.not_eq_true'] at hw
    exact hw.1.1
  have hwords : ∀ u ∈ ["function", "class", "this", "null", "true", "false", "import", "super"],
      w ≠ u := by
    have hall : ∀ u ∈ ["function", "class", "this", "null", "true", "false", "import", "super"],
        isReserved u = true := by decide
    intro u hu heq
    rw [heq, hall u hu] at hreserved
    cases hreserved
  have hvalue : primary.wordValue? w = none := by
    unfold primary.wordValue?
    split <;> simp_all
  simp only [List.forall_mem_cons] at hwords
  simp [primary, hs, atAsyncFunction, word, run_takeWord, hwords, hasync, hvalue, variableName,
    atVariable, hw, ensure, anyName]

theorem iterateUpTo_some {α : Type} {step : α → Parser (Option α)} {fuel : Nat} {a b : α} {t : State}
    (h : step a c s = some (some b, t)) :
    iterateUpTo step (fuel + 1) a c s = iterateUpTo step fuel b c t := by
  simp [iterateUpTo, h]

theorem iterateUpTo_none {α : Type} {step : α → Parser (Option α)} {fuel : Nat} {a : α} {t : State}
    (h : step a c s = some (none, t)) : iterateUpTo step (fuel + 1) a c s = some (a, t) := by
  simp [iterateUpTo, h]

/-- A member of what a module exports is an operand. -/
theorem unaryProduction_of_module {t : String} {n : Nat} (hk : k ∈ closers)
    (hs : s.token = .name "module" false)
    (hrest : s.rest = '.' :: ("exports".toList ++ '[' :: ((Json.quote t).toList ++ ']' :: k :: rest)))
    (hfuel : (Json.quote t).toList.length + rest.length + 3 < c.fuel)
    (hdepth : (Json.quote t).toList.length < n) :
    unaryProduction (grammar (n + 1)) c s =
      some (exportedMember t, .solid c s.owesPattern (k :: rest)) := by
  have hexports : IsWord "exports".toList :=
    ⟨by decide, List.all_iff_forall_prop.mp (by decide)⟩
  have hnext : State.next c s = .solid c s.owesPattern
      ('.' :: ("exports".toList ++ '[' :: ((Json.quote t).toList ++ ']' :: k :: rest))) :=
    next_eq_solid hrest (Lexer.isSolid_cons (by decide) (by decide) (by decide) _) (by omega)
  have hprimary := primary_of_variable (g := grammar (n + 1)) (c := c) hs
    (by simp [mayName, isReserved, reservedWords]) (by decide)
  have hpoint := suffix?_point (grammar (n + 1)) (c := c) s.owesPattern
    ((Json.quote t).toList ++ ']' :: k :: rest) (d := '[') (e := .name "module") hexports
    ⟨by decide, by decide⟩ rfl (by omega)
  have hbracket : State.after c s.owesPattern ('[' :: ((Json.quote t).toList ++ ']' :: k :: rest)) =
      .solid c s.owesPattern ('[' :: ((Json.quote t).toList ++ ']' :: k :: rest)) :=
    State.start_solid (Lexer.isSolid_cons (by decide) (by decide) (by decide) _) (by omega) _ _ _
  have htext := suffix?_text (c := c) s.owesPattern (.member (.name "module") "exports" false)
    (t := t) (n := n) hk hfuel hdepth
  have hend : suffix? (grammar (n + 1)) true (exportedMember t) c
      (.solid c s.owesPattern (k :: rest)) = some (none, .solid c s.owesPattern (k :: rest)) :=
    suffix?_closer hk true
  -- two members, and then the end
  have hsuffixes : suffixes (grammar (n + 1)) true (.name "module") c (State.next c s) =
      some (exportedMember t, .solid c s.owesPattern (k :: rest)) := by
    obtain ⟨fuel, hf⟩ : ∃ fuel, c.fuel = fuel + 3 := ⟨c.fuel - 3, by omega⟩
    show iterateUpTo _ c.fuel _ c _ = _
    rw [hnext, hf, iterateUpTo_some hpoint, hbracket]
    exact (iterateUpTo_some htext).trans (iterateUpTo_none hend)
  have hlast : ∀ u ∈ ["++", "--"], (State.solid c s.owesPattern (k :: rest)).token ≠ .sign u := by
    rw [token_solid_closer hk]
    simp only [closers, List.mem_cons, List.not_mem_nil, or_false] at hk
    rcases hk with rfl | rfl | rfl | rfl | rfl <;> simp
  simp only [List.forall_mem_cons] at hlast
  simp [unaryProduction, hs, UnaryOp.ofToken?, leftSide, run_takeWord, hprimary, hsuffixes, hlast]

/-- **A member of what a module exports is read as this member.** -/
theorem readsAs_exportedMember (t : String) : ReadsAs (exportedMemberText t) (exportedMember t) := by
  intro n c s k rest hk hs hfuel hdepth
  have hlength : (exportedMemberText t).length = (Json.quote t).toList.length + 16 := by
    have hwords : "module".toList.length = 6 ∧ "exports".toList.length = 7 := by decide
    simp only [exportedMemberText, List.length_append, List.length_cons, List.length_nil, hwords]
    omega
  rw [List.length_append, List.length_cons, hlength] at hfuel
  obtain ⟨m, rfl⟩ : ∃ m, n = m + 2 := ⟨n - 2, by omega⟩
  have htail : exportedMemberText t ++ k :: rest = "module".toList ++
      '.' :: ("exports".toList ++ '[' :: ((Json.quote t).toList ++ ']' :: k :: rest)) := by
    simp [exportedMemberText]
  rw [htail, Lexer.token_spelling (by decide) (by decide) (by decide),
    Prod.mk.injEq] at hs
  obtain ⟨htoken, hrest⟩ := hs
  have hnext := next_eq_solid (c := c) hrest.symm
    (Lexer.isSolid_cons (by decide) (by decide) (by decide) _) (by omega)
  have harrow : arrow? (grammar (m + 1)) c s = some (none, s) := by
    refine arrow?_of_word htoken.symm (by decide) ?_
    rw [hnext, State.solid,
      Lexer.token_point_spelling (by decide) c.fuel _]
    simp
  exact assignmentProduction_of_operand (by simp [← htoken]) (by simp [← htoken]) harrow hk
    (by omega) rfl fun owes =>
      unaryProduction_of_module (s := { s with owesPattern := owes }) hk htoken.symm hrest.symm
        (by omega) (by omega)

/-! ### Members of the place of the call -/

/-- Points with names behind them. -/
def points (names : List (List Char)) : List Char :=
  names.flatMap ('.' :: ·)

/-- A member of a member, and so on, the outermost one first. -/
def memberOf (e : Expr) (names : List (List Char)) : Expr :=
  names.foldl (fun e name => .member e (String.ofList name) false) e

/-- What stands behind a name ends it. -/
theorem points_front (rest : List Char) (hk : EndsName k) : ∀ names : List (List Char),
    ∃ d r, points names ++ k :: rest = d :: r ∧ EndsName d
  | [] => ⟨k, rest, rfl, hk⟩
  | _ :: _ => ⟨'.', _, rfl, endsName_point⟩

/-- Names behind points are the names of members. -/
theorem iterateUpTo_points (fuel : Nat) (hfuel : 0 < c.fuel) (hk : EndsName k) :
    ∀ {names : List (List Char)} {e : Expr}, e.isInstantiation = false →
      (∀ name ∈ names, IsWord name) →
      iterateUpTo (suffix? g true) (names.length + fuel) e c
          (.after c owes (points names ++ k :: rest)) =
        iterateUpTo (suffix? g true) fuel (memberOf e names) c (.after c owes (k :: rest))
  | [], e, _, _ => by simp [points, memberOf]
  | name :: names, e, he, hnames => by
      obtain ⟨hname, hmore⟩ := List.forall_mem_cons.mp hnames
      obtain ⟨d, r, hfront, hd⟩ := points_front rest hk names
      have hpoint : State.after c owes ('.' :: (name ++ d :: r)) =
          .solid c owes ('.' :: (name ++ d :: r)) :=
        State.start_solid (Lexer.isSolid_cons (by decide) (by decide) (by decide) _) hfuel _ _ _
      have hstep := suffix?_point g (c := c) owes r hname hd he hfuel
      have htail := iterateUpTo_points fuel hfuel hk
        (e := .member e (String.ofList name) false) rfl hmore
      calc iterateUpTo (suffix? g true) ((name :: names).length + fuel) e c
            (.after c owes (points (name :: names) ++ k :: rest))
          = iterateUpTo (suffix? g true) (names.length + fuel + 1) e c
              (.solid c owes ('.' :: (name ++ d :: r))) := by
            rw [← hpoint, ← hfront, List.length_cons, Nat.add_right_comm]
            simp [points]
        _ = iterateUpTo (suffix? g true) (names.length + fuel)
              (.member e (String.ofList name) false) c (.after c owes (d :: r)) :=
            iterateUpTo_some hstep
        _ = _ := by
            rw [← hfront]
            exact htail

/-! ### An assignment -/

/-- The word ends an operand: it is the sign of an assignment, or none at all. -/
def EndsOperand (t : Token) : Prop :=
  t = .sign "=" ∨ t = .bad

variable {e : Expr}

theorem suffix?_endsOperand (h : EndsOperand s.token) : suffix? g true e c s = some (none, s) := by
  rcases h with h | h <;> cases htypes : c.hasTypes <;> simp [suffix?, h, givenTypes?, htypes]

theorem castTail?_endsOperand (h : EndsOperand s.token) (least : Nat) :
    castTail? g least e c s = some (none, s) := by
  rcases h with h | h <;> simp [castTail?, atAnyWord, h]

theorem operator?_endsOperand (h : EndsOperand s.token) : operator? c s = some (none, s) := by
  rcases h with h | h <;>
    simp [operator?, h, BinaryOp.ofText?, BinaryOp.all, BinaryOp.text]

theorem length_le_points : ∀ names : List (List Char), names.length ≤ (points names).length
  | [] => Nat.le_refl 0
  | name :: names => by
      have hrest := length_le_points names
      simp only [points, List.flatMap_cons, List.length_append, List.length_cons] at hrest ⊢
      omega

theorem leftSide_of_this (hs : s.token = .name "this" false) :
    leftSide g c s =
      iterateUpTo (suffix? g true) c.fuel .this c (.after c s.owesPattern s.rest) := by
  have hprimary : primary g c s = some (.this, .after c s.owesPattern s.rest) := by
    have hnext := next_eq_after (c := c) (s := s) (by simp [hs])
    simp [primary, hs, atAsyncFunction, word, run_takeWord, primary.wordValue?, hnext]
  simp [leftSide, run_takeWord, hs, hprimary, suffixes, iterate]

/-- Reading members goes on behind names with points in front of them. -/
theorem exists_leftSide_of_points {names : List (List Char)} (hs : s.token = .name "this" false)
    (hrest : s.rest = points names ++ k :: rest) (hnames : ∀ name ∈ names, IsWord name)
    (hk : EndsName k) (hfuel : (points names).length < c.fuel) :
    ∃ fuel, leftSide g c s = iterateUpTo (suffix? g true) (fuel + 1) (memberOf .this names) c
      (.after c s.owesPattern (k :: rest)) := by
  have hcount := length_le_points names
  obtain ⟨fuel, hf⟩ : ∃ fuel, c.fuel = names.length + (fuel + 1) :=
    ⟨c.fuel - names.length - 1, by omega⟩
  refine ⟨fuel, ?_⟩
  rw [leftSide_of_this hs, hrest, hf, iterateUpTo_points (fuel + 1) (by omega) hk rfl hnames]

/-- **The members of the place of a call are an operand.** -/
theorem conditional_of_this {names : List (List Char)} (hs : s.token = .name "this" false)
    (hrest : s.rest = points names ++ k :: rest) (hpure : s.gap.pure = false)
    (hnames : ∀ name ∈ names, IsWord name) (hk : EndsName k)
    (hend : EndsOperand (State.after c s.owesPattern (k :: rest)).token)
    (hfuel : (points names).length < c.fuel) :
    conditional g c s = some (memberOf .this names, .after c s.owesPattern (k :: rest)) := by
  have hleft : leftSide g c s =
      some (memberOf .this names, .after c s.owesPattern (k :: rest)) := by
    obtain ⟨fuel, hleft⟩ := exists_leftSide_of_points (g := g) hs hrest hnames hk hfuel
    rw [hleft]
    exact iterateUpTo_none (suffix?_endsOperand hend)
  have hlast : ∀ u ∈ ["++", "--", "?"],
      (State.after c s.owesPattern (k :: rest)).token ≠ .sign u := by
    rcases hend with hend | hend <;> simp [hend]
  simp only [List.forall_mem_cons] at hlast
  have hunary : unaryProduction g c s =
      some (memberOf .this names, .after c s.owesPattern (k :: rest)) := by
    simp [unaryProduction, hs, UnaryOp.ofToken?, hleft, hlast]
  have hbinary : binaryProduction g 0 c s =
      some (memberOf .this names, .after c s.owesPattern (k :: rest)) := by
    simp only [binaryProduction, operand, run_bind, run_token, hs, Option.bind_some, hunary]
    exact iterate_of_none (by simp [castTail?_endsOperand hend, operator?_endsOperand hend])
      (by omega)
  simp [conditional, hbinary, run_takeSign, hlast, hpure]

/-- What an assignment goes on with behind its target. -/
theorem assignmentProduction_of_conditional {cs : List Char} {value : Expr}
    (hyield : s.token ≠ .name "yield" false) (harrow : arrow? g c s = some (none, s))
    (hconditional : conditional g c { s with owesPattern := false } =
      some (e, .solid c false ('=' :: ' ' :: cs)))
    (hplace : e.toTarget? = some (.target e)) (hcs : Lexer.IsSolid cs) (hfuel : 1 < c.fuel)
    (hvalue : g.assignment c (.solid c s.owesPattern cs) =
      some (value, .solid c s.owesPattern (k :: rest))) :
    assignmentProduction g c s =
      some (.assign none (.target e) value, .solid c s.owesPattern (k :: rest)) := by
  have htoken : (State.solid c false ('=' :: ' ' :: cs)).token = .sign "=" := by
    simp [State.solid, Lexer.token_equals]
  have hsign : assignmentSign? c (.solid c false ('=' :: ' ' :: cs)) =
      some (some (none, "="), .solid c false ('=' :: ' ' :: cs)) := by
    simp [assignmentSign?, htoken]
  have hskip : State.start c.fuel (!c.isModule) false false s.owesPattern (' ' :: cs) =
      .solid c s.owesPattern cs := State.start_space hcs hfuel _ _ _
  have hhere : (State.solid c false ('=' :: ' ' :: cs)).here = '=' :: ' ' :: cs := rfl
  have howes : (State.solid c false ('=' :: ' ' :: cs)).owesPattern = false := rfl
  have hlength : "=".length = 1 := rfl
  simp [assignmentProduction, hyield, harrow, assignmentOrLess, hconditional, hsign, hplace, skip,
    hhere, howes, hlength, hskip, hvalue]

/-- The members of the place of a call are the target of an assignment. -/
theorem toTarget?_memberOf {names : List (List Char)} (hne : names ≠ []) :
    (memberOf .this names).toTarget? = some (.target (memberOf .this names)) := by
  have hoptional : ∀ (names : List (List Char)) (e : Expr), e.isOptional = false →
      (memberOf e names).isOptional = false := by
    intro names
    induction names with
    | nil => exact fun e he => he
    | cons name names ih => exact fun e he => ih _ (by simp [Expr.isOptional, he])
  obtain ⟨front, last, rfl⟩ : ∃ front last, names = front ++ [last] :=
    ⟨_, _, (List.dropLast_append_getLast hne).symm⟩
  have hmember : memberOf .this (front ++ [last]) =
      .member (memberOf .this front) (String.ofList last) false := by
    simp [memberOf]
  have hplace : (Expr.member (memberOf .this front) (String.ofList last) false).isPlace = true := by
    simp [Expr.isPlace, Expr.isOptional, hoptional front .this rfl]
  rw [hmember]
  simp [Expr.toTarget?, Expr.toPart?, hplace]

/-- **An assignment to a member of the place of a call** is read to the end of its value. -/
theorem expression_of_this {names : List (List Char)} {cs : List Char} {value : Expr} {n : Nat}
    (hs : s.token = .name "this" false)
    (hrest : s.rest = points names ++ ' ' :: '=' :: ' ' :: (cs ++ ';' :: rest))
    (hpure : s.gap.pure = false) (harrow : arrow? (grammar n) c s = some (none, s))
    (hne : names ≠ []) (hnames : ∀ name ∈ names, IsWord name)
    (hcs : ∀ rest, Lexer.IsSolid (cs ++ rest)) (hvalue : ReadsAs cs value)
    (hfuel : (points names ++ ' ' :: '=' :: ' ' :: (cs ++ ';' :: rest)).length < c.fuel)
    (hdepth : cs.length < n) :
    (grammar (n + 2)).expression c s =
      some (.assign none (.target (memberOf .this names)) value,
        .solid c s.owesPattern (';' :: rest)) := by
  simp only [List.length_append, List.length_cons] at hfuel
  have hequals (owes : Bool) : State.after c owes (' ' :: '=' :: ' ' :: (cs ++ ';' :: rest)) =
      .solid c owes ('=' :: ' ' :: (cs ++ ';' :: rest)) :=
    State.start_space (Lexer.isSolid_cons (by decide) (by decide) (by decide) _) (by omega) _ _ _
  have hend (owes : Bool) :
      EndsOperand (State.after c owes (' ' :: '=' :: ' ' :: (cs ++ ';' :: rest))).token := by
    rw [hequals, State.solid, Lexer.token_equals]
    exact .inl rfl
  have hconditional := conditional_of_this (g := grammar n) (c := c)
    (s := { s with owesPattern := false }) hs hrest hpure hnames endsName_space (hend false)
    (by omega)
  rw [hequals] at hconditional
  refine expressionProduction_of_assignment (by decide) (by decide) (by omega) ?_
  exact assignmentProduction_of_conditional (by simp [hs]) harrow hconditional
    (toTarget?_memberOf hne) (hcs _) (by omega)
    (hvalue (by decide) rfl (by simp only [List.length_append, List.length_cons]; omega) hdepth)

/-! ### Where a name breaks off -/

/-- A point with an alien behind it makes no member. -/
theorem suffix?_alien {a : Char} (ha : IsAlien a) (hfuel : 0 < c.fuel) :
    suffix? g true e c (.solid c owes ('.' :: a :: rest)) = none := by
  have hpoint : Lexer.token c.fuel ('.' :: a :: rest) = (.sign ".", a :: rest) :=
    Lexer.token_point (Lexer.isDigit_of_alien ha) (ha.ne (by decide)) c.fuel rest
  have htoken : (State.solid c owes ('.' :: a :: rest)).token = .sign "." := by
    simp [State.solid, hpoint]
  have hnext : State.next c (.solid c owes ('.' :: a :: rest)) = .solid c owes (a :: rest) :=
    next_eq_solid (by simp [State.solid, hpoint]) (ha.isSolid rest) hfuel
  have hbad : (State.solid c owes (a :: rest)).token = .bad := token_solid_alien ha
  cases he : e.isInstantiation <;>
    simp [suffix?, htoken, ensure, he, hnext, memberAfterPoint, hbad, anyName]

/-- Where a word is no operand and no operator, no choice begins. -/
theorem conditional_of_leftSide_none {w : String} (hs : s.token = .name w false)
    (hw : w ∈ ["this", "const"]) (h : leftSide g c s = none) : conditional g c s = none := by
  have hunary : unaryProduction g c s = none := by
    simp only [List.mem_cons, List.not_mem_nil, or_false] at hw
    rcases hw with rfl | rfl <;> simp [unaryProduction, hs, UnaryOp.ofToken?, h]
  have hbinary : binaryProduction g 0 c s = none := by
    simp only [binaryProduction, operand, run_bind, run_token, hs, Option.bind_some, hunary,
      Option.bind_none]
  simp only [conditional, run_bind, run_get, Option.bind_some, hbinary, Option.bind_none]

/-- Where a name of a member begins with an alien, no operand is read. -/
theorem conditional_of_this_alien {names : List (List Char)} {a : Char}
    (hs : s.token = .name "this" false) (hrest : s.rest = points names ++ '.' :: a :: rest)
    (hnames : ∀ name ∈ names, IsWord name) (ha : IsAlien a)
    (hfuel : (points names).length < c.fuel) : conditional g c s = none := by
  have hafter : State.after c s.owesPattern ('.' :: a :: rest) =
      .solid c s.owesPattern ('.' :: a :: rest) :=
    State.start_solid (Lexer.isSolid_cons (by decide) (by decide) (by decide) _) (by omega) _ _ _
  have hleft : leftSide g c s = none := by
    obtain ⟨fuel, hleft⟩ := exists_leftSide_of_points (g := g) hs hrest hnames endsName_point hfuel
    rw [hleft, hafter]
    simp [iterateUpTo, suffix?_alien ha (by omega : 0 < c.fuel)]
  exact conditional_of_leftSide_none hs (by simp) hleft

/-- Where no operand is read, no expression is. -/
theorem expression_of_conditional_none {n : Nat} (hyield : s.token ≠ .name "yield" false)
    (harrow : arrow? (grammar n) c s = some (none, s))
    (h : conditional (grammar n) c { s with owesPattern := false } = none) :
    (grammar (n + 2)).expression c s = none := by
  have hassignment : (grammar (n + 1)).assignment c s = none := by
    show assignmentProduction (grammar n) c s = none
    simp [assignmentProduction, hyield, harrow, assignmentOrLess, h]
  show expressionProduction (grammar (n + 1)) c s = none
  simp only [expressionProduction, run_bind, hassignment, Option.bind_none]

end Parser

end StorySuite.Script
