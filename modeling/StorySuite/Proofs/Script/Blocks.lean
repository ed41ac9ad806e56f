import StorySuite.Proofs.Script.Parser.Lines

/-!
# Proofs — Script — blocks of lines

The lines that generated code opens with declare exports of a module as constants, and assign members
of the place of a call.

* `readsLine`: how one line is read.
* **`Program.read?_block`**: a block of such lines is a program of their statements exactly if all
  their names can name variables.
-/

namespace StorySuite.Script

/-- A line of generated code with a statement on it. -/
inductive Line where
  /-- Declares an export of a module as a constant. -/
  | constant (name exported : String)
  /-- Assigns a member of the place of a call. -/
  | setting (key : String) (value : Json.Value)

namespace Line

/-- The names that are declared or assigned. -/
def names : Line → List String
  | constant name _ => [name]
  | setting key _ => Text.splitAt '.' key

/-- The characters of the value. -/
def valueChars : Line → List Char
  | constant _ exported => Parser.exportedMemberText exported
  | setting _ value => value.text.toList

/-- The characters of the statement. -/
def chars : Line → List Char
  | constant name exported => Parser.constantLine name.toList (Parser.exportedMemberText exported)
  | setting key value => Parser.assignmentLine key.toList value.text.toList

def stmt : Line → Stmt
  | constant name exported =>
      .declaration .const [.withDefault (.name name) (Parser.exportedMember exported)]
  | setting key value =>
      .expr (.assign none
        (.target (Parser.memberOf .this (Text.splitChars '.' key.toList))) value.expr)

/-- All names are accepted. -/
def IsAccepted (l : Line) : Prop :=
  ∀ name ∈ l.names, BindingName.isIdentifier name = true

/-- All names can name variables. -/
def Fits (l : Line) : Prop :=
  ∀ name ∈ l.names, IsBindingIdentifier name

instance : DecidablePred Line.Fits :=
  fun l => inferInstanceAs (Decidable (∀ name ∈ l.names, IsBindingIdentifier name))

/-- The characters of lines that stand below each other, a step away from the margin. -/
def block (lines : List Line) : List Char :=
  lines.flatMap fun l => ' ' :: ' ' :: (l.chars ++ ['\n'])

/-- The characters of a block behind its first margin. -/
def unmargined : List Line → List Char
  | [] => []
  | l :: lines => l.chars ++ '\n' :: block lines

theorem block_cons (l : Line) (lines : List Line) :
    block (l :: lines) = ' ' :: ' ' :: unmargined (l :: lines) := by
  simp [block, unmargined]

/-- A line begins with a word, and a gap or a point stands behind it. -/
theorem exists_front (l : Line) (rest : List Char) : ∃ w k cs, l.chars ++ rest = w ++ k :: cs ∧
    (∀ c ∈ w, BindingName.isNameChar c = true) ∧ IsSpelling w ∧ Parser.EndsName k := by
  cases l with
  | constant name exported =>
      exact ⟨_, _, _, Parser.constantLine_append _ _ rest, List.all_iff_forall_prop.mp (by decide),
        by decide, Parser.endsName_space⟩
  | setting key value =>
      exact ⟨_, _, _, Parser.assignmentLine_append _ _ rest, List.all_iff_forall_prop.mp (by decide),
        by decide, Parser.endsName_point⟩

theorem length_le_block : ∀ lines : List Line, lines.length ≤ (block lines).length
  | [] => Nat.le_refl 0
  | l :: lines => by
      have hrest := length_le_block lines
      rw [block_cons, unmargined]
      simp only [List.length_cons, List.length_append]
      omega

theorem length_valueChars_le (l : Line) : l.valueChars.length ≤ l.chars.length := by
  cases l <;> simp only [valueChars, chars, Parser.constantLine, Parser.assignmentLine,
    List.length_append, List.length_cons] <;> omega

end Line

namespace Parser

variable {c : Context} {owes : Bool} {lines : List Line}

/-- **A line of accepted names is read exactly if they can name variables.** -/
theorem readsLine {l : Line} {n : Nat} (hc : c.IsOutermost) (hl : l.IsAccepted)
    (hdepth : l.valueChars.length < n) :
    ReadsLine c (n + 3) l.chars (if l.Fits then some l.stmt else none) := by
  cases l with
  | constant name exported =>
      have hsolid (rest : List Char) : Lexer.IsSolid (exportedMemberText exported ++ rest) := by
        simp only [exportedMemberText, List.append_assoc]
        exact Lexer.isSolid_cons (by decide) (by decide) (by decide) _
      have hread := readsLine_constant hc (hl name (List.mem_singleton.mpr rfl)) hsolid
        (readsAs_exportedMember exported) (Nat.le_of_lt hdepth)
      simpa [Line.chars, Line.Fits, Line.names, Line.stmt] using hread
  | setting key value =>
      exact readsLine_assignment hc hl (isSolid_text value) (readsAs_value value) hdepth

/-- No gap begins behind the margin of a block. -/
theorem isSolid_unmargined : ∀ lines : List Line, Lexer.IsSolid (Line.unmargined lines)
  | [] => fun fuel script opens broken g => by simp [Line.unmargined, Lexer.skipGap?]
  | l :: lines => by
      obtain ⟨w, k, cs, hfront, hchars, hw, -⟩ := l.exists_front ('\n' :: Line.block lines)
      rw [Line.unmargined, hfront]
      exact hw.isSolid hchars (k :: cs)

/-- The front of a line is a word. -/
theorem token_unmargined (c : Context) (owes : Bool) (l : Line) (lines : List Line) :
    ∃ w, (State.fresh c owes (Line.unmargined (l :: lines))).token = .name w false := by
  obtain ⟨w, k, cs, hfront, -, hw, hk⟩ := l.exists_front ('\n' :: Line.block lines)
  exact ⟨_, (fresh_word _ _ hw hk hfront).1⟩

/-- A block begins behind its margin. -/
theorem start_block (hfuel : lines.length + 1 < c.fuel) (script opens : Bool) :
    State.start c.fuel script opens true owes (Line.block lines) =
      .fresh c owes (Line.unmargined lines) := by
  cases lines with
  | nil =>
      obtain ⟨fuel, hf⟩ : ∃ fuel, c.fuel = fuel + 1 := ⟨c.fuel - 1, by omega⟩
      show State.start c.fuel script opens true owes (Line.unmargined []) = _
      simp [State.start, State.fresh, State.solid, hf, isSolid_unmargined [] fuel]
  | cons l lines =>
      rw [List.length_cons] at hfuel
      obtain ⟨fuel, hf⟩ : ∃ fuel, c.fuel = fuel + 3 := ⟨c.fuel - 3, by omega⟩
      rw [Line.block_cons]
      simp [State.start, State.fresh, State.solid, hf, Lexer.skipGap?_space,
        isSolid_unmargined (l :: lines) fuel]

/-- Behind a line, what follows begins behind the margin of the next one. -/
theorem after_block (hfuel : lines.length + 2 < c.fuel) :
    State.after c owes ('\n' :: Line.block lines) = .fresh c owes (Line.unmargined lines) := by
  cases lines with
  | nil =>
      obtain ⟨fuel, hf⟩ : ∃ fuel, c.fuel = fuel + 2 := ⟨c.fuel - 2, by omega⟩
      show State.after c owes ('\n' :: Line.unmargined []) = _
      simp [State.after, State.start, State.fresh, State.solid, hf, Lexer.skipGap?_newline,
        Lexer.Gap.endLine, isSolid_unmargined [] fuel]
  | cons l lines =>
      rw [List.length_cons] at hfuel
      obtain ⟨fuel, hf⟩ : ∃ fuel, c.fuel = fuel + 4 := ⟨c.fuel - 4, by omega⟩
      rw [Line.block_cons]
      simp [State.after, State.start, State.fresh, State.solid, hf, Lexer.skipGap?_newline,
        Lexer.skipGap?_space, Lexer.Gap.endLine, isSolid_unmargined (l :: lines) fuel]

/-- One round of reading a whole text: nothing at its end, else a statement. -/
def textStep (g : Grammar) : Parser (Option Item) := do
  if ← (return (← Parser.token) == .finish) then return none else some <$> g.statement

/-- A block of accepted names is read, line by line, exactly if all names can name variables. -/
theorem repeatUpTo_block {n : Nat} (hc : c.IsOutermost) :
    ∀ {lines : List Line} (owes : Bool) {fuel : Nat}, (∀ l ∈ lines, l.IsAccepted) →
      (Line.block lines).length + 1 < c.fuel → (Line.block lines).length < n → lines.length < fuel →
      repeatUpTo (textStep (grammar (n + 3))) fuel c
          (.fresh c owes (Line.unmargined lines)) =
        if ∀ l ∈ lines, l.Fits then
          some (lines.map fun l => .mk [] l.stmt, .fresh c owes [])
        else none
  | [], owes, fuel + 1, _, _, _, _ => by
      have hend : (State.fresh c owes (Line.unmargined [])).token = .finish := rfl
      simp [repeatUpTo, textStep, hend]
      rfl
  | l :: lines, owes, fuel + 1, hlines, hfuel, hdepth, hrounds => by
      obtain ⟨hl, hmore⟩ := List.forall_mem_cons.mp hlines
      rw [Line.block_cons, Line.unmargined] at hfuel hdepth
      simp only [List.length_cons, List.length_append] at hfuel hdepth hrounds
      have hvalue := Line.length_valueChars_le l
      have hcount := Line.length_le_block lines
      have hline := readsLine (n := n) hc hl (by omega)
      obtain ⟨w, hfront⟩ := token_unmargined c owes l lines
      have hread := hline owes (Line.block lines)
        (by simp only [List.length_append, List.length_cons]; omega)
      rw [after_block (by omega)] at hread
      -- the other lines, by the induction on their number
      have hrest := repeatUpTo_block (n := n) hc owes hmore (by omega) (by omega)
        (by omega : lines.length < fuel)
      have hstep : textStep (grammar (n + 3)) c
          (.fresh c owes (Line.unmargined (l :: lines))) =
            if l.Fits then some (some (.mk [] l.stmt), .fresh c owes (Line.unmargined lines))
            else none := by
        simp only [textStep, run_bind, run_token, run_pure, hfront, Option.bind_some, beq_iff_eq,
          reduceCtorEq, if_false, run_map]
        rw [Line.unmargined, hread]
        split <;> rfl
      simp only [repeatUpTo, run_bind, hstep, List.forall_mem_cons]
      by_cases hfits : l.Fits
      · simp [hfits, hrest]
      · simp [hfits]

/-- A whole text without directives consists of its statements and the comments behind them. -/
theorem wholeText_of_statements {depth : Nat} {s : State}
    (h : repeatWhile directive? c s = some ([], s)) :
    Program.wholeText depth c s =
      (repeatUpTo (textStep (grammar depth)) c.fuel c s).bind fun r =>
        if r.2.owesPattern then none
        else some (r.1 ++ if r.2.gap.comments.isEmpty then []
          else [.mk r.2.gap.comments.reverse .ending], r.2) := by
  have hbody : body (grammar depth) (return (← token) == .finish) c s =
      (repeatUpTo (textStep (grammar depth)) c.fuel c s).bind fun r =>
        some (r.1 ++ if r.2.gap.comments.isEmpty then []
          else [.mk r.2.gap.comments.reverse .ending], r.2) := by
    simp only [body, run_bind, h, Option.bind_some]
    show (repeatUpTo (textStep (grammar depth)) c.fuel c s).bind _ = _
    cases repeatUpTo (textStep (grammar depth)) c.fuel c s with
    | none => rfl
    | some r => simp [comments]
  simp only [Program.wholeText, run_bind, hbody]
  cases repeatUpTo (textStep (grammar depth)) c.fuel c s with
  | none => rfl
  | some r => cases howes : r.2.owesPattern <;> simp [ensure, howes]

/-- A block is a whole text. -/
theorem wholeText_block {n : Nat} (hc : c.IsOutermost) (hlines : ∀ l ∈ lines, l.IsAccepted)
    (hfuel : (Line.block lines).length + 1 < c.fuel) (hdepth : (Line.block lines).length < n) :
    Program.wholeText (n + 3) c (.fresh c false (Line.unmargined lines)) =
      if ∀ l ∈ lines, l.Fits then
        some (lines.map fun l => .mk [] l.stmt, .fresh c false [])
      else none := by
  have hlength := Line.length_le_block lines
  -- no line begins with a text, so there are no directives
  have hdirective : directive? c (.fresh c false (Line.unmargined lines)) =
      some (none, .fresh c false (Line.unmargined lines)) := by
    cases lines with
    | nil => rfl
    | cons l lines =>
        obtain ⟨w, hfront⟩ := token_unmargined c false l lines
        simp [directive?, hfront]
  have hnone : repeatWhile directive? c (.fresh c false (Line.unmargined lines)) =
      some ([], .fresh c false (Line.unmargined lines)) := by
    obtain ⟨fuel, hf⟩ : ∃ fuel, c.fuel = fuel + 1 := ⟨c.fuel - 1, by omega⟩
    simp [repeatWhile, hf, repeatUpTo, hdirective]
  have hitems := repeatUpTo_block (n := n) hc false hlines hfuel hdepth
    (by omega : lines.length < c.fuel)
  rw [wholeText_of_statements hnone, hitems]
  split
  · simp [State.fresh, State.solid]
  · rfl

end Parser

namespace Program

/-- **A block of accepted names is a program of its statements exactly if all names can name
variables.** -/
theorem read?_block (goal : Goal) {lines : List Line} (hlines : ∀ l ∈ lines, l.IsAccepted) :
    read? goal (Line.block lines) =
      if ∀ l ∈ lines, l.Fits then some { items := lines.map fun l => .mk [] l.stmt } else none := by
  have hrunner : splitRunner (Line.block lines) = (none, Line.block lines) := by
    cases lines with
    | nil => rfl
    | cons l lines =>
        rw [Line.block_cons]
        rfl
  -- no line exports anything, so nothing twice
  have hexports : ({ items := lines.map fun l => .mk [] l.stmt } : Program).exportsOnce = true := by
    have hnone : ∀ l : Line, l.stmt.exports = [] := fun l => by cases l <;> rfl
    have hall : (lines.map fun l => Item.mk [] l.stmt).flatMap (·.stmt.exports) = [] := by
      rw [List.flatMap_eq_nil_iff, List.forall_mem_map]
      exact fun l _ => hnone l
    simp [exportsOnce, exports, hall]
  have hfront : goal.front (Line.block lines) = .fresh (goal.context (Line.block lines).length)
      false (Line.unmargined lines) := by
    have hcount := Line.length_le_block lines
    have hfuel : lines.length + 1 < (goal.context (Line.block lines).length).fuel := by
      show lines.length + 1 < (Line.block lines).length + 2
      omega
    exact Parser.start_block hfuel _ _
  have hread := Parser.wholeText_block (c := goal.context (Line.block lines).length)
    (n := 8 * (Line.block lines).length + 13) ⟨rfl, rfl, rfl, rfl⟩ hlines (Nat.lt_succ_self _)
    (by omega)
  have hdepth : 8 * ((Line.block lines).length + 2) = 8 * (Line.block lines).length + 13 + 3 := by
    omega
  simp only [read?, hrunner, readFrom?, hfront, hdepth, hread, Option.bind_eq_bind]
  split
  · simp [hexports]
  · rfl

end Program

end StorySuite.Script
