import Mathlib.Tactic.SplitIfs
import StorySuite.Proofs.Json.Tokens
import StorySuite.Proofs.Script.Reading
import StorySuite.Script.Inspection
import StorySuite.Script.Shape

/-!
# Proofs — Script — Parser — functions behind a parenthesis

A program without types that begins with a parenthesis and is nothing but a function reads that
parenthesis in one of two ways: it opens the parameters of an arrow function, or it encloses the
function, and then nothing but one semicolon may follow the parenthesis that closes it.

* `Program.read?_of_open`: the two ways.

The lemmas go down the productions from a statement to an operand.  On the way an expression that
is a function stays what its operand is: whatever else may follow an operand makes a member, a call,
an operation, a choice, an assignment or a list of it.
-/

namespace StorySuite.Script

namespace Parser

variable {α : Type} {g : Grammar} {c : Context} {s t : State} {e : Expr}

/-! ### Repetitions -/

/-- Where every round either ends without going on or gives what `P` holds of, `iterate` does nothing
or gives what `P` holds of. -/
theorem iterate_cases {step : α → Parser (Option α)} {P : α → Prop} {a r : α}
    (h : iterate a step c s = some (r, t))
    (hround : ∀ a s next t, step a c s = some (next, t) →
      next = none ∧ t = s ∨ ∃ b, next = some b ∧ P b) : r = a ∧ t = s ∨ P r := by
  have hrounds : ∀ fuel a s, iterateUpTo step fuel a c s = some (r, t) →
      r = a ∧ t = s ∨ P r := by
    intro fuel
    induction fuel with
    | zero => simp [iterateUpTo]
    | succ fuel ih =>
        intro a s h
        simp only [iterateUpTo, run_bind, Option.bind_eq_some_iff] at h
        obtain ⟨⟨next, s'⟩, hstep, h⟩ := h
        rcases hround a s next s' hstep with ⟨rfl, rfl⟩ | ⟨b, rfl, hb⟩
        · cases h
          exact .inl ⟨rfl, rfl⟩
        · rcases ih b s' h with ⟨rfl, -⟩ | hr
          · exact .inr hb
          · exact .inr hr
  exact hrounds c.fuel a s h

theorem step_of_repeatUpTo_nil {step : Parser (Option α)} {fuel : Nat}
    (h : repeatUpTo step fuel c s = some ([], t)) : step c s = some (none, t) := by
  cases fuel with
  | zero => cases h
  | succ fuel =>
      simp only [repeatUpTo, run_bind, Option.bind_eq_some_iff] at h
      obtain ⟨⟨next, u⟩, hstep, h⟩ := h
      cases next with
      | none =>
          cases h
          exact hstep
      | some a =>
          simp only [run_bind, run_pure, Option.bind_eq_some_iff, Option.some.injEq, Prod.mk.injEq,
            reduceCtorEq, false_and, and_false, exists_false] at h

theorem step_of_repeatUpTo_cons {step : Parser (Option α)} {fuel : Nat} {a : α} {as : List α}
    (h : repeatUpTo step fuel c s = some (a :: as, t)) :
    ∃ fuel u, step c s = some (some a, u) ∧ repeatUpTo step fuel c u = some (as, t) := by
  cases fuel with
  | zero => cases h
  | succ fuel =>
      simp only [repeatUpTo, run_bind, Option.bind_eq_some_iff] at h
      obtain ⟨⟨next, u⟩, hstep, h⟩ := h
      cases next with
      | none => cases h
      | some b =>
          simp only [run_bind, run_pure, Option.bind_eq_some_iff] at h
          obtain ⟨⟨bs, v⟩, hmore, h⟩ := h
          cases h
          exact ⟨fuel, u, hstep, hmore⟩

/-! ### Members and calls -/

theorem isFunction_of_memberAfterPoint {optional : Bool} {b : Expr}
    (h : memberAfterPoint e optional c s = some (b, t)) : b.inner.isFunction = false := by
  cases htok : s.token <;> simp [memberAfterPoint, htok] at h
  case privateName => exact h.1 ▸ rfl
  all_goals
    obtain ⟨_, -, rfl⟩ := h
    rfl

theorem givenTypes?_plain (htypes : c.hasTypes = false) (s : State) :
    givenTypes? g c s = some (none, s) := by
  simp [givenTypes?, htypes]

theorem isFunction_of_optionalTail (htypes : c.hasTypes = false) {b : Expr}
    (h : optionalTail g e c s = some (b, t)) : b.inner.isFunction = false := by
  have hgiven := givenTypes?_plain (g := g) htypes
  by_cases hcall : s.token = .sign "("
  · simp [optionalTail, run_takeSign, hcall] at h
    obtain ⟨_, -, rfl⟩ := h
    rfl
  by_cases hindex : s.token = .sign "["
  · simp [optionalTail, run_takeSign, hindex] at h
    obtain ⟨_, -, rfl⟩ := h
    rfl
  · simp [optionalTail, run_takeSign, hcall, hindex, hgiven, Option.bind_eq_some_iff] at h
    obtain ⟨_, _, -, h⟩ := h
    exact isFunction_of_memberAfterPoint h

/-- What an operand goes on with makes it a member, a call or a template. -/
theorem suffix?_cases (htypes : c.hasTypes = false) {next : Option Expr}
    (h : suffix? g true e c s = some (next, t)) :
    next = none ∧ t = s ∨ ∃ b, next = some b ∧ b.inner.isFunction = false := by
  have hgiven := givenTypes?_plain (g := g) htypes
  cases htok : s.token with
  | chunk ch closed =>
      simp [suffix?, htok, Option.bind_eq_some_iff] at h
      obtain ⟨_, _, -, _, _, -, rfl⟩ := h
      exact .inr ⟨_, rfl, rfl⟩
  | sign u =>
      -- one case for each sign that an operand goes on with; `!` does so with types only
      by_cases hpoint : u = "."
      · simp [suffix?, htok, hpoint, Option.bind_eq_some_iff] at h
        obtain ⟨_, _, -, b, hmember, rfl⟩ := h
        exact .inr ⟨b, rfl, isFunction_of_memberAfterPoint hmember⟩
      by_cases hoptional : u = "?."
      · simp [suffix?, htok, hoptional, ensure] at h
        obtain ⟨b, htail, rfl⟩ := h
        exact .inr ⟨b, rfl, isFunction_of_optionalTail htypes htail⟩
      by_cases hindex : u = "["
      · simp [suffix?, htok, hindex] at h
        obtain ⟨_, _, rfl⟩ := h
        exact .inr ⟨_, rfl, rfl⟩
      by_cases hcall : u = "("
      · simp [suffix?, htok, hcall] at h
        obtain ⟨_, _, rfl⟩ := h
        exact .inr ⟨_, rfl, rfl⟩
      by_cases hbang : u = "!"
      · simp [suffix?, htok, hbang, htypes] at h
        exact .inl ⟨h.1.symm, h.2.symm⟩
      · simp [suffix?, htok, hpoint, hoptional, hindex, hcall, hbang, hgiven] at h
        exact .inl ⟨h.1.symm, h.2.symm⟩
  | _ =>
      simp [suffix?, htok, hgiven] at h
      exact .inl ⟨h.1.symm, h.2.symm⟩

theorem suffixes_cases (htypes : c.hasTypes = false) {b : Expr}
    (h : suffixes g true e c s = some (b, t)) : b = e ∧ t = s ∨ b.inner.isFunction = false :=
  iterate_cases h fun _ _ _ _ hround => suffix?_cases htypes hround

/-! ### Operands -/

/-- A parenthesis or the word for functions is in front, and nothing stands before it that an
expression takes notice of. -/
structure AtOperand (c : Context) (s : State) : Prop where
  types : c.hasTypes = false
  choice : c.inChoice = false
  front : s.token = .sign "(" ∨ s.token = .name "function" false
  pure : s.gap.pure = false
  owes : s.owesPattern = false

/-- The operand in front begins with a parenthesis. -/
structure AtOpen (c : Context) (s : State) : Prop extends AtOperand c s where
  token : s.token = .sign "("

/-- The parenthesis in front encloses an expression, and `t` is at the one that closes it. -/
def Encloses (g : Grammar) (c : Context) (s : State) (e : Expr) (t : State) : Prop :=
  g.expression { c with allowIn := true, inChoice := false } (State.next c s) = some (e, t) ∧
    t.token = .sign ")"

/-- The expression is what the parenthesis in front encloses, and `t` is behind the one that closes
it. -/
def IsEnclosed (g : Grammar) (c : Context) (s : State) (e : Expr) (t : State) : Prop :=
  ∃ inner u, e = .paren inner ∧ Encloses g c s inner u ∧ t = State.next c u

theorem primary_of_open (hs : s.token = .sign "(") (h : primary g c s = some (e, t)) :
    IsEnclosed g c s e t := by
  simp only [primary, run_bind, run_token, hs, Option.bind_some, run_advance, run_within,
    run_pure, Option.bind_eq_some_iff, sign, run_takeSign] at h
  obtain ⟨⟨inner, u⟩, hinner, ⟨_, v⟩, ⟨⟨taken, w⟩, htaken, hclose⟩, hv⟩ := h
  by_cases hu : u.token = .sign ")"
  · rw [if_pos hu, Option.some.injEq, Prod.mk.injEq] at htaken
    obtain ⟨rfl, rfl⟩ := htaken
    cases hclose
    cases hv
    exact ⟨inner, u, rfl, ⟨hinner, hu⟩, rfl⟩
  · rw [if_neg hu, Option.some.injEq, Prod.mk.injEq] at htaken
    obtain ⟨rfl, rfl⟩ := htaken
    cases hclose

theorem unaryProduction_of_operand (hs : AtOperand c s) (h : unaryProduction g c s = some (e, t))
    (he : e.inner.isFunction = true) : primary g c s = some (e, t) := by
  have hprefix : UnaryOp.ofToken? s.token = none := by
    rcases hs.front with hfront | hfront <;> rw [hfront] <;> rfl
  have hsigns : ∀ u ∈ ["++", "--", "<", "<<"], s.token ≠ .sign u := by
    rcases hs.front with hfront | hfront <;> simp [hfront]
  have hwords : ∀ w ∈ ["await", "new"], s.token ≠ .name w false := by
    rcases hs.front with hfront | hfront <;> simp [hfront]
  simp only [List.forall_mem_cons] at hsigns hwords
  simp [unaryProduction, hprefix, hsigns, hwords, leftSide, run_takeWord,
    Option.bind_eq_some_iff] at h
  obtain ⟨b, u, ⟨a, v, hprimary, hsuffixes⟩, hlast⟩ := h
  split at hlast
  · simp only [Option.bind_eq_some_iff, Option.some.injEq, Prod.mk.injEq] at hlast
    obtain ⟨_, -, rfl, -⟩ := hlast
    exact absurd he (by simp [Expr.isFunction, Expr.inner])
  · cases hlast
    rcases suffixes_cases hs.types hsuffixes with ⟨rfl, rfl⟩ | hfunction
    · exact hprimary
    · exact absurd he (by simp [hfunction])

/-! ### Operators -/

theorem atAnyWord_stays (ss : List String) (c : Context) (s : State) :
    ∃ b, atAnyWord ss c s = some (b, s) := by
  cases htok : s.token with
  | name u escaped => cases escaped <;> simp [atAnyWord, htok]
  | _ => simp [atAnyWord, htok]

theorem castTail?_plain (htypes : c.hasTypes = false) (least : Nat) (s : State) :
    castTail? g least e c s = some (none, s) := by
  obtain ⟨b, hword⟩ := atAnyWord_stays ["as", "satisfies"] c s
  simp [castTail?, htypes, hword]

theorem operator?_stays {op : Option (BinaryOp × String)} (h : operator? c s = some (op, t)) :
    t = s := by
  cases htok : s.token with
  | sign u =>
      by_cases hangle : u = ">"
      · cases hsign : Lexer.sign? angleSigns s.here <;>
          simp [operator?, htok, hangle, angle, hsign] at h
        exact h.2.symm
      · simp [operator?, htok] at h
        exact h.2.symm
  | name u escaped =>
      cases escaped <;> simp [operator?, htok] at h
      · split_ifs at h <;> exact (Prod.mk.inj (Option.some.inj h)).2.symm
      · exact h.2.symm
  | _ =>
      simp [operator?, htok] at h
      exact h.2.symm

theorem binaryProduction_of_operand (hs : AtOperand c s) {least : Nat}
    (h : binaryProduction g least c s = some (e, t)) (he : e.inner.isFunction = true) :
    primary g c s = some (e, t) := by
  have hoperand : operand g c s = unaryProduction g c s := by
    rcases hs.front with hfront | hfront <;>
      simp only [operand, hfront, run_bind, run_token, Option.bind_some]
  simp only [binaryProduction, run_bind, hoperand, Option.bind_eq_some_iff] at h
  obtain ⟨⟨a, u⟩, hunary, hrounds⟩ := h
  -- an operation is no function, so there was no operator
  have hcases : e = a ∧ t = u ∨ e.inner.isFunction = false := by
    refine iterate_cases (P := fun b => b.inner.isFunction = false) hrounds
      fun b v next w hround => ?_
    simp only [run_bind, castTail?_plain hs.types, Option.bind_some,
      Option.bind_eq_some_iff] at hround
    obtain ⟨⟨op, v'⟩, hop, hround⟩ := hround
    cases operator?_stays hop
    cases op with
    | none =>
        cases hround
        exact .inl ⟨rfl, rfl⟩
    | some op =>
        simp only [run_ite, run_pure, run_bind] at hround
        split at hround
        · cases hround
          exact .inl ⟨rfl, rfl⟩
        · simp only [Option.bind_eq_some_iff, Option.some.injEq, Prod.mk.injEq] at hround
          obtain ⟨_, -, _, -, _, -, rfl, -⟩ := hround
          exact .inr ⟨_, rfl, rfl⟩
  rcases hcases with ⟨rfl, rfl⟩ | hfunction
  · exact unaryProduction_of_operand hs hunary he
  · exact absurd he (by simp [hfunction])

theorem conditional_of_operand (hs : AtOperand c s) (h : conditional g c s = some (e, t))
    (he : e.inner.isFunction = true) : primary g c s = some (e, t) := by
  simp [conditional, hs.pure, run_takeSign, Option.bind_eq_some_iff] at h
  obtain ⟨a, u, hbinary, h⟩ := h
  by_cases hu : u.token = .sign "?"
  · simp [hu] at h
    obtain ⟨_, _, -, _, _, -, _, -, rfl⟩ := h
    exact absurd he (by simp [Expr.isFunction, Expr.inner])
  · simp [hu] at h
    obtain ⟨rfl, rfl⟩ := h
    exact binaryProduction_of_operand hs hbinary he

/-! ### Assignments and lists -/

/-- The last look at a sign, whether it is one of an assignment, reads nothing. -/
theorem assignmentOperator_stays (u : String) {sign? : Option (Option BinaryOp × String)}
    (h : (match u.toList.reverse with
      | '=' :: op =>
        match BinaryOp.ofText? (String.ofList op.reverse) with
        | some op => pure (if op.mayAssign then some (some op, u) else none)
        | none => pure none
      | _ => pure none : Parser (Option (Option BinaryOp × String))) c s = some (sign?, t)) :
    t = s := by
  rcases hrev : u.toList.reverse with _ | ⟨k, op⟩
  · simp [hrev] at h
    exact h.2.symm
  · by_cases hk : k = '='
    · cases hop : BinaryOp.ofText? (String.ofList op.reverse) <;> simp [hrev, hk, hop] at h <;>
        exact h.2.symm
    · simp [hrev, hk] at h
      exact h.2.symm

theorem assignmentSign?_stays {sign? : Option (Option BinaryOp × String)}
    (h : assignmentSign? c s = some (sign?, t)) : t = s := by
  cases htok : s.token with
  | sign u =>
      by_cases hequals : u = "="
      · simp [assignmentSign?, htok, hequals] at h
        exact h.2.symm
      by_cases hangle : u = ">"
      · cases hread : Lexer.sign? angleSigns s.here <;>
          simp [assignmentSign?, htok, hangle, angle, hread] at h
        exact assignmentOperator_stays _ h
      · simp [assignmentSign?, htok, hangle] at h
        exact assignmentOperator_stays _ h
  | _ =>
      simp [assignmentSign?, htok] at h
      exact h.2.symm

theorem assignmentOrLess_of_operand (hs : AtOperand c s) (h : assignmentOrLess g c s = some (e, t))
    (he : e.inner.isFunction = true) : primary g c s = some (e, t) := by
  have hstart : { s with owesPattern := false } = s := by rw [← hs.owes]
  simp only [assignmentOrLess, run_bind, run_get, run_modify, Option.bind_some, hstart,
    Option.bind_eq_some_iff] at h
  obtain ⟨⟨a, u⟩, hconditional, ⟨sign?, v⟩, hsign, h⟩ := h
  cases assignmentSign?_stays hsign
  cases sign? with
  | none =>
      simp [hs.owes] at h
      obtain ⟨rfl, rfl⟩ := h
      exact conditional_of_operand hs hconditional he
  | some p =>
      obtain ⟨op, text⟩ := p
      cases op with
      | none =>
          cases htarget : a.toTarget? <;> simp [htarget, skip] at h
          obtain ⟨_, -, rfl⟩ := h
          exact absurd he (by simp [Expr.isFunction, Expr.inner])
      | some op =>
          cases hplace : a.isPlace <;> simp [hplace, skip] at h
          obtain ⟨_, -, rfl⟩ := h
          exact absurd he (by simp [Expr.isFunction, Expr.inner])

/-- Where the parenthesis opens parameters, an arrow function is read. -/
theorem arrow?_cases (hs : AtOpen c s) {next : Option Expr}
    (h : arrow? g c s = some (next, t)) : next = none ∧ t = s ∨ ∃ f, next = some (.arrow f) := by
  obtain ⟨b, hmay⟩ : ∃ b, mayOpenParameters c s = some (b, s) := ⟨_, run_seems _⟩
  cases b with
  | false =>
      simp [arrow?, hs.choice, arrowHead?, opensTypeParameters, hs.types, hs.token, hmay] at h
      exact .inl ⟨h.1.symm, h.2.symm⟩
  | true =>
      cases hhead : parenthesizedHead g false c s with
      | none =>
          simp [arrow?, hs.choice, arrowHead?, opensTypeParameters, hs.types, hs.token, hmay,
            hhead] at h
          exact .inl ⟨h.1.symm, h.2.symm⟩
      | some r =>
          simp [arrow?, hs.choice, arrowHead?, opensTypeParameters, hs.types, hs.token, hmay,
            hhead, arrowTail] at h
          obtain ⟨a, htail, rfl⟩ := h
          split at htail <;> simp at htail <;>
            obtain ⟨_, _, rfl⟩ := htail <;> exact .inr ⟨_, rfl⟩

theorem assignmentProduction_of_open (hs : AtOpen c s)
    (h : assignmentProduction g c s = some (e, t)) (he : e.inner.isFunction = true) :
    (∃ f, e = .arrow f) ∨ IsEnclosed g c s e t := by
  simp [assignmentProduction, hs.token, Option.bind_eq_some_iff] at h
  obtain ⟨next, u, harrow, h⟩ := h
  rcases arrow?_cases hs harrow with ⟨rfl, rfl⟩ | ⟨f, rfl⟩
  · exact .inr (primary_of_open hs.token (assignmentOrLess_of_operand hs.toAtOperand h he))
  · simp at h
    exact .inl ⟨f, h.1.symm⟩

/-- An expression that is a function is no list of expressions. -/
theorem assignment_of_expressionProduction (h : expressionProduction g c s = some (e, t))
    (he : e.inner.isFunction = true) : g.assignment c s = some (e, t) := by
  simp only [expressionProduction, run_bind, run_pure, Option.bind_eq_some_iff] at h
  obtain ⟨⟨a, u⟩, hfirst, ⟨more, v⟩, hmore, h⟩ := h
  cases more with
  | cons b more =>
      simp at h
      exact absurd he (by simp [← h.1, Expr.isFunction, Expr.inner])
  | nil =>
      simp at h
      obtain ⟨rfl, rfl⟩ := h
      have hcomma := step_of_repeatUpTo_nil hmore
      simp only [run_bind, run_takeSign] at hcomma
      split at hcomma <;> simp at hcomma
      subst hcomma
      exact hfirst

theorem expressionProduction_of_open {m : Nat} (hs : AtOpen c s)
    (h : expressionProduction (grammar (m + 1)) c s = some (e, t)) (he : e.inner.isFunction = true) :
    (∃ f, e = .arrow f) ∨ IsEnclosed (grammar m) c s e t :=
  assignmentProduction_of_open hs (assignment_of_expressionProduction h he) he

/-! ### Statements -/

theorem decorators_of_open (hs : AtOpen c s) (hfuel : 0 < c.fuel) :
    decorators g c s = some ([], s) := by
  obtain ⟨fuel, hf⟩ := Nat.exists_eq_succ_of_ne_zero (by omega : c.fuel ≠ 0)
  simp [decorators, repeatWhile, hf, repeatUpTo, run_takeSign, hs.token]

theorem anyDeclaration?_of_open (hs : AtOpen c s) (ds : List Expr) :
    anyDeclaration? g ds c s = some (none, s) := by
  have hkind : variableKind? c s = some (none, s) := by
    simp [variableKind?, hs.token, word, run_takeWord]
  have htyped : typedDeclaration? g c s = some (none, s) := by
    simp [typedDeclaration?, hs.types]
  simp [anyDeclaration?, declaration?, hkind, htyped, hs.types, hs.token, atAsyncFunction, word,
    run_takeWord]

/-- A statement that begins with a parenthesis is an expression with the end of a statement. -/
theorem statementBody_of_open (hs : AtOpen c s) (hfuel : 0 < c.fuel) {stmt : Stmt}
    (h : statementBody g c s = some (stmt, t)) :
    ∃ e u, stmt = .expr e ∧ g.expression c s = some (e, u) ∧ semicolon c u = some ((), t) := by
  have hvariable : atVariable c s = some (false, s) := by simp [atVariable, hs.token]
  simp [statementBody, run_takeSign, hs.token, decorators_of_open hs hfuel, run_takeWord, atImport,
    word, anyDeclaration?_of_open hs, plainStatement, atLabel, variableName, hvariable, ensure,
    atAnyWord] at h
  simp only [Option.bind_eq_some_iff, Option.map_eq_some_iff, Prod.mk.injEq] at h
  obtain ⟨⟨e, u⟩, hexpr, ⟨_, w⟩, hsemicolon, rfl, rfl⟩ := h
  exact ⟨e, u, rfl, hexpr, hsemicolon⟩

/-- At most a semicolon is left of the program. -/
def AtEnd (c : Context) (s : State) : Prop :=
  s.token = .finish ∨ s.token = .sign ";" ∧ (State.next c s).token = .finish

theorem atEnd_of_semicolon (h : semicolon c s = some ((), t)) (ht : t.token = .finish) :
    AtEnd c s := by
  simp only [semicolon, run_bind, run_takeSign] at h
  by_cases hs : s.token = .sign ";"
  · simp [hs] at h
    exact .inr ⟨hs, h ▸ ht⟩
  · refine .inl ?_
    cases htok : s.token with
    | finish => rfl
    | sign u =>
        simp [hs] at h
        by_cases hu : u = "\x7d"
        · simp [htok, hu] at h
          exact absurd (h ▸ ht) (by simp [htok])
        · simp [htok, hu, ensure] at h
          exact absurd (h.2 ▸ ht) (by simp [htok])
    | _ =>
        simp [htok, ensure] at h
        exact absurd (h.2 ▸ ht) (by simp [htok])

@[simp]
theorem run_comments : comments c s = some (s.gap.comments.reverse, s) :=
  rfl

theorem wholeText_of_open {m : Nat} {l : List Comment}
    (hc : { c with allowIn := true, inChoice := false, allowTypeChoice := true } = c)
    (hs : AtOpen c s) (hfuel : 0 < c.fuel)
    (h : Program.wholeText (m + 3) c s = some ([.mk l (.expr e)], t))
    (he : e.inner.isFunction = true) :
    l = s.gap.comments.reverse ∧
      ((∃ f, e = .arrow f) ∨ ∃ u, IsEnclosed (grammar m) c s e u ∧ AtEnd c u) := by
  obtain ⟨fuel, hf⟩ := Nat.exists_eq_succ_of_ne_zero (by omega : c.fuel ≠ 0)
  have hdirective : repeatWhile directive? c s = some ([], s) := by
    simp [repeatWhile, hf, repeatUpTo, directive?, hs.token]
  simp only [Program.wholeText, body, run_bind, hdirective, run_comments, run_pure, run_get,
    Option.bind_some, Option.bind_eq_some_iff] at h
  obtain ⟨⟨items, v⟩, ⟨⟨found, w⟩, hitems, hwhole⟩, ⟨_, x⟩, -, hlast⟩ := h
  -- no comment stands at the end, for it would be one more statement
  have hfound : found = [.mk l (.expr e)] := by
    simp only [List.nil_append, Option.some.injEq, Prod.mk.injEq] at hwhole hlast
    obtain ⟨rfl, -⟩ := hlast
    split_ifs at hwhole
    · simpa using hwhole.1
    · rcases found with _ | ⟨a, _ | ⟨b, more⟩⟩ <;> simp at hwhole
  subst hfound
  -- one statement is read, and then the program is at its end
  obtain ⟨fuel, u, hfirst, hrest⟩ := step_of_repeatUpTo_cons hitems
  have hfinish : u.token = .finish := by
    have hnone := step_of_repeatUpTo_nil hrest
    by_cases hends : u.token = .finish
    · exact hends
    · simp [hends] at hnone
  have hstatement : statementProduction (grammar (m + 2)) c s = some (.mk l (.expr e), u) := by
    simpa [hs.token, grammar] using hfirst
  simp only [statementProduction, run_bind, run_comments, Option.bind_some, run_within, run_pure,
    hc, Option.bind_eq_some_iff] at hstatement
  obtain ⟨⟨stmt, v⟩, hbody, hitem⟩ := hstatement
  obtain ⟨e', v', rfl, hexpr, hsemicolon⟩ := statementBody_of_open hs hfuel hbody
  cases hitem
  refine ⟨rfl, ?_⟩
  rcases expressionProduction_of_open hs hexpr he with harrow | henclosed
  · exact .inl harrow
  · exact .inr ⟨v', henclosed, atEnd_of_semicolon hsemicolon hfinish⟩

end Parser

namespace Program

open Script.Parser

/-- The parenthesis that a program begins with encloses `e`, and `s` is at the one that closes it. -/
def Encloses (goal : Goal) (cs : List Char) (e : Expr) (s : State) : Prop :=
  ∃ depth, Parser.Encloses (grammar depth) (goal.context cs.length) (goal.front cs) e s

/-- Behind the token in front, at most a semicolon is left of the program. -/
def EndsBehind (goal : Goal) (cs : List Char) (s : State) : Prop :=
  AtEnd (goal.context cs.length) (State.next (goal.context cs.length) s)

theorem front_of_open (goal : Goal) (cs : List Char) :
    goal.front ('(' :: cs) =
      { token := .sign "(", gap := { newline := true }, here := '(' :: cs, rest := cs } := by
  have hsolid : Lexer.IsSolid ('(' :: cs) :=
    Lexer.isSolid_cons (by decide) (by decide) (by decide) cs
  have htoken : ∀ fuel, Lexer.token fuel ('(' :: cs) = (.sign "(", cs) :=
    fun fuel => Lexer.token_bracket (by decide) fuel cs
  simp [Goal.front, State.start, hsolid _, htoken]

/-- A program without types that begins with a parenthesis and is nothing but a function, read as deep
as its length admits. -/
theorem isEnclosed_of_read? {goal : Goal} (hgoal : goal.dialect.hasTypes = false) {cs : List Char}
    {p : Program} {l : List Comment} {e : Expr} (h : read? goal ('(' :: cs) = some p)
    (hitems : p.items = [.mk l (.expr e)]) (he : e.inner.isFunction = true) :
    p = ⟨none, [.mk [] (.expr e)]⟩ ∧
      ((∃ f, e = .arrow f) ∨
        ∃ s, IsEnclosed (grammar (8 * cs.length + 21)) (goal.context (cs.length + 1))
            (goal.front ('(' :: cs)) e s ∧
          AtEnd (goal.context (cs.length + 1)) s) := by
  have hrunner : splitRunner ('(' :: cs) = (none, '(' :: cs) := rfl
  simp only [read?, hrunner, readFrom?, Option.bind_eq_bind, Option.bind_eq_some_iff] at h
  obtain ⟨⟨items, t⟩, hwhole, hp⟩ := h
  split at hp <;> cases hp
  subst hitems
  have hopen : AtOpen (goal.context ('(' :: cs).length) (goal.front ('(' :: cs)) := by
    rw [front_of_open]
    exact ⟨⟨hgoal, rfl, .inl rfl, rfl, rfl⟩, rfl⟩
  have hdepth : 8 * (('(' :: cs).length + 2) = (8 * cs.length + 21) + 3 := by
    simp only [List.length_cons]
    omega
  rw [hdepth] at hwhole
  obtain ⟨hcomments, hcases⟩ := wholeText_of_open rfl hopen (by simp [Goal.context]) hwhole he
  rw [front_of_open] at hcomments
  subst hcomments
  exact ⟨rfl, hcases⟩

/-- **A program without types that begins with a parenthesis and is nothing but a function** is an
arrow function whose parameters that parenthesis opens, or a function that it encloses. -/
theorem read?_of_open {goal : Goal} (hgoal : goal.dialect.hasTypes = false) {cs : List Char}
    {p : Program} {l : List Comment} {e : Expr} (h : read? goal ('(' :: cs) = some p)
    (hitems : p.items = [.mk l (.expr e)]) (he : e.inner.isFunction = true) :
    p = ⟨none, [.mk [] (.expr e)]⟩ ∧
      ((∃ f, e = .arrow f) ∨ ∃ inner s, e = .paren inner ∧ Encloses goal ('(' :: cs) inner s ∧
        EndsBehind goal ('(' :: cs) s) := by
  obtain ⟨hp, hcases⟩ := isEnclosed_of_read? hgoal h hitems he
  refine ⟨hp, hcases.imp_right ?_⟩
  rintro ⟨_, ⟨inner, s, rfl, hencloses, rfl⟩, hend⟩
  exact ⟨inner, s, rfl, ⟨_, hencloses⟩, hend⟩

end Program

end StorySuite.Script
