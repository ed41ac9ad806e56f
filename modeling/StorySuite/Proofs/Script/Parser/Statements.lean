import StorySuite.Proofs.Script.Parser.Runs

/-!
# Proofs — Script — Parser — what statements are

Only the head of a body has directives, and only its end has comments of its own: what the grammar
reads as a statement is neither.

* `statement_gives`: a statement is no directive and no end of a body.
-/

namespace StorySuite.Script

/-- The statement is no directive, and not the end of a body. -/
def Stmt.IsProper : Stmt → Prop
  | .directive _ | .ending => False
  | _ => True

namespace Parser

variable {α β : Type} {P : α → Prop} {Q : β → Prop} {g : Grammar}

/-- What the parser gives has the property, wherever it does not fail. -/
def Gives (P : α → Prop) (p : Parser α) : Prop :=
  ∀ c s a t, p c s = some (a, t) → P a

namespace Gives

theorem pure {a : α} (h : P a) : Gives P (pure a) := by
  rintro c s b t hrun
  cases hrun
  exact h

theorem failure : Gives P failure := by
  rintro c s b t hrun
  cases hrun

theorem bind_of {p : Parser β} {f : β → Parser α} (hp : Gives Q p) (hf : ∀ b, Q b → Gives P (f b)) :
    Gives P (p >>= f) := by
  intro c s a t hrun
  simp only [run_bind, Option.bind_eq_some_iff] at hrun
  obtain ⟨⟨b, u⟩, hp', hf'⟩ := hrun
  exact hf b (hp c s b u hp') c u a t hf'

theorem bind {p : Parser β} {f : β → Parser α} (hf : ∀ b, Gives P (f b)) : Gives P (p >>= f) :=
  bind_of (Q := fun _ => True) (fun _ _ _ _ _ => trivial) fun b _ => hf b

theorem map_of {p : Parser β} {f : β → α} (hp : Gives Q p) (hf : ∀ b, Q b → P (f b)) :
    Gives P (f <$> p) := by
  intro c s a t hrun
  simp only [run_map, Option.map_eq_some_iff, Prod.mk.injEq] at hrun
  obtain ⟨⟨b, u⟩, hp', rfl, -⟩ := hrun
  exact hf b (hp c s b u hp')

theorem map {p : Parser β} {f : β → α} (hf : ∀ b, P (f b)) : Gives P (f <$> p) :=
  map_of (Q := fun _ => True) (fun _ _ _ _ _ => trivial) fun b _ => hf b

theorem within {f : Context → Context} {p : Parser α} (hp : Gives P p) : Gives P (within f p) :=
  fun c s a t hrun => hp (f c) s a t hrun

end Gives

/-- What there is has the property. -/
def IfAny (P : α → Prop) (o : Option α) : Prop :=
  ∀ a, o = some a → P a

theorem ifAny_none : IfAny P none :=
  fun _ h => nomatch h

theorem ifAny_some {a : α} (h : P a) : IfAny P (some a) := by
  rintro _ ⟨⟩
  exact h

namespace Gives

/-- What is read is found. -/
theorem found {p : Parser α} (h : Gives P p) : Gives (IfAny P) (some <$> p) :=
  h.map_of fun _ => ifAny_some

/-- What was found is given on. -/
theorem of_found {a : α} (h : IfAny P (some a)) : Gives P (Pure.pure a) :=
  pure (h a rfl)

/-- Every round gives what has the property. -/
theorem repeatUpTo {step : Parser (Option α)} (h : Gives (IfAny P) step) :
    ∀ fuel, Gives (fun as => ∀ a ∈ as, P a) (repeatUpTo step fuel)
  | 0 => failure
  | fuel + 1 => by
      refine bind_of h fun o ho => ?_
      cases o with
      | none => exact pure (by simp)
      | some a =>
          exact bind_of (repeatUpTo h fuel) fun _ has =>
            pure (List.forall_mem_cons.mpr ⟨ho a rfl, has⟩)

end Gives

/-! ### Loops and choices -/

theorem loopOver?_gives {isAwait : Bool} {kind : Option VariableKind} {p : Pattern} :
    Gives (IfAny Stmt.IsProper) (loopOver? g isAwait kind p) := by
  unfold loopOver?
  repeat' first
    | exact .pure ifAny_none
    | exact .pure (ifAny_some trivial)
    | with_reducible refine .bind fun _ => ?_
    | split

theorem loopTail_gives {init : Option Stmt} : Gives Stmt.IsProper (loopTail g init) := by
  unfold loopTail
  dsimp only
  repeat' first
    | exact .pure trivial
    | with_reducible refine .bind fun _ => ?_
    | split

theorem forTail_gives : Gives Stmt.IsProper (forTail g) := by
  unfold forTail
  dsimp only
  repeat' first
    | with_reducible exact loopTail_gives
    | with_reducible exact .failure
    | exact .of_found ‹_›
    | with_reducible refine .bind_of loopOver?_gives fun _ _ => ?_
    | with_reducible refine .bind_of (.pure (ifAny_none (P := Stmt.IsProper))) fun _ _ => ?_
    | with_reducible refine .bind fun _ => ?_
    | split

theorem tryTail_gives : Gives Stmt.IsProper (tryTail g) := by
  unfold tryTail
  dsimp only
  repeat' first
    | exact .pure trivial
    | with_reducible refine .bind fun _ => ?_
    | split

theorem wordStatement?_gives {w : String} : Gives (IfAny Stmt.IsProper) (wordStatement? g w) := by
  unfold wordStatement?
  dsimp only
  repeat' first
    | exact .pure ifAny_none
    | exact .pure (ifAny_some trivial)
    | with_reducible exact forTail_gives.found
    | with_reducible exact tryTail_gives.found
    | with_reducible refine .bind fun _ => ?_
    | split

/-! ### Declarations -/

theorem variablesTail_gives {kind : VariableKind} :
    Gives Stmt.IsProper (variablesTail g kind) :=
  .bind fun _ => .bind fun _ => .pure trivial

theorem typeAliasTail_gives : Gives Stmt.IsProper (typeAliasTail g) :=
  .bind fun _ => .bind fun _ => .bind fun _ => .bind fun _ => .bind fun _ => .pure trivial

theorem interfaceTail_gives : Gives Stmt.IsProper (interfaceTail g) := by
  unfold interfaceTail
  dsimp only
  repeat' first
    | exact .pure trivial
    | with_reducible refine .bind fun _ => ?_
    | split

theorem enumTail_gives : Gives Stmt.IsProper (enumTail g) :=
  .bind fun _ => .bind fun _ => .bind fun _ => .pure trivial

theorem namespaceTail_gives : Gives Stmt.IsProper (namespaceTail g) := by
  unfold namespaceTail
  dsimp only
  repeat' first
    | exact .pure trivial
    | with_reducible refine .bind fun _ => ?_
    | split

theorem typedDeclaration?_gives : Gives (IfAny Stmt.IsProper) (typedDeclaration? g) := by
  unfold typedDeclaration?
  repeat' first
    | exact .pure ifAny_none
    | exact .pure (ifAny_some trivial)
    | with_reducible exact typeAliasTail_gives.found
    | with_reducible exact interfaceTail_gives.found
    | with_reducible exact enumTail_gives.found
    | with_reducible exact namespaceTail_gives.found
    | with_reducible refine .bind fun _ => ?_
    | split

theorem declaration?_gives {ds : List Expr} : Gives (IfAny Stmt.IsProper) (declaration? g ds) := by
  unfold declaration?
  refine .bind_of typedDeclaration?_gives fun _ _ => ?_
  repeat' first
    | exact .pure ifAny_none
    | exact .pure (ifAny_some trivial)
    | exact .pure ‹_›
    | with_reducible exact variablesTail_gives.found
    | with_reducible refine .bind fun _ => ?_
    | split

theorem anyDeclaration?_gives {ds : List Expr} :
    Gives (IfAny Stmt.IsProper) (anyDeclaration? g ds) := by
  unfold anyDeclaration?
  repeat' first
    | with_reducible exact declaration?_gives
    | exact .pure (ifAny_some trivial)
    | with_reducible exact .failure
    | with_reducible refine .within ?_
    | with_reducible refine .bind fun _ => ?_
    | split

/-! ### Imports and exports -/

theorem importTail_gives : Gives Stmt.IsProper importTail := by
  unfold importTail
  repeat' first
    | exact .pure trivial
    | with_reducible refine .bind fun _ => ?_
    | split

theorem exportNamesTail_gives {typeOnly : Bool} :
    Gives Stmt.IsProper (exportNamesTail typeOnly) := by
  unfold exportNamesTail
  repeat' first
    | exact .pure trivial
    | with_reducible refine .bind fun _ => ?_
    | split

theorem exportAllTail_gives {typeOnly : Bool} : Gives Stmt.IsProper (exportAllTail typeOnly) := by
  unfold exportAllTail
  repeat' first
    | exact .pure trivial
    | with_reducible refine .bind fun _ => ?_
    | split

theorem exportClause?_gives : Gives (IfAny Stmt.IsProper) exportClause? := by
  unfold exportClause?
  repeat' first
    | exact .pure ifAny_none
    | exact .pure (ifAny_some trivial)
    | with_reducible exact exportNamesTail_gives.found
    | with_reducible exact exportAllTail_gives.found
    | with_reducible refine .bind fun _ => ?_
    | split

theorem exportTail_gives {ds : List Expr} : Gives Stmt.IsProper (exportTail g ds) := by
  unfold exportTail
  dsimp only
  repeat' first
    | exact .pure trivial
    | exact .of_found ‹_›
    | with_reducible exact .failure
    | with_reducible refine .bind_of exportClause?_gives fun _ _ => ?_
    | with_reducible refine .bind fun _ => ?_
    | split

/-! ### Statements -/

theorem plainStatement_gives : Gives Stmt.IsProper (plainStatement g) := by
  unfold plainStatement
  dsimp only
  repeat' first
    | exact .pure trivial
    | exact .of_found ‹_›
    | with_reducible refine .bind_of wordStatement?_gives fun _ _ => ?_
    | with_reducible refine .bind_of (.pure (ifAny_none (P := Stmt.IsProper))) fun _ _ => ?_
    | with_reducible refine .bind fun _ => ?_
    | split

theorem statementBody_gives : Gives Stmt.IsProper (statementBody g) := by
  unfold statementBody
  repeat' first
    | exact .pure trivial
    | exact .of_found ‹_›
    | with_reducible exact exportTail_gives
    | with_reducible exact importTail_gives
    | with_reducible exact plainStatement_gives
    | with_reducible refine .bind_of anyDeclaration?_gives fun _ _ => ?_
    | with_reducible refine .bind fun _ => ?_
    | split

/-- **A statement** is no directive and no end of a body. -/
theorem statement_gives {n : Nat} :
    Gives (fun item => item.stmt.IsProper) (grammar n).statement := by
  cases n with
  | zero => exact .failure
  | succ n => exact .bind fun _ => .within (.bind_of statementBody_gives fun _ h => .pure h)

end Parser

end StorySuite.Script
