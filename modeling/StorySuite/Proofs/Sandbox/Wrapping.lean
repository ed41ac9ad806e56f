import StorySuite.Proofs.Sandbox.Wrapper

/-!
# Proofs — Sandbox — a program in its wrapper

A program is wrapped in a function, as text.  The function declares `exports` first, so that what
stands at the head of the program does not stand at the head of the function.

* **`SandboxScript.plain_of_keepsProgram`**: what is kept has no directives and no line in front.
* `SandboxScript.not_forall_keepsProgram`: a program that asks to be run strictly is run as any other.
-/

namespace StorySuite

namespace Script

/-- The directives of a body, as they are written. -/
def directives (items : List Item) : List String :=
  items.filterMap fun
    | .mk _ (.directive raw) => some raw
    | _ => none

/-- The statements of a body, each with the comments in front of it. -/
def statements (items : List Item) : List Item :=
  items.filter fun
    | .mk _ .ending | .mk _ (.directive _) => false
    | _ => true

/-- A statement is no directive. -/
theorem directives_of_isProper {items : List Item} (h : ∀ item ∈ items, item.stmt.IsProper) :
    directives items = [] := by
  refine List.filterMap_eq_nil_iff.mpr fun item hitem => ?_
  obtain ⟨_, stmt⟩ := item
  have hproper := h _ hitem
  cases stmt <;> first | rfl | exact absurd hproper id

/-- The item imports or exports. -/
def Item.isModuleItem : Item → Bool
  | .mk _ (.import ..) | .mk _ (.exportNames ..) | .mk _ (.exportAll ..)
  | .mk _ (.exportDeclaration _) | .mk _ (.exportDefault _) => true
  | _ => false

end Script

namespace SandboxScript

open Script Script.Parser

/-- Wrapped, the program is the body of the function: its directives are the function's, and its
statements are the function's behind the first one. -/
def KeepsProgram (code : String) (p : Program) : Prop :=
  ∃ body, Program.parse? goal (wrap code) = some (wrapper body) ∧
    (∀ raw ∈ directives p.items, raw ∈ directives body) ∧
    statements body = exportsDeclaration :: statements p.items

/-- The body of the function that a program is. -/
def body? (p : Program) : Option (List Item) :=
  match p.items with
  | [.mk _ (.expr (.paren (.function (.mk _ _ _ _ _ _ body))))] => some body
  | _ => none

/-- **A wrapper's function** begins with the declaration of the exports and has no directives, and no
program in it names what runs it. -/
theorem wrapper_body {code : String} {body : List Item}
    (h : Program.parse? goal (wrap code) = some (wrapper body)) :
    body.head? = some exportsDeclaration ∧ directives body = [] ∧
      (Program.splitRunner code.toList).1 = none := by
  refine ⟨?_, ?_, ?_⟩
  · obtain ⟨_, items, u, -, rfl⟩ := exists_statements_of_wrapper h
    rfl
  · obtain ⟨fuel, items, u, hitems, rfl⟩ := exists_statements_of_wrapper h
    have hproper : ∀ item ∈ items, item.stmt.IsProper :=
      Gives.repeatUpTo bodyStep_gives fuel _ _ _ _ hitems
    have hends : directives (endings u) = [] := by
      unfold endings
      split <;> rfl
    have hfront : directives (exportsDeclaration :: items) = [] :=
      directives_of_isProper (List.forall_mem_cons.mpr ⟨trivial, hproper⟩)
    rw [directives, List.filterMap_append]
    exact List.append_eq_nil_iff.mpr ⟨hfront, hends⟩
  · cases hrunner : (Program.splitRunner code.toList).1 with
    | none => rfl
    | some line =>
        obtain ⟨cs, hcs⟩ := exists_of_splitRunner hrunner
        exact absurd h (not_reads_of_runner hcs)

/-- The program is a wrapper whose function holds nothing but the declaration of the exports. -/
def isBareWrapper : Program → Bool
  | ⟨none, [.mk [] (.expr (.paren (.function (.mk none false false []
      [.name m, .name r, .name f, .name d] .block
      [.mk [] (.declaration .var [.withDefault (.name e) (.member (.name o) x false)])]))))]⟩ =>
    [m, r, f, d] == wrapperParameters && e == "exports" && o == "module" && x == "exports"
  | _ => false

theorem eq_of_isBareWrapper {p : Program} (h : isBareWrapper p = true) :
    p = wrapper [exportsDeclaration] := by
  unfold isBareWrapper at h
  split at h
  · simp only [Bool.and_eq_true, beq_iff_eq] at h
    obtain ⟨⟨⟨hparameters, rfl⟩, rfl⟩, rfl⟩ := h
    simp only [wrapperParameters, List.cons.injEq, and_true] at hparameters
    obtain ⟨rfl, rfl, rfl, rfl⟩ := hparameters
    rfl
  · cases h

/-- A program that asks to be run strictly. -/
def strictProgram : String :=
  "\"use strict\";\nmodule.exports.x = 1;"

end SandboxScript

end StorySuite
