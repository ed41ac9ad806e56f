import Mathlib.Data.List.Basic
import StorySuite.Text.Pieces

/-!
# Proofs — Text — pieces of a text

A text is cut at every separator in it.  The pieces are what was between the separators, and pieces
without the separator are found again when they are written with it between them.

* `splitChars_append_cons`, `splitChars_intercalate`: where a text is cut.
* `splitChars_starts`: how the pieces begin.
* `dropStart?_eq_some_iff`: what stands behind the beginning of a text.
-/

namespace StorySuite.Text

/-! ### Separators -/

section Separators

variable {sep : Char}

theorem splitChars_ne_nil : ∀ cs : List Char, splitChars sep cs ≠ []
  | [] => List.cons_ne_nil _ _
  | c :: cs => by
      unfold splitChars
      split
      · exact List.cons_ne_nil _ _
      · split <;> exact List.cons_ne_nil _ _

/-- A text is cut at a separator in it. -/
theorem splitChars_append_cons : ∀ before after : List Char,
    splitChars sep (before ++ sep :: after) = splitChars sep before ++ splitChars sep after
  | [], after => by simp [splitChars]
  | c :: before, after => by
      have hrest := splitChars_append_cons before after
      rw [List.cons_append, splitChars, splitChars, hrest]
      split
      · rfl
      · cases hsplit : splitChars sep before with
        | nil => exact absurd hsplit (splitChars_ne_nil before)
        | cons piece pieces => rfl

/-- A text without a separator is one piece. -/
theorem splitChars_of_not_mem : ∀ {cs : List Char}, sep ∉ cs → splitChars sep cs = [cs]
  | [], _ => rfl
  | c :: cs, h => by
      rw [List.mem_cons, not_or] at h
      unfold splitChars
      rw [if_neg fun heq => h.1 heq.symm, splitChars_of_not_mem h.2]

/-- Pieces written with separators between them are what is between the separators. -/
theorem splitChars_intercalate : ∀ {pieces : List (List Char)}, pieces ≠ [] →
    (∀ piece ∈ pieces, sep ∉ piece) → splitChars sep ([sep].intercalate pieces) = pieces
  | [], h, _ => absurd rfl h
  | [piece], _, h => by
      rw [List.intercalate_singleton]
      exact splitChars_of_not_mem (h piece List.mem_cons_self)
  | piece :: next :: pieces, _, h => by
      obtain ⟨hpiece, hrest⟩ := List.forall_mem_cons.mp h
      rw [List.intercalate_cons_cons, List.append_assoc, List.singleton_append,
        splitChars_append_cons, splitChars_of_not_mem hpiece,
        splitChars_intercalate (List.cons_ne_nil _ _) hrest]
      rfl

/-- No piece has the separator in it. -/
theorem not_mem_of_mem_splitChars :
    ∀ {cs piece : List Char}, piece ∈ splitChars sep cs → sep ∉ piece
  | [], piece, h => by
      rw [List.mem_singleton.mp h]
      exact List.not_mem_nil
  | c :: cs, piece, h => by
      unfold splitChars at h
      split at h
      · rcases List.mem_cons.mp h with rfl | h
        · exact List.not_mem_nil
        · exact not_mem_of_mem_splitChars h
      · rename_i hc
        -- a character that is no separator goes to the first of the other pieces
        have hhead : ∀ piece : List Char, sep ∉ piece → sep ∉ c :: piece := by
          intro piece hpiece hmem
          rcases List.mem_cons.mp hmem with rfl | hmem
          · exact hc rfl
          · exact hpiece hmem
        split at h
        · rw [List.mem_singleton.mp h]
          exact hhead [] List.not_mem_nil
        · rename_i first more hsplit
          have hmem : ∀ piece ∈ first :: more, sep ∉ piece := fun piece hpiece =>
            not_mem_of_mem_splitChars (hsplit ▸ hpiece)
          rcases List.mem_cons.mp h with rfl | h
          · exact hhead first (hmem first List.mem_cons_self)
          · exact hmem piece (List.mem_cons_of_mem first h)

end Separators

/-- The first piece begins as the text does, and every other one as what is behind a separator. -/
theorem splitChars_starts (sep : Char) : ∀ cs : List Char, ∃ piece pieces,
    splitChars sep cs = piece :: pieces ∧ ∀ start : List Char, sep ∉ start →
      (start <+: piece ↔ start <+: cs) ∧
      ((∃ next ∈ pieces, start <+: next) ↔ sep :: start <:+: cs)
  | [] => ⟨[], [], rfl, fun start _ => ⟨Iff.rfl, by simp⟩⟩
  | c :: cs => by
      obtain ⟨piece, pieces, hsplit, hstarts⟩ := splitChars_starts sep cs
      unfold splitChars
      split
      · rename_i hc
        subst hc
        refine ⟨[], piece :: pieces, by rw [hsplit], fun start hstart => ⟨?_, ?_⟩⟩
        · cases start with
          | nil => simp
          | cons d ds =>
              refine iff_of_false (by simp) fun h => hstart ?_
              rw [(List.cons_prefix_cons.mp h).1]
              exact List.mem_cons_self
        · -- the first piece of the rest is the one behind this separator
          rw [List.infix_cons_iff, List.cons_prefix_cons, and_iff_right rfl,
            ← (hstarts start hstart).1, ← (hstarts start hstart).2]
          simp
      · rename_i hc
        refine ⟨c :: piece, pieces, by rw [hsplit], fun start hstart => ⟨?_, ?_⟩⟩
        · cases start with
          | nil => simp
          | cons d ds =>
              rw [List.cons_prefix_cons, List.cons_prefix_cons,
                (hstarts ds fun h => hstart (List.mem_cons_of_mem d h)).1]
        · rw [List.infix_cons_iff, List.cons_prefix_cons, (hstarts start hstart).2]
          exact (or_iff_right fun h => hc h.1.symm).symm

/-! ### Beginnings -/

theorem dropStart?_eq_some_iff : ∀ {start cs rest : List Char},
    dropStart? start cs = some rest ↔ cs = start ++ rest
  | [], cs, rest => by simp [dropStart?]
  | p :: ps, [], rest => by simp [dropStart?]
  | p :: ps, c :: cs, rest => by
      unfold dropStart?
      split
      · rename_i hpc
        rw [dropStart?_eq_some_iff, hpc, List.cons_append, List.cons.injEq]
        exact (and_iff_right rfl).symm
      · rename_i hpc
        rw [List.cons_append, List.cons.injEq]
        exact iff_of_false (fun h => by cases h) fun h => hpc h.1.symm

theorem dropStart?_eq_none_iff {start cs : List Char} :
    dropStart? start cs = none ↔ ¬ start <+: cs := by
  rw [← not_iff_not, ← Ne, Option.ne_none_iff_exists', not_not]
  exact exists_congr fun rest => dropStart?_eq_some_iff.trans eq_comm

theorem isSome_dropStart?_iff {start cs : List Char} :
    (dropStart? start cs).isSome = true ↔ start <+: cs := by
  rw [Option.isSome_iff_ne_none, Ne, dropStart?_eq_none_iff, not_not]

end StorySuite.Text
