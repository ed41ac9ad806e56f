import StorySuite.Proofs.Script.Memory

/-!
# Proofs — Script — what a property is called

The name that an inspection reads off a key is the name that the property has when the program runs,
except for numbers: a program writes very large and very small ones with a power of ten, and the
infinite one as a word.  A number has a digit or a point in its name all the same, so no property
under a number is a hook.

* `static?_of_scriptName?_hook`: a key that denotes a hook is read as that hook.
* `ReadsAlike`: the key of a namespace is read as a namespace.
-/

namespace StorySuite

open Decimal

/-- Some character is a digit or a point. -/
def HasFigure (cs : List Char) : Prop :=
  ∃ c ∈ cs, c.isDigit = true ∨ c = '.'

theorem HasFigure.append_left {cs ds : List Char} (h : HasFigure ds) : HasFigure (cs ++ ds) := by
  obtain ⟨c, hc, hfigure⟩ := h
  exact ⟨c, List.mem_append_right _ hc, hfigure⟩

theorem HasFigure.append_right {cs ds : List Char} (h : HasFigure cs) : HasFigure (cs ++ ds) := by
  obtain ⟨c, hc, hfigure⟩ := h
  exact ⟨c, List.mem_append_left _ hc, hfigure⟩

theorem HasFigure.cons {c : Char} {cs : List Char} (h : HasFigure cs) : HasFigure (c :: cs) := by
  obtain ⟨d, hd, hfigure⟩ := h
  exact ⟨d, List.mem_cons_of_mem _ hd, hfigure⟩

theorem hasFigure_toDigits (n : Nat) : HasFigure (Nat.toDigits 10 n) := by
  obtain ⟨c, hc⟩ := List.exists_mem_of_ne_nil _ (Nat.toDigits_ne_nil : Nat.toDigits 10 n ≠ [])
  exact ⟨c, hc, .inl (Nat.isDigit_of_mem_toDigits (by omega) (by omega) hc)⟩

/-- No hook has a digit in its name. -/
theorem Hook.not_hasFigure_name (n : Hook) : ¬ HasFigure n.name.toList := by
  have hletters : n.name.toList.all (fun c => !c.isDigit && c != '.') = true := by
    cases n <;> rfl
  rintro ⟨c, hc, hfigure⟩
  have hletter := List.all_eq_true.mp hletters c hc
  rcases hfigure with hdigit | rfl
  · simp [hdigit] at hletter
  · simp at hletter

namespace Decimal.Layout

/-- Digits that are laid out show one of them, or a point. -/
theorem hasFigure_place (f : Layout) {ds : List Char} (hds : ∀ d ∈ ds, d.isDigit = true)
    (e : Int) : HasFigure (f.place ds e) := by
  unfold place
  split
  case isTrue =>
    split
    case isTrue => exact ⟨'.', by simp, .inr rfl⟩
    case isFalse =>
      dsimp only
      split
      case isTrue hlength =>
        -- zeros are put after the digits, and are all there is when there are none
        cases ds with
        | nil => exact HasFigure.append_right ⟨'0', by simp, .inl rfl⟩
        | cons d ds => exact ⟨d, by simp, .inl (hds d List.mem_cons_self)⟩
      case isFalse => exact ⟨'.', by simp, .inr rfl⟩
  case isFalse =>
    -- the power of ten is written with digits
    exact HasFigure.append_left (HasFigure.cons (HasFigure.append_left (hasFigure_toDigits _)))

/-- **A number that is written out shows a digit, or a point.** -/
theorem hasFigure_write (f : Layout) (x : Binary64) : HasFigure (f.write x).toList := by
  unfold write
  by_cases hzero : x.isZero = true
  · simp only [hzero, if_true, String.toList_ofList]
    exact HasFigure.append_left (f.hasFigure_place (by simp) 0)
  · simp only [hzero, Bool.false_eq_true, if_false, String.toList_ofList]
    refine HasFigure.append_left (f.hasFigure_place (fun d hd => ?_) _)
    have hmem : d ∈ Nat.toDigits 10 x.shortest.digits :=
      List.mem_reverse.mp (List.dropWhile_subset _ (List.mem_reverse.mp hd))
    exact Nat.isDigit_of_mem_toDigits (by omega) (by omega) hmem

end Decimal.Layout

namespace Script.PropertyKey

/-- **A key that denotes a hook is read as that hook.** -/
theorem static?_of_scriptName?_hook {key : PropertyKey} {n : Hook}
    (h : key.scriptName? = some ⟨n.name, false⟩) : key.static? = some n.name := by
  cases key with
  | name s =>
      obtain rfl : s = n.name := by simpa [scriptName?] using h
      rfl
  | string t =>
      obtain rfl : t = ⟨n.name, false⟩ := by simpa [scriptName?] using h
      rfl
  | number x =>
      exfalso
      have hname : (x.map Layout.script.write).getD "Infinity" = n.name := by
        simpa [scriptName?] using h
      cases x with
      | none =>
          simp only [Option.map_none, Option.getD_none] at hname
          cases n <;> simp [Hook.name] at hname
      | some x => exact n.not_hasFigure_name (hname ▸ Layout.script.hasFigure_write x)
  | bigint d =>
      exfalso
      have hname : toString d = n.name := by simpa [scriptName?] using h
      refine n.not_hasFigure_name (hname ▸ ?_)
      rw [Nat.toString_eq_ofList_toDigits, String.toList_ofList]
      exact hasFigure_toDigits d
  | privateName _ | computed _ => cases h

/-- A key that is a namespace's when the program runs is read as one. -/
def ReadsAlike (namespaces : List String) (key : PropertyKey) : Prop :=
  ∀ s ∈ namespaces, key.scriptName? = some ⟨s, false⟩ → ∃ t ∈ namespaces, key.static? = some t

/-- Only a number can be read as another name than it has. -/
theorem readsAlike_of_not_number {namespaces : List String} {key : PropertyKey}
    (h : ∀ x, key ≠ .number x) : key.ReadsAlike namespaces := by
  intro s hs hname
  refine ⟨s, hs, ?_⟩
  cases key with
  | name s' =>
      obtain rfl : s' = s := by simpa [scriptName?] using hname
      rfl
  | string t =>
      obtain rfl : t = ⟨s, false⟩ := by simpa [scriptName?] using hname
      rfl
  | number x => exact absurd rfl (h x)
  | bigint d =>
      obtain rfl : toString d = s := by simpa [scriptName?] using hname
      rfl
  | privateName _ | computed _ => cases hname

end Script.PropertyKey

end StorySuite
