import StorySuite.Proofs.Path.Location

/-!
# Proofs — Path — a path that is located twice

A path that is located from a base (`Path.locate`) is absolute where the base is, and then it says
where it leads by itself.  Where the base is relative the located path is relative too, and to locate
it once more goes through the base once more.  This leads to the same place only if the base goes out
as often as it goes in (`Location.IsBalanced`), as `.` and `../a` do.

* `Location.exists_walk_fromHere`: a way that goes out somewhere keeps going out there.
* **`Path.locationFrom_locate_iff`**: when locating twice leads where locating once does.
-/

namespace StorySuite

namespace Location

/-- From the root, or as often out as in. -/
def IsBalanced : Location → Prop
  | fromRoot _ => True
  | fromHere up names => up = names.length

/-- What is gone on from a place does not take back the ways out before it. -/
theorem exists_walk_fromHere (up : Nat) (names : List String) (text : String) :
    ∃ up' names', (fromHere up names).walk text = fromHere up' names' ∧ up ≤ up' := by
  unfold walk
  generalize Text.splitChars '/' text.toList = parts
  induction parts generalizing up names with
  | nil => exact ⟨up, names, rfl, Nat.le_refl up⟩
  | cons part parts ih =>
      have hstep : ∃ up' names', (fromHere up names).step part = fromHere up' names' ∧ up ≤ up' := by
        unfold step
        split
        · exact ⟨up, names, rfl, Nat.le_refl up⟩
        · split
          · cases names with
            | nil => exact ⟨up + 1, [], rfl, Nat.le_succ up⟩
            | cons s names => exact ⟨up, names, rfl, Nat.le_refl up⟩
          · exact ⟨up, String.ofList part :: names, rfl, Nat.le_refl up⟩
      obtain ⟨up₁, names₁, hpart, hle₁⟩ := hstep
      obtain ⟨up₂, names₂, hrest, hle₂⟩ := ih up₁ names₁
      rw [List.foldl_cons, hpart]
      exact ⟨up₂, names₂, hrest, Nat.le_trans hle₁ hle₂⟩

end Location

namespace Path

/-- A relative path leads out of where it is taken, and then in. -/
theorem exists_location_fromHere {p : Path} (h : p.isAbsolute = false) :
    ∃ up names, p.location = .fromHere up names := by
  unfold location
  rw [h]
  obtain ⟨up, names, hwalk, -⟩ := Location.exists_walk_fromHere 0 [] p.text
  exact ⟨up, names, hwalk⟩

theorem locationFrom_of_isAbsolute {base p : Path} (h : p.isAbsolute = true) :
    base.locationFrom p = p.location :=
  if_pos h

theorem locationFrom_of_relative {base p : Path} (h : p.isAbsolute = false) :
    base.locationFrom p = base.location.walk p.text := by
  unfold locationFrom
  rw [h]
  rfl

/-- An absolute path says by itself where it leads. -/
theorem locationFrom_locate_of_isAbsolute {base p : Path} (h : (base.locate p).isAbsolute = true) :
    base.locationFrom (base.locate p) = base.locationFrom p := by
  rw [locationFrom_of_isAbsolute h, locate_eq_path,
    Location.location_path (isNamed_locationFrom base p)]

/-- **To locate a path twice leads where it leads to locate it once** exactly if the path is absolute
or the base goes out as often as in. -/
theorem locationFrom_locate_iff {base p : Path} :
    base.locationFrom (base.locate p) = base.locationFrom p ↔
      p.isAbsolute = true ∨ base.location.IsBalanced := by
  cases hp : p.isAbsolute with
  | true =>
      refine iff_of_true (locationFrom_locate_of_isAbsolute ?_) (.inl rfl)
      rw [isAbsolute_locate, hp, Bool.true_or]
  | false =>
      cases hbase : base.isAbsolute with
      | true =>
          obtain ⟨names, hnames⟩ := exists_location hbase
          refine iff_of_true (locationFrom_locate_of_isAbsolute ?_) (.inr ?_)
          · rw [isAbsolute_locate, hbase, Bool.or_true]
          · rw [hnames]
            trivial
      | false =>
          obtain ⟨up, names, hlocation⟩ := exists_location_fromHere hbase
          obtain ⟨up', names', hwalk, hle⟩ := Location.exists_walk_fromHere up names p.text
          have honce : base.locationFrom p = .fromHere up' names' := by
            rw [locationFrom_of_relative hp, hlocation, hwalk]
          have hnamed := isNamed_locationFrom base p
          have hlocated : (base.locate p).isAbsolute = false := by
            rw [isAbsolute_locate, hp, hbase, Bool.or_false]
          rw [honce] at hnamed
          rw [locationFrom_of_relative hlocated, locate_eq_path, honce, hlocation,
            Location.walk_path_fromHere hnamed]
          simp only [Location.fromHere.injEq, List.append_right_eq_self, List.drop_eq_nil_iff,
            Bool.false_eq_true, false_or, Location.IsBalanced]
          -- the ways out that the path leaves go back through the base, and on
          omega

end Path

end StorySuite
