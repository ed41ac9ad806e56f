import Mathlib.Data.List.Nodup
import StorySuite.Json.Basic

/-!
# Proofs — Json — what is put into a map

A map keeps its keys in the order in which they came.  Putting a field in gives its key the new
value, and leaves all else as it is; a key that is new comes last.  So a map into which the fields of
another are put has its own keys, and behind them those of the other that are new, and what the other
says of a key counts.

* `keys_insert`, `get?_insert`: one field.
* **`keys_insertAll`**, **`get?_insertAll`**: the fields of a map.
-/

namespace StorySuite.DataMap

open Json

variable {m more : DataMap}

/-- Putting a field into a map adds its key, unless the key is there. -/
theorem keys_insert (m : DataMap) (key : String) (v : Value) :
    (m.insert key v).keys = if key ∈ m.keys then m.keys else m.keys ++ [key] := by
  induction m with
  | nil => rfl
  | cons f rest ih =>
      obtain ⟨k, w⟩ := f
      simp only [DataMap.insert, DataMap.keys] at ih ⊢
      by_cases hk : k = key
      · simp [hk]
      · by_cases hin : key ∈ rest.map (·.1) <;> simp [hk, Ne.symm hk, ih, hin]

theorem mem_keys_insert {key k : String} {v : Value} :
    k ∈ (m.insert key v).keys ↔ k = key ∨ k ∈ m.keys := by
  rw [keys_insert]
  by_cases hin : key ∈ m.keys
  · rw [if_pos hin]
    exact ⟨Or.inr, fun h => h.elim (fun h => h ▸ hin) id⟩
  · rw [if_neg hin, List.mem_append, List.mem_singleton, or_comm]

/-- Putting a field into a map makes no key stand twice. -/
theorem nodup_keys_insert (hm : m.keys.Nodup) (key : String) (v : Value) :
    (m.insert key v).keys.Nodup := by
  rw [keys_insert]
  by_cases hin : key ∈ m.keys
  · rwa [if_pos hin]
  · rw [if_neg hin]
    refine List.nodup_append.mpr ⟨hm, List.nodup_singleton key, ?_⟩
    rintro a ha b hb rfl
    exact hin (List.mem_singleton.mp hb ▸ ha)

@[simp] theorem get?_nil (key : String) : get? [] key = none := rfl

theorem get?_cons (k : String) (v : Value) (rest : DataMap) (key : String) :
    get? ((k, v) :: rest) key = if k = key then some v else get? rest key := by
  by_cases hk : k = key <;> simp [get?, hk]

/-- A field that was put in is found under its key, and all else as before. -/
theorem get?_insert (m : DataMap) (key : String) (v : Value) (k : String) :
    (m.insert key v).get? k = if key = k then some v else m.get? k := by
  induction m with
  | nil => rw [DataMap.insert, get?_cons]
  | cons f rest ih =>
      obtain ⟨l, w⟩ := f
      simp only [DataMap.insert, beq_iff_eq]
      by_cases hl : l = key
      · -- the key is there: its value is another now
        subst hl
        rw [if_pos rfl, get?_cons, get?_cons]
        by_cases hk : l = k <;> simp [hk]
      · rw [if_neg hl, get?_cons, get?_cons, ih]
        by_cases hk : l = k
        · subst hk
          rw [if_pos rfl, if_neg (Ne.symm hl), if_pos rfl]
        · rw [if_neg hk, if_neg hk]

/-! ### The fields of a map -/

theorem insertAll_cons (m : DataMap) (k : String) (v : Value) (rest : DataMap) :
    m.insertAll ((k, v) :: rest) = (m.insert k v).insertAll rest := rfl

theorem nodup_keys_insertAll (more : DataMap) (hm : m.keys.Nodup) :
    (m.insertAll more).keys.Nodup := by
  induction more generalizing m with
  | nil => exact hm
  | cons f rest ih => exact ih (nodup_keys_insert hm f.1 f.2)

/-- **The keys of a map into which fields are put** are its own, and behind them the new ones. -/
theorem keys_insertAll (m : DataMap) (hmore : more.keys.Nodup) :
    (m.insertAll more).keys = m.keys ++ more.keys.filter (· ∉ m.keys) := by
  induction more generalizing m with
  | nil => exact (List.append_nil _).symm
  | cons f rest ih =>
      obtain ⟨k, v⟩ := f
      obtain ⟨hk, hrest⟩ := List.nodup_cons.mp hmore
      -- behind `k` there is no other field of that key, so it counts as one of the map's own
      have hfilter : (keys rest).filter (· ∉ (m.insert k v).keys) =
          (keys rest).filter (· ∉ m.keys) := by
        refine List.filter_congr fun l hl => ?_
        have hne : l ≠ k := fun h => hk (h ▸ hl)
        simp [mem_keys_insert, hne]
      have hkeys : keys ((k, v) :: rest) = k :: keys rest := rfl
      rw [insertAll_cons, ih _ hrest, hfilter, keys_insert, hkeys]
      by_cases hin : k ∈ m.keys <;> simp [hin]

theorem get?_eq_none_of_not_mem {key : String} (h : key ∉ m.keys) : m.get? key = none := by
  induction m with
  | nil => rfl
  | cons f rest ih =>
      obtain ⟨hne, hrest⟩ := not_or.mp (mt List.mem_cons.mpr h)
      rw [get?_cons, if_neg (Ne.symm hne), ih hrest]

theorem get?_isSome_of_mem {key : String} (h : key ∈ m.keys) : (m.get? key).isSome = true := by
  obtain ⟨f, hf, rfl⟩ := List.mem_map.mp h
  rw [get?, Option.isSome_map, List.find?_isSome]
  exact ⟨f, hf, beq_iff_eq.mpr rfl⟩

/-- **What a map says in which fields are put**: what the fields say where they say something, else
what it said before. -/
theorem get?_insertAll (m : DataMap) (hmore : more.keys.Nodup) (key : String) :
    (m.insertAll more).get? key = (more.get? key).or (m.get? key) := by
  induction more generalizing m with
  | nil => rfl
  | cons f rest ih =>
      obtain ⟨k, v⟩ := f
      obtain ⟨hk, hrest⟩ := List.nodup_cons.mp hmore
      rw [insertAll_cons, ih _ hrest, get?_insert, get?_cons]
      by_cases hkey : k = key
      · subst hkey
        rw [if_pos rfl, if_pos rfl, get?_eq_none_of_not_mem hk]
        rfl
      · rw [if_neg hkey, if_neg hkey]

end StorySuite.DataMap
