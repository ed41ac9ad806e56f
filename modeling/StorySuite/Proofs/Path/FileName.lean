import StorySuite.Proofs.Path.Location

/-!
# Proofs — Path — the file that a path names

A path that is written down from the root (`Location.path`) has its last name as file name, and the
rest of its names as directory.  A path that ends in a name keeps it when it is cleaned.

* `splitName_eq_iff`: where a file name is cut into stem and extension.
* `Location.fileName?_path`, `Location.parent?_path`, `Location.withFileName_path`: the file, its
  directory, and its siblings.
* `Path.head?_names_locationFrom`: a path that names a file leads to one of that name.
-/

namespace StorySuite

namespace Path

/-- What is cut at a point was written with it. -/
theorem eq_of_splitName {s stem ext : String} (h : splitName s = (stem, some ext)) :
    s = stem ++ "." ++ ext ∧ stem ≠ "" ∧ '.' ∉ ext.toList := by
  unfold splitName at h
  dsimp only at h
  have hsplit := List.takeWhile_append_dropWhile (p := fun c => c != '.') (l := s.toList.reverse)
  have hafter : ∀ c ∈ s.toList.reverse.takeWhile (fun c => c != '.'), (c != '.') = true :=
    List.all_eq_true.mp List.all_takeWhile
  -- the last point is the first one from behind
  generalize s.toList.reverse.takeWhile (fun c => c != '.') = after at h hsplit hafter
  split at h
  · cases h
  · rename_i point before hdrop
    have hpoint : point = '.' := by
      have hhead := List.head?_dropWhile_not (fun c => c != '.') s.toList.reverse
      rw [hdrop] at hhead
      simpa using hhead
    rw [hdrop, hpoint] at hsplit
    split at h
    · cases h
    · rename_i hbefore
      simp only [Prod.mk.injEq, Option.some.injEq] at h
      obtain ⟨rfl, rfl⟩ := h
      refine ⟨?_, ?_, ?_⟩
      · rw [← String.toList_inj, ← List.reverse_inj, ← hsplit]
        simp
      · intro hempty
        exact hbefore (by simpa using hempty)
      · intro hmem
        simpa using hafter '.' (by simpa using hmem)

/-- A name is cut at the point behind which there is no other. -/
theorem splitName_append {stem ext : String} (hstem : stem ≠ "") (hext : '.' ∉ ext.toList) :
    splitName (stem ++ "." ++ ext) = (stem, some ext) := by
  have hback : (stem ++ "." ++ ext).toList.reverse =
      ext.toList.reverse ++ '.' :: stem.toList.reverse := by simp
  have hall : ∀ c ∈ ext.toList.reverse, (c != '.') = true := by
    intro c hc
    rw [bne_iff_ne]
    rintro rfl
    exact hext (List.mem_reverse.mp hc)
  have htake : (stem ++ "." ++ ext).toList.reverse.takeWhile (fun c => c != '.') =
      ext.toList.reverse := by
    rw [hback, List.takeWhile_append_of_pos hall]
    simp
  have hdrop : (stem ++ "." ++ ext).toList.reverse.dropWhile (fun c => c != '.') =
      '.' :: stem.toList.reverse := by
    rw [hback, List.dropWhile_append_of_pos hall]
    simp
  unfold splitName
  simp only [htake, hdrop]
  simp [hstem]

/-- **A file name is cut at its last point**, which is not in front. -/
theorem splitName_eq_iff {s stem ext : String} :
    splitName s = (stem, some ext) ↔ s = stem ++ "." ++ ext ∧ stem ≠ "" ∧ '.' ∉ ext.toList := by
  constructor
  · exact eq_of_splitName
  · rintro ⟨rfl, hstem, hext⟩
    exact splitName_append hstem hext

end Path

namespace Location

variable {s : String} {dir : List String}

theorem fileName?_path (h : (fromRoot (s :: dir)).IsNamed) :
    (fromRoot (s :: dir)).path.fileName? = some s := by
  unfold Path.fileName?
  rw [components_path h, List.reverse_cons, List.map_append, ← List.cons_append,
    List.map_singleton, List.getLast?_concat]

theorem parent?_path (h : (fromRoot (s :: dir)).IsNamed) :
    (fromRoot (s :: dir)).path.parent? = some (fromRoot dir).path := by
  have hkept : (fromRoot dir).kept ≠ [] := by simp [kept]
  unfold Path.parent?
  rw [components_path h, List.reverse_cons, List.map_append, ← List.cons_append,
    List.map_singleton, List.getLast?_concat, List.dropLast_concat, path_eq_ofComponents hkept]
  simp [kept]

/-- Names written from the root end like the last of them. -/
theorem exists_intercalate_reverse (d : String) : ∀ dir : List String,
    ∃ front, "/".intercalate (d :: dir).reverse = front ++ d
  | [] => ⟨"", by simp⟩
  | d' :: dir => by
      refine ⟨"/".intercalate (d' :: dir).reverse ++ "/", ?_⟩
      rw [List.reverse_cons, String.intercalate_append_of_ne_nil (by simp) (List.cons_ne_nil _ _),
        String.intercalate_singleton]

theorem isAbsolute_of_isName (h : IsName s) : (Path.mk s).isAbsolute = false := by
  unfold Path.isAbsolute
  show (s.toList.head? == some '/') = false
  cases hs : s.toList with
  | nil => rfl
  | cons first rest =>
      refine beq_false_of_ne fun heq => h.unbroken ?_
      rw [hs, ← Option.some.inj heq]
      exact List.mem_cons_self

/-- A name taken from a directory is a file in it. -/
theorem join_path (h : (fromRoot dir).IsNamed) (hs : IsName s) :
    (fromRoot dir).path.join ⟨s⟩ = (fromRoot (s :: dir)).path := by
  have hrelative : ¬ (Path.mk s).isAbsolute = true := by
    rw [isAbsolute_of_isName hs]
    exact Bool.false_ne_true
  unfold Path.join
  rw [if_neg hrelative, path_fromRoot, path_fromRoot]
  cases dir with
  | nil => simp
  | cons d dir =>
      -- what is written of the directory does not end with a separator
      obtain ⟨front, hfront⟩ := exists_intercalate_reverse d dir
      have hd : IsName d := h d List.mem_cons_self
      have hlast : ("/" ++ "/".intercalate (d :: dir).reverse).toList.getLast? ≠ some '/' := by
        rw [hfront, String.toList_append, String.toList_append, List.getLast?_append,
          List.getLast?_append]
        cases hlast : d.toList.getLast? with
        | none => exact absurd (List.getLast?_eq_none_iff.mp hlast) hd.toList_ne.1
        | some last =>
            intro heq
            refine hd.unbroken ?_
            cases heq
            exact List.mem_of_getLast? hlast
      have hbehind : "/".intercalate (s :: d :: dir).reverse =
          "/".intercalate (d :: dir).reverse ++ "/" ++ s := by
        rw [List.reverse_cons, String.intercalate_append_of_ne_nil (by simp)
          (List.cons_ne_nil _ _), String.intercalate_singleton]
      have hcond : (("/" ++ "/".intercalate (d :: dir).reverse).toList.isEmpty ||
          ("/" ++ "/".intercalate (d :: dir).reverse).toList.getLast? == some '/') = false := by
        rw [Bool.or_eq_false_iff]
        exact ⟨by simp, beq_false_of_ne hlast⟩
      simp only [hcond, Bool.false_eq_true, if_false, hbehind, String.append_assoc]

/-- A sibling of a file has the same directory. -/
theorem withFileName_path (h : (fromRoot (s :: dir)).IsNamed) {s' : String} (hs' : IsName s') :
    (fromRoot (s :: dir)).path.withFileName s' = (fromRoot (s' :: dir)).path := by
  have hdir : (fromRoot dir).IsNamed := fun s hs => h s (List.mem_cons_of_mem _ hs)
  rw [← join_path hdir hs']
  unfold Path.withFileName
  rw [fileName?_path h, parent?_path h]
  rfl

end Location

namespace Path

/-- What is walked through is kept as cleaning keeps it. -/
theorem kept_walk {p : Path} (hp : p.isAbsolute = false) (l : Location) :
    (l.walk p.text).kept = p.components.foldl pushClean l.kept := by
  unfold components
  split
  · rename_i rest htext
    unfold isAbsolute at hp
    rw [htext] at hp
    cases hp
  · exact (Location.foldl_pushClean_partComponents true _ l).symm

theorem foldl_pushClean_of_getLast? {cs : List Component} {s : String}
    (h : cs.getLast? = some (.name s)) (acc : List Component) :
    ∃ rest, cs.foldl pushClean acc = .name s :: rest := by
  obtain ⟨front, rfl⟩ := List.getLast?_eq_some_iff.mp h
  rw [List.foldl_append]
  exact ⟨_, rfl⟩

/-- A path that names a file leads to one of that name. -/
theorem head?_names_locationFrom {base p : Path} {s : String} (h : p.fileName? = some s) :
    (base.locationFrom p).names.head? = some s := by
  have hlast : p.components.getLast? = some (.name s) := by
    unfold fileName? at h
    split at h
    · rename_i s' hlast
      rw [hlast, Option.some.inj h]
    · cases h
  have hnames : ∀ {l : Location} {rest : List Component}, l.kept = .name s :: rest →
      l.names.head? = some s := by
    intro l rest hkept
    cases l with
    | fromRoot names => cases names <;> simp_all [Location.kept, Location.names]
    | fromHere up names =>
        cases names with
        | cons name names => simp_all [Location.kept, Location.names]
        | nil =>
            -- ways out are no names
            have hmem : Component.name s ∈ List.replicate up Component.parent := by
              have hkept : List.replicate up Component.parent = .name s :: rest := hkept
              rw [hkept]
              exact List.mem_cons_self
            cases List.eq_of_mem_replicate hmem
  unfold locationFrom
  split
  · obtain ⟨rest, hrest⟩ := foldl_pushClean_of_getLast? hlast []
    exact hnames ((foldl_pushClean_components p).symm.trans hrest)
  · rename_i hp
    obtain ⟨rest, hrest⟩ := foldl_pushClean_of_getLast? hlast base.location.kept
    exact hnames ((kept_walk (by simpa using hp) base.location).trans hrest)

end Path

end StorySuite
