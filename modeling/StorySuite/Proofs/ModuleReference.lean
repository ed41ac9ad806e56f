import StorySuite.Proofs.Engine.Identities
import StorySuite.Proofs.Path.FileName

/-!
# Proofs — Module reference — one module, one reference

A reference is made of the place that a path leads to, and of nothing else that the path says: the
names from the root down to the file, of which the last is cut into stem and extension
(`ModuleReference.IsOf`).  Hence all spellings of one file give one reference, and what a reference
gives of its file gives the reference again.

The unit that is generated for a module lies beside it, under a name that the stem, the marker and
the extension make up.  The marker cannot be taken for a part of another module's stem: the name is
cut at its last point, and what stands before the extension ends with the marker.

* `ModuleReference.exists_isOf`: the names that a reference is made of.
* `ModuleReference.IsOf.realPath_eq_of_virtualPath_eq`: two modules have two units.
* `ModuleReference.urlOf_within`, `ModuleReference.urlOf_outside`: the URL below the working
  directory and elsewhere.
* **`ModuleReference.new_isCanonical`**: the reference of a module, taken from an absolute
  directory, is canonical.
-/

namespace StorySuite

namespace Path

theorem dropComponents?_eq_some_iff {bs cs rest : List Component} :
    dropComponents? bs cs = some rest ↔ cs = bs ++ rest := by
  fun_induction dropComponents? bs cs with
  | case1 cs => simp
  | case2 b bs => simp
  | case3 bs c cs ih => simp [ih]
  | case4 b bs c cs hne =>
      constructor
      · intro h
        cases h
      · intro h
        exact absurd (List.cons_eq_cons.mp h).1.symm hne

end Path

namespace ModuleReference

/-! ### The names that a reference is made of -/

/-- The name of the unit for a module whose file name is cut into `stem` and `ext`. -/
def virtualName (stem ext : String) : String :=
  stem ++ "." ++ virtualMarker ++ "." ++ ext

/-- The reference is of the file that the stem and the extension name, in the directory `dir`, of
which the last name stands first. -/
structure IsOf (m : ModuleReference) (dir : List String) (stem ext : String) : Prop where
  named : (Location.fromRoot ((stem ++ "." ++ ext) :: dir)).IsNamed
  stem_ne : stem ≠ ""
  pointless : '.' ∉ ext.toList
  real : m.realPath = (Location.fromRoot ((stem ++ "." ++ ext) :: dir)).path
  unit : m.virtualPath = (Location.fromRoot (virtualName stem ext :: dir)).path
  dialect : Dialect.ofExtension? ext = some m.dialect

section Names

variable {stem ext : String}

/-- The unit's name is cut like the module's. -/
theorem splitName_virtualName (hext : '.' ∉ ext.toList) :
    Path.splitName (virtualName stem ext) = (stem ++ "." ++ virtualMarker, some ext) := by
  refine Path.splitName_append ?_ hext
  intro h
  simpa [virtualMarker] using congrArg String.length h

/-- What names a module can name its unit too. -/
theorem isName_virtualName (h : Location.IsName (stem ++ "." ++ ext)) :
    Location.IsName (virtualName stem ext) := by
  have hlong : 2 < (virtualName stem ext).length := by
    simp only [virtualName, virtualMarker, String.length_append]
    have hmarker : "storytest".length = 9 := rfl
    omega
  have hne : ∀ short : String, short.length ≤ 2 → virtualName stem ext ≠ short := by
    rintro short hshort rfl
    exact absurd hlong (Nat.not_lt.mpr hshort)
  refine ⟨hne _ (by decide), hne _ (by decide), hne _ (by decide), ?_⟩
  have hunbroken := h.unbroken
  simp only [String.toList_append, List.mem_append, not_or] at hunbroken
  simp only [virtualName, String.toList_append, List.mem_append, not_or]
  exact ⟨⟨⟨⟨hunbroken.1.1, by decide⟩, by decide⟩, by decide⟩, hunbroken.2⟩

/-- No module is its own unit. -/
theorem virtualName_ne (stem ext : String) : virtualName stem ext ≠ stem ++ "." ++ ext := by
  intro h
  have hlength := congrArg String.length h
  simp only [virtualName, String.length_append] at hlength
  have hmarker : virtualMarker.length = 9 := rfl
  omega

/-- **The unit's name tells the module's.** -/
theorem virtualName_inj {stem' ext' : String} (hext : '.' ∉ ext.toList) (hext' : '.' ∉ ext'.toList)
    (h : virtualName stem ext = virtualName stem' ext') : stem = stem' ∧ ext = ext' := by
  have hsplit := congrArg Path.splitName h
  rw [splitName_virtualName hext, splitName_virtualName hext', Prod.mk.injEq,
    Option.some.injEq] at hsplit
  refine ⟨?_, hsplit.2⟩
  have hlists := congrArg String.toList hsplit.1
  simp only [String.toList_append, List.append_assoc] at hlists
  exact String.toList_inj.mp (List.append_cancel_right hlists)

end Names

section Reference

variable {path cwd : Path} {m : ModuleReference}

theorem ofPath?_path {s stem ext : String} {dir : List String}
    (h : (Location.fromRoot (s :: dir)).IsNamed) (hcut : Path.splitName s = (stem, some ext)) :
    Dialect.ofPath? (Location.fromRoot (s :: dir)).path = Dialect.ofExtension? ext := by
  unfold Dialect.ofPath? Path.extension?
  rw [Location.fileName?_path h]
  simp [hcut]

/-- **A reference is made of the place** that the path leads to. -/
theorem exists_isOf (hcwd : cwd.isAbsolute = true) (h : ModuleReference.new path cwd = .ok m) :
    ∃ dir stem ext, m.IsOf dir stem ext ∧
      cwd.locationFrom path = .fromRoot ((stem ++ "." ++ ext) :: dir) := by
  obtain ⟨names, hnames⟩ := Path.exists_locationFrom hcwd path
  have hnamed := Path.isNamed_locationFrom cwd path
  rw [hnames] at hnamed
  have hreal : cwd.locate path = (Location.fromRoot names).path := by
    rw [Path.locate_eq_path, hnames]
  unfold ModuleReference.new at h
  dsimp only at h
  rw [hreal] at h
  split at h
  · cases h
  · rename_i dialect hdialect
    cases h
    cases names with
    -- a dialect is told from an extension, so there is a name, and it has one
    | nil => cases hdialect
    | cons s dir =>
        cases hcut : Path.splitName s with
        | mk stem ext? =>
            cases ext? with
            | none =>
                unfold Dialect.ofPath? Path.extension? at hdialect
                rw [Location.fileName?_path hnamed] at hdialect
                simp [hcut] at hdialect
            | some ext =>
                obtain ⟨rfl, hstem, hext⟩ := Path.splitName_eq_iff.mp hcut
                have hs := hnamed (stem ++ "." ++ ext) List.mem_cons_self
                refine ⟨dir, stem, ext, ⟨hnamed, hstem, hext, rfl, ?_, ?_⟩, hnames⟩
                · -- the sibling has a name again
                  show virtualSibling _ = _
                  unfold virtualSibling Path.stem? Path.extension?
                  rw [Location.fileName?_path hnamed]
                  simp only [Option.map_some, Option.bind_some, Option.getD_some, hcut]
                  exact Location.withFileName_path hnamed (isName_virtualName hs)
                · rw [← ofPath?_path hnamed hcut]
                  exact hdialect

/-- The reference is of the place: paths that lead there from the directory give it. -/
theorem new_congr {other : Path} (h : cwd.locationFrom other = cwd.locationFrom path) :
    ModuleReference.new other cwd = ModuleReference.new path cwd := by
  have hlocate : cwd.locate other = cwd.locate path := by
    rw [Path.locate_eq_path, Path.locate_eq_path, h]
  unfold ModuleReference.new
  rw [hlocate]

/-- A path with a known extension has a reference, of that dialect. -/
theorem exists_new_of_dialect {dialect : Dialect} (h : Dialect.ofPath? path = some dialect)
    (hcwd : cwd.isAbsolute = true) :
    ∃ m, ModuleReference.new path cwd = .ok m ∧ m.dialect = dialect := by
  obtain ⟨names, hnames⟩ := Path.exists_locationFrom hcwd path
  have hnamed := Path.isNamed_locationFrom cwd path
  -- the file's name is the path's, and the dialect is told from it
  have hsame : Dialect.ofPath? (cwd.locate path) = some dialect := by
    rw [Path.locate_eq_path, hnames]
    rw [hnames] at hnamed
    unfold Dialect.ofPath? Path.extension? at h ⊢
    cases hfile : path.fileName? with
    | none =>
        rw [hfile] at h
        cases h
    | some s =>
        have hhead : (cwd.locationFrom path).names.head? = some s :=
          Path.head?_names_locationFrom hfile
        rw [hnames] at hhead
        cases names with
        | nil => cases hhead
        | cons s' dir =>
            obtain rfl : s' = s := Option.some.inj hhead
            rw [Location.fileName?_path hnamed, ← h, hfile]
  unfold ModuleReference.new
  dsimp only
  rw [hsame]
  exact ⟨_, rfl, rfl⟩

end Reference

namespace IsOf

variable {m m' : ModuleReference} {dir dir' : List String} {stem stem' ext ext' : String}

theorem isName (h : m.IsOf dir stem ext) : Location.IsName (stem ++ "." ++ ext) :=
  h.named _ List.mem_cons_self

theorem unitNamed (h : m.IsOf dir stem ext) :
    (Location.fromRoot (virtualName stem ext :: dir)).IsNamed :=
  List.forall_mem_cons.mpr ⟨isName_virtualName h.isName, (List.forall_mem_cons.mp h.named).2⟩

/-- The unit lies beside the module. -/
theorem parent? (h : m.IsOf dir stem ext) :
    m.realPath.parent? = some (Location.fromRoot dir).path ∧
      m.virtualPath.parent? = some (Location.fromRoot dir).path := by
  rw [h.real, h.unit]
  exact ⟨Location.parent?_path h.named, Location.parent?_path h.unitNamed⟩

/-- The unit is not the module. -/
theorem virtualPath_ne (h : m.IsOf dir stem ext) : m.virtualPath ≠ m.realPath := by
  rw [h.real, h.unit, Ne, Location.path_inj h.unitNamed h.named]
  intro heq
  exact virtualName_ne stem ext (List.cons_eq_cons.mp (Location.fromRoot.inj heq)).1

/-- The unit has the module's dialect. -/
theorem ofPath? (h : m.IsOf dir stem ext) :
    Dialect.ofPath? m.realPath = some m.dialect ∧
      Dialect.ofPath? m.virtualPath = some m.dialect := by
  have hcut : Path.splitName (stem ++ "." ++ ext) = (stem, some ext) :=
    Path.splitName_append h.stem_ne h.pointless
  rw [h.real, h.unit, ofPath?_path h.named hcut,
    ofPath?_path h.unitNamed (splitName_virtualName h.pointless)]
  exact ⟨h.dialect, h.dialect⟩

/-- **Two modules have two units.** -/
theorem realPath_eq_of_virtualPath_eq (h : m.IsOf dir stem ext) (h' : m'.IsOf dir' stem' ext')
    (heq : m'.virtualPath = m.virtualPath) : m'.realPath = m.realPath := by
  rw [h.unit, h'.unit, Location.path_inj h'.unitNamed h.unitNamed] at heq
  obtain ⟨hname, hdir⟩ := List.cons_eq_cons.mp (Location.fromRoot.inj heq)
  obtain ⟨hstem, hext⟩ := virtualName_inj h'.pointless h.pointless hname
  rw [h.real, h'.real, hdir, hstem, hext]

end IsOf

/-! ### The URL -/

section Url

variable {names outer : List String}

theorem filter_isName_map (names : List String) :
    (names.map Component.name).filter Component.isName = names.map Component.name :=
  List.filter_eq_self.mpr (List.forall_mem_map.mpr fun _ _ => rfl)

theorem map_text_map (names : List String) :
    (names.map Component.name).map Component.text = names := by
  rw [List.map_map]
  exact List.map_id _

/-- Outside the directory, the URL is the path. -/
theorem urlOf_outside (h : (Location.fromRoot names).IsNamed) {base : Path}
    (hout : ¬ base.components <+: (Location.fromRoot names).path.components) :
    urlOf (Location.fromRoot names).path base = (Location.fromRoot names).path.text := by
  have hnone : (Location.fromRoot names).path.stripBase? base = none := by
    refine Option.eq_none_iff_forall_ne_some.mpr fun rest hrest => hout ?_
    exact ⟨rest, (Path.dropComponents?_eq_some_iff.mp hrest).symm⟩
  unfold urlOf
  rw [hnone, Location.components_path h, Location.path_fromRoot]
  show "/" ++ "/".intercalate (((names.reverse.map Component.name).filter _).map _) = _
  rw [filter_isName_map, map_text_map]

/-- Below the directory, the URL tells the way from there. -/
theorem urlOf_within (h : (Location.fromRoot (names ++ outer)).IsNamed)
    (houter : (Location.fromRoot outer).IsNamed) :
    urlOf (Location.fromRoot (names ++ outer)).path (Location.fromRoot outer).path =
      "/" ++ "/".intercalate names.reverse := by
  have hrest : (Location.fromRoot (names ++ outer)).path.stripBase? (Location.fromRoot outer).path =
      some (names.reverse.map .name) := by
    refine Path.dropComponents?_eq_some_iff.mpr ?_
    rw [Location.components_path h, Location.components_path houter]
    simp
  unfold urlOf
  rw [hrest]
  show "/" ++ "/".intercalate (((names.reverse.map Component.name).filter _).map _) = _
  rw [filter_isName_map, map_text_map]

/-- What is below a directory by its components has the directory's names. -/
theorem exists_append_of_components_prefix (h : (Location.fromRoot names).IsNamed)
    (houter : (Location.fromRoot outer).IsNamed)
    (hin : (Location.fromRoot outer).path.components <+:
      (Location.fromRoot names).path.components) : ∃ inner, names = inner ++ outer := by
  rw [Location.components_path h, Location.components_path houter, List.prefix_cons_inj] at hin
  obtain ⟨inner, hinner⟩ := hin
  obtain ⟨front, back, hsplit, hfront, -⟩ := List.map_eq_append_iff.mp hinner.symm
  have hsame : front = outer.reverse :=
    List.map_inj_right (fun _ _ => Component.name.inj) |>.mp hfront
  refine ⟨back.reverse, ?_⟩
  rw [← List.reverse_reverse names, hsplit, hsame, List.reverse_append, List.reverse_reverse]

/-- Names written from the root have nothing but the names between the separators. -/
theorem mem_splitAt_names {s : String} (h : ∀ s ∈ names, Location.IsName s)
    (hs : s ∈ Text.splitAt '/' ("/" ++ "/".intercalate names)) : s = "" ∨ s ∈ names := by
  unfold Text.splitAt at hs
  rw [String.toList_append] at hs
  have hfront : Text.splitChars '/' ("/".toList ++ ("/".intercalate names).toList) =
      [] :: Text.splitChars '/' ("/".intercalate names).toList := rfl
  rw [hfront, List.map_cons, List.mem_cons] at hs
  rcases hs with hs | hs
  · exact .inl hs
  · by_cases hnil : names = []
    · rw [hnil] at hs
      exact .inl (List.mem_singleton.mp hs)
    · rw [String.toList_intercalate, show "/".toList = ['/'] from rfl, Text.splitChars_intercalate
        (fun h => hnil (List.map_eq_nil_iff.mp h))
        (List.forall_mem_map.mpr fun s hs => (h s hs).unbroken), List.map_map] at hs
      obtain ⟨s', hs', rfl⟩ := List.mem_map.mp hs
      refine .inr ?_
      rwa [Function.comp_apply, String.ofList_toList]

/-- No name that is written from the root leads out, and none stays. -/
theorem not_mem_splitAt_names (h : ∀ s ∈ names, Location.IsName s) :
    "." ∉ Text.splitAt '/' ("/" ++ "/".intercalate names) ∧
      ".." ∉ Text.splitAt '/' ("/" ++ "/".intercalate names) := by
  constructor
  · intro hmem
    rcases mem_splitAt_names h hmem with heq | hname
    · exact absurd heq (by decide)
    · exact (h _ hname).notHere rfl
  · intro hmem
    rcases mem_splitAt_names h hmem with heq | hname
    · exact absurd heq (by decide)
    · exact (h _ hname).notUp rfl

end Url

/-! ### Canonical references -/

/-- What a reference `m` is to the module at `path`, taken from `cwd`. -/
structure IsCanonical (cwd path : Path) (m : ModuleReference) : Prop where
  /-- The path of the file is written from the root, by names only. -/
  written : ∃ names, names ≠ [] ∧ (∀ s ∈ names, Location.IsName s) ∧
    m.realPath = ⟨"/" ++ "/".intercalate names⟩
  isAbsolute : m.realPath.isAbsolute = true
  /-- The path of the file gives the reference again. -/
  fixed : ModuleReference.new m.realPath cwd = .ok m
  /-- All paths give it that lead to the file, and no others. -/
  spelled : ∀ other : Path,
    ModuleReference.new other cwd = .ok m ↔ cwd.locationFrom other = cwd.locationFrom path
  /-- The unit lies beside the file. -/
  beside : ∃ dir, m.realPath.parent? = some dir ∧ m.virtualPath.parent? = some dir
  apart : m.virtualPath ≠ m.realPath
  dialects : Dialect.ofPath? m.realPath = some m.dialect ∧
    Dialect.ofPath? m.virtualPath = some m.dialect
  /-- No other file has the unit. -/
  told : ∀ (cwd' path' : Path) (m' : ModuleReference), cwd'.isAbsolute = true →
    ModuleReference.new path' cwd' = .ok m' → m'.virtualPath = m.virtualPath →
      m'.realPath = m.realPath
  /-- The URL starts at the root. -/
  urlFront : m.publicUrl.toList.head? = some '/'
  urlSegments : "." ∉ Text.splitAt '/' m.publicUrl ∧ ".." ∉ Text.splitAt '/' m.publicUrl
  /-- Outside the working directory, the URL is the path. -/
  urlOutside : ¬ cwd.clean.components <+: m.realPath.components → m.publicUrl = m.realPath.text
  /-- Below it, what follows the separator in front leads there from the working directory. -/
  urlWithin : cwd.clean.components <+: m.realPath.components →
    ∃ rest, m.publicUrl = "/" ++ rest ∧ (cwd.clean.join ⟨rest⟩).clean = m.realPath

section Canonical

variable {path cwd : Path} {m : ModuleReference}

/-- What follows the separator in front of a URL leads to the file. -/
theorem clean_join_names {inner outer : List String}
    (h : (Location.fromRoot (inner ++ outer)).IsNamed) :
    ((Location.fromRoot outer).path.join ⟨"/".intercalate inner.reverse⟩).clean =
      (Location.fromRoot (inner ++ outer)).path := by
  have hinner : ∀ s ∈ inner, Location.IsName s := fun s hs => h s (List.mem_append_left outer hs)
  have houter : (Location.fromRoot outer).IsNamed :=
    fun s hs => h s (List.mem_append_right inner hs)
  have hrelative : (Path.mk ("/".intercalate inner.reverse)).isAbsolute = false := by
    by_cases hnil : inner = []
    · rw [hnil]
      rfl
    · have hwritten : (Location.fromHere 0 inner).path.isAbsolute = false :=
        Location.isAbsolute_path_fromHere hinner
      rwa [Location.path_fromHere (by simpa [Location.parts] using hnil)] at hwritten
  rw [Path.clean_eq_path, Path.location_join]
  unfold Path.locationFrom
  rw [hrelative]
  show ((Location.fromRoot outer).path.location.walk ("/".intercalate inner.reverse)).path = _
  rw [Location.location_path houter,
    Location.walk_names fun s hs => hinner s (List.mem_reverse.mp hs),
    Location.foldl_enter_fromRoot, List.reverse_reverse]

theorem publicUrl_eq (h : ModuleReference.new path cwd = .ok m) :
    m.publicUrl = urlOf m.realPath cwd.clean := by
  unfold ModuleReference.new at h
  dsimp only at h
  split at h
  · cases h
  · cases h
    rfl

/-- A URL is made of names. -/
theorem exists_publicUrl_names (hcwd : cwd.isAbsolute = true)
    (h : ModuleReference.new path cwd = .ok m) :
    ∃ names, (∀ s ∈ names, Location.IsName s) ∧ m.publicUrl = "/" ++ "/".intercalate names := by
  obtain ⟨dir, stem, ext, hof, -⟩ := exists_isOf hcwd h
  obtain ⟨outer, houter⟩ := Path.exists_location hcwd
  have houterNamed := Path.isNamed_location cwd
  have hnamed := hof.named
  rw [publicUrl_eq h, hof.real, Path.clean_eq_path, houter]
  rw [houter] at houterNamed
  by_cases hin : (Location.fromRoot outer).path.components <+:
      (Location.fromRoot ((stem ++ "." ++ ext) :: dir)).path.components
  · obtain ⟨inner, hinner⟩ := exists_append_of_components_prefix hnamed houterNamed hin
    rw [hinner] at hnamed ⊢
    refine ⟨inner.reverse, fun s hs => ?_, urlOf_within hnamed houterNamed⟩
    exact hnamed s (List.mem_append_left outer (List.mem_reverse.mp hs))
  · refine ⟨((stem ++ "." ++ ext) :: dir).reverse,
      fun s hs => hnamed s (List.mem_reverse.mp hs), ?_⟩
    rw [urlOf_outside hnamed hin, Location.path_fromRoot]

/-- **The reference of a module is canonical.**  Taken from an absolute directory, a path with a
known extension has a reference, of the dialect that its extension names, and every reference that
a path has is canonical. -/
theorem new_isCanonical (hcwd : cwd.isAbsolute = true) (path : Path) :
    (∀ dialect : Dialect, Dialect.ofPath? path = some dialect →
      ∃ m, ModuleReference.new path cwd = .ok m ∧ m.dialect = dialect) ∧
    ∀ m : ModuleReference, ModuleReference.new path cwd = .ok m → m.IsCanonical cwd path := by
  refine ⟨fun dialect h => exists_new_of_dialect h hcwd, fun m h => ?_⟩
  obtain ⟨dir, stem, ext, hof, hfile⟩ := exists_isOf hcwd h
  obtain ⟨url, hurlNames, hurl⟩ := exists_publicUrl_names hcwd h
  have hfixed : cwd.locationFrom m.realPath = cwd.locationFrom path := by
    rw [hof.real, Path.locationFrom_path_fromRoot hof.named, hfile]
  refine
    { written := ⟨((stem ++ "." ++ ext) :: dir).reverse, by simp,
        fun s hs => hof.named s (List.mem_reverse.mp hs), ?written⟩
      isAbsolute := ?absolute
      fixed := (new_congr hfixed).trans h
      spelled := fun other => ⟨fun hother => ?place, fun hother => (new_congr hother).trans h⟩
      beside := ⟨_, hof.parent?⟩
      apart := hof.virtualPath_ne
      dialects := hof.ofPath?
      told := fun cwd' path' m' hcwd' h' heq => ?told
      urlFront := ?front
      urlSegments := ?segments
      urlOutside := fun hout => ?outside
      urlWithin := fun hin => ?within }
  case written => rw [hof.real, Location.path_fromRoot]
  case absolute =>
    rw [hof.real]
    exact Location.isAbsolute_path_fromRoot _
  case place =>
    have hreal : (cwd.locationFrom other).path = (cwd.locationFrom path).path := by
      rw [← Path.locate_eq_path, ← Path.locate_eq_path, ← (new_paths hother).1, (new_paths h).1]
    exact (Location.path_inj (Path.isNamed_locationFrom cwd other)
      (Path.isNamed_locationFrom cwd path)).mp hreal
  case told =>
    obtain ⟨dir', stem', ext', hof', -⟩ := exists_isOf hcwd' h'
    exact hof.realPath_eq_of_virtualPath_eq hof' heq
  case front =>
    rw [hurl]
    simp
  case segments =>
    rw [hurl]
    exact not_mem_splitAt_names hurlNames
  case outside =>
    rw [publicUrl_eq h]
    rw [hof.real] at hout ⊢
    exact urlOf_outside hof.named hout
  case within =>
    obtain ⟨outer, houter⟩ := Path.exists_location hcwd
    have houterNamed := Path.isNamed_location cwd
    have hnamed := hof.named
    rw [publicUrl_eq h]
    rw [Path.clean_eq_path, hof.real, houter] at hin
    rw [houter] at houterNamed
    obtain ⟨inner, hinner⟩ := exists_append_of_components_prefix hnamed houterNamed hin
    rw [Path.clean_eq_path, hof.real, houter, hinner]
    rw [hinner] at hnamed
    exact ⟨_, urlOf_within hnamed houterNamed, clean_join_names hnamed⟩

/-- The reference of a module that is told by detours, from a directory that is told so itself. -/
theorem new_isCanonical_detours :
    (Path.mk "/work/./site/..").isAbsolute = true ∧
      ∃ m : ModuleReference, m.realPath = ⟨"/work/src/a.b.tsx"⟩ ∧
        m.virtualPath = ⟨"/work/src/a.b.storytest.tsx"⟩ ∧ m.publicUrl = "/src/a.b.tsx" ∧
        ModuleReference.new ⟨"../..//work/src/./lib/../a.b.tsx"⟩ ⟨"/work/./site/.."⟩ = .ok m ∧
        m.IsCanonical ⟨"/work/./site/.."⟩ ⟨"../..//work/src/./lib/../a.b.tsx"⟩ := by
  have habsolute : (Path.mk "/work/./site/..").isAbsolute = true := by decide
  have hcanonical := new_isCanonical habsolute ⟨"../..//work/src/./lib/../a.b.tsx"⟩
  obtain ⟨m, hm, -⟩ := hcanonical.1 .tsx (by decide +kernel)
  have hreal : m.realPath = ⟨"/work/src/a.b.tsx"⟩ := (new_paths hm).1
  refine ⟨habsolute, m, hreal, (new_paths hm).2, ?_, hm, hcanonical.2 m hm⟩
  rw [publicUrl_eq hm, hreal]
  rfl

end Canonical

end ModuleReference

end StorySuite
