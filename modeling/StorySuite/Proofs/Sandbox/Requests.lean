import StorySuite.Proofs.Path.Location
import StorySuite.Sandbox.Request

/-!
# Proofs — Sandbox — what is asked for under a required name

A name with a point in front is a path from the module's directory.  What is asked for instead is
where this path leads, written down from the root; it leads there.  A path can also say that only a
directory is meant by it: it ends in a separator, or in a way that leads to a directory
(`Resolver.AsksDirectory`).  This is lost where the place that the path leads to has a name.

A name without a point is the platform's or a package's.  The platform has modules behind some of
its own (`fs/promises`), and packages can have a module's name in front (`process/browser`).  All
of these are left to the platform.

* **`Resolver.keepsMark_iff`**: what is asked for under a name with a point in front.
* `Resolver.not_forall_keepsMark`: `./Button/` can be read as a file.
* **`Resolver.resolve_eq_classify_iff`**: which other names are looked up where they should be.
* `Resolver.not_forall_classify`: `process/browser` is not looked up among the packages.
-/

namespace StorySuite

namespace Text

variable {sep : Char}

/-- The last piece is the text, or what is behind a separator. -/
theorem getLast?_splitChars_iff {cs last : List Char} (hlast : sep ∉ last) :
    (splitChars sep cs).getLast? = some last ↔ cs = last ∨ sep :: last <:+ cs := by
  constructor
  · intro h
    by_cases hmem : sep ∈ cs
    · -- the text is cut at its last separator
      obtain ⟨after, before, hcs, hafter⟩ :=
        List.eq_append_cons_of_mem (List.mem_reverse.mpr hmem)
      obtain rfl : cs = before.reverse ++ sep :: after.reverse := by
        rw [← List.reverse_inj, hcs]
        simp
      have hback : sep ∉ after.reverse := by simpa using hafter
      rw [splitChars_append_cons, splitChars_of_not_mem hback,
        List.getLast?_concat] at h
      exact .inr ⟨before.reverse, by rw [Option.some.inj h]⟩
    · rw [splitChars_of_not_mem hmem] at h
      exact .inl (Option.some.inj h)
  · rintro (rfl | ⟨front, rfl⟩)
    · rw [splitChars_of_not_mem hlast]
      rfl
    · rw [splitChars_append_cons, splitChars_of_not_mem hlast, List.getLast?_concat]

/-- What stands before the first separator, if there is one. -/
theorem takeWhile_eq_iff {cs first : List Char} (hfirst : sep ∉ first) :
    cs.takeWhile (· != sep) = first ↔ cs = first ∨ first ++ [sep] <+: cs := by
  have hbefore : ∀ c ∈ first, (c != sep) = true := fun c hc =>
    bne_iff_ne.mpr fun heq => hfirst (heq ▸ hc)
  constructor
  · rintro rfl
    have hsplit : cs.takeWhile (· != sep) ++ cs.dropWhile (· != sep) = cs :=
      List.takeWhile_append_dropWhile
    cases hdrop : cs.dropWhile (· != sep) with
    | nil =>
        rw [hdrop, List.append_nil] at hsplit
        exact .inl hsplit.symm
    | cons c rest =>
        have hc : c = sep := by
          have hhead := List.head?_dropWhile_not (· != sep) cs
          rw [hdrop] at hhead
          simpa using hhead
        rw [hdrop, hc] at hsplit
        exact .inr ⟨rest, by rw [List.append_assoc]; exact hsplit⟩
  · rintro (rfl | ⟨rest, rfl⟩)
    · have hall : (cs ++ []).takeWhile (· != sep) = cs ++ [].takeWhile (· != sep) :=
        List.takeWhile_append_of_pos hbefore
      rwa [List.append_nil, List.takeWhile_nil, List.append_nil] at hall
    · rw [List.append_assoc, List.takeWhile_append_of_pos hbefore]
      simp

end Text

namespace Location

variable {l : Location} {s : String}

/-- The last part of a path decides on the name that it leads to. -/
theorem names_walk_ne_nil {last : List Char}
    (h : (Text.splitChars '/' s.toList).getLast? = some last)
    (hlast : last ∉ [[], ['.'], ['.', '.']]) (l : Location) : (l.walk s).names ≠ [] := by
  obtain ⟨front, hfront⟩ := List.getLast?_eq_some_iff.mp h
  have hstep : ∀ l : Location, (l.step last).names ≠ [] := by
    intro l
    unfold step
    rw [if_neg (by simp_all), if_neg (by simp_all)]
    cases l <;> exact List.cons_ne_nil _ _
  unfold walk
  rw [hfront, List.foldl_append]
  exact hstep _

/-- The last of some parts is the last that is read when they are written with separators. -/
theorem getLast?_splitChars_intercalate {parts : List String} (hlast : parts.getLast? = some s)
    (h : ∀ part ∈ parts, '/' ∉ part.toList) :
    (Text.splitChars '/' ("/".intercalate parts).toList).getLast? = some s.toList := by
  have hne : parts.map String.toList ≠ [] := by
    intro hnil
    rw [List.map_eq_nil_iff.mp hnil] at hlast
    cases hlast
  rw [String.toList_intercalate, show "/".toList = ['/'] from rfl,
    Text.splitChars_intercalate hne (List.forall_mem_map.mpr h), List.getLast?_map, hlast]
  rfl

theorem not_mem_of_mem_parts {up : Nat} {names : List String} (h : ∀ s ∈ names, IsName s) :
    ∀ part ∈ parts up names, '/' ∉ part.toList := by
  intro part hpart
  rcases List.mem_append.mp hpart with hpart | hpart
  · rw [List.eq_of_mem_replicate hpart]
    decide
  · exact (h part (List.mem_reverse.mp hpart)).unbroken

/-- What is written down ends with the last name. -/
theorem getLast?_splitChars_path {rest : List String} (h : l.IsNamed) (hs : l.names = s :: rest) :
    (Text.splitChars '/' l.path.text.toList).getLast? = some s.toList := by
  have hlast : ∀ {names}, names = s :: rest → names.reverse.getLast? = some s := by simp
  cases l with
  | fromRoot names =>
      have htext : ("/" ++ "/".intercalate names.reverse).toList =
          [] ++ '/' :: ("/".intercalate names.reverse).toList := by simp
      have hrest : (Text.splitChars '/' ("/".intercalate names.reverse).toList).getLast? =
          some s.toList :=
        getLast?_splitChars_intercalate (hlast hs) fun name hname =>
          (h name (List.mem_reverse.mp hname)).unbroken
      rw [path_fromRoot, htext, Text.splitChars_append_cons, List.getLast?_append, hrest]
      rfl
  | fromHere up names =>
      have hparts : (parts up names).getLast? = some s := by
        have hnames : names.reverse.getLast? = some s := hlast hs
        unfold parts
        rw [List.getLast?_append, hnames]
        rfl
      rw [path_fromHere fun hnil => by simp [hnil] at hparts]
      exact getLast?_splitChars_intercalate hparts (not_mem_of_mem_parts h)

end Location

namespace Resolver

/-! ### From the module's directory -/

/-- The name is a path from the module's directory. -/
def IsRelative (name : String) : Prop :=
  name = "." ∨ name = ".." ∨ ∃ front ∈ ["./", "../"], front.toList <+: name.toList

/-- Only a directory is meant by the text. -/
def AsksDirectory (s : String) : Prop :=
  s = "." ∨ s = ".." ∨ ∃ mark ∈ ["/", "/.", "/.."], mark.toList <:+ s.toList

instance (name : String) : Decidable (IsRelative name) := by
  unfold IsRelative
  infer_instance

instance (s : String) : Decidable (AsksDirectory s) := by
  unfold AsksDirectory
  infer_instance

/-- What is asked for leads to where the name leads from the module's directory, and only a
directory is meant by it exactly if only one is meant by the name. -/
def KeepsMark (r : Resolver) (name : String) : Prop :=
  ∃ q, r.resolve name = .path q ∧ q.location = r.moduleDir.locationFrom ⟨name⟩ ∧
    (AsksDirectory q.text ↔ AsksDirectory name)

/-- A directory is meant by a text whose last part is no name. -/
theorem asksDirectory_iff {s : String} (hs : s ≠ "") : AsksDirectory s ↔
    ∃ last ∈ [[], ['.'], ['.', '.']], (Text.splitChars '/' s.toList).getLast? = some last := by
  have hempty : s.toList ≠ [] := fun h => hs (String.toList_eq_nil_iff.mp h)
  have hlast : ∀ last ∈ [[], ['.'], ['.', '.']],
      ((Text.splitChars '/' s.toList).getLast? = some last ↔
        s.toList = last ∨ '/' :: last <:+ s.toList) := by
    intro last hmem
    refine Text.getLast?_splitChars_iff fun hsep => ?_
    simp only [List.mem_cons, List.not_mem_nil, or_false] at hmem
    rcases hmem with rfl | rfl | rfl <;> simp at hsep
  simp only [List.mem_cons, List.not_mem_nil, or_false, forall_eq_or_imp, forall_eq] at hlast
  obtain ⟨hnil, hhere, hup⟩ := hlast
  have hasks : AsksDirectory s ↔ s.toList = ['.'] ∨ s.toList = ['.', '.'] ∨
      ['/'] <:+ s.toList ∨ ['/', '.'] <:+ s.toList ∨ ['/', '.', '.'] <:+ s.toList := by
    simp only [AsksDirectory, List.mem_cons, List.not_mem_nil, or_false, exists_eq_or_imp,
      exists_eq_left]
    exact or_congr String.toList_inj.symm (or_congr String.toList_inj.symm Iff.rfl)
  simp only [hasks, List.mem_cons, List.not_mem_nil, or_false, exists_eq_or_imp, exists_eq_left,
    hnil, hhere, hup, hempty, false_or]
  grind

theorem asksDirectory_path {l : Location} (h : l.IsNamed) :
    AsksDirectory l.path.text ↔ l.names = [] := by
  constructor
  · intro hasks
    cases hnames : l.names with
    | nil => rfl
    | cons s rest =>
        exfalso
        have hs : Location.IsName s := h s (hnames ▸ List.mem_cons_self)
        have hlast := Location.getLast?_splitChars_path h hnames
        have hne : l.path.text ≠ "" := by
          intro hempty
          rw [hempty] at hlast
          exact hs.toList_ne.1 (Option.some.inj hlast).symm
        -- the last part is a name, which asks for no directory
        obtain ⟨last, hmem, hlast'⟩ := (asksDirectory_iff hne).mp hasks
        rw [hlast] at hlast'
        obtain rfl := Option.some.inj hlast'
        simp [hs.toList_ne] at hmem
  · intro hnames
    cases l with
    | fromRoot names =>
        obtain rfl : names = [] := hnames
        decide
    | fromHere up names =>
        obtain rfl : names = [] := hnames
        cases up with
        | zero => decide
        | succ up =>
            have hlast : (Location.parts (up + 1) []).getLast? = some ".." := by
              unfold Location.parts
              rw [List.replicate_succ', List.reverse_nil, List.append_nil, List.getLast?_concat]
            have hpieces := Location.getLast?_splitChars_intercalate hlast
              (Location.not_mem_of_mem_parts (List.forall_mem_nil _))
            rw [Location.path_fromHere fun hnil => by simp [hnil] at hlast]
            refine (asksDirectory_iff fun hnil => ?_).mpr ⟨_, by decide, hpieces⟩
            rw [show "/".intercalate (Location.parts (up + 1) []) = "" from hnil] at hpieces
            cases hpieces

theorem IsRelative.head?_eq {name : String} (h : IsRelative name) :
    name.toList.head? = some '.' := by
  rcases h with rfl | rfl | ⟨front, hmem, rest, hname⟩
  · decide
  · decide
  · rw [← hname]
    simp only [List.mem_cons, List.not_mem_nil, or_false] at hmem
    rcases hmem with rfl | rfl <;> rfl

theorem isAbsolute_of_head? {name : String} (h : name.toList.head? = some '.') :
    (Path.mk name).isAbsolute = false := by
  unfold Path.isAbsolute
  rw [h]
  decide

/-- What is asked for under a name with a point in front: where the path leads. -/
theorem resolve_of_head? (r : Resolver) {name : String} (h : name.toList.head? = some '.') :
    r.resolve name = .path (r.moduleDir.locationFrom ⟨name⟩).path := by
  have hrelative := isAbsolute_of_head? h
  unfold resolve
  simp only [hrelative, h, Bool.false_eq_true, if_false, beq_self_eq_true, if_true]
  rw [Path.clean_eq_path, Path.location_join]

/-- Where a name leads has a name, unless only a directory is meant by it. -/
theorem names_locationFrom_ne_nil {name : String} (h : name.toList.head? = some '.')
    (hasks : ¬ AsksDirectory name) (base : Path) : (base.locationFrom ⟨name⟩).names ≠ [] := by
  have hempty : name ≠ "" := by
    rintro rfl
    cases h
  have hparts : Text.splitChars '/' name.toList ≠ [] := Text.splitChars_ne_nil name.toList
  have hlast := List.getLast?_eq_some_getLast hparts
  have hname := fun hmem => hasks ((asksDirectory_iff hempty).mpr ⟨_, hmem, hlast⟩)
  unfold Path.locationFrom
  rw [isAbsolute_of_head? h]
  exact Location.names_walk_ne_nil hlast hname base.location

/-- **What is asked for under a name with a point in front** is where the path leads that the name is
from the module's directory.  It is as much a directory or a file as the name says, unless only a
directory is meant by the name and the place has a name. -/
theorem keepsMark_iff (r : Resolver) {name : String} (h : IsRelative name) :
    r.resolve name = .path (r.moduleDir.locationFrom ⟨name⟩).path ∧
    (r.moduleDir.locationFrom ⟨name⟩).path.location = r.moduleDir.locationFrom ⟨name⟩ ∧
    (r.KeepsMark name ↔
      (AsksDirectory name → (r.moduleDir.locationFrom ⟨name⟩).names = [])) := by
  have hresolve := r.resolve_of_head? h.head?_eq
  have hnamed := r.moduleDir.isNamed_locationFrom ⟨name⟩
  have hlocation := Location.location_path hnamed
  refine ⟨hresolve, hlocation, ?_, fun hkeeps => ⟨_, hresolve, hlocation, ?_⟩⟩
  · rintro ⟨q, hq, -, hmark⟩ hasks
    rw [hresolve] at hq
    cases hq
    exact (asksDirectory_path hnamed).mp (hmark.mpr hasks)
  · rw [asksDirectory_path hnamed]
    refine ⟨fun hnames => ?_, hkeeps⟩
    refine Decidable.byContradiction fun hasks => ?_
    exact names_locationFrom_ne_nil h.head?_eq hasks r.moduleDir hnames

/-- A place with a name: `./Button` in `/project/src`. -/
theorem button_resolved : IsRelative "./Button" ∧
    resolve ⟨⟨"/project/src"⟩, ⟨"/project/node_modules"⟩⟩ "./Button" =
      .path ⟨"/project/src/Button"⟩ ∧
    KeepsMark ⟨⟨"/project/src"⟩, ⟨"/project/node_modules"⟩⟩ "./Button" := by
  have hrelative : IsRelative "./Button" := by decide
  obtain ⟨-, -, hkeeps⟩ :=
    keepsMark_iff ⟨⟨"/project/src"⟩, ⟨"/project/node_modules"⟩⟩ hrelative
  exact ⟨hrelative, by decide +kernel, hkeeps.mpr fun hasks => absurd hasks (by decide)⟩

/-- `./Button/` in `/project/src`: what is asked for is `/project/src/Button`, for which the loader
first looks for a file, such as `/project/src/Button.js`. -/
theorem not_forall_keepsMark :
    ¬ ∀ (r : Resolver) (name : String), IsRelative name → r.KeepsMark name := by
  intro h
  obtain ⟨q, hq, -, hmark⟩ :=
    h ⟨⟨"/project/src"⟩, ⟨"/project/node_modules"⟩⟩ "./Button/" (by decide)
  have hresolve : resolve ⟨⟨"/project/src"⟩, ⟨"/project/node_modules"⟩⟩ "./Button/" =
      .path ⟨"/project/src/Button"⟩ := by decide +kernel
  rw [hresolve] at hq
  cases hq
  exact absurd (hmark.mpr (by decide)) (by decide)

/-! ### The platform and packages -/

/-- The platform's modules that lie behind one of its names. -/
def coreSubpaths : List String := [
  "assert/strict", "dns/promises", "fs/promises", "inspector/promises", "path/posix", "path/win32",
  "readline/promises", "stream/consumers", "stream/promises", "stream/web", "timers/promises",
  "util/types"]

/-- The name is one of a module of the platform. -/
def IsCoreName (name : String) : Prop :=
  "node:".toList <+: name.toList ∨ name ∈ ModuleRequest.builtinNames ∨ name ∈ coreSubpaths

/-- The name is none of the platform's, but has one of these in front as its first part. -/
def ShadowsCore (name : String) : Prop :=
  ¬ IsCoreName name ∧ ∃ core ∈ ModuleRequest.builtinNames, core.toList ++ ['/'] <+: name.toList

instance (name : String) : Decidable (IsCoreName name) := by
  unfold IsCoreName
  infer_instance

instance (name : String) : Decidable (ShadowsCore name) := by
  unfold ShadowsCore
  infer_instance

/-- What a name without a point in front should stand for: itself, if it is absolute or the
platform's, and else a package. -/
def classify (r : Resolver) (name : String) : ModuleRequest :=
  if (Path.mk name).isAbsolute then .path ⟨name⟩
  else if IsCoreName name then .builtin name
  else .path (r.sharedDir.join ⟨name⟩)

theorem isBuiltin_iff {name : String} : ModuleRequest.isBuiltin name = true ↔
    "node:".toList <+: name.toList ∨ name ∈ ModuleRequest.builtinNames ∨
      ∃ core ∈ ModuleRequest.builtinNames, core.toList ++ ['/'] <+: name.toList := by
  have hunbroken : ∀ core ∈ ModuleRequest.builtinNames, '/' ∉ core.toList := by
    decide +kernel
  have hfirst : ∀ core ∈ ModuleRequest.builtinNames,
      (String.ofList (name.toList.takeWhile (· != '/')) = core ↔
        name = core ∨ core.toList ++ ['/'] <+: name.toList) := by
    intro core hcore
    rw [← String.toList_inj, String.toList_ofList, Text.takeWhile_eq_iff (hunbroken core hcore),
      String.toList_inj]
  unfold ModuleRequest.isBuiltin
  rw [Bool.or_eq_true, Text.isSome_dropStart?_iff, List.contains_iff_mem]
  refine or_congr Iff.rfl ⟨fun hmem => ?_, ?_⟩
  · rcases (hfirst _ hmem).mp rfl with hname | hfront
    · exact .inl (hname ▸ hmem)
    · exact .inr ⟨_, hmem, hfront⟩
  · rintro (hmem | ⟨core, hmem, hfront⟩)
    · rwa [(hfirst name hmem).mpr (.inl rfl)]
    · rwa [(hfirst core hmem).mpr (.inr hfront)]

/-- The platform's modules behind one of its names are left to it. -/
theorem exists_core_of_mem_coreSubpaths {name : String} (h : name ∈ coreSubpaths) :
    ∃ core ∈ ModuleRequest.builtinNames, core.toList ++ ['/'] <+: name.toList := by
  revert name
  decide +kernel

theorem isBuiltin_iff_core {name : String} :
    ModuleRequest.isBuiltin name = true ↔ IsCoreName name ∨ ShadowsCore name := by
  rw [isBuiltin_iff]
  constructor
  · intro h
    refine (Decidable.em (IsCoreName name)).imp_right fun hcore => ⟨hcore, ?_⟩
    rcases h with hscheme | hname | hfront
    · exact absurd (.inl hscheme) hcore
    · exact absurd (.inr (.inl hname)) hcore
    · exact hfront
  · rintro ((hscheme | hname | hsub) | ⟨-, hfront⟩)
    · exact .inl hscheme
    · exact .inr (.inl hname)
    · exact .inr (.inr (exists_core_of_mem_coreSubpaths hsub))
    · exact .inr (.inr hfront)

theorem isAbsolute_of_shadowsCore {name : String} (h : ShadowsCore name) :
    (Path.mk name).isAbsolute = false := by
  have hunrooted : ∀ core ∈ ModuleRequest.builtinNames, ∀ rest : List Char,
      ((core.toList ++ rest).head? == some '/') = false := by
    have hfirst : ∀ core ∈ ModuleRequest.builtinNames,
        core.toList ≠ [] ∧ core.toList.head? ≠ some '/' := by
      decide +kernel
    intro core hcore rest
    obtain ⟨hne, hfirst⟩ := hfirst core hcore
    cases hcs : core.toList with
    | nil => exact absurd hcs hne
    | cons c cs =>
        rw [hcs] at hfirst
        exact beq_false_of_ne hfirst
  obtain ⟨-, core, hcore, rest, hname⟩ := h
  unfold Path.isAbsolute
  rw [← hname, List.append_assoc]
  exact hunrooted core hcore _

/-- **A name without a point in front** is looked up as it should be, unless it has a module of the
platform in front of a `/` and is none itself.  Such a name is left to the platform. -/
theorem resolve_eq_classify_iff (r : Resolver) {name : String}
    (h : name.toList.head? ≠ some '.') :
    (r.resolve name = r.classify name ↔ ¬ ShadowsCore name) ∧
    (ShadowsCore name → r.resolve name = .builtin name ∧
      r.classify name = .path (r.sharedDir.join ⟨name⟩)) := by
  have hpoint : ¬ (name.toList.head? == some '.') = true := fun heq => h (eq_of_beq heq)
  have hshadows : ShadowsCore name → r.resolve name = .builtin name ∧
      r.classify name = .path (r.sharedDir.join ⟨name⟩) := by
    intro hshadows
    have hrelative := isAbsolute_of_shadowsCore hshadows
    have hbuiltin := isBuiltin_iff_core.mpr (.inr hshadows)
    unfold resolve classify
    simp only [hrelative, hpoint, hbuiltin, hshadows.1, Bool.false_eq_true, if_false, if_true,
      and_self]
  refine ⟨⟨fun heq hs => ?_, fun hnot => ?_⟩, hshadows⟩
  · obtain ⟨hresolve, hclassify⟩ := hshadows hs
    rw [hresolve, hclassify] at heq
    cases heq
  · have hbuiltin : ModuleRequest.isBuiltin name = true ↔ IsCoreName name := by
      rw [isBuiltin_iff_core]
      exact or_iff_left hnot
    unfold resolve classify
    simp only [hpoint, hbuiltin, Bool.false_eq_true, if_false]

/-- A package behind none of the platform's names, and one of the platform's modules. -/
theorem storybook_classified : "@storybook/test".toList.head? ≠ some '.' ∧
    resolve ⟨⟨"/p/src"⟩, ⟨"/p/node_modules"⟩⟩ "@storybook/test" =
      classify ⟨⟨"/p/src"⟩, ⟨"/p/node_modules"⟩⟩ "@storybook/test" := by
  have hpoint : "@storybook/test".toList.head? ≠ some '.' := by decide
  obtain ⟨hexact, -⟩ :=
    resolve_eq_classify_iff ⟨⟨"/p/src"⟩, ⟨"/p/node_modules"⟩⟩ hpoint
  exact ⟨hpoint, hexact.mpr (by decide)⟩

/-- `process/browser` is a file of the package `process`. -/
theorem not_forall_classify : ¬ ∀ (r : Resolver) (name : String),
    name.toList.head? ≠ some '.' → r.resolve name = r.classify name := by
  intro h
  have hresolve : resolve ⟨⟨"/p/src"⟩, ⟨"/p/node_modules"⟩⟩ "process/browser" =
      .builtin "process/browser" := by decide +kernel
  have hclassify : classify ⟨⟨"/p/src"⟩, ⟨"/p/node_modules"⟩⟩ "process/browser" =
      .path ⟨"/p/node_modules/process/browser"⟩ := by decide +kernel
  have heq := h ⟨⟨"/p/src"⟩, ⟨"/p/node_modules"⟩⟩ "process/browser" (by decide)
  rw [hresolve, hclassify] at heq
  cases heq

end Resolver

end StorySuite
