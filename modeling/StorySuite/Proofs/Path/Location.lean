import StorySuite.Proofs.Path.Absolute

/-!
# Proofs — Path — where a path leads

Where a path leads is told from its text, without looking at any file.  The text is walked part by
part (`Location.step`): an empty part and `.` stay, a name goes in, and `..` goes back out.  At the
root there is no way out; elsewhere the way out is kept (`Location`).

Cleaning a path writes down where it leads, and what is written down leads there again.

* `Path.location_join`: a path taken from another is walked behind it.
* **`Path.clean_eq_path`**: a cleaned path is where the path leads, written down.
* `Location.location_path`, `Path.location_clean`: what is written down leads where it says.
* `Path.clean_eq_clean_iff`, `Path.clean_clean`: two paths are cleaned to one exactly if they lead
  to one place, and cleaning once is enough.
* `Location.components_path`: the components of what is written down.
-/

namespace StorySuite

/-! ### Locations -/

/-- Where a path leads.  Names are those of the directories, and of the file, that are gone into one
after the other; the last one stands first. -/
inductive Location where
  /-- From the root. -/
  | fromRoot (names : List String)
  /-- From any place, out of which there are `up` steps first. -/
  | fromHere (up : Nat) (names : List String)
  deriving DecidableEq

namespace Location

/-- Into a directory, or to a file. -/
def enter (s : String) : Location → Location
  | fromRoot names => fromRoot (s :: names)
  | fromHere up names => fromHere up (s :: names)

/-- Back out of what was gone into last.  The root has no outside; a place that nothing is known of
has one. -/
def leave : Location → Location
  | fromRoot names => fromRoot names.tail
  | fromHere up (_ :: names) => fromHere up names
  | fromHere up [] => fromHere (up + 1) []

/-- One part of a path. -/
def step (l : Location) (part : List Char) : Location :=
  if part = [] ∨ part = ['.'] then l
  else if part = ['.', '.'] then l.leave
  else l.enter (String.ofList part)

/-- From a location on, part by part. -/
def walk (l : Location) (text : String) : Location :=
  (Text.splitChars '/' text.toList).foldl step l

/-- What a file or a directory can be called in a path. -/
structure IsName (s : String) : Prop where
  notEmpty : s ≠ ""
  notHere : s ≠ "."
  notUp : s ≠ ".."
  unbroken : '/' ∉ s.toList

theorem IsName.toList_ne {s : String} (h : IsName s) :
    s.toList ≠ [] ∧ s.toList ≠ ['.'] ∧ s.toList ≠ ['.', '.'] :=
  ⟨fun heq => h.notEmpty (String.toList_inj.mp heq),
    fun heq => h.notHere (String.toList_inj.mp heq),
    fun heq => h.notUp (String.toList_inj.mp heq)⟩

/-- All names of a location. -/
def names : Location → List String
  | fromRoot names | fromHere _ names => names

/-- All names of the location are such as a path can have. -/
def IsNamed (l : Location) : Prop :=
  ∀ s ∈ l.names, IsName s

/-- The components that are kept of a path that leads there, the last one first. -/
def kept : Location → List Component
  | fromRoot names => names.map .name ++ [.root]
  | fromHere up names => names.map .name ++ List.replicate up .parent

/-- The path that leads there without a detour. -/
def path (l : Location) : Path :=
  match l.kept.reverse with
  | [] => ⟨"."⟩
  | cs => Path.ofComponents cs

end Location

namespace Path

/-- Where a path leads. -/
def location (p : Path) : Location :=
  (if p.isAbsolute then Location.fromRoot [] else .fromHere 0 []).walk p.text

/-- Where a path leads that is taken from `base`. -/
def locationFrom (base p : Path) : Location :=
  if p.isAbsolute then p.location else base.location.walk p.text

end Path

/-! ### Walking -/

namespace Location

variable {l : Location}

theorem walk_append (l : Location) {text : String} (before after : List Char)
    (h : text.toList = before ++ '/' :: after) :
    l.walk text = (l.walk (String.ofList before)).walk (String.ofList after) := by
  unfold walk
  rw [h, Text.splitChars_append_cons, List.foldl_append, String.toList_ofList,
    String.toList_ofList]

@[simp] theorem walk_empty (l : Location) : l.walk "" = l := by
  simp [walk, Text.splitChars, step]

theorem IsNamed.leave (h : l.IsNamed) : l.leave.IsNamed := by
  intro s hs
  cases l with
  | fromRoot names => exact h s (List.mem_of_mem_tail hs)
  | fromHere up names =>
      cases names with
      | nil => exact absurd hs List.not_mem_nil
      | cons name names => exact h s (List.mem_cons_of_mem name hs)

theorem IsNamed.enter (h : l.IsNamed) {s : String} (hs : IsName s) : (l.enter s).IsNamed := by
  cases l <;> exact List.forall_mem_cons.mpr ⟨hs, h⟩

theorem IsNamed.step (h : l.IsNamed) {part : List Char} (hpart : '/' ∉ part) :
    (l.step part).IsNamed := by
  unfold Location.step
  split
  · exact h
  · rename_i hstay
    split
    · exact h.leave
    · rename_i hup
      rw [not_or] at hstay
      refine h.enter ⟨?_, ?_, ?_, ?_⟩
      · exact fun heq => hstay.1 (String.ofList_injective heq)
      · exact fun heq => hstay.2 (String.ofList_injective heq)
      · exact fun heq => hup (String.ofList_injective heq)
      · rwa [String.toList_ofList]

theorem IsNamed.foldl : ∀ (parts : List (List Char)) {l : Location}, l.IsNamed →
    (∀ part ∈ parts, '/' ∉ part) → (parts.foldl Location.step l).IsNamed
  | [], _, h, _ => h
  | part :: parts, _, h, hparts => by
      obtain ⟨hpart, hparts⟩ := List.forall_mem_cons.mp hparts
      exact IsNamed.foldl parts (h.step hpart) hparts

theorem IsNamed.walk (h : l.IsNamed) (text : String) : (l.walk text).IsNamed :=
  IsNamed.foldl _ h fun _ => Text.not_mem_of_mem_splitChars

/-- A name goes in. -/
theorem step_name {s : String} (hs : IsName s) (l : Location) : l.step s.toList = l.enter s := by
  obtain ⟨hempty, hhere, hup⟩ := hs.toList_ne
  unfold step
  rw [if_neg (not_or.mpr ⟨hempty, hhere⟩), if_neg hup, String.ofList_toList]

/-- Names go in one after the other. -/
theorem foldl_step_names : ∀ (names : List String) (l : Location), (∀ s ∈ names, IsName s) →
    (names.map String.toList).foldl step l = names.foldl (fun l s => l.enter s) l
  | [], _, _ => rfl
  | s :: names, l, h => by
      obtain ⟨hs, hnames⟩ := List.forall_mem_cons.mp h
      simp only [List.map_cons, List.foldl_cons, step_name hs, foldl_step_names names _ hnames]

theorem foldl_enter_fromRoot : ∀ names outer : List String,
    names.foldl (fun l s => l.enter s) (fromRoot outer) = fromRoot (names.reverse ++ outer)
  | [], _ => rfl
  | s :: names, outer => by
      rw [List.foldl_cons]
      show names.foldl _ (fromRoot (s :: outer)) = _
      rw [foldl_enter_fromRoot names (s :: outer), List.reverse_cons, List.append_assoc]
      rfl

theorem foldl_enter_fromHere (up : Nat) : ∀ names outer : List String,
    names.foldl (fun l s => l.enter s) (fromHere up outer) = fromHere up (names.reverse ++ outer)
  | [], _ => rfl
  | s :: names, outer => by
      rw [List.foldl_cons]
      show names.foldl _ (fromHere up (s :: outer)) = _
      rw [foldl_enter_fromHere up names (s :: outer), List.reverse_cons, List.append_assoc]
      rfl

/-- Ways out go back through the names, and on out where there are no more. -/
theorem foldl_step_up : ∀ (n up : Nat) (names : List String),
    (List.replicate n ['.', '.']).foldl step (fromHere up names) =
      fromHere (up + (n - names.length)) (names.drop n)
  | 0, up, names => by simp
  | n + 1, up, [] => by
      rw [List.replicate_succ, List.foldl_cons]
      show (List.replicate n _).foldl step (fromHere (up + 1) []) = _
      rw [foldl_step_up n (up + 1) []]
      simp
      omega
  | n + 1, up, s :: names => by
      rw [List.replicate_succ, List.foldl_cons]
      show (List.replicate n _).foldl step (fromHere up names) = _
      rw [foldl_step_up n up names]
      simp

/-- Parts written with separators between them are walked one after the other. -/
theorem walk_intercalate {parts : List String} (hne : parts ≠ [])
    (h : ∀ part ∈ parts, '/' ∉ part.toList) (l : Location) :
    l.walk ("/".intercalate parts) = (parts.map String.toList).foldl step l := by
  have hsplit : Text.splitChars '/' ("/".intercalate parts).toList = parts.map String.toList := by
    rw [String.toList_intercalate]
    refine Text.splitChars_intercalate (fun hnil => hne (List.map_eq_nil_iff.mp hnil)) ?_
    rwa [List.forall_mem_map]
  unfold walk
  rw [hsplit]

/-- **Names written with separators between them** are gone into one after the other. -/
theorem walk_names {names : List String} (h : ∀ s ∈ names, IsName s) (l : Location) :
    l.walk ("/".intercalate names) = names.foldl (fun l s => l.enter s) l := by
  cases names with
  | nil => exact walk_empty l
  | cons s names =>
      rw [walk_intercalate (List.cons_ne_nil _ _) (fun s hs => (h s hs).unbroken) l,
        foldl_step_names _ l h]

end Location

/-! ### Cleaning -/

namespace Location

/-- Cleaning keeps of a component what going on by it leaves. -/
theorem pushClean_kept_name (l : Location) (s : String) :
    Path.pushClean l.kept (.name s) = (l.enter s).kept := by
  cases l <;> rfl

theorem pushClean_kept_parent (l : Location) :
    Path.pushClean l.kept .parent = l.leave.kept := by
  cases l with
  | fromRoot names => cases names <;> rfl
  | fromHere up names =>
      cases names with
      | cons s names => rfl
      | nil => cases up <;> rfl

/-- **Cleaning keeps of parts** what walking through them leaves. -/
theorem foldl_pushClean_partComponents (atFront : Bool) (parts : List (List Char)) :
    ∀ l : Location,
      (Path.partComponents atFront parts).foldl Path.pushClean l.kept =
        (parts.foldl step l).kept := by
  fun_induction Path.partComponents atFront parts <;> intro l
  case case1 => rfl
  case case2 ih => exact ih l
  case case3 ih => exact ih l
  case case4 ih => exact ih l
  case case5 ih =>
    rw [List.foldl_cons, List.foldl_cons, pushClean_kept_parent]
    exact ih l.leave
  case case6 part _ hempty hhere hup ih =>
    have hstep : l.step part = l.enter (String.ofList part) := by
      unfold step
      rw [if_neg (not_or.mpr ⟨hempty, hhere⟩), if_neg hup]
    rw [List.foldl_cons, List.foldl_cons, pushClean_kept_name, hstep]
    exact ih _

end Location

namespace Path

/-- What cleaning keeps of a path is where it leads. -/
theorem foldl_pushClean_components (p : Path) :
    p.components.foldl pushClean [] = p.location.kept := by
  unfold components location isAbsolute Location.walk
  split
  · rename_i rest htext
    -- the separator in front is the root, and has an empty part before it
    have hsplit : Text.splitChars '/' ('/' :: rest) = [] :: Text.splitChars '/' rest := rfl
    rw [htext, hsplit]
    exact Location.foldl_pushClean_partComponents false _ (.fromRoot [])
  · rename_i hfront
    have hrelative : (p.text.toList.head? == some '/') = false := by
      cases htext : p.text.toList with
      | nil => rfl
      | cons first rest =>
          have hne : first ≠ '/' := fun h => hfront rest (h ▸ htext)
          exact beq_false_of_ne fun h => hne (Option.some.inj h)
    rw [hrelative]
    exact Location.foldl_pushClean_partComponents true _ (.fromHere 0 [])

/-- **A cleaned path** is where the path leads, written down. -/
theorem clean_eq_path (p : Path) : p.clean = p.location.path := by
  have hkept := p.foldl_pushClean_components
  unfold clean Location.path
  generalize p.location.kept = kept at hkept ⊢
  subst hkept
  cases (p.components.foldl pushClean []).reverse <;> rfl

/-- Where a path leads is named by the path. -/
theorem isNamed_location (p : Path) : p.location.IsNamed := by
  refine Location.IsNamed.walk ?_ p.text
  split <;> exact List.forall_mem_nil _

theorem isNamed_locationFrom (base p : Path) : (base.locationFrom p).IsNamed := by
  unfold locationFrom
  split
  · exact p.isNamed_location
  · exact base.isNamed_location.walk p.text

/-- What is written behind another path is walked behind it. -/
theorem walk_join {base p : Path} (hp : p.isAbsolute = false) (hbase : base.text ≠ "")
    (l : Location) : l.walk (base.join p).text = (l.walk base.text).walk p.text := by
  have hnonempty : base.text.toList.isEmpty = false :=
    List.isEmpty_eq_false_iff.mpr fun hnil => hbase (String.toList_eq_nil_iff.mp hnil)
  have hjoin : base.join p =
      if base.text.toList.getLast? == some '/' then ⟨base.text ++ p.text⟩
      else ⟨base.text ++ "/" ++ p.text⟩ := by
    unfold join
    rw [if_neg (by rw [hp]; exact Bool.false_ne_true)]
    simp only [hnonempty, Bool.false_or]
  rw [hjoin]
  split
  · -- the base ends with a separator, behind which there is an empty part
    rename_i hlast
    obtain ⟨front, hfront⟩ := List.getLast?_eq_some_iff.mp (eq_of_beq hlast)
    rw [l.walk_append front p.text.toList (by simp [hfront]),
      l.walk_append front [] hfront, String.ofList_toList]
    exact congrArg (Location.walk · p.text) (Location.walk_empty _).symm
  · rw [l.walk_append base.text.toList p.text.toList (by simp), String.ofList_toList,
      String.ofList_toList]

/-- **A path taken from another** is walked behind it. -/
theorem location_join (base p : Path) : (base.join p).location = base.locationFrom p := by
  cases hp : p.isAbsolute with
  | true =>
      unfold join locationFrom
      rw [if_pos hp, if_pos hp]
  | false =>
      have hfrom : base.locationFrom p = base.location.walk p.text := by
        unfold locationFrom
        rw [hp]
        rfl
      rw [hfrom]
      unfold location
      rw [isAbsolute_join, hp, Bool.false_or]
      by_cases hbase : base.text = ""
      · have hjoin : base.join p = p := by simp [join, hp, hbase]
        rw [hjoin, hbase, Location.walk_empty]
      · exact walk_join hp hbase _

theorem locate_eq_path (base p : Path) : base.locate p = (base.locationFrom p).path := by
  unfold locate
  split
  · rename_i hp
    unfold locationFrom
    rw [if_pos hp, clean_eq_path]
  · rw [clean_eq_path, location_join]

end Path

namespace Location

variable {l : Location}

theorem path_eq_ofComponents (h : l.kept ≠ []) : l.path = Path.ofComponents l.kept.reverse := by
  have hne : l.kept.reverse ≠ [] := fun hnil => h (List.reverse_eq_nil_iff.mp hnil)
  unfold path
  cases hkept : l.kept.reverse with
  | nil => exact absurd hkept hne
  | cons c cs => rfl

theorem path_fromRoot (names : List String) :
    (fromRoot names).path = ⟨"/" ++ "/".intercalate names.reverse⟩ := by
  have hkept : (fromRoot names).kept.reverse = .root :: names.reverse.map Component.name := by
    simp [kept]
  have htexts : (names.reverse.map Component.name).map Component.text = names.reverse := by
    rw [List.map_map]
    exact List.map_id _
  rw [path_eq_ofComponents (by simp [kept]), hkept]
  show Path.mk ("/" ++ "/".intercalate ((names.reverse.map Component.name).map Component.text)) = _
  rw [htexts]

theorem isAbsolute_path_fromRoot (names : List String) :
    (fromRoot names).path.isAbsolute = true := by
  rw [path_fromRoot]
  simp [Path.isAbsolute]

/-- The parts in which a location is written that is not told from the root. -/
def parts (up : Nat) (names : List String) : List String :=
  List.replicate up ".." ++ names.reverse

theorem path_fromHere {up : Nat} {names : List String} (hne : parts up names ≠ []) :
    (fromHere up names).path = ⟨"/".intercalate (parts up names)⟩ := by
  have hkept : (fromHere up names).kept.reverse =
      List.replicate up .parent ++ names.reverse.map Component.name := by
    simp [kept]
  have hwritten : ∀ cs : List Component, .root ∉ cs →
      Path.ofComponents cs = ⟨"/".intercalate (cs.map Component.text)⟩ := by
    intro cs hroot
    cases cs with
    | nil => rfl
    | cons c cs =>
        cases c with
        | root => exact absurd List.mem_cons_self hroot
        | current | parent | name s => rfl
  rw [path_eq_ofComponents ?_, hkept, hwritten _ (by simp)]
  · simp [parts, Component.text, Function.comp_def]
  · intro hnil
    refine hne ?_
    simpa [parts, kept, and_comm] using hnil

theorem isAbsolute_path_fromHere {up : Nat} {names : List String}
    (h : (fromHere up names).IsNamed) : (fromHere up names).path.isAbsolute = false := by
  have hpart : ∀ c ∈ (fromHere up names).kept.reverse, c.IsPart := by
    intro c hc
    rcases List.mem_append.mp (List.mem_reverse.mp hc) with hc | hc
    · obtain ⟨s, hs, rfl⟩ := List.mem_map.mp hc
      have hname := h s hs
      have hne : s.toList ≠ [] := fun hnil => hname.notEmpty (String.toList_eq_nil_iff.mp hnil)
      have hpart := Path.isPart_name hne hname.unbroken
      rwa [String.ofList_toList] at hpart
    · rw [List.eq_of_mem_replicate hc]
      exact Path.isPart_parent
  by_cases hkept : (fromHere up names).kept = []
  · unfold path
    rw [hkept]
    rfl
  · rw [path_eq_ofComponents hkept]
    exact Path.isAbsolute_ofComponents_parts hpart

/-- What is written down is walked by going out as often as it says and then in by its names. -/
theorem walk_path_fromHere {up names up' names'} (h : (fromHere up' names').IsNamed) :
    (fromHere up names).walk (fromHere up' names').path.text =
      fromHere (up + (up' - names.length)) (names' ++ names.drop up') := by
  have hnames : ∀ s ∈ names'.reverse, IsName s := fun s hs => h s (List.mem_reverse.mp hs)
  by_cases hne : parts up' names' = []
  · -- what is written is `.`
    obtain ⟨rfl, rfl⟩ : up' = 0 ∧ names' = [] := by simpa [parts] using hne
    rw [Nat.zero_sub, Nat.add_zero, List.drop_zero, List.nil_append]
    rfl
  · have hunbroken : ∀ part ∈ parts up' names', '/' ∉ part.toList := by
      intro part hpart
      rcases List.mem_append.mp hpart with hpart | hpart
      · rw [List.eq_of_mem_replicate hpart]
        decide
      · exact (hnames part hpart).unbroken
    rw [path_fromHere hne, walk_intercalate hne hunbroken]
    unfold parts
    rw [List.map_append, List.map_replicate, List.foldl_append]
    show List.foldl step (List.foldl step _ (List.replicate up' ['.', '.'])) _ = _
    rw [foldl_step_up, foldl_step_names _ _ hnames, foldl_enter_fromHere, List.reverse_reverse]

/-- **What is written down leads where it says.** -/
theorem location_path (h : l.IsNamed) : l.path.location = l := by
  cases l with
  | fromRoot names =>
      have hnames : ∀ s ∈ names.reverse, IsName s := fun s hs => h s (List.mem_reverse.mp hs)
      unfold Path.location
      rw [if_pos (isAbsolute_path_fromRoot names), path_fromRoot]
      have htext : ("/" ++ "/".intercalate names.reverse).toList =
          [] ++ '/' :: ("/".intercalate names.reverse).toList := by simp
      rw [walk_append (fromRoot []) _ _ htext, String.ofList_toList]
      show ((fromRoot []).walk "").walk _ = _
      rw [walk_empty, walk_names hnames, foldl_enter_fromRoot, List.reverse_reverse,
        List.append_nil]
  | fromHere up names =>
      have hrelative : ¬ (fromHere up names).path.isAbsolute = true := by
        rw [isAbsolute_path_fromHere h]
        exact Bool.false_ne_true
      unfold Path.location
      rw [if_neg hrelative, walk_path_fromHere h]
      simp

theorem path_inj {k l : Location} (hk : k.IsNamed) (hl : l.IsNamed) :
    k.path = l.path ↔ k = l := by
  constructor
  · intro h
    rw [← location_path hk, h, location_path hl]
  · exact congrArg Location.path

/-- Names are components. -/
theorem partComponents_names {atFront : Bool} : ∀ {names : List String},
    (∀ s ∈ names, IsName s) →
      Path.partComponents atFront (names.map String.toList) = names.map .name
  | [], _ => rfl
  | s :: names, h => by
      obtain ⟨hs, hnames⟩ := List.forall_mem_cons.mp h
      obtain ⟨hempty, hhere, hup⟩ := hs.toList_ne
      rw [List.map_cons, Path.partComponents, partComponents_names hnames, String.ofList_toList,
        List.map_cons]
      all_goals assumption

/-- The components of what is written down from the root. -/
theorem components_path {names : List String} (h : (fromRoot names).IsNamed) :
    (fromRoot names).path.components = .root :: names.reverse.map .name := by
  have hnames : ∀ s ∈ names.reverse, IsName s := fun s hs => h s (List.mem_reverse.mp hs)
  have htext : (fromRoot names).path.text.toList =
      '/' :: ("/".intercalate names.reverse).toList := by
    rw [path_fromRoot]
    simp
  unfold Path.components
  rw [htext]
  show Component.root :: Path.partComponents false (Text.splitChars '/' _) = _
  by_cases hnil : names.reverse = []
  · rw [hnil]
    rfl
  · rw [String.toList_intercalate, show "/".toList = ['/'] from rfl, Text.splitChars_intercalate,
      partComponents_names hnames]
    · exact fun h => hnil (List.map_eq_nil_iff.mp h)
    · rw [List.forall_mem_map]
      exact fun s hs => (hnames s hs).unbroken

end Location

namespace Path

@[simp] theorem location_clean (p : Path) : p.clean.location = p.location := by
  rw [clean_eq_path, Location.location_path p.isNamed_location]

/-- **Two paths are cleaned to one** exactly if they lead to one place. -/
theorem clean_eq_clean_iff {p q : Path} : p.clean = q.clean ↔ p.location = q.location := by
  rw [clean_eq_path, clean_eq_path, Location.path_inj p.isNamed_location q.isNamed_location]

/-- Cleaning once is enough. -/
@[simp] theorem clean_clean (p : Path) : p.clean.clean = p.clean :=
  clean_eq_clean_iff.mpr p.location_clean

end Path

/-! ### From the root -/

namespace Location

/-- There is no way out of the root. -/
theorem exists_walk_fromRoot (outer : List String) (text : String) :
    ∃ names, (fromRoot outer).walk text = fromRoot names := by
  unfold walk
  generalize Text.splitChars '/' text.toList = parts
  induction parts generalizing outer with
  | nil => exact ⟨outer, rfl⟩
  | cons part parts ih =>
      have hstep : ∃ outer', (fromRoot outer).step part = fromRoot outer' := by
        unfold step
        split
        · exact ⟨outer, rfl⟩
        · split
          · exact ⟨outer.tail, rfl⟩
          · exact ⟨String.ofList part :: outer, rfl⟩
      obtain ⟨outer', houter⟩ := hstep
      rw [List.foldl_cons, houter]
      exact ih outer'

end Location

namespace Path

/-- An absolute path leads somewhere from the root. -/
theorem exists_location {p : Path} (h : p.isAbsolute = true) :
    ∃ names, p.location = .fromRoot names := by
  unfold location
  rw [if_pos h]
  exact Location.exists_walk_fromRoot [] p.text

theorem exists_locationFrom {base : Path} (h : base.isAbsolute = true) (p : Path) :
    ∃ names, base.locationFrom p = .fromRoot names := by
  unfold locationFrom
  split
  · rename_i hp
    exact exists_location hp
  · obtain ⟨outer, houter⟩ := exists_location h
    rw [houter]
    exact Location.exists_walk_fromRoot outer p.text

/-- What cleaning leaves of an absolute path leads there from anywhere. -/
theorem locationFrom_path_fromRoot {base : Path} {names : List String}
    (h : (Location.fromRoot names).IsNamed) :
    base.locationFrom (Location.fromRoot names).path = .fromRoot names := by
  unfold locationFrom
  rw [if_pos (Location.isAbsolute_path_fromRoot names), Location.location_path h]

end Path

end StorySuite
