import StorySuite.Proofs.Script.Marks

/-!
# Proofs — Script — hooks that the inspection does not see

A suite looks its hooks up on the default export when it runs, first on the namespaces, then on the
export itself (`resolveHook`), and it only does so for the places that are wired.  Which places are
wired depends on what the inspection has found.  Where it has found an object, nothing is lost as
long as no hook that is not marked is inherited.

* `defaultValue_covered`: the default export has by itself no hook that is not marked, when it is
  the whole of the object that the inspection has looked at (`DefaultIsWhole`).
* `literal_keepsHooks_iff`: then no lookup of a hook that is not marked finds a function exactly
  when none is inherited; objects that do not say what they inherit from inherit none; and the suite
  has the same hooks as if every place were wired.
* `not_forall_literal_keepsHooks`: in each of the other cases a hook can be lost.
-/

namespace StorySuite

/-- A place that is not wired has no hook that is marked. -/
theorem HookSlot.unmarked_of_not_wired {slot : HookSlot} {hs : HookSet}
    (h : slot ∉ wired (some (.literal hs))) : ∀ n ∈ slot.hooks, hs.contains n = false := by
  intro n hn
  cases hmarked : hs.contains n with
  | false => rfl
  | true =>
      have hfilled : slot.filledBy hs = true := List.any_eq_true.mpr ⟨n, hn, hmarked⟩
      have hall : slot ∈ all := by
        cases slot <;> decide
      have hwired : slot ∈ all.filter (·.filledBy hs) := List.mem_filter.mpr ⟨hall, hfilled⟩
      exact absurd hwired h

end StorySuite

namespace StorySuite.Script

namespace Memory

variable (m : Memory) (namespaces : List String) (hs : HookSet)

/-! ### Lookups -/

/-- No lookup of a hook that is not marked finds a function, neither on the value nor on a namespace
of it. -/
def KeepsHooks (v : m.Value) : Prop :=
  ∀ n : Hook, hs.contains n = false → ¬ m.FindsFunction v n.key ∧
    ∀ s ∈ namespaces, ¬ m.FindsFunction (m.read v v ⟨s, false⟩) n.key

/-- No hook that is not marked is inherited as a function: by the value, by a namespace that it has
by itself, or through a namespace that it inherits. -/
def InheritsNone (v : m.Value) : Prop :=
  ∀ n : Hook, hs.contains n = false → ¬ m.InheritsFunction v n.key ∧
    ∀ s ∈ namespaces, (∀ o, m.own v ⟨s, false⟩ = some (.data o) → ¬ m.InheritsFunction o n.key) ∧
      (m.own v ⟨s, false⟩ = none → ¬ m.FindsFunction (m.inherited v ⟨s, false⟩) n.key)

/-- Objects that do not say what they inherit from inherit no hook that is not marked, and no
namespace with one. -/
def IsPristine : Prop :=
  ∀ (receiver : m.Value) (n : Hook), hs.contains n = false →
    m.isFunction (m.read receiver m.objectPrototype n.key) = false ∧
    ∀ s ∈ namespaces, ¬ m.FindsFunction (m.read receiver m.objectPrototype ⟨s, false⟩) n.key

variable {m namespaces hs}

/-- **Where own properties are covered, only what is inherited can be lost.** -/
theorem keepsHooks_iff_inheritsNone {rooted : Prop} {v : m.Value} (hv : m.isPlain v = true)
    (hown : CoversIn m namespaces hs rooted (m.own v)) :
    m.KeepsHooks namespaces hs v ↔ m.InheritsNone namespaces hs v := by
  have hself : ∀ n : Hook, hs.contains n = false →
      (m.FindsFunction v n.key ↔ m.InheritsFunction v n.key) := by
    intro n hn
    cases hslot : m.own v n.key with
    | none => exact findsFunction_iff_inherits hv hslot
    | some slot =>
        -- the hook is a namespace, which is an object and no function
        have hmem : n.name ∈ namespaces := by
          rcases hown.hook n (by simp [hslot]) with h | h
          · rw [hn] at h
            cases h
          · exact h
        obtain ⟨o, rfl, ho, -⟩ := hown.namespace n.name hmem slot hslot
        constructor
        · intro h
          have hfunction := h.2
          rw [read_of_own_data hv hslot, not_isFunction_of_plain ho] at hfunction
          cases hfunction
        · intro h
          rw [h.1] at hslot
          cases hslot
  have hspace : ∀ s ∈ namespaces, ∀ n : Hook, hs.contains n = false →
      (¬ m.FindsFunction (m.read v v ⟨s, false⟩) n.key ↔
        (∀ o, m.own v ⟨s, false⟩ = some (.data o) → ¬ m.InheritsFunction o n.key) ∧
          (m.own v ⟨s, false⟩ = none → ¬ m.FindsFunction (m.inherited v ⟨s, false⟩) n.key)) := by
    intro s hs' n hn
    cases hslot : m.own v ⟨s, false⟩ with
    | none => simp [read_of_own_none hv hslot]
    | some slot =>
        -- the namespace is an object that has no such hook by itself
        obtain ⟨o, rfl, ho, hcovers, -⟩ := hown.namespace s hs' slot hslot
        have hnone : m.own o n.key = none := by
          by_contra hsome
          rw [hcovers n hsome] at hn
          cases hn
        simp [read_of_own_data hv hslot, findsFunction_iff_inherits ho hnone]
  constructor
  · intro h n hn
    exact ⟨(not_congr (hself n hn)).mp (h n hn).1,
      fun s hs' => (hspace s hs' n hn).mp ((h n hn).2 s hs')⟩
  · intro h n hn
    exact ⟨(not_congr (hself n hn)).mpr (h n hn).1,
      fun s hs' => (hspace s hs' n hn).mpr ((h n hn).2 s hs')⟩

theorem inherited_of_parent {v o : m.Value} (hv : m.parent v = some o) (k : StringValue) :
    m.inherited v k = m.read v o k := by
  rw [inherited, hv]
  rfl

/-- Objects that do not say what they inherit from lose nothing in a pristine memory. -/
theorem inheritsNone_of_pristine {rooted : Prop} {v : m.Value}
    (hpristine : m.IsPristine namespaces hs) (hrooted : rooted)
    (hv : m.parent v = some m.objectPrototype)
    (hown : CoversIn m namespaces hs rooted (m.own v)) : m.InheritsNone namespaces hs v := by
  have hroot : ∀ {o : m.Value}, m.parent o = some m.objectPrototype → ∀ n : Hook,
      hs.contains n = false → ¬ m.InheritsFunction o n.key := by
    intro o ho n hn h
    have hfunction := h.2
    rw [inherited_of_parent ho, (hpristine o n hn).1] at hfunction
    cases hfunction
  intro n hn
  refine ⟨hroot hv n hn, fun s hs' => ⟨fun o ho => ?_, fun _ => ?_⟩⟩
  · obtain ⟨o', heq, -, -, hparent⟩ := hown.namespace s hs' _ ho
    obtain rfl := Slot.data.inj heq
    exact hroot (hparent hrooted) n hn
  · rw [inherited_of_parent hv]
    exact (hpristine v n hn).2 s hs'

/-! ### What a suite resolves -/

variable (m namespaces)

/-- The first of the hooks that is a function on the value. -/
def firstHook? (hooks : List Hook) (v : m.Value) : Option m.Value :=
  (hooks.map fun n => m.read v v n.key).find? m.isFunction

/-- What a suite finds for a place with the given hooks: on the first namespace that has one of
them, else on the default export itself. -/
def resolveHook (hooks : List Hook) (v : m.Value) : m.Value :=
  let scopes := (namespaces.map fun s => m.read v v ⟨s, false⟩).filter m.isTruthy
  match scopes.findSome? (m.firstHook? hooks) with
  | some f => f
  | none => (m.firstHook? hooks v).getD m.undefined

/-- What a suite has at a place when the given places are wired.  Nothing is resolved when the
lookup on the default export fails. -/
def suiteHook (wired : List HookSlot) (v : m.Value) (slot : HookSlot) : m.Value :=
  if wired.contains slot && !m.isNullish v then m.resolveHook namespaces slot.hooks v
  else m.undefined

variable {m namespaces}

theorem firstHook?_eq_none {hooks : List Hook} {v : m.Value} (hv : m.isNullish v = false)
    (h : ∀ n ∈ hooks, ¬ m.FindsFunction v n.key) : m.firstHook? hooks v = none := by
  simp only [firstHook?, List.find?_eq_none, List.forall_mem_map]
  exact fun n hn hfunction => h n hn ⟨hv, hfunction⟩

/-- Where nothing is lost, a place without a marked hook resolves to nothing. -/
theorem resolveHook_eq_undefined {v : m.Value} (hv : m.isPlain v = true)
    (hkeeps : m.KeepsHooks namespaces hs v) {hooks : List Hook}
    (hooks_unmarked : ∀ n ∈ hooks, hs.contains n = false) :
    m.resolveHook namespaces hooks v = m.undefined := by
  have hscopes : ((namespaces.map fun s => m.read v v ⟨s, false⟩).filter m.isTruthy).findSome?
      (m.firstHook? hooks) = none := by
    rw [List.findSome?_eq_none_iff]
    intro scope hscope
    obtain ⟨hmem, htruthy⟩ := List.mem_filter.mp hscope
    obtain ⟨s, hs', rfl⟩ := List.mem_map.mp hmem
    exact firstHook?_eq_none (not_isNullish_of_truthy htruthy) fun n hn =>
      (hkeeps n (hooks_unmarked n hn)).2 s hs'
  have hself : m.firstHook? hooks v = none :=
    firstHook?_eq_none (not_isNullish_of_plain hv) fun n hn => (hkeeps n (hooks_unmarked n hn)).1
  simp only [resolveHook, hscopes, hself, Option.getD_none]

/-- Where nothing is lost, wiring only the places with a marked hook changes nothing. -/
theorem suiteHook_literal {v : m.Value} (hv : m.isPlain v = true)
    (hkeeps : m.KeepsHooks namespaces hs v) (slot : HookSlot) :
    m.suiteHook namespaces (HookSlot.wired (some (.literal hs))) v slot =
      m.suiteHook namespaces (HookSlot.wired (some .unknown)) v slot := by
  have hall : slot ∈ HookSlot.wired (some .unknown) := by
    cases slot <;> decide
  simp only [suiteHook, List.contains_iff_mem.mpr hall, not_isNullish_of_plain hv, Bool.not_false,
    Bool.and_true, if_true]
  by_cases hslot : slot ∈ HookSlot.wired (some (.literal hs))
  · rw [if_pos (List.contains_iff_mem.mpr hslot)]
  · rw [if_neg (mt List.contains_iff_mem.mp hslot),
      resolveHook_eq_undefined hv hkeeps (HookSlot.unmarked_of_not_wired hslot)]

end Memory

/-! ### Trees with one branch -/

/-- A method without parameters that does nothing. -/
def Property.idle (name : String) : Property :=
  .method .method (.name name) (.mk none false false [] [] .block [])

/-- An object with one property is a tree with one branch. -/
theorem Tree.evaluates_single {q : Property} {s : String} {v : Tree}
    (h : Adds memory q (.start memory) ((Draft.start memory).set ⟨s, false⟩ (.data v))) :
    Evaluates memory (.object [q]) (single s v) := by
  refine .object (.cons h .nil) ⟨rfl, fun k => ?_, rfl⟩
  rw [Draft.set_own]
  show Tree.own (single s v) k = _
  simp only [single, Tree.own]
  by_cases hk : k = ⟨s, false⟩
  · rw [if_pos hk, if_pos hk]
    rfl
  · rw [if_neg hk, if_neg hk]
    rfl

theorem Tree.adds_idle (s : String) : Adds memory (.idle s) (.start memory)
    ((Draft.start memory).set ⟨s, false⟩ (.data .function)) :=
  .method (.inl rfl) (.inl rfl) rfl

theorem Tree.evaluates_idle (s : String) :
    Evaluates memory (.object [.idle s]) (single s .function) :=
  evaluates_single (adds_idle s)

theorem Tree.read_single (s : String) (v : Tree) :
    memory.read (single s v) (single s v) ⟨s, false⟩ = v := by
  show (single s v).find ⟨s, false⟩ = v
  simp [single, find]

theorem Tree.findsFunction_single (s : String) :
    memory.FindsFunction (single s .function) ⟨s, false⟩ :=
  ⟨rfl, (congrArg isFunction (read_single s .function) : _ = true)⟩

/-! ### Default exports that are written out -/

namespace Program

/-- The inspection looks at the object with these properties. -/
def Inspects (p : Program) (qs : List Property) : Prop :=
  ∃ t, p.defaultTarget? = some t ∧ p.written? t = some qs

/-- The default export is the whole of the object that is looked at: what is looked at is no type
that is exported under its name; a constant that it is, is defined in the module and is given the
whole of the object; and no number is the name of a namespace without being read as one. -/
structure DefaultIsWhole (p : Program) (namespaces : List String) : Prop where
  value : ∀ {t}, p.defaultTarget? = some t → t ≠ .other → p.HasStmt (·.BindsDefault t)
  whole : ∀ {t s}, p.defaultTarget? = some t → t.IsVariable s → ∀ i ∈ p.items, ∀ {pat e},
    .withDefault pat e ∈ i.stmt.constants → s ∈ pat.declared →
      i.stmt.Initializes s pat e ∧ pat.TakesWhole s
  numbers : ∀ {qs}, p.Inspects qs → ∀ q ∈ qs, ∀ x, q.key? = some (.number x) →
    (PropertyKey.number x).ReadsAlike namespaces

/-- The object that is looked at does not say what it inherits from, and neither do its
namespaces. -/
def KeepsParents (p : Program) (namespaces : List String) : Prop :=
  ∀ qs, p.Inspects qs → ∀ q ∈ qs, q.KeepsParent namespaces

/-- Where no type is exported under the name of the default export, none is looked at. -/
theorem bindsDefault_of_defaultTarget? {p : Program} (hp : ¬ p.HasStmt Stmt.TypesDefault)
    {t : DefaultTarget} (ht : p.defaultTarget? = some t) (hother : t ≠ .other) :
    p.HasStmt (·.BindsDefault t) := by
  obtain ⟨i, hi, htarget⟩ := List.exists_of_findSome?_eq_some ht
  exact ⟨i, hi, Stmt.bindsDefault_of_defaultTarget? htarget hother fun h => hp ⟨i, hi, h⟩⟩

theorem DefaultIsWhole.readsAlike {p : Program} {namespaces : List String} {qs : List Property}
    (h : p.DefaultIsWhole namespaces) (hqs : p.Inspects qs) :
    ∀ q ∈ qs, q.ReadsAlike namespaces := by
  intro q hq key hkey
  by_cases hnumber : ∃ x, key = .number x
  · obtain ⟨x, rfl⟩ := hnumber
    exact h.numbers hqs q hq x hkey
  · exact PropertyKey.readsAlike_of_not_number fun x hx => hnumber ⟨x, hx⟩

/-- An object is found where the default export has a known shape. -/
theorem inspects_of_literal {p : Program} {namespaces : List String} {hs : HookSet}
    (h : p.defaultShape namespaces = .literal hs) :
    ∃ t qs, p.defaultTarget? = some t ∧ p.written? t = some qs ∧
      hooksOf namespaces qs = some hs := by
  unfold defaultShape at h
  split at h
  case h_1 => cases h
  case h_2 t ht =>
    split at h
    case h_1 hooks hbind =>
      obtain ⟨qs, hqs, hfound⟩ := Option.bind_eq_some_iff.mp hbind
      obtain rfl := DefaultShape.literal.inj h
      exact ⟨t, qs, ht, hqs, hfound⟩
    case h_2 => cases h

theorem written?_cases {p : Program} {t : DefaultTarget} {qs : List Property}
    (h : p.written? t = some qs) :
    (∃ e, t = .value e ∧ e.inner = .object qs) ∨ ∃ s, t.IsVariable s ∧ p.constant? s = some qs := by
  cases t with
  | value e =>
      simp only [written?] at h
      split at h
      case h_1 hin =>
        obtain rfl := Option.some.inj h
        exact .inl ⟨e, rfl, hin⟩
      case h_2 s hin => exact .inr ⟨s, .value (Expr.isName_of_inner hin), h⟩
      case h_3 => cases h
  | «variable» s => exact .inr ⟨s, .variable, h⟩
  | other => cases h

/-- An object that is written out as it is looked at is covered. -/
theorem written_covered {p : Program} {namespaces : List String} {hs : HookSet}
    {qs : List Property} (hqs : p.Inspects qs) (hfound : hooksOf namespaces qs = some hs)
    (hp : p.DefaultIsWhole namespaces) {m : Memory} {d : Draft m} {u : m.Value}
    (hd : Fills m qs (.start m) d) (hu : m.Holds u d) :
    CoversIn m namespaces hs (p.KeepsParents namespaces) (m.own u) ∧
      (p.KeepsParents namespaces → m.parent u = some m.objectPrototype) := by
  have hstart : CoversIn m namespaces hs (p.KeepsParents namespaces) (Draft.start m).own :=
    ⟨fun _ h => absurd rfl h, fun _ _ _ h => nomatch h⟩
  have hcovers := hd.coversIn (hooksOf_spec hfound) (hp.readsAlike hqs)
    (fun hkeeps => hkeeps qs hqs) hstart
  refine ⟨(funext hu.own : m.own u = d.own) ▸ hcovers, fun hkeeps => ?_⟩
  rw [hu.parent, hd.parent_eq fun q hq => (hkeeps qs hqs q hq).1]
  rfl

/-- **The default export has by itself no hook that is not marked**, when it is the whole of the
object that the inspection has looked at. -/
theorem defaultValue_covered {p : Program} {namespaces : List String} {hs : HookSet}
    (hshape : p.defaultShape namespaces = .literal hs) (hp : p.DefaultIsWhole namespaces)
    {m : Memory} {v : m.Value} (hv : p.DefaultValue m v) :
    m.isPlain v = true ∧ CoversIn m namespaces hs (p.KeepsParents namespaces) (m.own v) ∧
      (p.KeepsParents namespaces → m.parent v = some m.objectPrototype) := by
  obtain ⟨t, qs, ht, hwritten, hfound⟩ := inspects_of_literal hshape
  have hqs : p.Inspects qs := ⟨t, ht, hwritten⟩
  -- what is looked at is the default export that there is
  have hbinds : p.HasStmt (·.BindsDefault t) := by
    refine hp.value ht ?_
    rintro rfl
    cases hwritten
  obtain ⟨t', -, honly, hvalue⟩ := hv
  obtain rfl := honly t hbinds
  rcases written?_cases hwritten with ⟨e, rfl, hin⟩ | ⟨s, hs', hconstant⟩
  · -- an object that is exported where it is written out
    obtain ⟨d, hd, hholds⟩ := (hvalue.1 e rfl).of_inner hin
    exact ⟨hholds.plain, written_covered hqs hfound hp hd hholds⟩
  · -- a constant, which nothing but the export refers to
    obtain ⟨hcount, i, hi, pat, e, hpat, hdeclared, hgiven⟩ := constant?_spec hconstant
    obtain ⟨hinit, hwhole⟩ := hp.whole ht hs' i hi hpat hdeclared
    obtain ⟨u, hu, htakes⟩ :=
      hvalue.2 s hs' pat e ⟨i, hi, hinit⟩ (not_usesBeside hbinds hs' hcount)
    obtain ⟨d, hd, hholds⟩ := hu.of_inner (Expr.inner_of_written? hgiven)
    obtain ⟨hcovers, hparent⟩ := written_covered hqs hfound hp hd hholds
    obtain ⟨hplain, hcovers', rfl | hroot⟩ := htakes.coversIn hwhole hholds.plain hcovers
    · exact ⟨hplain, hcovers', hparent⟩
    · exact ⟨hplain, hcovers', fun _ => hroot⟩

/-- **Hooks that are not marked are kept exactly when none is inherited.**  Objects that do not say
what they inherit from keep them, in a pristine memory.  Where they are kept, a place that is not
wired would have resolved to nothing, and the suite has the same hooks as if every place were
wired. -/
theorem literal_keepsHooks_iff {p : Program} {namespaces : List String} {hs : HookSet}
    (hshape : p.defaultShape namespaces = .literal hs) (hp : p.DefaultIsWhole namespaces)
    {m : Memory} {v : m.Value} (hv : p.DefaultValue m v) :
    (m.KeepsHooks namespaces hs v ↔ m.InheritsNone namespaces hs v) ∧
    (p.KeepsParents namespaces → m.IsPristine namespaces hs → m.KeepsHooks namespaces hs v) ∧
    (m.KeepsHooks namespaces hs v →
      (∀ slot, slot ∉ HookSlot.wired (some (.literal hs)) →
        m.resolveHook namespaces slot.hooks v = m.undefined) ∧
      ∀ slot, m.suiteHook namespaces (HookSlot.wired (some (.literal hs))) v slot =
        m.suiteHook namespaces (HookSlot.wired (some .unknown)) v slot) := by
  obtain ⟨hplain, hcovers, hparent⟩ := defaultValue_covered hshape hp hv
  refine ⟨Memory.keepsHooks_iff_inheritsNone hplain hcovers, fun hkeeps hpristine => ?_,
    fun hkept => ⟨fun slot hslot => ?_, Memory.suiteHook_literal hplain hkept⟩⟩
  · rw [Memory.keepsHooks_iff_inheritsNone hplain hcovers]
    exact Memory.inheritsNone_of_pristine hpristine hkeeps (hparent hkeeps) hcovers
  · exact Memory.resolveHook_eq_undefined hplain hkept (HookSlot.unmarked_of_not_wired hslot)

/-- `const meta = {parameters: {setup() {}}}; export {meta as default}`. -/
def namedHooks : Program where
  items := [
    .plain (.declaration .const [.withDefault (.name "meta") (.object [
      .value (.name "parameters") (.object [.idle "setup"])])]),
    .plain (.exportNames false [⟨⟨"meta", false⟩, ⟨"default", false⟩, false⟩] none)]

theorem namedHooks_defaultIsWhole : namedHooks.DefaultIsWhole ["parameters"] where
  value := by
    refine bindsDefault_of_defaultTarget? ?_
    rintro ⟨i, _ | ⟨_, _ | ⟨_, ⟨⟩⟩⟩, h⟩
    · cases h
    · cases h with
      | one hb _ htype =>
          obtain rfl := List.mem_singleton.mp hb
          cases htype
  whole := by
    intro t s ht hs i hi pat e hpat hdeclared
    obtain rfl : .variable "meta" = t := Option.some.inj ht
    cases hs
    rcases hi with _ | ⟨_, _ | ⟨_, ⟨⟩⟩⟩
    · obtain ⟨rfl, rfl⟩ := Pattern.withDefault.inj (List.mem_singleton.mp hpat)
      exact ⟨.plain hpat hdeclared, .name⟩
    · cases hpat
  numbers := by
    rintro qs ⟨t, ht, hqs⟩ q hq x hkey
    obtain rfl : .variable "meta" = t := Option.some.inj ht
    obtain rfl := Option.some.inj hqs
    obtain rfl := List.mem_singleton.mp hq
    cases hkey

theorem namedHooks_keepsParents : namedHooks.KeepsParents ["parameters"] := by
  rintro qs ⟨t, ht, hqs⟩ q hq
  obtain rfl : .variable "meta" = t := Option.some.inj ht
  obtain rfl := Option.some.inj hqs
  obtain rfl := List.mem_singleton.mp hq
  refine ⟨rfl, fun name e qs' hname _ hwritten q' hq' => ?_⟩
  obtain ⟨rfl, rfl⟩ := Prod.mk.inj (Option.some.inj hname)
  obtain rfl := Option.some.inj hwritten
  obtain rfl := List.mem_singleton.mp hq'
  rfl

theorem namedHooks_defaultValue : namedHooks.DefaultValue Tree.memory
    (Tree.single "parameters" (Tree.single "setup" .function)) := by
  refine ⟨.variable "meta", ⟨_, .tail _ (.head _), .variable (.head _) rfl rfl⟩, ?_,
    ⟨fun e he => ?_, ?_⟩⟩
  · rintro t ⟨i, _ | ⟨_, _ | ⟨_, ⟨⟩⟩⟩, hbinds⟩
    · cases hbinds
    · cases hbinds with
      | «variable» hb _ _ =>
          obtain rfl := List.mem_singleton.mp hb
          rfl
  · cases he
  · rintro s ⟨⟩ pat e ⟨i, _ | ⟨_, _ | ⟨_, ⟨⟩⟩⟩, hinit⟩ -
    · cases hinit with
      | plain hp _ =>
          obtain ⟨rfl, rfl⟩ := Pattern.withDefault.inj (List.mem_singleton.mp hp)
          exact ⟨_, Tree.evaluates_single (.value rfl (.inl rfl) (Tree.evaluates_idle "setup")),
            .name⟩
    · cases hinit

theorem namedHooks_keepsHooks :
    namedHooks.defaultShape ["parameters"] = .literal ⟨[.setup]⟩ ∧
      Tree.memory.KeepsHooks ["parameters"] ⟨[.setup]⟩
        (Tree.single "parameters" (Tree.single "setup" .function)) := by
  refine ⟨rfl, (literal_keepsHooks_iff rfl namedHooks_defaultIsWhole
    namedHooks_defaultValue).2.1 namedHooks_keepsParents ?_⟩
  intro receiver n _
  refine ⟨rfl, fun s _ h => ?_⟩
  cases h.1

/-! ### What can be lost -/

/-- Some run of the module has a default export with a hook that the inspection does not mark. -/
def LosesHook (p : Program) (namespaces : List String) : Prop :=
  ∃ hs v, p.defaultShape namespaces = .literal hs ∧ p.DefaultValue Tree.memory v ∧
    ¬ Tree.memory.KeepsHooks namespaces hs v

/-- `export default {__proto__: {before() {}}}`. -/
def inheritedHook : Program where
  items := [.plain (.exportDefault (.expr (.object [
    .value (.name "__proto__") (.object [.idle "before"])])))]

/-- `const {meta} = {meta: {before() {}}}; export default meta`. -/
def memberHook : Program where
  items := [
    .plain (.declaration .const [.withDefault
      (.object [.property (.name "meta") true (.name "meta")])
      (.object [.value (.name "meta") (.object [.idle "before"])])]),
    .plain (.exportDefault (.expr (.name "meta")))]

/-- `const D = {}; export type {D as default}; export default {before() {}}`. -/
def typedHook : Program where
  items := [
    .plain (.declaration .const [.withDefault (.name "D") (.object [])]),
    .plain (.exportNames true [⟨⟨"D", false⟩, ⟨"default", false⟩, false⟩] none),
    .plain (.exportDefault (.expr (.object [.idle "before"])))]

/-- `export default {1e999: {before() {}}}`. -/
def numberedHook : Program where
  items := [.plain (.exportDefault (.expr (.object [
    .value (.number none) (.object [.idle "before"])])))]

/-- An expression that is the only default export is its value. -/
theorem defaultValue_of_only {p : Program} {e : Expr} {v : Tree} {i : Item} (hi : i ∈ p.items)
    (hexport : i.stmt = .exportDefault (.expr e))
    (honly : ∀ j ∈ p.items, ∀ t, j.stmt.BindsDefault t → j = i)
    (hv : Evaluates Tree.memory e v)
    (hname : ∀ s, e.IsName s → p.VariableValue Tree.memory s v) :
    p.DefaultValue Tree.memory v := by
  refine ⟨.value e, ⟨i, hi, hexport ▸ .value⟩, ?_, fun e' he => ?_, fun s hs => ?_⟩
  · rintro t ⟨j, hj, hbinds⟩
    obtain rfl := honly j hj t hbinds
    rw [hexport] at hbinds
    cases hbinds
    rfl
  · obtain rfl := DefaultTarget.value.inj he
    exact hv
  · cases hs with
    | value he => exact hname s he

theorem inheritedHook_losesHook : inheritedHook.LosesHook ["parameters", "test"] := by
  refine ⟨⟨[]⟩, .object (Tree.single "before" .function) fun _ => none, rfl, ?_, fun hkeeps => ?_⟩
  · refine defaultValue_of_only (.head _) rfl ?_ ?_ ?_
    · intro j hj t _
      exact List.mem_singleton.mp hj
    · exact .object (.cons (.parent rfl (Tree.evaluates_idle "before") rfl) .nil)
        ⟨rfl, fun k => rfl, rfl⟩
    · rintro s ⟨⟩
  · exact (hkeeps .before rfl).1 (Tree.findsFunction_single "before")

theorem memberHook_losesHook : memberHook.LosesHook ["parameters", "test"] := by
  refine ⟨⟨[]⟩, Tree.single "before" .function, rfl, ?_, fun hkeeps => ?_⟩
  · refine defaultValue_of_only (.tail _ (.head _)) rfl ?_ (.other rfl) ?_
    · rintro j (_ | ⟨_, _ | ⟨_, ⟨⟩⟩⟩) t hbinds
      · cases hbinds
      · rfl
    · rintro s ⟨⟩ pat e ⟨j, hj, hinit⟩ -
      rcases hj with _ | ⟨_, _ | ⟨_, ⟨⟩⟩⟩
      · cases hinit with
        | plain hp hs =>
            obtain ⟨rfl, rfl⟩ := Pattern.withDefault.inj (List.mem_singleton.mp hp)
            refine ⟨Tree.single "meta" (Tree.single "before" .function), ?_, ?_⟩
            · exact Tree.evaluates_single (.value rfl (.inl rfl) (Tree.evaluates_idle "before"))
            · refine .property (.head _) (.inl rfl) ?_
              rw [Tree.read_single]
              exact .name
      · cases hinit
  · exact (hkeeps .before rfl).1 (Tree.findsFunction_single "before")

theorem typedHook_losesHook : typedHook.LosesHook ["parameters", "test"] := by
  refine ⟨⟨[]⟩, Tree.single "before" .function, rfl, ?_, fun hkeeps => ?_⟩
  · refine defaultValue_of_only (.tail _ (.tail _ (.head _))) rfl ?_
      (Tree.evaluates_idle "before") ?_
    · rintro j (_ | ⟨_, _ | ⟨_, _ | ⟨_, ⟨⟩⟩⟩⟩) t hbinds
      · cases hbinds
      · cases hbinds
      · rfl
    · rintro s ⟨⟩
  · exact (hkeeps .before rfl).1 (Tree.findsFunction_single "before")

theorem numberedHook_losesHook : numberedHook.LosesHook ["Infinity"] := by
  refine ⟨⟨[]⟩, Tree.single "Infinity" (Tree.single "before" .function), rfl, ?_, fun hkeeps => ?_⟩
  · refine defaultValue_of_only (.head _) rfl ?_ ?_ ?_
    · intro j hj t _
      exact List.mem_singleton.mp hj
    · exact Tree.evaluates_single (.value rfl (.inl rfl) (Tree.evaluates_idle "before"))
    · rintro s ⟨⟩
  · refine (hkeeps .before rfl).2 "Infinity" (.head _) ?_
    rw [Tree.read_single]
    exact Tree.findsFunction_single "before"

/-- **A hook can be lost** that the default export inherits; when the default export is only a
member of the object that is looked at; when a type is exported under its name before it; and when a
number is the name of a namespace. -/
theorem not_forall_literal_keepsHooks :
    inheritedHook.LosesHook ["parameters", "test"] ∧ memberHook.LosesHook ["parameters", "test"] ∧
      typedHook.LosesHook ["parameters", "test"] ∧ numberedHook.LosesHook ["Infinity"] :=
  ⟨inheritedHook_losesHook, memberHook_losesHook, typedHook_losesHook, numberedHook_losesHook⟩

end Program

end StorySuite.Script
