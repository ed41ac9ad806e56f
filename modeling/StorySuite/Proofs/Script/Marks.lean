import StorySuite.Proofs.Script.DefaultValue
import StorySuite.Proofs.Script.KeyNames

/-!
# Proofs — Script — marked hooks cover an object's own properties

When the inspection finds the hooks of an object that is written out, each of the object's
properties is accounted for: it has a written name, the name is marked, or is a namespace's and the
namespace is an object whose names are all marked.  What is filled property by property keeps within
that.

* `hooksOf_spec`: what is found accounts for every property.
* `Covers`, `CoversIn`: an object has no hook by itself that is not marked, and neither have its
  namespaces.  One property keeps this (`Adds.covers`, `Adds.coversIn`), so all of them do
  (`Fills.covers`, `Fills.coversIn`).
* `Takes.coversIn`: a variable that is given the whole of such an object is covered like it.
-/

namespace StorySuite

namespace Hook

/-- The name of the hook's property in a program that runs. -/
def key (n : Hook) : Script.StringValue :=
  ⟨n.name, false⟩

theorem ofName?_name (n : Hook) : ofName? n.name = some n := by
  cases n <;> rfl

end Hook

namespace HookSet

/-- The hook of that name, if there is one, is in the set. -/
def Marks (hs : HookSet) (name : String) : Prop :=
  ∀ n : Hook, n.name = name → hs.contains n = true

/-- Every hook of the first set is in the second. -/
def Within (hs hs' : HookSet) : Prop :=
  ∀ n, hs.contains n = true → hs'.contains n = true

theorem Within.refl (hs : HookSet) : hs.Within hs :=
  fun _ h => h

theorem Within.trans {hs hs' hs'' : HookSet} (h : hs.Within hs') (h' : hs'.Within hs'') :
    hs.Within hs'' :=
  fun n hn => h' n (h n hn)

theorem Marks.mono {hs hs' : HookSet} {name : String} (h : hs.Marks name) (hin : hs.Within hs') :
    hs'.Marks name :=
  fun n hn => hin n (h n hn)

theorem within_mark (hs : HookSet) (name : String) : hs.Within (hs.mark name) := by
  intro n hn
  unfold mark
  cases Hook.ofName? name with
  | none => exact hn
  | some n' =>
      dsimp only
      split
      · exact hn
      · simp only [contains, List.contains_cons, Bool.or_eq_true] at hn ⊢
        exact .inr hn

theorem mark_marks (hs : HookSet) (name : String) : (hs.mark name).Marks name := by
  rintro n rfl
  simp only [mark, Hook.ofName?_name]
  split
  case isTrue h => exact h
  case isFalse => simp [contains]

end HookSet

end StorySuite

namespace StorySuite.Script

/-! ### What the inspection accounts for -/

/-- The property has a written name, which is marked. -/
def Accounts (hs : HookSet) (q : Property) : Prop :=
  ∃ name e, q.static? = some (name, e) ∧ hs.Marks name

/-- The property has a written name, which is marked or is that of a namespace; the namespace is an
object whose properties are all accounted for. -/
def AccountsIn (namespaces : List String) (hs : HookSet) (q : Property) : Prop :=
  ∃ name e, q.static? = some (name, e) ∧
    (name ∉ namespaces ∧ hs.Marks name ∨
      name ∈ namespaces ∧ ∃ qs, e.written? = some qs ∧ ∀ q' ∈ qs, Accounts hs q')

theorem Accounts.mono {hs hs' : HookSet} {q : Property} (h : Accounts hs q) (hin : hs.Within hs') :
    Accounts hs' q := by
  obtain ⟨name, e, hname, hmarks⟩ := h
  exact ⟨name, e, hname, hmarks.mono hin⟩

/-- Marking goes up, and accounts for every property. -/
theorem markAll_spec : ∀ {qs : List Property} {hooks hs : HookSet},
    markAll hooks qs = some hs → hooks.Within hs ∧ ∀ q ∈ qs, Accounts hs q
  | [], hooks, hs, h => by
      obtain rfl := Option.some.inj h
      exact ⟨.refl _, by simp⟩
  | q :: qs, hooks, hs, h => by
      simp only [markAll, Option.bind_eq_bind, Option.bind_eq_some_iff] at h
      obtain ⟨⟨name, e⟩, hname, h⟩ := h
      obtain ⟨hin, hall⟩ := markAll_spec h
      refine ⟨(HookSet.within_mark hooks name).trans hin, List.forall_mem_cons.mpr ⟨?_, hall⟩⟩
      exact ⟨name, e, hname, (hooks.mark_marks name).mono hin⟩

theorem markDefault_spec {namespaces : List String} : ∀ {qs : List Property} {hooks hs : HookSet},
    markDefault namespaces hooks qs = some hs →
      hooks.Within hs ∧ ∀ q ∈ qs, AccountsIn namespaces hs q
  | [], hooks, hs, h => by
      obtain rfl := Option.some.inj h
      exact ⟨.refl _, by simp⟩
  | q :: qs, hooks, hs, h => by
      simp only [markDefault, Option.bind_eq_bind, Option.bind_eq_some_iff] at h
      obtain ⟨⟨name, e⟩, hname, h⟩ := h
      split at h
      case isTrue hspace =>
        simp only [Option.bind_eq_some_iff] at h
        obtain ⟨qs', hwritten, hooks', hnested, h⟩ := h
        obtain ⟨hin', hall'⟩ := markAll_spec hnested
        obtain ⟨hin, hall⟩ := markDefault_spec h
        refine ⟨hin'.trans hin, List.forall_mem_cons.mpr ⟨⟨name, e, hname, .inr ?_⟩, hall⟩⟩
        exact ⟨by simpa using hspace, qs', hwritten, fun q' hq' => (hall' q' hq').mono hin⟩
      case isFalse hspace =>
        obtain ⟨hin, hall⟩ := markDefault_spec h
        refine ⟨(HookSet.within_mark hooks name).trans hin,
          List.forall_mem_cons.mpr ⟨⟨name, e, hname, .inl ?_⟩, hall⟩⟩
        exact ⟨by simpa using hspace, (hooks.mark_marks name).mono hin⟩

/-- **The hooks that are found account for every property.** -/
theorem hooksOf_spec {namespaces : List String} {qs : List Property} {hs : HookSet}
    (h : hooksOf namespaces qs = some hs) : ∀ q ∈ qs, AccountsIn namespaces hs q :=
  (markDefault_spec h).2

/-! ### What objects have by themselves -/

variable {m : Memory} {namespaces : List String} {hs : HookSet}

/-- The object has no hook by itself that is not marked. -/
def Covers (hs : HookSet) (own : StringValue → Option (Slot m.Value)) : Prop :=
  ∀ n : Hook, own n.key ≠ none → hs.contains n = true

/-- The object has no hook by itself that is not marked, unless it is a namespace; its own
namespaces are objects of which the same holds, and which inherit as objects do that are written out
when `rooted`. -/
structure CoversIn (m : Memory) (namespaces : List String) (hs : HookSet) (rooted : Prop)
    (own : StringValue → Option (Slot m.Value)) : Prop where
  hook : ∀ n : Hook, own n.key ≠ none → hs.contains n = true ∨ n.name ∈ namespaces
  «namespace» : ∀ s ∈ namespaces, ∀ slot, own ⟨s, false⟩ = some slot →
    ∃ o, slot = .data o ∧ m.isPlain o = true ∧ Covers hs (m.own o) ∧
      (rooted → m.parent o = some m.objectPrototype)

theorem Covers.set {d : Draft m} {k : StringValue} {slot : Slot m.Value} (hd : Covers hs d.own)
    (hk : ∀ n : Hook, k = n.key → hs.contains n = true) : Covers hs (d.set k slot).own := by
  intro n hn
  rw [Draft.set_own] at hn
  by_cases heq : n.key = k
  · exact hk n heq.symm
  · rw [if_neg heq] at hn
    exact hd n hn

theorem CoversIn.set {rooted : Prop} {d : Draft m} {k : StringValue} {slot : Slot m.Value}
    (hd : CoversIn m namespaces hs rooted d.own)
    (hhook : ∀ n : Hook, k = n.key → hs.contains n = true ∨ n.name ∈ namespaces)
    (hspace : ∀ s ∈ namespaces, k = ⟨s, false⟩ →
      ∃ o, slot = .data o ∧ m.isPlain o = true ∧ Covers hs (m.own o) ∧
        (rooted → m.parent o = some m.objectPrototype)) :
    CoversIn m namespaces hs rooted (d.set k slot).own where
  hook := by
    intro n hn
    rw [Draft.set_own] at hn
    by_cases heq : n.key = k
    · exact hhook n heq.symm
    · rw [if_neg heq] at hn
      exact hd.hook n hn
  «namespace» := by
    intro s hs slot' hslot
    rw [Draft.set_own] at hslot
    by_cases heq : (⟨s, false⟩ : StringValue) = k
    · rw [if_pos heq] at hslot
      obtain rfl := Option.some.inj hslot
      exact hspace s hs heq.symm
    · rw [if_neg heq] at hslot
      exact hd.namespace s hs slot' hslot

/-! ### What a property with a written name does -/

namespace Property

/-- The key of the property, unless it has only a name. -/
def key? : Property → Option PropertyKey
  | .value key _ | .method _ key _ => some key
  | .shorthand _ | .initialized _ _ | .spread _ => none

/-- The property says what the object inherits from. -/
def setsParent : Property → Bool
  | .value key _ => key.setsParent
  | _ => false

/-- The property may have the name when the program runs. -/
def Denotes : Property → StringValue → Prop
  | .value key _, k | .method _ key _, k => key.Denotes k
  | .shorthand s, k | .initialized s _, k => k = ⟨s, false⟩
  | .spread _, _ => True

/-- A property that is a namespace's when the program runs is read as one. -/
def ReadsAlike (namespaces : List String) (q : Property) : Prop :=
  ∀ key, q.key? = some key → key.ReadsAlike namespaces

theorem static?_cases {q : Property} {name : String} {e : Expr} (h : q.static? = some (name, e)) :
    (∃ key, q.key? = some key ∧ key.static? = some name) ∨
      q = .shorthand name ∨ ∃ e', q = .initialized name e' := by
  cases q with
  | value key e' =>
      obtain ⟨t, hread, ht⟩ := Option.map_eq_some_iff.mp h
      obtain rfl : t = name := congrArg Prod.fst ht
      exact .inl ⟨key, rfl, hread⟩
  | method kind key f =>
      obtain ⟨t, hread, ht⟩ := Option.map_eq_some_iff.mp h
      obtain rfl : t = name := congrArg Prod.fst ht
      exact .inl ⟨key, rfl, hread⟩
  | shorthand s =>
      obtain ⟨rfl, -⟩ := Prod.mk.inj (Option.some.inj h)
      exact .inr (.inl rfl)
  | initialized s e' =>
      obtain ⟨rfl, -⟩ := Prod.mk.inj (Option.some.inj h)
      exact .inr (.inr ⟨e', rfl⟩)
  | spread e' => cases h

theorem denotes_of_key? {q : Property} {key : PropertyKey} {k : StringValue}
    (hkey : q.key? = some key) (hk : q.Denotes k) : key.Denotes k := by
  cases q with
  | value _ _ | method _ _ _ =>
      obtain rfl := Option.some.inj hkey
      exact hk
  | _ => cases hkey

/-- A property that is read under a name and is a hook is read as that hook. -/
theorem eq_name_of_denotes {q : Property} {name : String} {e : Expr} {n : Hook}
    (hname : q.static? = some (name, e)) (hk : q.Denotes n.key) : name = n.name := by
  rcases static?_cases hname with ⟨key, hkey, hread⟩ | rfl | ⟨e', rfl⟩
  · rcases denotes_of_key? hkey hk with hk | ⟨e', rfl⟩
    · exact Option.some.inj (hread.symm.trans (PropertyKey.static?_of_scriptName?_hook hk))
    · cases hread
  · exact (congrArg StringValue.value hk).symm
  · exact (congrArg StringValue.value hk).symm

/-- A property that is read under a name and is a namespace is read as a namespace. -/
theorem mem_of_denotes {q : Property} {name s : String} {e : Expr}
    (hname : q.static? = some (name, e)) (halike : q.ReadsAlike namespaces) (hs : s ∈ namespaces)
    (hk : q.Denotes ⟨s, false⟩) : name ∈ namespaces := by
  rcases static?_cases hname with ⟨key, hkey, hread⟩ | rfl | ⟨e', rfl⟩
  · rcases denotes_of_key? hkey hk with hk | ⟨e', rfl⟩
    · obtain ⟨t, ht, ht'⟩ := halike key hkey s hs hk
      obtain rfl := Option.some.inj (hread.symm.trans ht')
      exact ht
    · cases hread
  · obtain rfl : s = name := congrArg StringValue.value hk
    exact hs
  · obtain rfl : s = name := congrArg StringValue.value hk
    exact hs

end Property

/-- A property with a written name sets what the object inherits from, or it sets one property that
it denotes, to a value of its expression if that is an object. -/
theorem Adds.of_static? {q : Property} {d d' : Draft m} {name : String} {e : Expr}
    (h : Adds m q d d') (hq : q.static? = some (name, e)) :
    d'.own = d.own ∨ ∃ k slot, d' = d.set k slot ∧ q.Denotes k ∧
      (e.written? ≠ none → ∃ v, slot = .data v ∧ Evaluates m e v) := by
  cases h with
  | value hparent hk hv =>
      obtain ⟨t, -, ht⟩ := Option.map_eq_some_iff.mp hq
      obtain rfl := congrArg Prod.snd ht
      exact .inr ⟨_, _, rfl, hk, fun _ => ⟨_, rfl, hv⟩⟩
  | parent | orphan | ignored => exact .inl rfl
  | shorthand | initialized =>
      obtain ⟨rfl, rfl⟩ := Prod.mk.inj (Option.some.inj hq)
      exact .inr ⟨_, _, rfl, rfl, fun hwritten => absurd rfl hwritten⟩
  | method _ hk _ =>
      obtain ⟨t, -, ht⟩ := Option.map_eq_some_iff.mp hq
      obtain rfl := congrArg Prod.snd ht
      exact .inr ⟨_, _, rfl, hk, fun hwritten => absurd rfl hwritten⟩
  | getter hk | setter hk =>
      obtain ⟨t, -, ht⟩ := Option.map_eq_some_iff.mp hq
      obtain rfl := congrArg Prod.snd ht
      exact .inr ⟨_, _, rfl, hk, fun hwritten => absurd rfl hwritten⟩
  | symbol | symbolMethod | spread => cases hq

theorem Adds.parent_eq {q : Property} {d d' : Draft m} (h : Adds m q d d')
    (hq : q.setsParent = false) : d'.parent = d.parent := by
  cases h with
  | parent hparent _ _ | orphan hparent _ | ignored hparent _ _ _ =>
      exact absurd hparent (by simpa [Property.setsParent] using hq)
  | spread hparent _ => exact hparent
  | _ => rfl

theorem Fills.parent_eq : ∀ {qs : List Property} {d d' : Draft m}, Fills m qs d d' →
    (∀ q ∈ qs, q.setsParent = false) → d'.parent = d.parent
  | [], _, _, .nil, _ => rfl
  | q :: qs, _, _, .cons h hrest, hall => by
      rw [List.forall_mem_cons] at hall
      rw [hrest.parent_eq hall.2, h.parent_eq hall.1]

/-! ### Filling an object -/

/-- **One property keeps an object covered.** -/
theorem Adds.covers {q : Property} {d d' : Draft m} (h : Adds m q d d') (hq : Accounts hs q)
    (hd : Covers hs d.own) : Covers hs d'.own := by
  obtain ⟨name, e, hname, hmarks⟩ := hq
  rcases h.of_static? hname with hown | ⟨k, slot, rfl, hk, -⟩
  · rw [hown]
    exact hd
  · refine hd.set fun n hn => hmarks n ?_
    exact (q.eq_name_of_denotes hname (hn ▸ hk)).symm

theorem Fills.covers : ∀ {qs : List Property} {d d' : Draft m}, Fills m qs d d' →
    (∀ q ∈ qs, Accounts hs q) → Covers hs d.own → Covers hs d'.own
  | [], _, _, .nil, _, hd => hd
  | q :: qs, _, _, .cons h hrest, hall, hd => by
      rw [List.forall_mem_cons] at hall
      exact hrest.covers hall.2 (h.covers hall.1 hd)

/-- The property does not say what the object inherits from, and neither does its value when that
is a namespace. -/
def Property.KeepsParent (namespaces : List String) (q : Property) : Prop :=
  q.setsParent = false ∧ ∀ name e qs, q.static? = some (name, e) → name ∈ namespaces →
    e.written? = some qs → ∀ q' ∈ qs, q'.setsParent = false

/-- **One property keeps an object covered with its namespaces.** -/
theorem Adds.coversIn {rooted : Prop} {q : Property} {d d' : Draft m} (h : Adds m q d d')
    (hq : AccountsIn namespaces hs q) (halike : q.ReadsAlike namespaces)
    (hrooted : rooted → q.KeepsParent namespaces)
    (hd : CoversIn m namespaces hs rooted d.own) :
    CoversIn m namespaces hs rooted d'.own := by
  obtain ⟨name, e, hname, hmarks⟩ := hq
  rcases h.of_static? hname with hown | ⟨k, slot, rfl, hk, hvalue⟩
  · rw [hown]
    exact hd
  refine hd.set (fun n hn => ?_) fun s hspace hs => ?_
  · have heq : name = n.name := q.eq_name_of_denotes hname (hn ▸ hk)
    rcases hmarks with ⟨-, hmarks⟩ | ⟨hmem, -⟩
    · exact .inl (hmarks n heq.symm)
    · exact .inr (heq ▸ hmem)
  · -- a namespace when the program runs is a namespace to the inspection
    have hmem : name ∈ namespaces := q.mem_of_denotes hname halike hspace (hs ▸ hk)
    rcases hmarks with ⟨hnot, -⟩ | ⟨-, qs, hwritten, hall⟩
    · exact absurd hmem hnot
    -- the namespace is an object, filled from nothing with what is accounted for
    obtain ⟨o, rfl, ho⟩ := hvalue (by simp [hwritten])
    obtain ⟨d₂, hfills, hholds⟩ := ho.of_inner (Expr.inner_of_written? hwritten)
    refine ⟨o, rfl, hholds.plain, ?_, fun hroot => ?_⟩
    · have hcovers := hfills.covers hall fun n hn => absurd rfl hn
      intro n hn
      exact hcovers n (hholds.own n.key ▸ hn)
    · rw [hholds.parent, hfills.parent_eq ((hrooted hroot).2 name e qs hname hmem hwritten)]
      rfl

theorem Fills.coversIn {rooted : Prop} : ∀ {qs : List Property} {d d' : Draft m},
    Fills m qs d d' → (∀ q ∈ qs, AccountsIn namespaces hs q) →
    (∀ q ∈ qs, q.ReadsAlike namespaces) → (rooted → ∀ q ∈ qs, q.KeepsParent namespaces) →
    CoversIn m namespaces hs rooted d.own → CoversIn m namespaces hs rooted d'.own
  | [], _, _, .nil, _, _, _, hd => hd
  | q :: qs, _, _, .cons h hrest, hall, halike, hrooted, hd => by
      rw [List.forall_mem_cons] at hall halike
      have hfirst := h.coversIn hall.1 halike.1 (fun hr => hrooted hr q List.mem_cons_self) hd
      exact hrest.coversIn hall.2 halike.2
        (fun hr q' hq' => hrooted hr q' (List.mem_cons_of_mem _ hq')) hfirst

/-! ### Variables that are given the whole -/

/-- The pattern gives the variable the whole value, or what is left of its properties. -/
inductive Pattern.TakesWhole : Pattern → String → Prop where
  | name {s : String} : TakesWhole (.name s) s
  | typed {p : Pattern} {types : List String} {s : String} (h : p.TakesWhole s) :
      TakesWhole (.typed p types) s
  | rest {ps : List Pattern} {s : String}
      (hrest : ∀ p ∈ ps, s ∈ p.declared → p = .rest (.name s)) : TakesWhole (.object ps) s

theorem Takes.mem_declared {p : Pattern} {u v : m.Value} {s : String} (h : Takes m p u s v) :
    s ∈ p.declared := by
  induction h with
  | name => exact List.mem_singleton_self _
  | typed _ ih | given _ _ ih | default _ _ ih => exact ih
  | property hp _ _ ih | rest hp _ _ ih | item hp _ ih =>
      rw [Pattern.declared, Pattern.declaredAll_eq]
      exact List.mem_flatMap.mpr ⟨_, hp, ih⟩

/-- What is left of an object's properties is covered like the object. -/
theorem CoversIn.rest {rooted : Prop} {ps : List Pattern} {u w : m.Value}
    (hu : CoversIn m namespaces hs rooted (m.own u)) (hplain : m.isPlain u = true)
    (hw : m.IsRest ps u w) : CoversIn m namespaces hs rooted (m.own w) where
  hook := by
    intro n hn
    refine hu.hook n fun hnone => hn ?_
    rcases hw.copied n.key with h | h
    · exact h
    · rw [h, hnone]
      rfl
  «namespace» := by
    intro s hspace slot hslot
    rcases hw.copied ⟨s, false⟩ with h | h
    · rw [h] at hslot
      cases hslot
    · rw [h] at hslot
      obtain ⟨slot', hslot', rfl⟩ := Option.map_eq_some_iff.mp hslot
      obtain ⟨o, rfl, ho⟩ := hu.namespace s hspace slot' hslot'
      exact ⟨o, by rw [Memory.read_of_own_data hplain hslot'], ho⟩

/-- **A variable that is given the whole of a covered object is covered.** -/
theorem Takes.coversIn {rooted : Prop} {p : Pattern} {u v : m.Value} {s : String}
    (h : Takes m p u s v) (hwhole : p.TakesWhole s) (hplain : m.isPlain u = true)
    (hu : CoversIn m namespaces hs rooted (m.own u)) :
    m.isPlain v = true ∧ CoversIn m namespaces hs rooted (m.own v) ∧
      (v = u ∨ m.parent v = some m.objectPrototype) := by
  induction h with
  | name => exact ⟨hplain, hu, .inl rfl⟩
  | typed _ ih =>
      cases hwhole with
      | typed hwhole => exact ih hwhole hplain hu
  | given | default | item => cases hwhole
  | property hp _ h _ =>
      -- the variable is nowhere but at what is left of the properties
      cases hwhole with
      | rest hrest => cases hrest _ hp h.mem_declared
  | rest hp hw h _ =>
      cases hwhole with
      | rest hrest =>
          obtain rfl := Pattern.rest.inj (hrest _ hp h.mem_declared)
          cases h
          exact ⟨hw.plain, hu.rest hplain hw, .inr hw.parent⟩

end StorySuite.Script
