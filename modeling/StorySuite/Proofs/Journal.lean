import Mathlib.Data.List.Forall2
import StorySuite.Journal

/-!
# Proofs — Journal — a run adds to its journal

A run is handed the journal of what was done before it.  It can read it, being a function of it, but
the runs here do not: what they give, and what they write, is the same behind every journal
(`Run.OnlyAdds`, which also says which calls such a run can make).  So such a run is known from its
run from an empty journal, and of two runs one after the other the calls and the reports stand one
behind the other.

* `runFrom_bind`: one run after another.
* `OnlyAdds.bind`, `OnlyAdds.mapM`: runs made of runs that only add.
* **`start_bind`**: the second of two runs, from an empty journal.
* `mapM_eq_ok_iff`: the results of runs made for the members of a list.
* `exists_of_makes_bind`: how far a run gets that makes a call.
-/

namespace StorySuite

namespace Call

/-- The call is a look at a default export. -/
def isInspect : Call → Bool
  | .inspect .. => true
  | _ => false

/-- The call hands a script to the host that runs it. -/
def isRun : Call → Bool
  | .run _ => true
  | _ => false

end Call

namespace Journal

/-- The journal `j` with the journal `k` at its end. -/
def append (j k : Journal) : Journal :=
  { calls := j.calls ++ k.calls, events := j.events ++ k.events }

instance : Append Journal := ⟨append⟩

@[simp] theorem calls_append (j k : Journal) : (j ++ k).calls = j.calls ++ k.calls := rfl

@[simp] theorem events_append (j k : Journal) : (j ++ k).events = j.events ++ k.events := rfl

@[simp] theorem append_empty (j : Journal) : j ++ ({} : Journal) = j := by
  show Journal.mk (j.calls ++ []) (j.events ++ []) = j
  rw [List.append_nil, List.append_nil]

@[simp] theorem empty_append (j : Journal) : ({} : Journal) ++ j = j := rfl

theorem append_assoc (i j k : Journal) : i ++ j ++ k = i ++ (j ++ k) := by
  show Journal.mk _ _ = Journal.mk _ _
  rw [calls_append, events_append, List.append_assoc, List.append_assoc]
  rfl

end Journal

namespace Run

variable {ε ε' α β : Type}

/-- What a run leaves behind from the journal `j`. -/
def runFrom (r : Run ε α) (j : Journal) : Except ε α × Journal :=
  StateT.run (ExceptT.run r) j

theorem runFrom_bind (r : Run ε α) (f : α → Run ε β) (j : Journal) :
    (r >>= f).runFrom j =
      match r.runFrom j with
      | (.ok a, j') => (f a).runFrom j'
      | (.error e, j') => (.error e, j') := by
  -- `>>=` of the transformer over the state's, opened
  show (match r.runFrom j with | (x, j') => StateT.run (ExceptT.bindCont f x) j') = _
  rcases r.runFrom j with ⟨a | e, j'⟩ <;> rfl

/-- The run gives the same and writes the same behind every journal, and its calls are all among
those of `p`. -/
structure OnlyAdds (p : Call → Prop) (r : Run ε α) : Prop where
  runFrom_eq : ∀ j, r.runFrom j = (r.start.1, j ++ r.start.2)
  calls : ∀ c ∈ r.start.2.calls, p c

namespace OnlyAdds

variable {p : Call → Prop}

/-- A run that gives `x` and writes `k` behind every journal. -/
theorem of_runFrom_eq {r : Run ε α} {x : Except ε α} {k : Journal}
    (h : ∀ j, r.runFrom j = (x, j ++ k)) (hcalls : ∀ c ∈ k.calls, p c) : OnlyAdds p r := by
  have hstart : r.start = (x, k) := by
    have hempty : r.start = (x, {} ++ k) := h {}
    rw [hempty, Journal.empty_append]
  constructor
  · intro j
    rw [h j, hstart]
  · rw [hstart]
    exact hcalls

theorem mono {p' : Call → Prop} {r : Run ε α} (h : OnlyAdds p r) (hp : ∀ c, p c → p' c) :
    OnlyAdds p' r :=
  ⟨h.runFrom_eq, fun c hc => hp c (h.calls c hc)⟩

theorem pure (a : α) : OnlyAdds p (Pure.pure a : Run ε α) :=
  of_runFrom_eq (x := .ok a) (k := {}) (fun j => by rw [Journal.append_empty]; rfl)
    (List.forall_mem_nil p)

theorem throw (e : ε) : OnlyAdds p (MonadExcept.throw e : Run ε α) :=
  of_runFrom_eq (x := .error e) (k := {}) (fun j => by rw [Journal.append_empty]; rfl)
    (List.forall_mem_nil p)

theorem call {c : Call} (h : p c) : OnlyAdds p (Run.call c : Run ε Unit) := by
  refine of_runFrom_eq (x := .ok ()) (k := { calls := [c] }) (fun j => ?_)
    (List.forall_mem_singleton.mpr h)
  show _ = (_, Journal.mk (j.calls ++ [c]) (j.events ++ []))
  rw [List.append_nil]
  rfl

theorem events (es : List Event) :
    OnlyAdds p (modify fun j => j.addEvents es : Run ε Unit) := by
  refine of_runFrom_eq (x := .ok ()) (k := { events := es }) (fun j => ?_) (List.forall_mem_nil p)
  show _ = (_, Journal.mk (j.calls ++ []) (j.events ++ es))
  rw [List.append_nil]
  rfl

theorem event (e : Event) : OnlyAdds p (Run.event e : Run ε Unit) :=
  events [e]

theorem ofExcept (wrap : ε' → ε) : ∀ answer : Except ε' α, OnlyAdds p (Run.ofExcept wrap answer)
  | .ok a => pure a
  | .error e => throw (wrap e)

/-- **One run after another.** -/
theorem bind {r : Run ε α} {f : α → Run ε β} (hr : OnlyAdds p r) (hf : ∀ a, OnlyAdds p (f a)) :
    OnlyAdds p (r >>= f) := by
  cases hstart : r.start with
  | mk x k =>
    have hcalls : ∀ c ∈ k.calls, p c := by
      have h := hr.calls
      rwa [hstart] at h
    cases x with
    | error e =>
        refine of_runFrom_eq (x := .error e) (k := k) (fun j => ?_) hcalls
        rw [runFrom_bind, hr.runFrom_eq, hstart]
    | ok a =>
        -- the second is handed `j ++ k`, and does behind it what it does behind any journal
        refine of_runFrom_eq (x := (f a).start.1) (k := k ++ (f a).start.2) (fun j => ?_) ?_
        · rw [runFrom_bind, hr.runFrom_eq, hstart, ← Journal.append_assoc]
          exact (hf a).runFrom_eq (j ++ k)
        · intro c hc
          rcases List.mem_append.mp hc with hc | hc
          · exact hcalls c hc
          · exact (hf a).calls c hc

/-- An answer is taken over. -/
theorem ofReport (wrap : ε' → ε) (answer : Report ε' α) :
    OnlyAdds p (Run.ofReport wrap answer) := by
  refine (events answer.events).bind fun _ => ?_
  cases answer.result with
  | ok a => exact pure a
  | error e => exact throw (wrap e)

/-- **A run for each member of a list.** -/
theorem mapM {f : α → Run ε β} (hf : ∀ a, OnlyAdds p (f a)) :
    ∀ xs : List α, OnlyAdds p (xs.mapM f)
  | [] => pure []
  | x :: xs => by
      rw [List.mapM_cons]
      exact (hf x).bind fun y => (mapM hf xs).bind fun ys => pure (y :: ys)

end OnlyAdds

/-- **The second of two runs** leaves behind what it leaves behind by itself, behind what the first
leaves behind; it is not made where the first fails. -/
theorem start_bind {p : Call → Prop} (r : Run ε α) {f : α → Run ε β}
    (hf : ∀ a, OnlyAdds p (f a)) :
    (r >>= f).start =
      match r.start with
      | (.ok a, j) => ((f a).start.1, j ++ (f a).start.2)
      | (.error e, j) => (.error e, j) := by
  have hstart : (r >>= f).start = (r >>= f).runFrom {} := rfl
  have hfirst : r.runFrom {} = r.start := rfl
  rw [hstart, runFrom_bind, hfirst]
  rcases r.start with ⟨e | a, j⟩
  · rfl
  · exact (hf a).runFrom_eq j

/-! ### Runs that give a result, and runs that get as far as a call -/

section Bind

variable {p : Call → Prop} {r : Run ε α} {f : α → Run ε β}

/-- Behind a run that gives a result, another is made with it. -/
theorem start_bind_of_ok (hf : ∀ a, OnlyAdds p (f a)) {a : α} (h : r.start.1 = .ok a) :
    (r >>= f).start = ((f a).start.1, r.start.2 ++ (f a).start.2) := by
  rw [start_bind r hf]
  rcases hr : r.start with ⟨x, j⟩
  rw [hr] at h
  cases h
  rfl

theorem start_bind_eq_ok_iff (hf : ∀ a, OnlyAdds p (f a)) {b : β} :
    (r >>= f).start.1 = .ok b ↔ ∃ a, r.start.1 = .ok a ∧ (f a).start.1 = .ok b := by
  constructor
  · intro h
    cases hr : r.start.1 with
    | ok a =>
        rw [start_bind_of_ok hf hr] at h
        exact ⟨a, rfl, h⟩
    | error e =>
        rw [start_bind r hf] at h
        rcases hstart : r.start with ⟨x, j⟩
        rw [hstart] at h hr
        cases hr
        cases h
  · rintro ⟨a, ha, hb⟩
    rw [start_bind_of_ok hf ha]
    exact hb

/-- The run makes such a call. -/
def Makes (q : Call → Prop) (r : Run ε α) : Prop :=
  ∃ c ∈ r.start.2.calls, q c

/-- **A call that is not the first run's** is made only behind a result of it. -/
theorem exists_of_makes_bind {q : Call → Prop} (hr : OnlyAdds (fun c => ¬ q c) r)
    (hf : ∀ a, OnlyAdds p (f a)) (h : (r >>= f).Makes q) :
    ∃ a, r.start.1 = .ok a ∧ (f a).Makes q := by
  obtain ⟨c, hc, hq⟩ := h
  cases hstart : r.start.1 with
  | ok a =>
      rw [start_bind_of_ok hf hstart] at hc
      rcases List.mem_append.mp hc with hc | hc
      · exact absurd hq (hr.calls c hc)
      · exact ⟨a, rfl, c, hc, hq⟩
  | error e =>
      rw [start_bind r hf] at hc
      rcases hfirst : r.start with ⟨x, j⟩
      have hcalls := hr.calls c
      rw [hfirst] at hc hstart hcalls
      cases hstart
      exact absurd hq (hcalls hc)

end Bind

/-- A run for each member of a list gives the results of its runs. -/
theorem mapM_eq_ok_iff {p : Call → Prop} {f : α → Run ε β} (hf : ∀ a, OnlyAdds p (f a)) :
    ∀ {xs : List α} {ys : List β},
      (xs.mapM f).start.1 = .ok ys ↔ List.Forall₂ (fun x y => (f x).start.1 = .ok y) xs ys
  | [], ys => by
      rw [List.forall₂_nil_left_iff]
      exact ⟨fun h => (Except.ok.inj h).symm, fun h => h ▸ rfl⟩
  | x :: xs, ys => by
      have hrest : ∀ y, OnlyAdds p (xs.mapM f >>= fun ys => pure (y :: ys)) :=
        fun y => (OnlyAdds.mapM hf xs).bind fun ys => .pure _
      rw [List.mapM_cons, start_bind_eq_ok_iff hrest, List.forall₂_cons_left_iff]
      refine exists_congr fun y => ?_
      rw [start_bind_eq_ok_iff fun ys => OnlyAdds.pure (p := p) (y :: ys)]
      constructor
      · rintro ⟨hy, ys', hys', h⟩
        exact ⟨ys', hy, (mapM_eq_ok_iff hf).mp hys', (Except.ok.inj h).symm⟩
      · rintro ⟨ys', hy, hys', rfl⟩
        exact ⟨hy, ys', (mapM_eq_ok_iff hf).mpr hys', rfl⟩

end Run

end StorySuite
