import StorySuite.Proofs.Journal
import StorySuite.Synthesis.Error

/-!
# Proofs — Synthesis — runs as lists of steps

A run of synthesis is a list of steps.  A step makes at most one call, and it may report and may
fail.  What a list of steps leaves behind is fixed by the list: the calls and the reports of the
steps up to the first that fails, that one included (`Step.made`), and that one's error
(`Step.error?`).

`r.Follows steps a` says that the run `r` leaves behind exactly this, from every journal, and gives
`a` where no step fails.  A run that is made of runs follows the steps of its parts one after the
other (`Follows.bind`), and a run made once for each member of a list follows the steps of every
member in turn (`Follows.mapM`).
-/

namespace StorySuite

/-- A step of a run: the call that it makes, what is reported in it, and the error with which it
fails. -/
structure Step where
  call : Option Call := none
  events : List Event := []
  failure : Option SynthesisError := none

namespace Step

/-- The steps up to the first that fails, that one included. -/
def made : List Step → List Step
  | [] => []
  | s :: rest => if s.failure.isSome then [s] else s :: made rest

/-- The error of the first step that fails. -/
def error? (steps : List Step) : Option SynthesisError :=
  steps.findSome? failure

/-- The calls that are made. -/
def calls (steps : List Step) : List Call :=
  (made steps).filterMap call

/-- The reports that are made. -/
def reports (steps : List Step) : List Event :=
  (made steps).flatMap events

/-- The step that only reports. -/
def report (e : Event) : Step :=
  { events := [e] }

/-- The step that only looks whether there is an error. -/
def check (failure : Option SynthesisError) : Step :=
  { failure }

/-- The step that calls a function of the caller's that cannot fail. -/
def ask (c : Call) : Step :=
  { call := some c }

/-- The error of a result. -/
def errorOf {ε α : Type} : Except ε α → Option ε
  | .ok _ => none
  | .error e => some e

/-- The value of a result, `a` where there is none. -/
def valueOf {ε α : Type} (a : α) : Except ε α → α
  | .ok x => x
  | .error _ => a

/-- The step that calls a function of the caller's. -/
def askFallible {α : Type} (c : Call) (callback : Callback) (answer : Except String α) : Step :=
  { call := some c, failure := (errorOf answer).map (.supplier callback) }

/-- The step that calls a build service. -/
def service {α : Type} (c : Call) (answer : Report BuildError α) : Step :=
  { call := some c, events := answer.events, failure := (errorOf answer.result).map .build }

/-- A build service that does not fail has an answer. -/
theorem eq_ok_of_error?_service {α : Type} {c : Call} {answer : Report BuildError α}
    (h : error? [.service c answer] = none) (a : α) :
    answer.result = .ok (valueOf a answer.result) := by
  cases hresult : answer.result with
  | ok x => rfl
  | error e => simp [error?, service, hresult, errorOf] at h

theorem mem_of_mem_made {step : Step} : ∀ {steps : List Step}, step ∈ made steps → step ∈ steps
  | [], h => h
  | s :: rest, h => by
      unfold made at h
      split at h
      · exact List.mem_singleton.mp h ▸ List.mem_cons_self
      · rcases List.mem_cons.mp h with rfl | h
        · exact List.mem_cons_self
        · exact List.mem_cons_of_mem s (mem_of_mem_made h)

/-- What is called is called in one of the steps. -/
theorem exists_of_mem_calls {steps : List Step} {c : Call} (h : c ∈ calls steps) :
    ∃ step ∈ steps, step.call = some c := by
  obtain ⟨step, hstep, hc⟩ := List.mem_filterMap.mp h
  exact ⟨step, mem_of_mem_made hstep, hc⟩

/-! ### Lists of steps one after the other -/

theorem error?_append (xs ys : List Step) : error? (xs ++ ys) = (error? xs).or (error? ys) := by
  simp [error?, List.findSome?_append]

theorem error?_flatMap {α : Type} (steps : α → List Step) : ∀ xs : List α,
    error? (xs.flatMap steps) = xs.findSome? fun x => error? (steps x)
  | [] => rfl
  | x :: xs => by
      rw [List.flatMap_cons, error?_append, error?_flatMap steps xs, List.findSome?_cons]
      cases error? (steps x) <;> rfl

/-- Nothing is done after a step that fails. -/
theorem made_append_of_error {ys : List Step} {e : SynthesisError} :
    ∀ {xs : List Step}, error? xs = some e → made (xs ++ ys) = made xs
  | [], h => by simp [error?] at h
  | x :: xs, h => by
      cases hx : x.failure with
      | some _ => simp [made, hx]
      | none =>
          have hxs : error? xs = some e := by simpa [error?, hx] using h
          simp [made, hx, made_append_of_error hxs]

/-- Steps of which none fails are all made. -/
theorem made_append_of_ok (ys : List Step) :
    ∀ {xs : List Step}, error? xs = none → made (xs ++ ys) = xs ++ made ys
  | [], _ => rfl
  | x :: xs, h => by
      have hx : x.failure = none := by
        cases hx : x.failure with
        | none => rfl
        | some _ => simp [error?, hx] at h
      have hxs : error? xs = none := by simpa [error?, hx] using h
      simp [made, hx, made_append_of_ok ys hxs]

theorem error?_append_of_ok {xs : List Step} (ys : List Step) (h : error? xs = none) :
    error? (xs ++ ys) = error? ys := by
  rw [error?_append, h, Option.none_or]

theorem made_of_ok {xs : List Step} (h : error? xs = none) : made xs = xs := by
  simpa [made] using made_append_of_ok [] h

end Step

namespace Journal

/-- The journal after steps. -/
def after (j : Journal) (steps : List Step) : Journal :=
  { calls := j.calls ++ Step.calls steps, events := j.events ++ Step.reports steps }

@[simp] theorem after_nil (j : Journal) : j.after [] = j := by
  simp [after, Step.calls, Step.reports, Step.made]

theorem after_append_of_error (j : Journal) {xs ys : List Step} {e : SynthesisError}
    (h : Step.error? xs = some e) : j.after (xs ++ ys) = j.after xs := by
  simp [after, Step.calls, Step.reports, Step.made_append_of_error h]

theorem after_append_of_ok (j : Journal) {xs ys : List Step} (h : Step.error? xs = none) :
    j.after (xs ++ ys) = (j.after xs).after ys := by
  simp [after, Step.calls, Step.reports, Step.made_append_of_ok ys h, Step.made_of_ok h]

end Journal

namespace Run

variable {α β : Type}

/-- The result of steps, `a` where none fails. -/
def outcome (steps : List Step) (a : α) : Except SynthesisError α :=
  match Step.error? steps with
  | none => .ok a
  | some e => .error e

theorem outcome_of_error {steps : List Step} {e : SynthesisError} (a : α)
    (h : Step.error? steps = some e) : outcome steps a = .error e := by
  simp [outcome, h]

theorem outcome_of_ok {steps : List Step} (a : α) (h : Step.error? steps = none) :
    outcome steps a = .ok a := by
  simp [outcome, h]

theorem outcome_eq_ok_iff {steps : List Step} {a b : α} :
    outcome steps a = .ok b ↔ Step.error? steps = none ∧ a = b := by
  unfold outcome
  cases Step.error? steps <;> simp

/-- The run does what the steps say, and gives `a` where none of them fails. -/
def Follows (r : Run SynthesisError α) (steps : List Step) (a : α) : Prop :=
  ∀ j, r.runFrom j = (outcome steps a, j.after steps)

namespace Follows

/-- What a run that follows steps leaves behind. -/
theorem start {r : Run SynthesisError α} {steps : List Step} {a : α} (h : Follows r steps a) :
    r.start = (outcome steps a, { calls := Step.calls steps, events := Step.reports steps }) := by
  have hstart : r.start = (outcome steps a, Journal.after {} steps) := h {}
  rw [hstart]
  rfl

theorem onlyAdds {p : Call → Prop} {r : Run SynthesisError α} {steps : List Step} {a : α}
    (h : Follows r steps a) (hcalls : ∀ step ∈ steps, ∀ c ∈ step.call, p c) : OnlyAdds p r := by
  refine .of_runFrom_eq (x := outcome steps a)
    (k := { calls := Step.calls steps, events := Step.reports steps }) h fun c hc => ?_
  obtain ⟨step, hstep, hcall⟩ := Step.exists_of_mem_calls hc
  exact hcalls step hstep c hcall

theorem pure (a : α) : Follows (Pure.pure a) [] a := fun j => by
  rw [Journal.after_nil]; rfl

/-- **One run after another.**  The second matters only where no step of the first fails. -/
theorem bind {r : Run SynthesisError α} {f : α → Run SynthesisError β} {xs ys : List Step} {a : α}
    {b : β} (hr : Follows r xs a) (hf : Step.error? xs = none → Follows (f a) ys b) :
    Follows (r >>= f) (xs ++ ys) b := fun j => by
  rw [runFrom_bind, hr j]
  cases hx : Step.error? xs with
  | some e =>
      -- the second run is not made, and its steps leave nothing behind
      have hxy : Step.error? (xs ++ ys) = some e := by rw [Step.error?_append, hx]; rfl
      rw [outcome_of_error a hx, outcome_of_error b hxy, Journal.after_append_of_error j hx]
  | none =>
      have hxy := Step.error?_append_of_ok ys hx
      have hout : outcome (xs ++ ys) b = outcome ys b := by simp only [outcome, hxy]
      rw [outcome_of_ok a hx, hout, Journal.after_append_of_ok j hx]
      exact hf hx (j.after xs)

/-- A run whose result is passed on changed. -/
theorem bind_pure {r : Run SynthesisError α} {xs : List Step} {a : α} (hr : Follows r xs a)
    (f : α → β) : Follows (r >>= fun x => Pure.pure (f x)) xs (f a) := by
  have h : Follows (r >>= fun x => Pure.pure (f x)) (xs ++ []) (f a) :=
    hr.bind fun _ => Follows.pure (f a)
  rwa [List.append_nil] at h

theorem throw (e : SynthesisError) (a : α) :
    Follows (MonadExcept.throw e) [.check (some e)] a := fun j => by
  simp [Journal.after, Step.calls, Step.reports, Step.made, Step.check, outcome, Step.error?]
  rfl

/-- What would come after an error is not done. -/
theorem throw_bind (e : SynthesisError) (f : α → Run SynthesisError β) (b : β) :
    Follows (MonadExcept.throw e >>= f) [.check (some e)] b :=
  throw e b

theorem check_none (a : α) : Follows (Pure.pure a) [.check none] a := fun j => by
  simp [Journal.after, Step.calls, Step.reports, Step.made, Step.check, outcome, Step.error?]
  rfl

theorem call (c : Call) : Follows (Run.call c) [.ask c] () := fun j => by
  simp [Journal.after, Step.calls, Step.reports, Step.made, Step.ask, outcome, Step.error?]
  rfl

theorem event (e : Event) : Follows (Run.event e) [.report e] () := fun j => by
  simp [Journal.after, Step.calls, Step.reports, Step.made, Step.report, outcome, Step.error?]
  rfl

/-- A function of the caller's is called and may fail. -/
theorem askFallible (c : Call) (callback : Callback) (answer : Except String α) (a : α) :
    Follows (Run.call c >>= fun _ => Run.ofExcept (.supplier callback) answer)
      [.askFallible c callback answer] (Step.valueOf a answer) := fun j => by
  cases answer <;>
    simp [Journal.after, Step.calls, Step.reports, Step.made, Step.askFallible, Step.errorOf,
      Step.valueOf, outcome, Step.error?] <;> rfl

/-- A build service is called, which reports and may fail. -/
theorem service (c : Call) (answer : Report BuildError α) (a : α) :
    Follows (Run.call c >>= fun _ => Run.ofReport .build answer)
      [.service c answer] (Step.valueOf a answer.result) := fun j => by
  obtain ⟨events, result⟩ := answer
  cases result <;>
    simp [Journal.after, Step.calls, Step.reports, Step.made, Step.service, Step.errorOf,
      Step.valueOf, outcome, Step.error?] <;> rfl

/-- **A run for each member of a list.** -/
theorem mapM {f : α → Run SynthesisError β} {steps : α → List Step} {g : α → β} :
    ∀ {xs : List α}, (∀ x ∈ xs, Follows (f x) (steps x) (g x)) →
      Follows (xs.mapM f) (xs.flatMap steps) (xs.map g)
  | [], _ => Follows.pure []
  | x :: xs, h => by
      rw [List.mapM_cons]
      refine (h x List.mem_cons_self).bind fun _ => ?_
      exact (mapM fun x' hx' => h x' (List.mem_cons_of_mem _ hx')).bind_pure (g x :: ·)

end Follows

end Run

end StorySuite
