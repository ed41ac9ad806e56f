import StorySuite.Script.Parser

/-!
# Proofs — Script — Parser — runs

What a parser does at a place, step by step.  A run of a parser under a context at a place either
fails or gives a result and the place where it went on; the rules below follow a run through the
ways in which parsers are put together.  They are rules for `simp`, so a run whose tokens are known
is computed by it.

* `State.start_solid`: the place in front of characters that no gap begins with.
-/

namespace StorySuite.Script

namespace Parser

variable {α β : Type} {c : Context} {s : State}

/-! ### Ways to put parsers together -/

@[simp]
theorem run_bind (p : Parser α) (f : α → Parser β) :
    (p >>= f) c s = (p c s).bind fun r => f r.1 c r.2 :=
  rfl

@[simp]
theorem run_pure (a : α) : (pure a : Parser α) c s = some (a, s) :=
  rfl

@[simp]
theorem run_map (f : α → β) (p : Parser α) :
    (f <$> p) c s = (p c s).map fun r => (f r.1, r.2) := by
  show (p c s).bind _ = _
  cases p c s <;> rfl

@[simp]
theorem run_failure : (failure : Parser α) c s = none :=
  rfl

@[simp]
theorem run_orElse (p q : Parser α) : (p <|> q) c s = (p c s).or (q c s) := by
  show (p c s <|> q c s) = _
  cases p c s <;> rfl

@[simp]
theorem run_read : (read : Parser Context) c s = some (c, s) :=
  rfl

@[simp]
theorem run_get : (get : Parser State) c s = some (s, s) :=
  rfl

@[simp]
theorem run_set (s' : State) : (set s' : Parser Unit) c s = some ((), s') :=
  rfl

@[simp]
theorem run_modify (f : State → State) : (modify f : Parser Unit) c s = some ((), f s) :=
  rfl

@[simp]
theorem run_ite (P : Prop) [Decidable P] (p q : Parser α) :
    (if P then p else q) c s = if P then p c s else q c s := by
  split <;> rfl

@[simp]
theorem run_andM (p q : Parser Bool) :
    (p <&&> q) c s = (p c s).bind fun r => if r.1 then q c r.2 else some (false, r.2) := by
  show (p c s).bind _ = _
  congr
  funext r
  obtain ⟨b, t⟩ := r
  cases b <;> rfl

@[simp]
theorem run_orM (p q : Parser Bool) :
    (p <||> q) c s = (p c s).bind fun r => if r.1 then some (true, r.2) else q c r.2 := by
  show (p c s).bind _ = _
  congr
  funext r
  obtain ⟨b, t⟩ := r
  cases b <;> rfl

@[simp]
theorem run_within (f : Context → Context) (p : Parser α) : within f p c s = p (f c) s :=
  rfl

@[simp]
theorem run_ahead (p : Parser α) : ahead p c s = (p c s).map fun r => (r.1, s) := by
  show ((p c s).bind fun r => some (r.1, s)) = _
  cases p c s <;> rfl

/-- A look at what is in front changes nothing, and a look that fails finds nothing. -/
@[simp]
theorem run_seems (p : Parser Bool) :
    seems p c s = some (((p c s).map Prod.fst).getD false, s) := by
  simp only [seems, run_orElse, run_ahead, run_pure]
  cases p c s <;> rfl

@[simp]
theorem run_attempt (p : Parser α) :
    attempt p c s = some (((p c s).map fun r => (some r.1, r.2)).getD (none, s)) := by
  simp only [attempt, run_orElse, run_map, run_pure]
  cases p c s <;> rfl

/-! ### Looking at the token in front -/

@[simp]
theorem run_token : token c s = some (s.token, s) :=
  rfl

@[simp]
theorem run_newline : newline c s = some (s.gap.newline, s) :=
  rfl

@[simp]
theorem run_hasTypes : hasTypes c s = some (c.hasTypes, s) :=
  rfl

@[simp]
theorem run_atSign (t : String) : atSign t c s = some (s.token == .sign t, s) :=
  rfl

@[simp]
theorem run_atWord (t : String) : atWord t c s = some (s.token == .name t false, s) :=
  rfl

/-- The place after the token in front. -/
def State.next (c : Context) (s : State) : State :=
  .start c.fuel (!c.isModule) (s.token == .sign "(" || s.token == .sign "=") false s.owesPattern
    s.rest

@[simp]
theorem run_advance : advance c s = some ((), State.next c s) :=
  rfl

@[simp]
theorem run_goOn (opens : Bool) (rest : List Char) :
    goOn opens rest c s =
      some ((), .start c.fuel (!c.isModule) opens false s.owesPattern rest) :=
  rfl

theorem run_takeSign (t : String) :
    takeSign t c s =
      if s.token = .sign t then some (true, State.next c s) else some (false, s) := by
  simp [takeSign]

theorem run_takeWord (t : String) :
    takeWord t c s =
      if s.token = .name t false then some (true, State.next c s) else some (false, s) := by
  simp [takeWord]

end Parser

end StorySuite.Script
