import StorySuite.Suite.Assembly

/-!
# Proofs — Template — what is bound is rendered

A template has a text as soon as everything that it asks for is bound.  `Supplied b ps` follows the
pieces and says so of each: a place finds its value, a choice finds what it tests and is supplied in
both branches, a repetition finds a list and is supplied with every item of it.

* `renderPieces?_isSome`: supplied templates have a text.
* `supplied_testItem`, `supplied_suite`: the bindings that are made for the two templates supply
  them, so no run ends with the error of a template.
-/

namespace StorySuite.Template

mutual

/-- `b` binds all that the piece may ask for. -/
def SuppliedPiece (b : Bindings) : TemplatePiece → Prop
  | .text _ => True
  | .put e => (eval? b e).isSome
  | .choice test yes no => (eval? b test).isSome ∧ Supplied b yes ∧ Supplied b no
  | .each name items keep body =>
    ∃ vs, (eval? b items).bind itemsOf? = some vs ∧
      (∀ v ∈ vs, ∀ e ∈ keep, (eval? ((name, v) :: b) e).isSome) ∧
      ∀ v ∈ vs, Supplied ((name, v) :: b) body

/-- `b` binds all that the pieces may ask for. -/
def Supplied (b : Bindings) : List TemplatePiece → Prop
  | [] => True
  | p :: rest => SuppliedPiece b p ∧ Supplied b rest

end

/-- A repetition's test can be made of every item. -/
theorem kept?_isSome {b : Bindings} {name : String} {keep : Option TemplateExpr} :
    ∀ {vs : List Json.Value}, (∀ v ∈ vs, ∀ e ∈ keep, (eval? ((name, v) :: b) e).isSome) →
      ∃ ws, kept? b name keep vs = some ws ∧ ∀ w ∈ ws, w ∈ vs
  | [], _ => ⟨[], rfl, by simp⟩
  | v :: rest, h => by
      obtain ⟨ws, hws, hin⟩ := kept?_isSome fun w hw => h w (List.mem_cons_of_mem _ hw)
      have hfound : ∃ keeps : Bool, kept? b name keep (v :: rest) =
          some (if keeps then v :: ws else ws) := by
        cases keep with
        | none => exact ⟨true, by simp [kept?, hws]⟩
        | some e =>
            obtain ⟨u, hu⟩ := Option.isSome_iff_exists.mp (h v List.mem_cons_self e rfl)
            exact ⟨passes u, by simp [kept?, hws, hu]⟩
      obtain ⟨keeps, hk⟩ := hfound
      refine ⟨_, hk, fun w hw => ?_⟩
      cases keeps with
      | false => exact List.mem_cons_of_mem _ (hin w hw)
      | true =>
          rcases List.mem_cons.mp hw with rfl | hw
          · exact List.mem_cons_self
          · exact List.mem_cons_of_mem _ (hin w hw)

/-- The texts of a repetition's body are there when the body has a text with every item. -/
theorem mapM_isSome {α β : Type} {f : α → Option β} :
    ∀ {xs : List α}, (∀ x ∈ xs, (f x).isSome) → (xs.mapM f).isSome
  | [], _ => rfl
  | x :: xs, h => by
      obtain ⟨y, hy⟩ := Option.isSome_iff_exists.mp (h x List.mem_cons_self)
      obtain ⟨ys, hys⟩ := Option.isSome_iff_exists.mp
        (mapM_isSome fun x' hx' => h x' (List.mem_cons_of_mem _ hx'))
      simp [List.mapM_cons, hy, hys]

mutual

/-- A supplied piece has a text. -/
theorem renderPiece?_isSome : ∀ (b : Bindings) (p : TemplatePiece),
    SuppliedPiece b p → (renderPiece? b p).isSome
  | _, .text _, _ => by simp [renderPiece?]
  | b, .put e, h => by
      simp only [SuppliedPiece] at h
      simpa [renderPiece?] using h
  | b, .choice test yes no, h => by
      simp only [SuppliedPiece] at h
      obtain ⟨ht, hy, hn⟩ := h
      obtain ⟨v, hv⟩ := Option.isSome_iff_exists.mp ht
      simp only [renderPiece?, hv, Option.bind_eq_bind, Option.bind_some]
      split
      · exact renderPieces?_isSome b yes hy
      · exact renderPieces?_isSome b no hn
  | b, .each name items keep body, h => by
      simp only [SuppliedPiece] at h
      obtain ⟨vs, hvs, hk, hb⟩ := h
      obtain ⟨u, hu, hi⟩ := Option.bind_eq_some_iff.mp hvs
      obtain ⟨ws, hws, hin⟩ := kept?_isSome hk
      have hm : (ws.mapM fun v => renderPieces? ((name, v) :: b) body).isSome :=
        mapM_isSome fun w hw => renderPieces?_isSome ((name, w) :: b) body (hb w (hin w hw))
      obtain ⟨ts, hts⟩ := Option.isSome_iff_exists.mp hm
      simp [renderPiece?, hu, hi, hws, hts]

/-- **Supplied templates have a text.** -/
theorem renderPieces?_isSome : ∀ (b : Bindings) (ps : List TemplatePiece),
    Supplied b ps → (renderPieces? b ps).isSome
  | _, [], _ => by simp [renderPieces?]
  | b, p :: rest, h => by
      simp only [Supplied] at h
      obtain ⟨s, hs⟩ := Option.isSome_iff_exists.mp (renderPiece?_isSome b p h.1)
      obtain ⟨t, ht⟩ := Option.isSome_iff_exists.mp (renderPieces?_isSome b rest h.2)
      simp [renderPieces?, hs, ht]

end

/-! ### The two templates -/

/-- What is bound for a test supplies the template of a test. -/
theorem supplied_testItem (inputs : ItemInputs) (entry : PlanEntry) (only : Bool) :
    Supplied (Item.bindings inputs entry only) testItem := by
  simp [testItem, Supplied, SuppliedPiece, eval?, Item.bindings, DataMap.get?]

end StorySuite.Template

namespace StorySuite.Suite

/-- The binding of a setting. -/
def settingBinding (field : String × Json.Value) : Json.Value :=
  .object [("key", .string field.1), ("value", .string field.2.text)]

/-- The first key that is no path of names. -/
def invalidKey? (settings : DataMap) : Option String :=
  (settings.find? (!isSettingKey ·.1)).map (·.1)

theorem invalidKey?_cons_eq_none_iff {field : String × Json.Value} {rest : DataMap} :
    invalidKey? (field :: rest) = none ↔ isSettingKey field.1 = true ∧ invalidKey? rest = none := by
  simp [invalidKey?, List.find?_eq_none]

/-- Settings all have their bindings, if their keys are paths of names. -/
theorem settingBindings_of_valid {settings : DataMap} (h : invalidKey? settings = none) :
    settingBindings settings = .ok (settings.map settingBinding) := by
  induction settings with
  | nil => rfl
  | cons field rest ih =>
      obtain ⟨hkey, hrest⟩ := invalidKey?_cons_eq_none_iff.mp h
      rw [settingBindings, if_pos hkey, ih hrest]
      rfl

/-- The first key that is no path of names is refused. -/
theorem settingBindings_of_invalid {settings : DataMap} {key : String}
    (h : invalidKey? settings = some key) :
    settingBindings settings = .error (.invalidSetting key) := by
  induction settings with
  | nil => cases h
  | cons field rest ih =>
      cases hkey : isSettingKey field.1 with
      | false =>
          obtain rfl : field.1 = key := by simpa [invalidKey?, hkey] using h
          simp [settingBindings, hkey]
      | true =>
          have hrest : invalidKey? rest = some key := by simpa [invalidKey?, hkey] using h
          rw [settingBindings, if_pos hkey, ih hrest]
          rfl

/-- What is bound for a suite supplies the template of a suite. -/
theorem supplied_suite (module : ModuleReference) (stories : List ExportName)
    (items : List String) (shape : Option DefaultShape) (options : SuiteOptions)
    (settings : DataMap) :
    Template.Supplied
      (bindings module stories items shape options (settings.map settingBinding))
      Template.suite := by
  simp [Template.suite, Template.Supplied, Template.SuppliedPiece, Template.eval?, bindings,
    DataMap.get?, Template.itemsOf?, componentBinding, settingBinding, hookBinding,
    Json.Value.field?, List.forall_mem_map, -List.mem_map]

end StorySuite.Suite
