import StorySuite.Proofs.Text.Bytes
import StorySuite.Template.Basic

/-!
# Proofs — Template — where a piece's text stands

The text of a template is the texts of its pieces in their order.  So what stands between two runs
of pieces is found between their two texts, whatever these are, and the characters of a text can be
collected piece by piece.

* `renderPieces?_append`, `renderPieces?_between`: the text of pieces put together.
* `renderPieces?_eq_characters`: a text by its characters.
-/

namespace StorySuite.Template

variable {b : Bindings}

/-! ### Pieces put together -/

/-- The text of two runs of pieces is the two texts together. -/
theorem renderPieces?_append : ∀ ps qs : List TemplatePiece,
    renderPieces? b (ps ++ qs) =
      (renderPieces? b ps).bind fun s => (renderPieces? b qs).map (s ++ ·)
  | [], qs => by simp [renderPieces?]
  | p :: ps, qs => by
      simp only [List.cons_append, renderPieces?, renderPieces?_append ps qs]
      cases renderPiece? b p <;> cases renderPieces? b ps <;> cases renderPieces? b qs <;>
        simp [String.append_assoc]

/-- The text of a run of pieces stands in the text of the template between the texts of what is
before it and of what is after it. -/
theorem renderPieces?_between {before run after : List TemplatePiece} {text s : String}
    (h : renderPieces? b (before ++ (run ++ after)) = some text)
    (hs : renderPieces? b run = some s) :
    ∃ r t, renderPieces? b before = some r ∧ renderPieces? b after = some t ∧
      text = r ++ (s ++ t) := by
  rw [renderPieces?_append, renderPieces?_append] at h
  obtain ⟨r, hr, h⟩ := Option.bind_eq_some_iff.mp h
  obtain ⟨rest, hrest, rfl⟩ := Option.map_eq_some_iff.mp h
  obtain ⟨s', hs', hrest⟩ := Option.bind_eq_some_iff.mp hrest
  obtain ⟨t, ht, rfl⟩ := Option.map_eq_some_iff.mp hrest
  cases hs.symm.trans hs'
  exact ⟨r, t, hr, ht, rfl⟩

/-- A step of a test is awaited where the bindings say so. -/
theorem renderPieces?_step {e : TemplateExpr} {s : String} (he : eval? b e = some (.string s)) :
    renderPieces? b [.put (.step e)] = some (awaited (isAsync b) s) := by
  simp [renderPieces?, renderPiece?, eval?, he, shown]

/-- Where a function has a value at every item, its values are those of a total one. -/
theorem mapM_eq_some_map {α β : Type} {f : α → Option β} {g : α → β} :
    ∀ {xs : List α}, (∀ x ∈ xs, f x = some (g x)) → xs.mapM f = some (xs.map g)
  | [], _ => rfl
  | x :: xs, h => by
      have hrest := mapM_eq_some_map fun y hy => h y (List.mem_cons_of_mem _ hy)
      simp [List.mapM_cons, h x List.mem_cons_self, hrest]

/-- A repetition over a list whose body has a text with every item has these texts one after the
other. -/
theorem renderPieces?_each {α : Type} {xs : List α} {value : α → Json.Value} {line : α → String}
    {name : String} {items : TemplateExpr} {body : List TemplatePiece}
    (hitems : eval? b items = some (.array (xs.map value)))
    (hbody : ∀ x ∈ xs, renderPieces? ((name, value x) :: b) body = some (line x)) :
    renderPieces? b [.each name items none body] = some (String.join (xs.map line)) := by
  have hkept : ∀ vs : List Json.Value, kept? b name none vs = some vs := by
    intro vs
    induction vs with
    | nil => rfl
    | cons v rest ih => simp [kept?, ih]
  have htexts : ((xs.map value).mapM fun v => renderPieces? ((name, v) :: b) body) =
      some (xs.map line) := by
    rw [List.mapM_map]
    exact mapM_eq_some_map hbody
  simp [renderPieces?, renderPiece?, hitems, itemsOf?, hkept, htexts]

/-! ### Characters -/

mutual

/-- The characters of the text of one piece. -/
def pieceCharacters? (b : Bindings) : TemplatePiece → Option (List Char)
  | .text s => some (Text.characters s)
  | .put e => (eval? b e).map fun v => Text.characters (shown v)
  | .choice test yes no => do
    if passes (← eval? b test) then characters? b yes else characters? b no
  | .each name items keep body => do
    let vs ← kept? b name keep (← itemsOf? (← eval? b items))
    let texts ← vs.mapM fun v => characters? ((name, v) :: b) body
    pure texts.flatten

/-- The characters of the text of a template. -/
def characters? (b : Bindings) : List TemplatePiece → Option (List Char)
  | [] => some []
  | p :: rest => do
    let cs ← pieceCharacters? b p
    let ds ← characters? b rest
    pure (cs ++ ds)

end

mutual

theorem renderPiece?_eq_characters : ∀ (b : Bindings) (p : TemplatePiece),
    renderPiece? b p = (pieceCharacters? b p).map String.ofList
  | _, .text s => by simp [renderPiece?, pieceCharacters?]
  | b, .put e => by simp [renderPiece?, pieceCharacters?, Function.comp_def]
  | b, .choice test yes no => by
      simp only [renderPiece?, pieceCharacters?, Option.bind_eq_bind, Option.map_bind]
      congr 1
      funext v
      simp only [Function.comp_apply]
      split
      · exact renderPieces?_eq_characters b yes
      · exact renderPieces?_eq_characters b no
  | b, .each name items keep body => by
      have htexts : ∀ vs : List Json.Value,
          (vs.mapM fun v => renderPieces? ((name, v) :: b) body) =
            (vs.mapM fun v => characters? ((name, v) :: b) body).map
              (List.map String.ofList) := by
        intro vs
        induction vs with
        | nil => rfl
        | cons v rest ih =>
            simp only [List.mapM_cons, ih, renderPieces?_eq_characters ((name, v) :: b) body]
            cases characters? ((name, v) :: b) body <;>
              cases rest.mapM fun v => characters? ((name, v) :: b) body <;> rfl
      -- the texts of the rounds, and then the texts together
      have hjoin : ∀ css : List (List Char),
          String.join (css.map String.ofList) = String.ofList css.flatten := by
        intro css
        rw [← String.toList_inj, String.toList_join]
        simp [List.flatMap_map, List.flatMap_id']
      simp only [renderPiece?, pieceCharacters?, Option.bind_eq_bind, Option.map_bind,
        Option.pure_def, htexts, Function.comp_def, Option.map_some, ← hjoin,
        Option.bind_map]

/-- **The text of a template by its characters.** -/
theorem renderPieces?_eq_characters : ∀ (b : Bindings) (ps : List TemplatePiece),
    renderPieces? b ps = (characters? b ps).map String.ofList
  | _, [] => by simp [renderPieces?, characters?]
  | b, p :: rest => by
      simp only [renderPieces?, characters?, renderPiece?_eq_characters b p,
        renderPieces?_eq_characters b rest]
      cases pieceCharacters? b p <;> cases characters? b rest <;>
        simp [String.ofList_append]

end

end StorySuite.Template
