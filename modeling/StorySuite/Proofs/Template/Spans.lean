import StorySuite.Proofs.Template.Texts

/-!
# Proofs — Template — whose words a text has

A text that is made from a template is in part the template's own and in part what was bound
(`Span`).  The words around an awaited step are the template's; what is put in the place of a
variable is not, whatever it holds.

A word stands in what was bound, and nowhere else, if the template does not have it in its own words,
nor any of them that ends as it begins, and has a character that is not in it behind everything that
is bound.  This can be seen of a template before anything is bound (`unmixed`).

* `renderPieces?_eq_spans`: the text of a template is that of its spans.
* `Span.onlyInValues_of_unmixed`: a word that no part of the template begins is only in what was
  bound.
* **`onlyInValues_of_renderPieces?`**: a word that the template's own words do not begin is only in
  what was bound.
-/

namespace StorySuite.Template

/-- A part of a text: the template's own, or what was bound. -/
inductive Span where
  | own (s : String)
  | value (s : String)
  deriving DecidableEq, Repr

namespace Span

/-- What is written. -/
def text : Span → String
  | own s | value s => s

/-- The characters of a text that is told by its spans. -/
def characters (spans : List Span) : List Char :=
  spans.flatMap fun span => span.text.toList

/-- The spans around and in an awaited step. -/
def await (spans : List Span) : List Span :=
  own "await Promise.resolve(" :: (spans ++ [own ")"])

@[simp] theorem characters_nil : characters [] = [] := rfl

@[simp] theorem characters_cons (span : Span) (spans : List Span) :
    characters (span :: spans) = span.text.toList ++ characters spans := rfl

@[simp] theorem characters_append (spans spans' : List Span) :
    characters (spans ++ spans') = characters spans ++ characters spans' :=
  List.flatMap_append

theorem characters_flatten : ∀ parts : List (List Span),
    characters parts.flatten = (parts.map characters).flatten
  | [] => rfl
  | part :: parts => by
      rw [List.flatten_cons, characters_append, characters_flatten parts]
      rfl

end Span

/-! ### The spans of a template's text -/

/-- The spans of what is put in the place of an expression. -/
def exprSpans? (b : Bindings) : TemplateExpr → Option (List Span)
  | .text s => some [.own s]
  | .concat x y => do
    let front ← exprSpans? b x
    let back ← exprSpans? b y
    pure (front ++ back)
  | .step e => (exprSpans? b e).map fun spans => if isAsync b then Span.await spans else spans
  | e => (eval? b e).map fun v => [.value (shown v)]

mutual

/-- The spans of the text of one piece. -/
def pieceSpans? (b : Bindings) : TemplatePiece → Option (List Span)
  | .text s => some [.own s]
  | .put e => exprSpans? b e
  | .choice test yes no => do
    if passes (← eval? b test) then spans? b yes else spans? b no
  | .each name items keep body => do
    let vs ← kept? b name keep (← itemsOf? (← eval? b items))
    let parts ← vs.mapM fun v => spans? ((name, v) :: b) body
    pure parts.flatten

/-- The spans of the text of a template. -/
def spans? (b : Bindings) : List TemplatePiece → Option (List Span)
  | [] => some []
  | p :: rest => do
    let front ← pieceSpans? b p
    let back ← spans? b rest
    pure (front ++ back)

end

theorem eval?_eq_spans (b : Bindings) : ∀ e : TemplateExpr,
    (eval? b e).map (fun v => (shown v).toList) = (exprSpans? b e).map Span.characters
  | .text s => by simp [eval?, exprSpans?, shown, Span.text]
  | .var name => by simp [exprSpans?, Span.text, Function.comp_def]
  | .field e name => by simp [exprSpans?, Span.text, Function.comp_def]
  | .equals x y => by simp [exprSpans?, Span.text, Function.comp_def]
  | .concat x y => by
      have hx := eval?_eq_spans b x
      have hy := eval?_eq_spans b y
      simp only [eval?, exprSpans?]
      cases hvx : eval? b x <;> cases hsx : exprSpans? b x <;> simp_all [shown]
      cases hvy : eval? b y <;> cases hsy : exprSpans? b y <;> simp_all
  | .step e => by
      have he := eval?_eq_spans b e
      simp only [eval?, exprSpans?]
      cases hv : eval? b e <;> cases hs : exprSpans? b e <;> simp_all [shown]
      cases isAsync b <;> simp [awaited, Span.await, Span.text, he]

mutual

theorem pieceCharacters?_eq_spans : ∀ (b : Bindings) (p : TemplatePiece),
    pieceCharacters? b p = (pieceSpans? b p).map Span.characters
  | _, .text s => by simp [pieceCharacters?, pieceSpans?, Span.text]
  | b, .put e => by
      simp only [pieceCharacters?, pieceSpans?, Text.characters_eq]
      exact eval?_eq_spans b e
  | b, .choice test yes no => by
      simp only [pieceCharacters?, pieceSpans?, Option.bind_eq_bind, Option.map_bind]
      congr 1
      funext v
      simp only [Function.comp_apply]
      split
      · exact characters?_eq_spans b yes
      · exact characters?_eq_spans b no
  | b, .each name items keep body => by
      have hparts : ∀ vs : List Json.Value,
          (vs.mapM fun v => characters? ((name, v) :: b) body) =
            (vs.mapM fun v => spans? ((name, v) :: b) body).map (List.map Span.characters) := by
        intro vs
        induction vs with
        | nil => rfl
        | cons v rest ih =>
            simp only [List.mapM_cons, ih, characters?_eq_spans ((name, v) :: b) body]
            cases spans? ((name, v) :: b) body <;>
              cases rest.mapM fun v => spans? ((name, v) :: b) body <;> rfl
      simp only [pieceCharacters?, pieceSpans?, Option.bind_eq_bind, Option.map_bind,
        Option.pure_def, hparts, Function.comp_def, Option.map_some, Span.characters_flatten,
        Option.bind_map]

theorem characters?_eq_spans : ∀ (b : Bindings) (ps : List TemplatePiece),
    characters? b ps = (spans? b ps).map Span.characters
  | _, [] => by simp [characters?, spans?]
  | b, p :: rest => by
      simp only [characters?, spans?, pieceCharacters?_eq_spans b p, characters?_eq_spans b rest]
      cases pieceSpans? b p <;> cases spans? b rest <;> simp

end

/-- **The text of a template is that of its spans.** -/
theorem renderPieces?_eq_spans (b : Bindings) (ps : List TemplatePiece) :
    renderPieces? b ps = (spans? b ps).map fun spans => String.ofList (Span.characters spans) := by
  rw [renderPieces?_eq_characters, characters?_eq_spans, Option.map_map]
  rfl

/-! ### Words -/

namespace Span

variable {word : List Char}

/-- Wherever the word stands in a text, it stands in one of the values. -/
def OnlyInValues (word : List Char) (spans : List Span) : Prop :=
  ∀ before after, characters spans = before ++ (word ++ after) →
    ∃ front s back u v, spans = front ++ .value s :: back ∧ s.toList = u ++ (word ++ v) ∧
      before = characters front ++ u ∧ after = v ++ characters back

/-- The word does not begin in a text: no end of the text begins with it, or is how it begins. -/
def notBegun (word : List Char) : List Char → Bool
  | [] => true
  | c :: cs => !((c :: cs).isPrefixOf word || word.isPrefixOf (c :: cs)) && notBegun word cs

theorem not_begun_at_end {tail : List Char} (hne : tail ≠ []) : ∀ {front : List Char},
    notBegun word (front ++ tail) = true → ¬ (tail <+: word ∨ word <+: tail)
  | [], h => by
      cases tail with
      | nil => exact absurd rfl hne
      | cons c tail =>
          obtain ⟨h, -⟩ := Bool.and_eq_true_iff.mp h
          rw [Bool.not_eq_true', ← Bool.not_eq_true, Bool.or_eq_true, List.isPrefixOf_iff_prefix,
            List.isPrefixOf_iff_prefix] at h
          exact h
  | _ :: _, h => not_begun_at_end hne (Bool.and_eq_true_iff.mp h).2

/-- The text begins with a character that is not in the word. -/
def beginsOutside (word cs : List Char) : Bool :=
  cs.head?.any fun c => !word.contains c

/-- A text in front ends before the word could go on: the spans begin with a part of the template
that begins outside of the word.  At the end of the spans this is as `closed` says. -/
def Stops (word : List Char) (closed : Bool) : List Span → Prop
  | [] => closed = true
  | .own s :: _ => beginsOutside word s.toList = true
  | .value _ :: _ => False

/-- No part of the template begins the word, and all that is bound is stopped. -/
def Unmixed (word : List Char) (closed : Bool) : List Span → Prop
  | [] => True
  | .own s :: rest => notBegun word s.toList = true ∧ Unmixed word closed rest
  | .value _ :: rest => Stops word closed rest ∧ Unmixed word closed rest

theorem Stops.append {closed closed' : Bool} {front back : List Span}
    (h : Stops word closed' front) (hback : closed' = true → Stops word closed back) :
    Stops word closed (front ++ back) := by
  cases front with
  | nil => exact hback h
  | cons span front =>
      cases span with
      | own s => exact h
      | value s => exact h.elim

theorem Unmixed.append {closed closed' : Bool} {back : List Span}
    (hback : Unmixed word closed back) (hstops : closed' = true → Stops word closed back) :
    ∀ {front : List Span}, Unmixed word closed' front → Unmixed word closed (front ++ back)
  | [], _ => hback
  | .own _ :: _, h => ⟨h.1, hback.append hstops h.2⟩
  | .value _ :: _, h => ⟨h.1.append hstops, hback.append hstops h.2⟩

/-- A text behind which a word is to stand is passed, or the word begins in it. -/
theorem passes_or_begins {cs rest before after : List Char}
    (h : cs ++ rest = before ++ (word ++ after)) :
    (∃ more, before = cs ++ more ∧ rest = more ++ (word ++ after)) ∨
      ∃ tail ≠ [], cs = before ++ tail ∧ word ++ after = tail ++ rest := by
  rcases List.append_eq_append_iff.mp h with ⟨more, hbefore, hrest⟩ | ⟨tail, hcs, hword⟩
  · exact .inl ⟨more, hbefore, hrest⟩
  · cases tail with
    | nil => exact .inl ⟨[], by simpa using hcs.symm, by simpa using hword.symm⟩
    | cons c tail => exact .inr ⟨c :: tail, List.cons_ne_nil c tail, hcs, hword⟩

/-- Where a word begins at the end of a value, it ends there. -/
theorem ends_in_value {rest : List Span} {tail after : List Char} (hstops : Stops word true rest)
    (h : word ++ after = tail ++ characters rest) :
    ∃ v, tail = word ++ v ∧ after = v ++ characters rest := by
  rcases List.append_eq_append_iff.mp h with ⟨v, htail, hafter⟩ | ⟨more, hword, hrest⟩
  · exact ⟨v, htail, hafter⟩
  · -- what is missing of the word would stand at the front of the template's text behind it
    cases more with
    | nil =>
        rw [List.append_nil] at hword
        exact ⟨[], by rw [hword, List.append_nil], by simpa using hrest.symm⟩
    | cons c more =>
        cases rest with
        | nil => cases hrest
        | cons span rest =>
            cases span with
            | value s => exact hstops.elim
            | own s =>
                cases hs : s.toList with
                | nil => simp [Stops, beginsOutside, hs] at hstops
                | cons d cs =>
                    have hnot : d ∉ word := by simpa [Stops, beginsOutside, hs] using hstops
                    rw [characters_cons, show (own s).text.toList = d :: cs from hs] at hrest
                    obtain rfl : d = c := (List.cons.inj hrest).1
                    exact absurd (hword ▸ List.mem_append_right tail List.mem_cons_self) hnot

/-- **A word that no part of the template begins** is only in what was bound. -/
theorem onlyInValues_of_unmixed : ∀ {spans : List Span}, word ≠ [] → Unmixed word true spans →
    OnlyInValues word spans
  | [], hword, _, before, after, h => by
      simp [hword] at h
  | .own s :: rest, hword, hunmixed, before, after, h => by
      obtain ⟨hown, hrest⟩ := hunmixed
      rcases passes_or_begins h with ⟨more, rfl, hmore⟩ | ⟨tail, hne, hs, hbegins⟩
      · obtain ⟨front, value, back, u, v, rfl, hvalue, rfl, rfl⟩ :=
          onlyInValues_of_unmixed hword hrest _ _ hmore
        exact ⟨.own s :: front, value, back, u, v, rfl, hvalue, by simp, rfl⟩
      · -- it would begin in the template's own text, which does not
        have hbefore : notBegun word (before ++ tail) = true := by
          rw [← hs]
          exact hown
        have hnot := not_begun_at_end hne hbefore
        refine absurd ?_ hnot
        rcases List.append_eq_append_iff.mp hbegins with ⟨v, htail, -⟩ | ⟨more, hmore, -⟩
        · exact .inr ⟨v, htail.symm⟩
        · exact .inl ⟨more, hmore.symm⟩
  | .value s :: rest, hword, hunmixed, before, after, h => by
      obtain ⟨hstops, hrest⟩ := hunmixed
      rcases passes_or_begins h with ⟨more, rfl, hmore⟩ | ⟨tail, -, hs, hbegins⟩
      · obtain ⟨front, value, back, u, v, rfl, hvalue, rfl, rfl⟩ :=
          onlyInValues_of_unmixed hword hrest _ _ hmore
        exact ⟨.value s :: front, value, back, u, v, rfl, hvalue, by simp, rfl⟩
      · -- it begins in what is bound, and ends there
        obtain ⟨v, rfl, hafter⟩ := ends_in_value hstops hbegins
        exact ⟨[], s, rest, before, v, rfl, hs, rfl, hafter⟩

end Span

/-! ### Words in templates -/

/-- The text of the pieces begins outside of the word, whatever is bound. -/
def opens (word : List Char) (closed : Bool) : List TemplatePiece → Bool
  | [] => closed
  | .text s :: _ => Span.beginsOutside word s.toList
  | _ :: _ => false

/-- What is put in the place of an expression begins outside of the word, whatever is bound. -/
def exprOpens (word : List Char) : TemplateExpr → Bool
  | .text s => Span.beginsOutside word s.toList
  | _ => false

/-- The expression's own words do not begin the word, and stop what is bound. -/
def exprUnmixed (word : List Char) (closed : Bool) : TemplateExpr → Bool
  | .text s => Span.notBegun word s.toList
  | .concat x y => exprUnmixed word (exprOpens word y) x && exprUnmixed word closed y
  | .step e => exprUnmixed word closed e
  | .var _ | .field .. | .equals .. => closed

mutual

/-- The piece's own words do not begin the word, and stop what is bound. -/
def pieceUnmixed (word : List Char) (closed : Bool) : TemplatePiece → Bool
  | .text s => Span.notBegun word s.toList
  | .put e => exprUnmixed word closed e
  | .choice _ yes no => unmixed word closed yes && unmixed word closed no
  | .each name _ _ body => name != "suspension" && unmixed word false body

/-- The template's own words do not begin the word, and stop what is bound. -/
def unmixed (word : List Char) (closed : Bool) : List TemplatePiece → Bool
  | [] => true
  | p :: rest => pieceUnmixed word (opens word closed rest) p && unmixed word closed rest

end

variable {word : List Char}

theorem stops_of_opens {b : Bindings} {closed : Bool} {ps : List TemplatePiece} {spans : List Span}
    (h : opens word closed ps = true) (hspans : spans? b ps = some spans) :
    Span.Stops word closed spans := by
  cases ps with
  | nil =>
      simp only [spans?, Option.some.injEq] at hspans
      exact hspans ▸ h
  | cons p rest =>
      cases p with
      | text s =>
          simp only [spans?, pieceSpans?, Option.bind_eq_bind, Option.bind_some,
            Option.bind_eq_some_iff, Option.pure_def, Option.some.injEq] at hspans
          obtain ⟨back, -, rfl⟩ := hspans
          exact h
      | _ => cases h

theorem stops_of_exprOpens {b : Bindings} {closed : Bool} {e : TemplateExpr} {spans : List Span}
    (h : exprOpens word e = true) (hspans : exprSpans? b e = some spans) :
    Span.Stops word closed spans := by
  cases e with
  | text s =>
      cases hspans
      exact h
  | _ => cases h

theorem exprUnmixed_sound {b : Bindings} (hb : isAsync b = false) : ∀ {closed : Bool}
    {e : TemplateExpr} {spans : List Span}, exprUnmixed word closed e = true →
      exprSpans? b e = some spans → Span.Unmixed word closed spans
  | _, .text s, _, h, hspans => by
      cases hspans
      exact ⟨h, trivial⟩
  | closed, .concat x y, _, h, hspans => by
      obtain ⟨hx, hy⟩ := Bool.and_eq_true_iff.mp h
      simp only [exprSpans?, Option.bind_eq_bind, Option.bind_eq_some_iff, Option.pure_def,
        Option.some.injEq] at hspans
      obtain ⟨front, hfront, back, hback, rfl⟩ := hspans
      exact (exprUnmixed_sound hb hy hback).append (stops_of_exprOpens · hback)
        (exprUnmixed_sound hb hx hfront)
  | closed, .step e, _, h, hspans => by
      -- a step that is not awaited is what it runs
      simp only [exprSpans?, hb, Bool.false_eq_true, if_false, Option.map_id'] at hspans
      exact exprUnmixed_sound (e := e) hb h hspans
  | _, .var name, _, h, hspans => by
      obtain ⟨v, -, rfl⟩ := Option.map_eq_some_iff.mp hspans
      exact ⟨h, trivial⟩
  | _, .field e name, _, h, hspans => by
      obtain ⟨v, -, rfl⟩ := Option.map_eq_some_iff.mp hspans
      exact ⟨h, trivial⟩
  | _, .equals x y, _, h, hspans => by
      obtain ⟨v, -, rfl⟩ := Option.map_eq_some_iff.mp hspans
      exact ⟨h, trivial⟩

/-- What a function has at the members of a list, it has at one of them. -/
theorem exists_of_mem_mapM {α β : Type} {f : α → Option β} : ∀ {xs : List α} {ys : List β},
    xs.mapM f = some ys → ∀ {y : β}, y ∈ ys → ∃ x, f x = some y
  | [], _, h, _, hy => by
      cases h
      cases hy
  | x :: xs, _, h, y, hy => by
      simp only [List.mapM_cons, Option.bind_eq_bind, Option.bind_eq_some_iff, Option.pure_def,
        Option.some.injEq] at h
      obtain ⟨z, hz, zs, hzs, rfl⟩ := h
      rcases List.mem_cons.mp hy with rfl | hy
      · exact ⟨x, hz⟩
      · exact exists_of_mem_mapM hzs hy

/-- Parts that stop what is bound in them stop it together. -/
theorem unmixed_flatten {closed : Bool} : ∀ {parts : List (List Span)},
    (∀ part ∈ parts, Span.Unmixed word false part) → Span.Unmixed word closed parts.flatten
  | [], _ => trivial
  | part :: parts, h => by
      obtain ⟨hpart, hparts⟩ := List.forall_mem_cons.mp h
      exact (unmixed_flatten hparts).append Bool.noConfusion hpart

mutual

theorem pieceUnmixed_sound : ∀ {b : Bindings} {closed : Bool} {p : TemplatePiece}
    {spans : List Span}, isAsync b = false → pieceUnmixed word closed p = true →
      pieceSpans? b p = some spans → Span.Unmixed word closed spans
  | b, closed, .text s, spans, _, h, hspans => by
      simp only [pieceSpans?, Option.some.injEq] at hspans
      simp only [pieceUnmixed] at h
      exact hspans ▸ ⟨h, trivial⟩
  | b, closed, .put e, spans, hb, h, hspans => by
      simp only [pieceSpans?] at hspans
      simp only [pieceUnmixed] at h
      exact exprUnmixed_sound hb h hspans
  | b, closed, .choice test yes no, spans, hb, h, hspans => by
      simp only [pieceUnmixed, Bool.and_eq_true] at h
      simp only [pieceSpans?, Option.bind_eq_bind, Option.bind_eq_some_iff] at hspans
      obtain ⟨v, -, hspans⟩ := hspans
      split at hspans
      · exact unmixed_sound hb h.1 hspans
      · exact unmixed_sound hb h.2 hspans
  | b, closed, .each name items keep body, spans, hb, h, hspans => by
      simp only [pieceUnmixed, Bool.and_eq_true, bne_iff_ne] at h
      obtain ⟨hname, hbody⟩ := h
      simp only [pieceSpans?, Option.bind_eq_bind, Option.bind_eq_some_iff, Option.pure_def,
        Option.some.injEq] at hspans
      obtain ⟨_, -, _, -, vs, -, parts, hparts, rfl⟩ := hspans
      have hpart : ∀ v part, spans? ((name, v) :: b) body = some part →
          Span.Unmixed word false part := fun v part hpart => by
        refine unmixed_sound ?_ hbody hpart
        rw [← hb]
        simp [isAsync, DataMap.get?, hname]
      refine unmixed_flatten fun part hmem => ?_
      obtain ⟨v, hv⟩ := exists_of_mem_mapM hparts hmem
      exact hpart v part hv

/-- **A template whose own words do not begin a word** and stop what is bound has a text of which
this holds. -/
theorem unmixed_sound : ∀ {b : Bindings} {closed : Bool} {ps : List TemplatePiece}
    {spans : List Span}, isAsync b = false → unmixed word closed ps = true →
      spans? b ps = some spans → Span.Unmixed word closed spans
  | _, _, [], _, _, _, hspans => by
      simp only [spans?, Option.some.injEq] at hspans
      exact hspans ▸ trivial
  | b, closed, p :: rest, spans, hb, h, hspans => by
      simp only [unmixed, Bool.and_eq_true] at h
      simp only [spans?, Option.bind_eq_bind, Option.bind_eq_some_iff, Option.pure_def,
        Option.some.injEq] at hspans
      obtain ⟨front, hfront, back, hback, rfl⟩ := hspans
      exact (unmixed_sound hb h.2 hback).append (stops_of_opens · hback)
        (pieceUnmixed_sound hb h.1 hfront)

end

/-- **A word that a template does not begin** is, in any text that is made from the template without
awaiting, only in what was bound. -/
theorem onlyInValues_of_renderPieces? {b : Bindings} {ps : List TemplatePiece} {text : String}
    (hb : isAsync b = false) (hword : word ≠ []) (hps : unmixed word true ps = true)
    (htext : renderPieces? b ps = some text) :
    ∃ spans, spans? b ps = some spans ∧ Span.characters spans = text.toList ∧
      Span.OnlyInValues word spans := by
  rw [renderPieces?_eq_spans] at htext
  obtain ⟨spans, hspans, rfl⟩ := Option.map_eq_some_iff.mp htext
  exact ⟨spans, hspans, String.toList_ofList.symm,
    Span.onlyInValues_of_unmixed hword (unmixed_sound hb hps hspans)⟩

end StorySuite.Template
