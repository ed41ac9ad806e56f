import StorySuite.Proofs.Json.Fields
import StorySuite.Template.Basic

/-!
# Proofs — Template — what a text depends on

The text of a template depends on the bindings of the variables that it asks for (`asks`), and
on no other.  The item of a repetition is bound by the template itself, so that its name is not
asked for outside; a step of a test asks for the suspension style.

* `renderPieces?_congr`: bindings that agree on the variables of a template give one text.
-/

namespace StorySuite.Template

/-! ### Variables -/

/-- The variables that an expression asks for. -/
def exprAsks : TemplateExpr → List String
  | .text _ => []
  | .var name => [name]
  | .field e _ => exprAsks e
  | .concat x y | .equals x y => exprAsks x ++ exprAsks y
  | .step e => "suspension" :: exprAsks e

mutual

/-- The variables that a piece asks for. -/
def pieceAsks : TemplatePiece → List String
  | .text _ => []
  | .put e => exprAsks e
  | .choice test yes no => exprAsks test ++ (asks yes ++ asks no)
  | .each name items keep body =>
    exprAsks items ++
      ((keep.map exprAsks).getD [] ++ asks body).filter fun n => n != name

/-- The variables that a template asks for. -/
def asks : List TemplatePiece → List String
  | [] => []
  | p :: rest => pieceAsks p ++ asks rest

end

/-- The bindings bind the names alike. -/
def Agree (b b' : Bindings) (names : List String) : Prop :=
  ∀ n ∈ names, b.get? n = b'.get? n

namespace Agree

variable {b b' : Bindings} {names more : List String}

theorem append_iff : Agree b b' (names ++ more) ↔ Agree b b' names ∧ Agree b b' more :=
  List.forall_mem_append

theorem cons_iff {n : String} : Agree b b' (n :: names) ↔ b.get? n = b'.get? n ∧ Agree b b' names :=
  List.forall_mem_cons

/-- What is bound on both sides need not be bound alike before. -/
theorem push {name : String} (h : Agree b b' (names.filter fun n => n != name)) (v : Json.Value) :
    Agree ((name, v) :: b) ((name, v) :: b') names := by
  intro n hn
  rw [DataMap.get?_cons, DataMap.get?_cons]
  split
  · rfl
  · rename_i hne
    exact h n (List.mem_filter.mpr ⟨hn, bne_iff_ne.mpr fun heq => hne heq.symm⟩)

end Agree

/-! ### Texts -/

theorem eval?_congr {b b' : Bindings} : ∀ e : TemplateExpr,
    Agree b b' (exprAsks e) → eval? b e = eval? b' e
  | .text _, _ => rfl
  | .var name, h => h name List.mem_cons_self
  | .field e name, h => by simp only [eval?, eval?_congr e h]
  | .concat x y, h => by
      obtain ⟨hx, hy⟩ := Agree.append_iff.mp h
      simp only [eval?, eval?_congr x hx, eval?_congr y hy]
  | .equals x y, h => by
      obtain ⟨hx, hy⟩ := Agree.append_iff.mp h
      simp only [eval?, eval?_congr x hx, eval?_congr y hy]
  | .step e, h => by
      obtain ⟨hstyle, he⟩ := Agree.cons_iff.mp h
      simp only [eval?, eval?_congr e he, isAsync, hstyle]

theorem kept?_congr {b b' : Bindings} {name : String} {keep : Option TemplateExpr}
    (h : ∀ e ∈ keep, Agree b b' ((exprAsks e).filter fun n => n != name))
    (vs : List Json.Value) : kept? b name keep vs = kept? b' name keep vs := by
  induction vs with
  | nil => rfl
  | cons v rest ih =>
      simp only [kept?, ih]
      cases keep with
      | none => rfl
      | some e => simp only [eval?_congr e ((h e rfl).push v)]

mutual

theorem renderPiece?_congr : ∀ {b b' : Bindings} (p : TemplatePiece),
    Agree b b' (pieceAsks p) → renderPiece? b p = renderPiece? b' p
  | _, _, .text s, _ => by simp only [renderPiece?]
  | _, _, .put e, h => by
      simp only [pieceAsks] at h
      simp only [renderPiece?, eval?_congr e h]
  | _, _, .choice test yes no, h => by
      simp only [pieceAsks, Agree.append_iff] at h
      obtain ⟨htest, hyes, hno⟩ := h
      simp only [renderPiece?, eval?_congr test htest, renderPieces?_congr yes hyes,
        renderPieces?_congr no hno]
  | b, b', .each name items keep body, h => by
      simp only [pieceAsks, List.filter_append, Agree.append_iff] at h
      obtain ⟨hitems, hkeep, hbody⟩ := h
      have hkept : ∀ vs, kept? b name keep vs = kept? b' name keep vs :=
        kept?_congr fun e he => by
          cases he
          exact hkeep
      have htext : ∀ v,
          renderPieces? ((name, v) :: b) body = renderPieces? ((name, v) :: b') body :=
        fun v => renderPieces?_congr body (hbody.push v)
      simp only [renderPiece?, eval?_congr items hitems, hkept, htext]

/-- **Bindings that agree on the variables** of a template give one text. -/
theorem renderPieces?_congr : ∀ {b b' : Bindings} (ps : List TemplatePiece),
    Agree b b' (asks ps) → renderPieces? b ps = renderPieces? b' ps
  | _, _, [], _ => by simp only [renderPieces?]
  | _, _, p :: rest, h => by
      simp only [asks, Agree.append_iff] at h
      simp only [renderPieces?, renderPiece?_congr p h.1, renderPieces?_congr rest h.2]

end

end StorySuite.Template
