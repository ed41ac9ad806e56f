import Mathlib.Data.List.Basic
import StorySuite.Proofs.Json.Behind
import StorySuite.Proofs.Path.Location
import StorySuite.Sandbox.Reply

/-!
# Proofs — Sandbox — a reply among a module's output

What a module prints stands around the host's reply, and it may look like a reply.  The reply is
what the last marked line says.

A line that ends in a carriage return and a newline is a line without the carriage return, so a
reply may lose one on its way.  It says the same without (`HostReply.parse?_return`).

* **`HostReply.ofOutput_recovers`**: which of the three ends an output has, and what it tells.
-/

namespace StorySuite

namespace HostReply

open Json Text

/-! ### Lines -/

/-- No line of the text begins with the marker. -/
def Unmarked (s : String) : Prop :=
  ∀ line ∈ lines s, ¬ marker.toList <+: line

/-- The text stands behind the marker on the last line that begins with it. -/
def IsLast (stdout reply : String) : Prop :=
  ∃ front back, lines stdout = front ++ (marker.toList ++ reply.toList) :: back ∧
    ∀ line ∈ back, ¬ marker.toList <+: line

/-- Every line in front of another one ends in a newline. -/
theorem linesOf_append {front back : List (List Char)} (hback : back ≠ []) :
    linesOf (front ++ back) = front.map withoutReturn ++ linesOf back := by
  induction front with
  | nil => rfl
  | cons line front ih =>
      obtain ⟨next, more, hmore⟩ := List.exists_cons_of_ne_nil
        (List.append_ne_nil_of_right_ne_nil front hback)
      rw [List.cons_append, hmore, linesOf, ← hmore, ih]
      rfl

/-- The lines of a text with a whole line in it. -/
theorem lines_around {line : String} (hline : '\n' ∉ line.toList) (before after : String) :
    ∃ front, lines (before ++ "\n" ++ line ++ "\n" ++ after) =
      front ++ withoutReturn line.toList :: lines after := by
  refine ⟨(splitChars '\n' before.toList).map withoutReturn, ?_⟩
  have htext : (before ++ "\n" ++ line ++ "\n" ++ after).toList =
      before.toList ++ '\n' :: (line.toList ++ '\n' :: after.toList) := by
    simp [String.toList_append]
  rw [lines, htext, splitChars_append_cons, splitChars_append_cons,
    splitChars_of_not_mem hline, linesOf_append (by simp),
    linesOf_append (splitChars_ne_nil _)]
  rfl

theorem marker_prefix_withoutReturn_iff {line : List Char} :
    marker.toList <+: withoutReturn line ↔ marker.toList <+: line := by
  unfold withoutReturn
  split
  · rename_i hlast
    obtain ⟨front, rfl⟩ := List.getLast?_eq_some_iff.mp (beq_iff_eq.mp hlast)
    rw [List.dropLast_concat, List.prefix_concat_iff]
    refine (or_iff_right fun h => ?_).symm
    have hend := congrArg List.getLast? h
    rw [List.getLast?_concat] at hend
    exact absurd hend (by decide)
  · exact Iff.rfl

theorem exists_marked_linesOf_iff : ∀ pieces : List (List Char),
    (∃ line ∈ linesOf pieces, marker.toList <+: line) ↔ ∃ piece ∈ pieces, marker.toList <+: piece
  | [] => Iff.rfl
  | [last] => by
      unfold linesOf
      split
      · rename_i hempty
        rw [List.isEmpty_iff.mp hempty]
        exact iff_of_false (by simp) (by decide)
      · exact Iff.rfl
  | line :: next :: more => by
      have hrest := exists_marked_linesOf_iff (next :: more)
      rw [linesOf, List.exists_mem_cons_iff, hrest, marker_prefix_withoutReturn_iff,
        List.exists_mem_cons_iff (a := line)]

/-- No line is marked where the marker is neither at the front of the text nor behind a newline. -/
theorem unmarked_iff {s : String} :
    Unmarked s ↔ ¬ marker.toList <+: s.toList ∧ ¬ '\n' :: marker.toList <:+: s.toList := by
  obtain ⟨piece, pieces, hsplit, hstarts⟩ := splitChars_starts '\n' s.toList
  obtain ⟨hfirst, hothers⟩ := hstarts marker.toList (by decide)
  have hmarked := exists_marked_linesOf_iff (piece :: pieces)
  rw [List.exists_mem_cons_iff, hfirst, hothers, ← hsplit] at hmarked
  rw [← not_or, ← hmarked, not_exists]
  exact forall_congr' fun line => not_and.symm

theorem find?_eq_none_iff {stdout : String} : find? stdout = none ↔ Unmarked stdout := by
  rw [find?, Option.map_eq_none_iff, List.findSome?_eq_none_iff]
  exact forall_congr' fun line => by rw [List.mem_reverse, dropStart?_eq_none_iff]

theorem find?_eq_some_iff {stdout reply : String} :
    find? stdout = some reply ↔ IsLast stdout reply := by
  rw [find?, Option.map_eq_some_iff]
  constructor
  · rintro ⟨rest, hrest, rfl⟩
    obtain ⟨back, line, front, hlines, hline, hback⟩ := List.findSome?_eq_some_iff.mp hrest
    refine ⟨front.reverse, back.reverse, ?_, fun line hline => ?_⟩
    · rw [List.reverse_eq_iff.mp hlines, dropStart?_eq_some_iff.mp hline]
      simp
    · exact dropStart?_eq_none_iff.mp (hback line (List.mem_reverse.mp hline))
  · rintro ⟨front, back, hlines, hback⟩
    refine ⟨reply.toList, List.findSome?_eq_some_iff.mpr
      ⟨back.reverse, marker.toList ++ reply.toList, front.reverse, ?_,
        dropStart?_eq_some_iff.mpr rfl, fun line hline => ?_⟩, String.ofList_toList⟩
    · rw [hlines]
      simp
    · exact dropStart?_eq_none_iff.mpr (hback line (List.mem_reverse.mp hline))

/-! ### Replies -/

/-- A known part is read alike, and any other is passed over alike. -/
theorem part?_return {acc parts : DataMap} {key : String} {cs l : List Char}
    (h : part? acc key (cs ++ ['\r']) = some (parts, l)) :
    ∃ t, l = t ++ ['\r'] ∧ t.length < cs.length ∧ part? acc key cs = some (parts, t) := by
  have hfuel : 2 * cs.length ≤ 2 * cs.length + 2 := Nat.le_add_right _ 2
  unfold part? at h ⊢
  split at h
  · split at h
    · cases h
    · obtain ⟨⟨v, rest⟩, hv, h⟩ := Option.map_eq_some_iff.mp h
      obtain ⟨t, rfl, ht, hread⟩ := (alike _).1 hv hfuel
      cases h
      rename_i hknown hnew
      exact ⟨t, rfl, ht, by rw [if_pos hknown, if_neg hnew, hread, Option.map_some]⟩
  · obtain ⟨rest, hskip, h⟩ := Option.map_eq_some_iff.mp h
    obtain ⟨t, rfl, ht, hread⟩ := (skippedAlike _).1 hskip hfuel
    cases h
    rename_i hother
    exact ⟨t, rfl, ht, by rw [if_neg hother, hread, Option.map_some]⟩

theorem fieldParts?_return {fuel fuel' : Nat} {acc parts : DataMap} {cs l : List Char}
    (h : fieldParts? fuel acc (cs ++ ['\r']) = some (parts, l)) (hfuel : cs.length < fuel') :
    ∃ t, l = t ++ ['\r'] ∧ fieldParts? fuel' acc cs = some (parts, t) := by
  induction fuel generalizing fuel' acc cs with
  | zero => cases h
  | succ fuel ih =>
      obtain ⟨fuel', rfl⟩ : ∃ k, fuel' = k + 1 := ⟨fuel' - 1, by omega⟩
      rcases hfront : skipBlanks (cs ++ ['\r']) with _ | ⟨c, l₀⟩
      · simp [fieldParts?, hfront] at h
      obtain ⟨t₀, hcs, rfl, hlength₀⟩ := skipBlanks_return hfront
      simp only [fieldParts?, hfront, hcs, Option.bind_eq_bind] at h ⊢
      -- the key
      by_cases hquote : c = '"'
      swap
      · simp [hquote] at h
      subst hquote
      obtain ⟨⟨key, rest⟩, hkey, h⟩ := Option.bind_eq_some_iff.mp h
      obtain ⟨t₁, rfl, ht₁, hkeyRead⟩ := stringTail?_return hkey (Nat.lt_succ_self t₀.length)
      simp only [hkeyRead, Option.bind_some]
      -- the colon, and the part behind it
      rcases hcolon : skipBlanks (t₁ ++ ['\r']) with _ | ⟨d, l₁⟩
      · simp [hcolon] at h
      obtain ⟨t₂, ht₁blank, rfl, hlength₂⟩ := skipBlanks_return hcolon
      simp only [hcolon, ht₁blank] at h ⊢
      by_cases hd : d = ':'
      swap
      · simp [hd] at h
      subst hd
      obtain ⟨⟨acc₁, rest⟩, hpart, h⟩ := Option.bind_eq_some_iff.mp h
      obtain ⟨t₃, rfl, ht₃, hpartRead⟩ := part?_return hpart
      simp only [hpartRead, Option.bind_some]
      -- the other parts, or the brace at the end
      rcases hback : skipBlanks (t₃ ++ ['\r']) with _ | ⟨e, l₃⟩
      · simp [hback] at h
      obtain ⟨t₄, ht₃blank, rfl, hlength₄⟩ := skipBlanks_return hback
      simp only [hback, ht₃blank] at h ⊢
      by_cases hcomma : e = ','
      · subst hcomma
        exact ih h (by omega : t₄.length < fuel')
      by_cases hclose : e = '\x7d'
      · subst hclose
        cases h
        exact ⟨t₄, rfl, rfl⟩
      · simp [hcomma, hclose] at h

theorem objectParts?_return {cs l : List Char} {parts : DataMap}
    (h : objectParts? (cs ++ ['\r']) = some (parts, l)) :
    ∃ t, l = t ++ ['\r'] ∧ objectParts? cs = some (parts, t) := by
  unfold objectParts? at h ⊢
  rcases hblank : skipBlanks (cs ++ ['\r']) with _ | ⟨c, l₀⟩
  · rw [hblank] at h
    simp [fieldParts?, skipBlanks] at h
  obtain ⟨t₀, hcs, rfl, -⟩ := skipBlanks_return hblank
  simp only [hblank, hcs] at h ⊢
  by_cases hclose : c = '\x7d'
  · subst hclose
    cases h
    exact ⟨t₀, rfl, rfl⟩
  · simp only [List.cons.injEq, hclose, false_and, imp_self, implies_true] at h ⊢
    exact fieldParts?_return (List.cons_append ▸ h) (Nat.lt_succ_self _)

theorem parseList?_return {line : String} {r : HostReply}
    (h : parseList? (line ++ "\r") = some r) : parseList? line = some r := by
  obtain ⟨v, hv, h⟩ := Option.bind_eq_some_iff.mp h
  exact Option.bind_eq_some_iff.mpr ⟨v, Json.parse?_return hv, h⟩

/-- **A reply is read alike** with a carriage return at its end and without. -/
theorem parse?_return {line : String} {r : HostReply} (h : parse? (line ++ "\r") = some r) :
    parse? line = some r := by
  have htext : (line ++ "\r").toList = line.toList ++ ['\r'] := String.toList_append
  unfold parse? at h ⊢
  rw [htext] at h
  rcases hblank : skipBlanks (line.toList ++ ['\r']) with _ | ⟨c, l₀⟩
  · -- nothing but blanks is no reply
    rw [hblank] at h
    have hnone : Json.parse? (line ++ "\r") nestingBound = none := by
      simp [Json.parse?, parseFields?, htext, value?_blank hblank]
    simp [parseList?, hnone] at h
  obtain ⟨t₀, hline, rfl, -⟩ := skipBlanks_return hblank
  rw [hblank] at h
  rw [hline]
  by_cases hobject : c = '\x7b'
  · subst hobject
    obtain ⟨⟨parts, rest⟩, hparts, h⟩ := Option.bind_eq_some_iff.mp h
    obtain ⟨t, rfl, hread⟩ := objectParts?_return hparts
    dsimp only at h
    rw [isEmpty_skipBlanks_return] at h
    exact Option.bind_eq_some_iff.mpr ⟨(parts, t), hread, h⟩
  · simp only [List.cons.injEq, hobject, false_and, imp_self, implies_true] at h ⊢
    exact parseList?_return h

/-- A marked line that has lost its carriage return is marked, and says what it said. -/
theorem exists_reply_of_withoutReturn {reply : String} {r : HostReply}
    (h : parse? reply = some r) :
    ∃ reply', withoutReturn (marker ++ reply).toList = marker.toList ++ reply'.toList ∧
      parse? reply' = some r := by
  unfold withoutReturn
  split
  · rename_i hlast
    obtain ⟨front, hfront⟩ := List.getLast?_eq_some_iff.mp (beq_iff_eq.mp hlast)
    rw [String.toList_append] at hfront
    rcases List.eq_nil_or_concat reply.toList with hnil | ⟨t, c, ht⟩
    · -- the marker itself does not end in a carriage return
      rw [hnil, List.append_nil] at hfront
      have hend := congrArg List.getLast? hfront
      rw [List.getLast?_concat] at hend
      exact absurd hend (by decide)
    · rw [ht, List.concat_eq_append, ← List.append_assoc] at hfront
      obtain ⟨-, hc⟩ := List.append_inj' hfront rfl
      cases hc
      have hreply : reply = String.ofList t ++ "\r" := by
        rw [← String.toList_inj, String.toList_append, ht]
        simp
      refine ⟨String.ofList t, ?_, parse?_return (hreply ▸ h)⟩
      rw [String.toList_append, ht, List.concat_eq_append, ← List.append_assoc,
        List.dropLast_concat, String.toList_ofList]
  · exact ⟨reply, String.toList_append, h⟩

/-! ### Outputs -/

variable {status : Option Int} {stderr : String}

theorem ofOutput_of_isLast {stdout reply : String} {r : HostReply} (hlast : IsLast stdout reply)
    (h : parse? reply = some r) : ofOutput stdout status stderr = r.outcome := by
  simp only [ofOutput, find?_eq_some_iff.mpr hlast, h]

/-- What a reply says is neither that there is none nor that it is unreadable. -/
theorem outcome_ne (r : HostReply) (status : Option Int) (stderr : String) :
    r.outcome ≠ .error (.hostFailed status stderr) ∧ r.outcome ≠ .error .badReply := by
  unfold outcome
  split <;> exact ⟨nofun, nofun⟩

theorem ofOutput_eq_hostFailed_iff {stdout : String} :
    ofOutput stdout status stderr = .error (.hostFailed status stderr) ↔ Unmarked stdout := by
  rw [← find?_eq_none_iff, ofOutput]
  split
  · rename_i hnone
    exact iff_of_true rfl hnone
  · rename_i hsome
    refine iff_of_false (fun h => ?_) (by simp [hsome])
    split at h
    · cases h
    · exact (outcome_ne _ _ _).1 h

theorem ofOutput_eq_badReply_iff {stdout : String} :
    ofOutput stdout status stderr = .error .badReply ↔
      ∃ reply, IsLast stdout reply ∧ parse? reply = none := by
  simp only [← find?_eq_some_iff, ofOutput]
  split
  · rename_i hnone
    refine iff_of_false (fun h => by cases h) ?_
    simp [hnone]
  · rename_i line hsome
    constructor
    · intro h
      split at h
      · exact ⟨line, hsome, by assumption⟩
      · exact absurd h (outcome_ne _ status stderr).2
    · rintro ⟨reply, hreply, hbad⟩
      cases hsome.symm.trans hreply
      simp [hbad]

/-- **A reply is recovered from any output.**  A line behind which nothing is marked says what its
reply says, whatever stands in front of it.  Where no line is marked the host has failed, and where
the last marked line is no reply there is a bad one. -/
theorem ofOutput_recovers (status : Option Int) (stderr : String) :
    (∀ before reply after : String, ∀ r : HostReply,
      '\n' ∉ reply.toList → parse? reply = some r → Unmarked after →
      ofOutput (before ++ "\n" ++ (marker ++ reply) ++ "\n" ++ after) status stderr =
        match r with
        | ⟨false, _, _, none, stack⟩ => .error (.execution "unknown error" stack)
        | ⟨false, _, _, some message, stack⟩ => .error (.execution message stack)
        | ⟨true, true, value, _, _⟩ => .ok (.default value)
        | ⟨true, false, value, _, _⟩ => .ok (.exports value)) ∧
    (∀ stdout : String,
      ofOutput stdout status stderr = .error (.hostFailed status stderr) ↔ Unmarked stdout) ∧
    (∀ stdout : String,
      ofOutput stdout status stderr = .error .badReply ↔
        ∃ reply, IsLast stdout reply ∧ parse? reply = none) := by
  refine ⟨fun before reply after r hline hreply hafter => ?_, fun _ => ofOutput_eq_hostFailed_iff,
    fun _ => ofOutput_eq_badReply_iff⟩
  have hmarked : '\n' ∉ (marker ++ reply).toList := by
    rw [String.toList_append, List.mem_append, not_or]
    exact ⟨by decide, hline⟩
  obtain ⟨front, hlines⟩ := lines_around hmarked before after
  obtain ⟨reply', hreturn, hreply'⟩ := exists_reply_of_withoutReturn hreply
  rw [hreturn] at hlines
  rw [ofOutput_of_isLast ⟨front, lines after, hlines, hafter⟩ hreply']
  obtain ⟨_ | _, _ | _, value, _ | message, stack⟩ := r <;> rfl

/-- What stands in front may be marked and may look like a reply, and the carriage return behind the
reply is lost. -/
theorem ofOutput_recovers_among_replies :
    let before := "out\n" ++ marker ++ "\x7b\"ok\":true\x7d\r\n" ++ marker ++ "\x7bnot json"
    let reply := "\x7b\"ok\":false,\"message\":\"boom\"\x7d\r"
    let after := "\n bye " ++ marker
    '\n' ∉ reply.toList ∧ parse? reply = some { ok := false, message := some "boom" } ∧
      Unmarked after ∧
      ofOutput (before ++ "\n" ++ (marker ++ reply) ++ "\n" ++ after) (some 1) "" =
        .error (.execution "boom" none) := by
  intro before reply after
  have hline : '\n' ∉ reply.toList := by simp [reply]
  have hreply : parse? reply = some { ok := false, message := some "boom" } := by
    simp only [reply, parse?, String.reduceToList]
    rfl
  have hafter : Unmarked after := unmarked_iff.mpr (by decide +kernel)
  exact ⟨hline, hreply, hafter,
    (ofOutput_recovers (some 1) "").1 before reply after _ hline hreply hafter⟩

end HostReply

end StorySuite
