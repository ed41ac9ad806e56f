import Mathlib.Data.List.TakeWhile
import StorySuite.Proofs.Json.Tokens
import StorySuite.Proofs.Text.NameChars

/-!
# Proofs — Script — names of variables

A name of a script begins with a character that may begin one and goes on with characters that may
stand in one.  It can name a variable, in strict code too, if it is none of the words that the
language keeps for itself.

A binding name is accepted by another table of characters.  It is a name of a script, or it breaks
off: behind a name, or at the front, there stands a character that is no word and begins none.

* `IsBindingIdentifier`: the names that a variable can have everywhere.
* **`isBindingIdentifier_iff`**: which accepted names are such, by their characters.
* `Lexer.token_spelling`, `Lexer.token_alien`: how a name is read, and where reading it breaks off.
* `isSpelling_or_breaksOff`: the two cases of an accepted name.
-/

namespace StorySuite.Script

open BindingName (isNameChar isAsciiDigit isWellFormed isIdentifier)

/-! ### Names -/

/-- The characters write a name. -/
def IsSpelling : List Char → Prop
  | [] => False
  | c :: cs => isNameStart c = true ∧ ∀ d ∈ cs, isNamePart d = true

instance : DecidablePred IsSpelling
  | [] => isFalse id
  | c :: cs => decidable_of_iff (isNameStart c = true ∧ cs.all isNamePart = true)
      (and_congr_right fun _ => List.all_eq_true)

/-- The words that name no variable in strict code, or none in a module. -/
def strictWords : List String := [
  "arguments", "await", "eval", "implements", "interface", "let", "package", "private", "protected",
  "public", "static", "yield"]

/-- The text can name a variable wherever one is declared, in strict code too. -/
structure IsBindingIdentifier (s : String) : Prop where
  isSpelling : IsSpelling s.toList
  notReserved : s ∉ reservedWords ++ strictWords

instance (s : String) : Decidable (IsBindingIdentifier s) :=
  decidable_of_iff (IsSpelling s.toList ∧ s ∉ reservedWords ++ strictWords)
    ⟨fun h => ⟨h.1, h.2⟩, fun h => ⟨h.1, h.2⟩⟩

section Characters

variable {c : Char} {cs : List Char}

/-- A character that begins a name may stand in one. -/
theorem isNamePart_of_isNameStart (h : isNameStart c = true) : isNamePart c = true := by
  simp only [isNameStart, Text.isIdStart, Bool.or_eq_true, beq_iff_eq] at h
  rcases h with (rfl | rfl) | h
  · decide
  · decide
  · simp only [isNamePart, Text.isIdContinue, Bool.or_eq_true]
    right
    split at h
    · rename_i hascii
      rw [if_pos hascii, h]
      rfl
    · rename_i hascii
      rw [if_neg hascii, h]
      rfl

theorem IsSpelling.parts (h : IsSpelling cs) : ∀ c ∈ cs, isNamePart c = true := by
  cases cs with
  | nil => exact absurd h id
  | cons c cs => exact List.forall_mem_cons.mpr ⟨isNamePart_of_isNameStart h.1, h.2⟩

theorem IsSpelling.ne_nil (h : IsSpelling cs) : cs ≠ [] := by
  rintro rfl
  exact h

/-- No gap begins with a name. -/
theorem IsSpelling.isSolid (h : IsSpelling cs) (hcs : ∀ c ∈ cs, isNameChar c = true)
    (rest : List Char) : Lexer.IsSolid (cs ++ rest) := by
  cases cs with
  | nil => exact absurd h id
  | cons c cs =>
      obtain ⟨hspace, hline, hothers⟩ := BindingName.apart_of_isNameChar (hcs c List.mem_cons_self)
      exact Lexer.isSolid_cons hspace hline hothers _

end Characters

/-! ### Accepted names -/

/-- Both tables of reserved words are one. -/
theorem mem_reserved_iff {w : String} :
    w ∈ reservedWords ++ strictWords ↔ w ∈ BindingName.reservedWords := by
  have hhere : ∀ w ∈ reservedWords ++ strictWords, w ∈ BindingName.reservedWords := by decide
  have hthere : ∀ w ∈ BindingName.reservedWords, w ∈ reservedWords ++ strictWords := by decide
  exact ⟨hhere w, hthere w⟩

theorem isIdentifier_iff {s : String} :
    isIdentifier s = true ↔ isWellFormed s = true ∧ s ∉ reservedWords ++ strictWords := by
  rw [mem_reserved_iff]
  simp [isIdentifier]

/-- What is accepted begins with a character of names that is no figure, and has no other ones. -/
theorem isWellFormed_iff {s : String} : isWellFormed s = true ↔
    ∃ c cs, s.toList = c :: cs ∧ isAsciiDigit c = false ∧
      ∀ d ∈ c :: cs, isNameChar d = true := by
  unfold isWellFormed
  cases hs : s.toList with
  | nil => simp
  | cons c cs =>
      simp only [Bool.and_eq_true, Bool.not_eq_true', List.all_eq_true, List.cons.injEq,
        List.forall_mem_cons]
      constructor
      · rintro ⟨⟨hc, hdigit⟩, hcs⟩
        exact ⟨c, cs, ⟨rfl, rfl⟩, hdigit, hc, hcs⟩
      · rintro ⟨_, _, ⟨rfl, rfl⟩, hdigit, hc, hcs⟩
        exact ⟨⟨hc, hdigit⟩, hcs⟩

/-- An accepted name can name a variable exactly if it is a name. -/
theorem isBindingIdentifier_iff_isSpelling {s : String} (h : isIdentifier s = true) :
    IsBindingIdentifier s ↔ IsSpelling s.toList :=
  ⟨IsBindingIdentifier.isSpelling, fun hspelling => ⟨hspelling, (isIdentifier_iff.mp h).2⟩⟩

/-- **An accepted name can name a variable exactly if it has no stray character and begins with none
that may only follow.** -/
theorem isBindingIdentifier_iff {s : String} (h : isIdentifier s = true) :
    IsBindingIdentifier s ↔
      (∀ c ∈ s.toList, ¬ Text.inRanges Text.strayRanges c.toNat = true) ∧
        ∀ c ∈ s.toList.head?, ¬ Text.inRanges Text.idTailRanges c.toNat = true := by
  obtain ⟨c, cs, hs, hdigit, hchars⟩ := isWellFormed_iff.mp (isIdentifier_iff.mp h).1
  obtain ⟨hc, hcs⟩ := List.forall_mem_cons.mp hchars
  have hparts : (∀ d ∈ cs, isNamePart d = true) ↔
      ∀ d ∈ cs, ¬ Text.inRanges Text.strayRanges d.toNat = true :=
    forall₂_congr fun d hd => BindingName.isNamePart_iff (hcs d hd)
  rw [isBindingIdentifier_iff_isSpelling h, hs, IsSpelling, hparts,
    BindingName.isNameStart_iff hc hdigit]
  simp only [List.forall_mem_cons, List.head?_cons, Option.mem_def, Option.some.injEq,
    forall_eq']
  exact and_right_comm

/-- A character of binding names that begins no name and is no figure of ASCII. -/
structure IsAlien (c : Char) : Prop where
  char : isNameChar c = true
  start : isNameStart c = false
  digit : isAsciiDigit c = false

/-- Behind `front`, which writes a name or is empty, stands a character of binding names that begins
no name, and goes on with none. -/
structure BreaksOff (cs front : List Char) (c : Char) (rest : List Char) : Prop where
  eq : cs = front ++ c :: rest
  before : front = [] ∨ IsSpelling front
  part : front ≠ [] → isNamePart c = false
  alien : IsAlien c

/-- An alien is no character of ASCII. -/
theorem IsAlien.not_ascii {c : Char} (h : IsAlien c) : ¬ c.toNat < 0x80 := by
  intro hascii
  have hstart := (BindingName.ascii_cases hascii h.char).2.1 h.digit
  rw [h.start] at hstart
  cases hstart

theorem IsAlien.ne {c : Char} (h : IsAlien c) {d : Char} (hd : d.toNat < 0x80) : c ≠ d :=
  fun heq => h.not_ascii (heq ▸ hd)

/-- No gap begins with an alien. -/
theorem IsAlien.isSolid {c : Char} (h : IsAlien c) (rest : List Char) :
    Lexer.IsSolid (c :: rest) := by
  obtain ⟨hspace, hline, hothers⟩ := BindingName.apart_of_isNameChar h.char
  exact Lexer.isSolid_cons hspace hline hothers rest

theorem ascii_of_isAsciiDigit {c : Char} (h : isAsciiDigit c = true) : c.toNat < 0x80 := by
  simp only [isAsciiDigit, Bool.and_eq_true, decide_eq_true_eq, Char.le_def,
    UInt32.le_iff_toNat_le] at h
  have hhigh : c.toNat ≤ 57 := h.2
  omega

/-- A character that is no figure of ASCII and stands in no name begins none. -/
theorem start_of_part {c : Char} (h : isNamePart c = false) : isNameStart c = false := by
  rw [← Bool.not_eq_true] at h ⊢
  exact fun hstart => h (isNamePart_of_isNameStart hstart)

/-- **What is accepted writes a name or breaks off.** -/
theorem isSpelling_or_breaksOff {s : String} (h : isWellFormed s = true) :
    IsSpelling s.toList ∨ ∃ front c rest, BreaksOff s.toList front c rest := by
  obtain ⟨c, cs, hs, hdigit, hchars⟩ := isWellFormed_iff.mp h
  rw [hs]
  cases hstart : isNameStart c with
  | false =>
      exact .inr ⟨[], c, cs, rfl, .inl rfl, fun hne => absurd rfl hne,
        hchars c List.mem_cons_self, hstart, hdigit⟩
  | true =>
      cases hrest : cs.dropWhile isNamePart with
      | nil => exact .inl ⟨hstart, List.dropWhile_eq_nil_iff.mp hrest⟩
      | cons d rest =>
          have heq : cs = cs.takeWhile isNamePart ++ d :: rest := by
            rw [← hrest, List.takeWhile_append_dropWhile]
          have hd : isNamePart d = false := by
            have hhead := List.head?_dropWhile_not isNamePart cs
            simpa [hrest] using hhead
          have hchar : isNameChar d = true := hchars d (by rw [heq]; simp)
          have hfigure : isAsciiDigit d = false := by
            rw [← Bool.not_eq_true]
            intro hfigure
            rw [(BindingName.ascii_cases (ascii_of_isAsciiDigit hfigure) hchar).1] at hd
            cases hd
          refine .inr ⟨c :: cs.takeWhile isNamePart, d, rest, ?_, .inr ⟨hstart, fun e he => ?_⟩,
            fun _ => hd, hchar, start_of_part hd, hfigure⟩
          · rw [List.cons_append, ← heq]
          · exact List.mem_takeWhile_imp he

/-! ### How they are read -/

namespace Lexer

/-- A name is read up to the character behind it, which stands in none. -/
theorem token_spelling {cs : List Char} (hcs : IsSpelling cs) {k : Char}
    (hpart : isNamePart k = false) (hescape : k ≠ '\\') (fuel : Nat) (rest : List Char) :
    token fuel (cs ++ k :: rest) = (.name (String.ofList cs) false, k :: rest) := by
  have hplain : (cs ++ k :: rest).takeWhile isNamePart = cs := by
    rw [List.takeWhile_append_of_pos hcs.parts, List.takeWhile_cons_of_neg (by simp [hpart]),
      List.append_nil]
  have hname : name? fuel (cs ++ k :: rest) = some (String.ofList cs, false, k :: rest) := by
    simp [name?, hplain, hescape, hcs.ne_nil]
  cases cs with
  | nil => exact absurd hcs id
  | cons c cs =>
      have hmark : ∀ d ∈ ['"', '\'', '\x60'], c ≠ d := by
        have hnone : ∀ d ∈ ['"', '\'', '\x60'], isNameStart d = false :=
          List.all_iff_forall_prop.mp (by decide)
        intro d hd heq
        have hstart := hcs.1
        rw [heq, hnone d hd] at hstart
        cases hstart
      simp only [List.forall_mem_cons, List.not_mem_nil] at hmark
      rw [List.cons_append] at hname ⊢
      simp [token, hmark, hcs.1, hname]

/-- A sign begins with a character of ASCII. -/
theorem sign?_of_not_ascii {c : Char} (hc : ¬ c.toNat < 0x80) (rest : List Char) :
    sign? signs (c :: rest) = none := by
  have hall : ∀ s ∈ signs, s.head?.any (·.toNat < 0x80) = true := by decide
  unfold sign?
  rw [List.findSome?_eq_none_iff]
  intro s hs
  have hfront := hall s hs
  cases s with
  | nil => cases hfront
  | cons d s =>
      have hascii : d.toNat < 0x80 := by simpa using hfront
      have hne : d ≠ c := fun heq => hc (heq ▸ hascii)
      simp [Text.dropStart?, hne]

theorem isDigit_of_alien {c : Char} (h : IsAlien c) : c.isDigit = false := by
  have hall : ∀ d ∈ figures, d.toNat < 0x80 := List.all_iff_forall_prop.mp (by decide)
  rw [← Bool.not_eq_true]
  exact fun hdigit => h.not_ascii (hall c (mem_figures_of_isDigit hdigit))

/-- An alien is no word. -/
theorem token_alien {c : Char} (h : IsAlien c) (fuel : Nat) (rest : List Char) :
    token fuel (c :: rest) = (.bad, rest) := by
  have hother : ∀ d ∈ ['"', '\'', '\x60', '\\', '#', '.'], c ≠ d := by
    have hall : ∀ d ∈ ['"', '\'', '\x60', '\\', '#', '.'], d.toNat < 0x80 :=
      List.all_iff_forall_prop.mp (by decide)
    exact fun d hd => h.ne (hall d hd)
  simp only [List.forall_mem_cons, List.not_mem_nil] at hother
  simp [token, hother, h.start, isDigit_of_alien h, sign?_of_not_ascii h.not_ascii]

end Lexer

end StorySuite.Script
