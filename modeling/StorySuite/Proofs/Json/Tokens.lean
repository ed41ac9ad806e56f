import Mathlib.Data.Bool.AllAny
import Mathlib.Tactic.SplitIfs
import StorySuite.Proofs.Json.Numerals
import StorySuite.Proofs.Script.Parser.Runs

/-!
# Proofs — Json — the words of data in a program

A program reads the text of a value of data word by word, and every word as data means it: brackets,
the three names, texts and numerals.  What follows a value is a bracket or a comma, and no word runs
into it.

* `token_bracket`, `token_word`, `token_quote`, `token_numeral`: the words that are read.
* `State.start_solid`: where no gap begins, the next word begins at once.
-/

namespace StorySuite.Script

/-! ### Brackets -/

/-- The characters that are words by themselves wherever they stand. -/
def brackets : List Char :=
  ['\x7b', '\x7d', '(', ')', '[', ']', ';', ',', ':']

/-- A bracket begins no other word and no gap. -/
structure IsPlain (k : Char) : Prop where
  name : isNameStart k = false
  part : isNamePart k = false
  digit : k.isDigit = false
  space : isSpace k = false
  lineEnd : isLineEnd k = false
  others : k ∉ ['"', '\'', '\\', '\x60', '#', '.', '/', '<', '-', '_', 'e', 'E', 'n']

theorem isPlain_of_mem_brackets {k : Char} (hk : k ∈ brackets) : IsPlain k := by
  have hall : brackets.all (fun k =>
      !isNameStart k && !isNamePart k && !k.isDigit && !isSpace k && !isLineEnd k &&
        !(['"', '\'', '\\', '\x60', '#', '.', '/', '<', '-', '_', 'e', 'E', 'n'].contains k)) =
      true := by decide
  have h := List.all_eq_true.mp hall k hk
  simp only [Bool.and_eq_true, Bool.not_eq_true', List.contains_eq_mem,
    decide_eq_false_iff_not] at h
  exact ⟨h.1.1.1.1.1, h.1.1.1.1.2, h.1.1.1.2, h.1.1.2, h.1.2, h.2⟩

namespace Lexer

open Decimal

theorem token_bracket {k : Char} (hk : k ∈ brackets) (fuel : Nat) (rest : List Char) :
    token fuel (k :: rest) = (.sign (String.singleton k), rest) := by
  have hname := (isPlain_of_mem_brackets hk).name
  simp only [brackets, List.mem_cons, List.not_mem_nil, or_false] at hk
  rcases hk with rfl | rfl | rfl | rfl | rfl | rfl | rfl | rfl | rfl <;>
    simp [token, sign?, signs, Text.dropStart?, hname]

/-! ### Names -/

/-- The names that are values. -/
def valueNames : List String :=
  ["null", "true", "false"]

theorem token_word {s : String} (hs : s ∈ valueNames) {k : Char} (hk : k ∈ brackets) (fuel : Nat)
    (rest : List Char) :
    token fuel (s.toList ++ k :: rest) = (.name s false, k :: rest) := by
  have hk' := isPlain_of_mem_brackets hk
  have hescape : k ≠ '\\' := fun h => hk'.others (by simp [h])
  have hletters : ∀ c ∈ "nulltruefalse".toList, isNamePart c = true :=
    List.all_iff_forall_prop.mp (by decide)
  have hstart : ∀ c ∈ "ntf".toList, isNameStart c = true := List.all_iff_forall_prop.mp (by decide)
  simp at hletters hstart
  simp only [valueNames, List.mem_cons, List.not_mem_nil, or_false] at hs
  rcases hs with rfl | rfl | rfl <;>
    simp [token, name?, hletters, hstart, hk'.part, hescape]

/-! ### Texts -/

/-- The four digits of a small number are read as this number. -/
theorem unicodeEscape?_hex4 {n : Nat} (hn : n < 0x20) (rest : List Char) :
    unicodeEscape? (Text.hex4 n ++ rest) = some (n, rest) := by
  have hall : ∀ n < 0x20, Text.hexDigit (n / 4096) ≠ '\x7b' ∧
      Text.ofDigits? 16 (Text.hex4 n) = some n := by decide
  obtain ⟨hfront, hvalue⟩ := hall n hn
  simp only [Text.hex4] at hvalue
  simp [unicodeEscape?, Text.hex4, hfront, Json.hexUnit?, hvalue]

/-- A character as data writes it is read as this character. -/
theorem stringTail?_escapeChar (c : Char) (fuel : Nat) (acc : List Nat) (rest : List Char) :
    stringTail? '"' (fuel + 1) acc (Json.escapeChar c ++ rest) =
      stringTail? '"' fuel (c.toNat :: acc) rest := by
  unfold Json.escapeChar
  by_cases hquote : c = '"'
  · subst hquote
    simp [stringTail?, escape?, isLineEnd]
  by_cases hslash : c = '\\'
  · subst hslash
    simp [stringTail?, escape?, isLineEnd]
  by_cases hplain : 0x20 ≤ c.toNat
  · have hn : c ≠ '\n' := by rintro rfl; simp at hplain
    have hr : c ≠ '\r' := by rintro rfl; simp at hplain
    simp [stringTail?, hquote, hslash, hplain, hn, hr]
  simp only [hquote, hslash, hplain, if_false]
  split_ifs with hb ht hn hf hr
  · simp [stringTail?, escape?, hb]
  · simp [stringTail?, escape?, ht]
  · simp [stringTail?, escape?, hn]
  · simp [stringTail?, escape?, hf]
  · simp [stringTail?, escape?, hr]
  · simp [stringTail?, escape?, unicodeEscape?_hex4 (n := c.toNat) (by omega) rest]

/-- **A text that data writes is read back, character by character.** -/
theorem stringTail?_escape : ∀ (cs : List Char) (fuel : Nat) (acc : List Nat) (rest : List Char),
    cs.length < fuel →
      stringTail? '"' fuel acc (Json.escape cs ++ '"' :: rest) =
        some (acc.reverse ++ cs.map Char.toNat, rest)
  | [], fuel + 1, acc, rest, _ => by simp [Json.escape, stringTail?]
  | c :: cs, fuel + 1, acc, rest, h => by
      have hrest := stringTail?_escape cs fuel (c.toNat :: acc) rest (by simpa using h)
      simp only [Json.escape, List.flatMap_cons, List.append_assoc] at hrest ⊢
      rw [stringTail?_escapeChar, hrest]
      simp

/-- No character is half of a pair. -/
theorem not_isSurrogate_toNat (c : Char) : textOf.isSurrogate c.toNat = false := by
  have hvalid : c.toNat < 0xd800 ∨ 0xdfff < c.toNat ∧ c.toNat < 0x110000 := c.valid
  simp only [textOf.isSurrogate, Bool.and_eq_false_iff, decide_eq_false_iff_not]
  omega

/-- Characters form no pairs. -/
theorem join_toNat : ∀ cs : List Char, textOf.join (cs.map Char.toNat) = cs.map Char.toNat
  | [] => rfl
  | [c] => rfl
  | c :: d :: cs => by
      have hc := not_isSurrogate_toNat c
      have hrest := join_toNat (d :: cs)
      simp only [textOf.isSurrogate, Bool.and_eq_false_iff, decide_eq_false_iff_not] at hc
      simp only [List.map_cons] at hrest ⊢
      unfold textOf.join
      split_ifs with hpair
      · simp only [Bool.and_eq_true, decide_eq_true_eq] at hpair
        omega
      · rw [hrest]

/-- Characters are the text that they write. -/
theorem textOf_toNat (cs : List Char) : textOf (cs.map Char.toNat) = ⟨String.ofList cs, false⟩ := by
  have hlone : (cs.map Char.toNat).any textOf.isSurrogate = false := by
    simp [not_isSurrogate_toNat]
  have hchars : ∀ cs : List Char, (cs.map Char.toNat).flatMap (fun n => [Char.ofNat n]) = cs := by
    intro cs
    induction cs with
    | nil => rfl
    | cons c cs ih => simp [ih]
  simp only [textOf, join_toNat, hlone]
  congr 2
  conv => rhs; rw [← hchars cs]
  refine List.flatMap_congr fun n hn => ?_
  obtain ⟨c, -, rfl⟩ := List.mem_map.mp hn
  simp [not_isSurrogate_toNat]

/-- **A text that data writes is one word, and means this text.** -/
theorem token_quote (t : String) (fuel : Nat) (rest : List Char) (hfuel : t.toList.length < fuel) :
    token fuel ((Json.quote t).toList ++ rest) = (.string ⟨t, false⟩ (Json.quote t), rest) := by
  have htail := stringTail?_escape t.toList fuel [] rest hfuel
  have hraw : consumed ((Json.quote t).toList ++ rest) rest = Json.quote t := by
    simp [consumed, List.take_left']
  have hfront : (Json.quote t).toList ++ rest = '"' :: (Json.escape t.toList ++ '"' :: rest) := by
    simp [Json.quote]
  rw [hfront] at hraw ⊢
  simp [token, htail, textOf_toNat, hraw]

/-! ### Numerals -/

/-- What follows digits is not one of them. -/
def StopsDigits (rest : List Char) : Prop :=
  ∀ c ∈ rest.head?, c.isDigit = false ∧ c ≠ '_'

/-- Digits are read up to what is none of them. -/
theorem digits?_append : ∀ (ds acc : List Char) {rest : List Char}, Json.AllDigits ds →
    StopsDigits rest → digits? Char.isDigit acc (ds ++ rest) = some (acc.reverse ++ ds, rest)
  | [], acc, rest, _, hrest => by
      cases rest with
      | nil => simp [digits?]
      | cons c rest =>
          obtain ⟨hdigit, hbar⟩ := hrest c rfl
          simp [digits?, hdigit, hbar]
  | d :: ds, acc, rest, hds, hrest => by
      have hdigit : d.isDigit = true := hds d List.mem_cons_self
      have hbar : d ≠ '_' := by rintro rfl; cases hdigit
      have hmore := digits?_append ds (d :: acc)
        (fun c hc => hds c (List.mem_cons_of_mem _ hc)) hrest
      simp [digits?, hdigit, hbar, hmore]

/-- The power of ten of a numeral is read. -/
theorem power?_powerText {w : Json.Numeral} (hw : w.WellFormed) {k : Char} (hk : k ∈ brackets)
    (rest : List Char) : power? (w.powerText ++ k :: rest) = some (w.powerValue, k :: rest) := by
  have hk' := isPlain_of_mem_brackets hk
  have hstops : StopsDigits (k :: rest) := by
    rintro c ⟨⟩
    exact ⟨hk'.digit, fun h => hk'.others (by simp [h])⟩
  unfold Json.Numeral.powerText Json.Numeral.powerValue
  cases hpower : w.power with
  | none =>
      have he : k ≠ 'e' ∧ k ≠ 'E' :=
        ⟨fun h => hk'.others (by simp [h]), fun h => hk'.others (by simp [h])⟩
      simp [power?, he]
  | some p =>
      obtain ⟨negative, ds⟩ := p
      obtain ⟨hne, hds⟩ := hw.power _ hpower
      have hread := digits?_append ds [] hds hstops
      cases negative <;> simp [power?, hread, hne]

/-- Behind the digits of a numeral stands the mark of a power, or what follows the numeral. -/
theorem powerText_front (w : Json.Numeral) {k : Char} (hk : k ∈ brackets) (rest : List Char) :
    ∃ c t, w.powerText ++ k :: rest = c :: t ∧ c.isDigit = false ∧
      c ∉ ['n', '.', '_', 'x', 'X', 'o', 'O', 'b', 'B'] := by
  unfold Json.Numeral.powerText
  cases w.power with
  | none =>
      refine ⟨k, rest, rfl, (isPlain_of_mem_brackets hk).digit, fun h => ?_⟩
      have hnone : ∀ c ∈ brackets, c ∉ ['n', '.', '_', 'x', 'X', 'o', 'O', 'b', 'B'] :=
        List.all_iff_forall_prop.mp (by decide)
      exact hnone k hk h
  | some p => exact ⟨'e', _, rfl, by decide, by decide⟩

/-- What stands behind the digits in front of a numeral's point is read. -/
theorem decimalTail?_numeral {w : Json.Numeral} (hw : w.WellFormed) {k : Char} (hk : k ∈ brackets)
    (rest : List Char) :
    decimalTail? w.whole true (w.fractionText ++ (w.powerText ++ k :: rest)) =
      some (.number w.magnitude, k :: rest) := by
  have hk' := isPlain_of_mem_brackets hk
  have hends : endsNumber (k :: rest) = true := by
    have hslash : k ≠ '\\' := fun h => hk'.others (by simp [h])
    simp [endsNumber, hk'.name, hk'.digit, hslash]
  have hpower := power?_powerText hw hk rest
  obtain ⟨c, t, hfront, hdigit, hc⟩ := powerText_front w hk rest
  rw [hfront] at hpower ⊢
  simp only [List.mem_cons, List.not_mem_nil, or_false, not_or] at hc
  -- without a fraction, the power of ten or the bracket is read at once
  by_cases hfraction : w.fraction = []
  · simp [decimalTail?, Json.Numeral.fractionText, hfraction, hc, hpower, hends,
      Json.Numeral.magnitude, Json.Numeral.digits, Json.Numeral.exponent]
  · obtain ⟨d, ds, hds⟩ := List.exists_cons_of_ne_nil hfraction
    have hd : d ≠ '_' := by
      rintro rfl
      exact absurd (hw.fraction '_' (by simp [hds])) (by decide)
    have hstops : StopsDigits (c :: t) := by
      rintro c' ⟨⟩
      exact ⟨hdigit, hc.2.2.1⟩
    have hread := digits?_append w.fraction [] hw.fraction hstops
    rw [hds] at hread
    simp only [List.cons_append, List.reverse_nil, List.nil_append] at hread
    simp [decimalTail?, Json.Numeral.fractionText, hds, hd, hread, hpower, hends,
      Json.Numeral.magnitude, Json.Numeral.digits, Json.Numeral.exponent]

/-- **A numeral of data is one word, and means its digits times its power of ten.** -/
theorem number?_numeral {w : Json.Numeral} (hw : w.WellFormed) {k : Char} (hk : k ∈ brackets)
    (rest : List Char) :
    number? (w.unsigned ++ k :: rest) =
      some (.number w.magnitude, k :: rest) := by
  have htail := decimalTail?_numeral hw hk rest
  obtain ⟨c, t, hfront, hdigit, hc⟩ : ∃ c t,
      w.fractionText ++ (w.powerText ++ k :: rest) = c :: t ∧ c.isDigit = false ∧
        c ∉ ['_', 'x', 'X', 'o', 'O', 'b', 'B'] := by
    unfold Json.Numeral.fractionText
    split_ifs
    · obtain ⟨c, t, hfront, hdigit, hc⟩ := powerText_front w hk rest
      exact ⟨c, t, hfront, hdigit, fun h => hc (List.subset_def.mp (by simp) h)⟩
    · exact ⟨'.', _, rfl, by decide, by decide⟩
  simp only [Json.Numeral.unsigned, List.append_assoc]
  rw [hfront] at htail ⊢
  simp only [List.mem_cons, List.not_mem_nil, or_false, not_or] at hc
  -- a zero in front is read by itself; it could begin a number in another base
  by_cases hzero : w.whole = ['0']
  · rw [hzero] at htail ⊢
    simp [number?, hc, hdigit, htail]
  · obtain ⟨d, ds, hds⟩ := List.exists_cons_of_ne_nil hw.nonempty
    have hd0 : d ≠ '0' := fun h => hzero (hw.leading (by simp [hds, h]))
    have hdot : d ≠ '.' := by
      rintro rfl
      exact absurd (hw.whole '.' (by simp [hds])) (by decide)
    have hstops : StopsDigits (c :: t) := by
      rintro c' ⟨⟩
      exact ⟨hdigit, hc.1⟩
    have hread := digits?_append w.whole [] hw.whole hstops
    rw [hds] at hread htail ⊢
    simp only [List.cons_append, List.reverse_nil, List.nil_append] at hread
    simp [number?, hd0, hdot, hread, htail]

/-- The ten digits. -/
def figures : List Char :=
  ['0', '1', '2', '3', '4', '5', '6', '7', '8', '9']

theorem mem_figures_of_isDigit {c : Char} (h : c.isDigit = true) : c ∈ figures := by
  simp only [Char.isDigit, Bool.and_eq_true, decide_eq_true_eq, ge_iff_le,
    UInt32.le_iff_toNat_le] at h
  have hlow : 48 ≤ c.toNat := h.1
  have hhigh : c.toNat ≤ 57 := h.2
  have hall : ∀ n < 10, Char.ofNat (48 + n) ∈ figures := by decide
  have hc := hall (c.toNat - 48) (by omega)
  rwa [Nat.add_sub_cancel' hlow, Char.ofNat_toNat] at hc

/-- A digit begins nothing but a number. -/
theorem figure_starts {c : Char} (h : c.isDigit = true) :
    isNameStart c = false ∧ isSpace c = false ∧ isLineEnd c = false ∧
      c ∉ ['"', '\'', '\\', '\x60', '#', '/', '<', '-', '=', '>'] := by
  have hall : ∀ c ∈ figures, isNameStart c = false ∧ isSpace c = false ∧ isLineEnd c = false ∧
      c ∉ ['"', '\'', '\\', '\x60', '#', '/', '<', '-', '=', '>'] :=
    List.all_iff_forall_prop.mp (by decide)
  exact hall c (mem_figures_of_isDigit h)

/-- A numeral without a sign is one word. -/
theorem token_numeral {w : Json.Numeral} (hw : w.WellFormed) {k : Char} (hk : k ∈ brackets)
    (fuel : Nat) (rest : List Char) :
    token fuel (w.unsigned ++ k :: rest) =
      (.number w.magnitude, k :: rest) := by
  have hnumber := number?_numeral hw hk rest
  obtain ⟨d, ds, hds⟩ := List.exists_cons_of_ne_nil hw.nonempty
  have hdigit : d.isDigit = true := hw.whole d (by simp [hds])
  obtain ⟨hname, -, -, hothers⟩ := figure_starts hdigit
  simp only [List.mem_cons, List.not_mem_nil, or_false, not_or] at hothers
  simp only [Json.Numeral.unsigned, hds, List.cons_append, List.append_assoc] at hnumber ⊢
  simp [token, hname, hothers, hdigit, hnumber]

/-- The sign of a negative numeral is a word of its own. -/
theorem token_minus {d : Char} (hd : d.isDigit = true) (fuel : Nat) (rest : List Char) :
    token fuel ('-' :: d :: rest) = (.sign "-", d :: rest) := by
  have hname : isNameStart '-' = false := by decide
  obtain ⟨-, -, -, hothers⟩ := figure_starts hd
  simp only [List.mem_cons, List.not_mem_nil, or_false, not_or] at hothers
  simp [token, sign?, signs, Text.dropStart?, hname, Ne.symm hothers.2.2.2.2.2.2.2.1,
    Ne.symm hothers.2.2.2.2.2.2.2.2.1]

/-! ### Places -/

/-- No gap begins here. -/
def IsSolid (cs : List Char) : Prop :=
  ∀ fuel script opens broken g,
    skipGap? (fuel + 1) script opens broken g cs = some (g, broken, cs)

theorem isSolid_cons {c : Char} (hspace : isSpace c = false) (hline : isLineEnd c = false)
    (hothers : c ∉ ['/', '<', '-']) (rest : List Char) : IsSolid (c :: rest) := by
  intro fuel script opens broken g
  simp only [List.mem_cons, List.not_mem_nil, or_false, not_or] at hothers
  simp [skipGap?, hspace, hline, hothers]

theorem isSolid_digit {d : Char} (hd : d.isDigit = true) (rest : List Char) :
    IsSolid (d :: rest) := by
  obtain ⟨-, hspace, hline, hothers⟩ := figure_starts hd
  exact isSolid_cons hspace hline (fun h => hothers (List.subset_def.mp (by simp) h)) rest

theorem isSolid_minus {d : Char} (hd : d.isDigit = true) (rest : List Char) :
    IsSolid ('-' :: d :: rest) := by
  intro fuel script opens broken g
  obtain ⟨-, -, -, hothers⟩ := figure_starts hd
  simp only [List.mem_cons, List.not_mem_nil, or_false, not_or] at hothers
  have hspace : isSpace '-' = false := by decide
  have hline : isLineEnd '-' = false := by decide
  simp [skipGap?, hspace, hline, hothers]

end Lexer

/-- The place in front of `cs`, where no gap begins. -/
def State.solid (c : Context) (owes : Bool) (cs : List Char) : State where
  token := (Lexer.token c.fuel cs).1
  gap := { newline := false }
  here := cs
  rest := (Lexer.token c.fuel cs).2
  owesPattern := owes

/-- **Where no gap begins, the next word begins at once.** -/
theorem State.start_solid {c : Context} {cs : List Char} (hcs : Lexer.IsSolid cs)
    (hfuel : 0 < c.fuel) (script opens owes : Bool) :
    State.start c.fuel script opens false owes cs = .solid c owes cs := by
  obtain ⟨fuel, hf⟩ := Nat.exists_eq_succ_of_ne_zero (by omega : c.fuel ≠ 0)
  simp [State.start, State.solid, hf, hcs fuel]

end StorySuite.Script
