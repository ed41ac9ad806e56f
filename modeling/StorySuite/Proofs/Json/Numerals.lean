import Mathlib.Data.List.Basic
import Mathlib.Tactic.SplitIfs
import StorySuite.Json.Parser
import StorySuite.Json.Printer

/-!
# Proofs — Json — numerals

The text of a number is a numeral: a sign, digits, a fraction and a power of ten.  A numeral stands
for its digits times a power of ten, which is what a reader of data makes of it.

* `exists_numeral`: every number is written as a well-formed numeral.
* `Numeral.ofText_text`: a numeral is known from its text.
-/

namespace StorySuite.Json

open Decimal

/-- The characters are digits. -/
def AllDigits (cs : List Char) : Prop :=
  ∀ c ∈ cs, c.isDigit = true

/-- A numeral by its parts.  Without a point the fraction is empty; a power of ten has a sign. -/
structure Numeral where
  negative : Bool
  whole : List Char
  fraction : List Char
  power : Option (Bool × List Char)

namespace Numeral

/-- The fraction with its point. -/
def fractionText (w : Numeral) : List Char :=
  if w.fraction = [] then [] else '.' :: w.fraction

/-- The power of ten with its mark and its sign. -/
def powerText (w : Numeral) : List Char :=
  match w.power with
  | none => []
  | some (negative, ds) => 'e' :: (if negative then '-' else '+') :: ds

/-- The numeral without its sign. -/
def unsigned (w : Numeral) : List Char :=
  w.whole ++ (w.fractionText ++ w.powerText)

/-- The numeral as it is written. -/
def text (w : Numeral) : List Char :=
  if w.negative then '-' :: w.unsigned else w.unsigned

/-- The number that the digits write, without the point. -/
def digits (w : Numeral) : Nat :=
  decimalOf (w.whole ++ w.fraction)

/-- The power of ten that is written. -/
def powerValue (w : Numeral) : Int :=
  match w.power with
  | none => 0
  | some (negative, ds) => if negative then -(decimalOf ds : Int) else decimalOf ds

/-- The power of ten by which the digits are multiplied. -/
def exponent (w : Numeral) : Int :=
  w.powerValue - w.fraction.length

/-- The number nearest to the numeral without its sign; none where that is beyond the greatest
number. -/
def magnitude (w : Numeral) : Option Binary64 :=
  Binary64.ofDecimal? false w.digits w.exponent

/-- The numeral is one of data: it begins with a digit, and with a zero only before the point. -/
structure WellFormed (w : Numeral) : Prop where
  nonempty : w.whole ≠ []
  whole : AllDigits w.whole
  leading : w.whole.head? = some '0' → w.whole = ['0']
  fraction : AllDigits w.fraction
  power : ∀ p ∈ w.power, p.2 ≠ [] ∧ AllDigits p.2

/-- A numeral begins with a digit. -/
theorem WellFormed.front {w : Numeral} (hw : w.WellFormed) :
    ∃ d ds, w.unsigned = d :: ds ∧ d.isDigit = true := by
  obtain ⟨d, ds, hds⟩ := List.exists_cons_of_ne_nil hw.nonempty
  exact ⟨d, ds ++ (w.fractionText ++ w.powerText), by simp [unsigned, hds],
    hw.whole d (by simp [hds])⟩

end Numeral

open Numeral

/-! ### Digits -/

theorem allDigits_toDigits (n : Nat) : AllDigits (Nat.toDigits 10 n) :=
  fun _ h => Nat.isDigit_of_mem_toDigits (by omega) (by omega) h

theorem allDigits_zeros (n : Nat) : AllDigits (List.replicate n '0') := by
  intro c hc
  rw [List.eq_of_mem_replicate hc]
  rfl

theorem AllDigits.append {cs ds : List Char} (hcs : AllDigits cs) (hds : AllDigits ds) :
    AllDigits (cs ++ ds) := fun c hc =>
  (List.mem_append.mp hc).elim (hcs c) (hds c)

theorem AllDigits.mono {cs ds : List Char} (h : AllDigits ds) (hsub : cs ⊆ ds) : AllDigits cs :=
  fun c hc => h c (hsub hc)

/-- A number other than zero is not written with a zero in front. -/
theorem head?_toDigits_ne_zero {n : Nat} (h : 0 < n) : (Nat.toDigits 10 n).head? ≠ some '0' := by
  induction n using Nat.strongRecOn with
  | ind n ih =>
      by_cases hlt : n < 10
      · rw [Nat.toDigits_of_lt_base hlt]
        simp only [List.head?_cons, ne_eq, Option.some.injEq, Nat.digitChar_eq_zero]
        omega
      · rw [Nat.toDigits_of_base_le (by omega) (by omega),
          List.head?_append_of_ne_nil _ Nat.toDigits_ne_nil]
        exact ih (n / 10) (by omega) (by omega)

/-- Stripping zeros off the end leaves the front. -/
theorem head?_strip {cs : List Char} (hhead : cs.head? ≠ some '0') (hne : cs ≠ []) :
    ((cs.reverse.dropWhile (· == '0')).reverse).head? = cs.head? := by
  cases cs with
  | nil => exact absurd rfl hne
  | cons c cs =>
      have hc : c ≠ '0' := by simpa using hhead
      obtain ⟨ds, hds⟩ : ∃ ds, (cs.reverse ++ [c]).dropWhile (· == '0') = ds ++ [c] := by
        rw [List.dropWhile_append]
        split
        · exact ⟨[], by simp [hc]⟩
        · exact ⟨_, rfl⟩
      simp [hds]

/-! ### Numbers are written as numerals -/

/-- Digits that are laid out are a numeral. -/
theorem exists_numeral_place {ds : List Char} (hdigits : AllDigits ds) (hne : ds ≠ [])
    (hhead : ds.head? ≠ some '0') (e : Int) :
    ∃ w : Numeral, w.WellFormed ∧ w.negative = false ∧ w.unsigned = Layout.data.place ds e := by
  unfold Layout.place
  split
  case isTrue =>
    split
    case isTrue =>
      -- all digits stand behind the point, with zeros in front of them
      refine ⟨⟨false, ['0'], List.replicate (-e - 1).toNat '0' ++ ds, none⟩,
        ⟨by simp, ?_, ?_, ?_, by simp⟩, rfl, ?_⟩
      · simp [AllDigits]
      · simp
      · exact (allDigits_zeros _).append hdigits
      · simp [unsigned, fractionText, powerText, hne]
    case isFalse =>
      dsimp only
      split
      case isTrue hlength =>
        -- all digits stand in front of the point, with zeros behind them
        refine ⟨⟨false, ds ++ List.replicate (e.toNat + 1 - ds.length) '0', ['0'], none⟩,
          ⟨by simp [hne], hdigits.append (allDigits_zeros _), ?_, ?_, by simp⟩, rfl, ?_⟩
        · rw [List.head?_append_of_ne_nil _ hne]
          exact fun h => absurd h hhead
        · simp [AllDigits]
        · simp [unsigned, fractionText, powerText, Layout.data]
      case isFalse hlength =>
        -- the point stands among the digits
        have hdrop : ds.drop (e.toNat + 1) ≠ [] := by
          rw [ne_eq, List.drop_eq_nil_iff]
          exact hlength
        refine ⟨⟨false, ds.take (e.toNat + 1), ds.drop (e.toNat + 1), none⟩,
          ⟨by simp [hne], hdigits.mono (List.take_subset _ _), ?_,
            hdigits.mono (List.drop_subset _ _), by simp⟩, rfl, ?_⟩
        · rw [List.head?_take]
          simp [hhead]
        · simp [unsigned, fractionText, powerText, hdrop]
  case isFalse =>
    -- the power of ten is written, and the point stands behind the first digit
    obtain ⟨d, more, rfl⟩ := List.exists_cons_of_ne_nil hne
    refine ⟨⟨false, [d], more, some (decide (e < 0), Nat.toDigits 10 e.natAbs)⟩,
      ⟨by simp, hdigits.mono (by simp), ?_, hdigits.mono (by simp), ?_⟩, rfl, ?_⟩
    · exact fun h => absurd h hhead
    · rintro p hp
      cases hp
      exact ⟨Nat.toDigits_ne_nil, allDigits_toDigits _⟩
    · cases more <;> by_cases he : e < 0 <;>
        simp [unsigned, fractionText, powerText, Layout.data, he]

/-- A multiple that is found on a grid is not zero, for zero is below all numbers that are read as
the value. -/
theorem onGrid?_ne_zero {i : Binary64.Interval} {p : Int} {n : Nat} (hlow : 0 < i.low)
    (hunit : 0 < i.unitNum) (h : i.onGrid? p = some n) : n ≠ 0 := by
  rintro rfl
  have hpos : 0 < i.low * (if 0 ≤ p then i.unitNum else i.unitNum * Nat.pow 10 (-p).toNat) := by
    have hpow : 0 < Nat.pow 10 (-p).toNat := Nat.pow_pos (by omega)
    split
    · exact Nat.mul_pos hlow hunit
    · exact Nat.mul_pos hlow (Nat.mul_pos hunit hpow)
  -- the one below would be zero, which is too low; the one above is not zero
  simp only [Binary64.Interval.onGrid?] at h
  generalize (if 0 ≤ p then i.unitNum else i.unitNum * Nat.pow 10 (-p).toNat) = unit at h hpos
  generalize (if 0 ≤ p then i.unitDen * Nat.pow 10 p.toNat else i.unitDen) = scale at h
  have hbelow : ¬ (if i.closed = true then
        decide (i.low * unit ≤ 0 * scale) && decide (0 * scale ≤ i.high * unit)
      else decide (i.low * unit < 0 * scale) && decide (0 * scale < i.high * unit)) = true := by
    split <;> simp only [Bool.and_eq_true, decide_eq_true_eq, Nat.zero_mul] <;> omega
  grind

theorem search_digits {i : Binary64.Interval} (hlow : 0 < i.low) (hunit : 0 < i.unitNum)
    (leading : Int) : ∀ fuel n : Nat,
      i.search leading fuel n = ⟨0, 0⟩ ∨ (i.search leading fuel n).digits ≠ 0
  | 0, _ => .inl rfl
  | fuel + 1, n => by
      unfold Binary64.Interval.search
      dsimp only
      split
      next c hc => exact .inr (onGrid?_ne_zero hlow hunit hc)
      next => exact search_digits hlow hunit leading fuel (n + 1)

theorem shortest_digits {x : Binary64} (hx : x.isZero = false) :
    x.shortest = ⟨0, 0⟩ ∨ x.shortest.digits ≠ 0 := by
  have hm : x.significand ≠ 0 := by simpa [Binary64.isZero] using hx
  refine search_digits ?_ ?_ _ 18 1
  · simp only [Binary64.interval]
    split <;> omega
  · simp only [Binary64.interval]
    split
    · exact Nat.pos_of_ne_zero (by simp)
    · omega

theorem wellFormed_toDigits (negative : Bool) (m : Nat) :
    (Numeral.mk negative (Nat.toDigits 10 m) [] none).WellFormed where
  nonempty := Nat.toDigits_ne_nil
  whole := allDigits_toDigits m
  leading hzero := by
    cases m with
    | zero => rfl
    | succ m => exact absurd hzero (head?_toDigits_ne_zero (by omega))
  fraction := by simp [AllDigits]
  power := by simp

/-- What a numeral without a sign writes is written as one with the sign in front, too. -/
theorem exists_numeral_signed {cs : List Char} (negative : Bool)
    (h : ∃ w : Numeral, w.WellFormed ∧ w.negative = false ∧ w.unsigned = cs) :
    ∃ w : Numeral, w.WellFormed ∧ (if negative then ['-'] else []) ++ cs = w.text := by
  obtain ⟨w, hw, -, rfl⟩ := h
  refine ⟨{ w with negative },
    ⟨hw.nonempty, hw.whole, hw.leading, hw.fraction, hw.power⟩, ?_⟩
  cases negative <;> simp [Numeral.text, unsigned, fractionText, powerText]

/-- The digits of a number other than zero, without the zeros at their end, are a numeral. -/
theorem exists_numeral_stripped {m : Nat} (hm : m ≠ 0) (e : Int) :
    ∃ w : Numeral, w.WellFormed ∧ w.negative = false ∧ w.unsigned =
      Layout.data.place ((Nat.toDigits 10 m).reverse.dropWhile (· == '0')).reverse e := by
  have hhead := head?_toDigits_ne_zero (Nat.pos_of_ne_zero hm)
  have hstrip := head?_strip hhead Nat.toDigits_ne_nil
  refine exists_numeral_place ?_ ?_ ?_ e
  · refine (allDigits_toDigits m).mono fun c hc => ?_
    exact List.mem_reverse.mp (List.dropWhile_subset _ (List.mem_reverse.mp hc))
  · intro hnil
    rw [hnil] at hstrip
    exact Nat.toDigits_ne_nil (List.head?_eq_none_iff.mp hstrip.symm)
  · rw [hstrip]
    exact hhead

/-- **Every number is written as a well-formed numeral.** -/
theorem exists_numeral (n : Number) : ∃ w : Numeral, w.WellFormed ∧ n.text.toList = w.text := by
  cases n with
  | whole n =>
      cases n with
      | ofNat m =>
          refine ⟨_, wellFormed_toDigits false m, ?_⟩
          change (Nat.repr m).toList = _
          simp [Numeral.text, unsigned, fractionText, powerText]
      | negSucc m =>
          refine ⟨_, wellFormed_toDigits true (m + 1), ?_⟩
          change ("-" ++ Nat.repr (m + 1)).toList = _
          simp [Numeral.text, unsigned, fractionText, powerText]
  | real x =>
      have hzero : ∃ w : Numeral, w.WellFormed ∧ w.negative = false ∧
          w.unsigned = Layout.data.place ['0'] 0 :=
        ⟨⟨false, ['0'], ['0'], none⟩, ⟨by simp, by simp [AllDigits], by simp, by simp [AllDigits],
          by simp⟩, rfl, rfl⟩
      simp only [Number.text, Layout.write]
      split
      · rw [String.toList_ofList]
        exact exists_numeral_signed _ hzero
      · rename_i hx
        rw [String.toList_ofList]
        refine exists_numeral_signed _ ?_
        -- a search that finds nothing gives zero, which is written like the number zero
        rcases shortest_digits (by simpa using hx) with hnone | hdigits
        · rw [hnone]
          exact hzero
        · exact exists_numeral_stripped hdigits _

/-! ### The parts of a numeral -/

/-- The digits after a point, if there is one, and what follows them. -/
def fractionRun : List Char → List Char × List Char
  | '.' :: rest => digitRun rest
  | rest => ([], rest)

/-- The sign and the digits of a power of ten that is all there is. -/
def wholePower? : List Char → Option (Bool × List Char)
  | 'e' :: '-' :: ds => some (true, ds)
  | 'e' :: '+' :: ds => some (false, ds)
  | _ => none

/-- The parts of a numeral, after its sign. -/
def Numeral.ofUnsigned (negative : Bool) (cs : List Char) : Numeral :=
  let (whole, cs) := digitRun cs
  let (fraction, cs) := fractionRun cs
  { negative, whole, fraction, power := wholePower? cs }

/-- The parts of the numeral that is written so. -/
def Numeral.ofText : List Char → Numeral
  | '-' :: rest => ofUnsigned true rest
  | rest => ofUnsigned false rest

/-- Digits are a run up to what is no digit. -/
theorem digitRun_append {ds rest : List Char} (hds : AllDigits ds)
    (hrest : ∀ c ∈ rest.head?, c.isDigit = false) : digitRun (ds ++ rest) = (ds, rest) := by
  have hfront : rest.takeWhile Char.isDigit = [] ∧ rest.dropWhile Char.isDigit = rest := by
    cases rest with
    | nil => exact ⟨rfl, rfl⟩
    | cons c rest => simp [hrest c rfl]
  rw [digitRun, List.takeWhile_append_of_pos hds, List.dropWhile_append_of_pos hds, hfront.1,
    hfront.2, List.append_nil]

/-- The power of ten at the end of a numeral is known from its text. -/
theorem Numeral.wholePower?_powerText (w : Numeral) : wholePower? w.powerText = w.power := by
  obtain ⟨negative, whole, fraction, power⟩ := w
  match power with
  | none => rfl
  | some (true, ds) => rfl
  | some (false, ds) => rfl

/-- What follows the digits of a numeral is no digit. -/
theorem Numeral.powerText_head (w : Numeral) :
    ∀ c ∈ w.powerText.head?, c.isDigit = false ∧ c ≠ '.' := by
  unfold powerText
  cases w.power with
  | none => simp
  | some p =>
      rintro c ⟨⟩
      decide

/-- The fraction of a numeral is known from its text. -/
theorem Numeral.fractionRun_fractionText {w : Numeral} (hw : w.WellFormed) :
    fractionRun (w.fractionText ++ w.powerText) = (w.fraction, w.powerText) := by
  have hpower := w.powerText_head
  unfold fractionText
  split_ifs with hnone
  · rw [List.nil_append, hnone]
    unfold fractionRun
    split
    next rest hrest => exact absurd rfl (hpower '.' (by simp [hrest])).2
    next => rfl
  · exact digitRun_append hw.fraction fun c hc => (hpower c hc).1

/-- The digits of a numeral in front of its point are known from its text. -/
theorem Numeral.digitRun_unsigned {w : Numeral} (hw : w.WellFormed) :
    digitRun w.unsigned = (w.whole, w.fractionText ++ w.powerText) := by
  refine digitRun_append hw.whole ?_
  unfold fractionText
  split_ifs
  · exact fun c hc => (w.powerText_head c hc).1
  · rintro c ⟨⟩
    decide

/-- **A numeral is known from its text.** -/
theorem Numeral.ofText_text {w : Numeral} (hw : w.WellFormed) : ofText w.text = w := by
  have hparts (negative : Bool) : ofUnsigned negative w.unsigned = { w with negative } := by
    simp only [ofUnsigned, digitRun_unsigned hw, fractionRun_fractionText hw,
      wholePower?_powerText]
  unfold text
  split_ifs with hneg
  · rw [ofText, hparts, ← hneg]
  · obtain ⟨d, ds, hds, hdigit⟩ := hw.front
    have hminus : d ≠ '-' := by
      rintro rfl
      cases hdigit
    have hunsigned : ofText w.unsigned = ofUnsigned false w.unsigned := by
      rw [hds]
      unfold ofText
      split
      next heq => exact absurd (List.cons.inj heq).1 hminus
      next => rfl
    rw [hunsigned, hparts, ← Bool.eq_false_iff.mpr hneg]

/-- The numeral that a number is written as. -/
def Number.numeral (n : Number) : Numeral :=
  .ofText n.text.toList

theorem Number.numeral_spec (n : Number) :
    n.numeral.WellFormed ∧ n.text.toList = n.numeral.text := by
  obtain ⟨w, hw, htext⟩ := exists_numeral n
  rw [numeral, htext, Numeral.ofText_text hw]
  exact ⟨hw, rfl⟩

end StorySuite.Json
