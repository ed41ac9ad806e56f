import Mathlib.Data.List.Basic
import StorySuite.Json.Skip

/-!
# Proofs — Json — a carriage return behind a text

A text that is cut off in front of the newline that ends its line may have lost a carriage return
with it.  To data this makes no difference: what is read of a text with a carriage return at its end
is read of the text without, and the carriage return is part of what is left.

Every reader is bounded by the length of what it reads, and the shorter text has the smaller bound.
So the lemmas about recursive readers also say that a bound above the length of the text is always
enough.

* `number?_return`, `stringTail?_return`, **`alike`**, **`parse?_return`**: what is read.
* `skipNumber?_return`, `skipString?_return`, **`skippedAlike`**: what is passed over.
-/

namespace StorySuite.Json

open StorySuite.Text

variable {α : Type}

/-- What is read in front of a carriage return at the end. -/
def behind (r : α × List Char) : α × List Char :=
  (r.1, r.2 ++ ['\r'])

/-! ### Blanks -/

/-- Something that is no blank stands in front of the carriage return. -/
theorem skipBlanks_return : ∀ {cs : List Char} {c : Char} {l : List Char},
    skipBlanks (cs ++ ['\r']) = c :: l →
    ∃ t, skipBlanks cs = c :: t ∧ l = t ++ ['\r'] ∧ t.length < cs.length
  | [], _, _, h => by simp [skipBlanks] at h
  | d :: cs, c, l, h => by
      unfold skipBlanks at h ⊢
      rw [List.cons_append, List.dropWhile_cons] at h
      rw [List.dropWhile_cons]
      split at h
      · rename_i hd
        rw [if_pos hd]
        obtain ⟨t, ht, hl, hlength⟩ := skipBlanks_return h
        exact ⟨t, ht, hl, Nat.lt_succ_of_lt hlength⟩
      · rename_i hd
        rw [if_neg hd]
        cases h
        exact ⟨cs, rfl, rfl, Nat.lt_succ_self _⟩

/-- Nothing but blanks is left, with the carriage return or without. -/
theorem isEmpty_skipBlanks_return (cs : List Char) :
    (skipBlanks (cs ++ ['\r'])).isEmpty = (skipBlanks cs).isEmpty := by
  induction cs with
  | nil => rfl
  | cons c cs ih =>
      unfold skipBlanks at ih ⊢
      rw [List.cons_append, List.dropWhile_cons, List.dropWhile_cons]
      split
      · exact ih
      · rfl

/-! ### Numbers -/

theorem digitRun_return (cs : List Char) : digitRun (cs ++ ['\r']) = behind (digitRun cs) := by
  induction cs with
  | nil => rfl
  | cons c cs ih =>
      simp only [digitRun, behind, Prod.mk.injEq] at ih ⊢
      rw [List.cons_append, List.takeWhile_cons, List.dropWhile_cons, List.takeWhile_cons,
        List.dropWhile_cons]
      split
      · exact ⟨congrArg _ ih.1, ih.2⟩
      · exact ⟨rfl, rfl⟩

theorem length_digitRun_lt {cs : List Char} (h : (digitRun cs).1 ≠ []) :
    (digitRun cs).2.length < cs.length := by
  have hlength : ((digitRun cs).1 ++ (digitRun cs).2).length = cs.length :=
    congrArg List.length List.takeWhile_append_dropWhile
  rw [List.length_append] at hlength
  have hpos := List.length_pos_iff.mpr h
  omega

theorem fraction?_return (cs : List Char) :
    fraction? (cs ++ ['\r']) = (fraction? cs).map behind := by
  cases cs with
  | nil => rfl
  | cons c cs =>
      by_cases hc : c = '.'
      · subst hc
        simp only [List.cons_append, fraction?, digitRun_return, behind]
        split <;> rfl
      · simp [fraction?, hc, behind]

theorem powerOfTen?_return (cs : List Char) :
    powerOfTen? (cs ++ ['\r']) = (powerOfTen? cs).map behind := by
  cases cs with
  | nil => rfl
  | cons c cs =>
      by_cases hc : (c == 'e' || c == 'E') = true
      · rcases cs with _ | ⟨d, cs⟩
        · simp [powerOfTen?, hc, digitRun]
        by_cases hminus : d = '-'
        · subst hminus
          simp only [List.cons_append, powerOfTen?, hc, if_true, digitRun_return, behind]
          split <;> rfl
        by_cases hplus : d = '+'
        · subst hplus
          simp only [List.cons_append, powerOfTen?, hc, if_true, digitRun_return, behind]
          split <;> rfl
        · have hdigits := digitRun_return (d :: cs)
          rw [List.cons_append] at hdigits
          simp [powerOfTen?, hc, hminus, hplus, hdigits, behind]
          split <;> rfl
      · simp only [List.cons_append, powerOfTen?, hc]
        rfl

theorem magnitude?_return (negative : Bool) (cs : List Char) :
    magnitude? negative (cs ++ ['\r']) = (magnitude? negative cs).map behind := by
  simp only [magnitude?, digitRun_return, behind]
  split
  · rfl
  rw [fraction?_return]
  rcases fraction? (digitRun cs).2 with _ | ⟨frac, rest⟩
  · rfl
  simp only [Option.map_some, Option.bind_eq_bind, Option.bind_some, behind, powerOfTen?_return]
  rcases powerOfTen? rest with _ | ⟨power, rest⟩
  · rfl
  simp only [Option.map_some, Option.bind_some, behind]
  split <;> simp [Option.map_bind, Function.comp_def, behind]

/-- A number is read alike. -/
theorem number?_return (cs : List Char) : number? (cs ++ ['\r']) = (number? cs).map behind := by
  rcases cs with _ | ⟨c, cs⟩
  · rfl
  by_cases hminus : c = '-'
  · subst hminus
    exact magnitude?_return true cs
  · have hmagnitude := magnitude?_return false (c :: cs)
    rw [List.cons_append] at hmagnitude ⊢
    simpa [number?, hminus] using hmagnitude

theorem length_fraction?_le {cs rest : List Char} {frac : Option (List Char)}
    (h : fraction? cs = some (frac, rest)) : rest.length ≤ cs.length := by
  unfold fraction? at h
  split at h
  · dsimp only at h
    split at h
    · cases h
    · cases h
      exact Nat.le_succ_of_le (List.dropWhile_suffix _).length_le
  · cases h
    exact Nat.le_refl _

theorem length_powerOfTen?_le {cs rest : List Char} {power : Option Int}
    (h : powerOfTen? cs = some (power, rest)) : rest.length ≤ cs.length := by
  have hdigits (ds : List Char) : (digitRun ds).2.length ≤ ds.length :=
    (List.dropWhile_suffix _).length_le
  rcases cs with _ | ⟨c, cs⟩
  · cases h
    exact Nat.le_refl _
  simp only [powerOfTen?] at h
  split at h
  · -- the sign, where there is one, is passed over too
    obtain ⟨digits, hle, negative, h⟩ : ∃ digits : List Char, digits.length ≤ cs.length ∧
        ∃ negative : Bool, (if (digitRun digits).1.isEmpty = true then none
          else some (some (if negative = true then -(decimalOf (digitRun digits).1 : Int)
            else decimalOf (digitRun digits).1), (digitRun digits).2)) = some (power, rest) := by
      split at h
      · exact ⟨_, Nat.le_succ _, true, h⟩
      · exact ⟨_, Nat.le_succ _, false, h⟩
      · exact ⟨_, Nat.le_refl _, false, h⟩
    split at h
    · cases h
    · cases h
      exact Nat.le_succ_of_le (Nat.le_trans (hdigits digits) hle)
  · cases h
    exact Nat.le_refl _

/-- A number has a digit. -/
theorem length_magnitude?_lt {negative : Bool} {cs rest : List Char} {n : Number}
    (h : magnitude? negative cs = some (n, rest)) : rest.length < cs.length := by
  simp only [magnitude?] at h
  split at h
  · cases h
  rename_i hdigits
  obtain ⟨⟨frac, behindFrac⟩, hfrac, h⟩ := Option.bind_eq_some_iff.mp h
  obtain ⟨⟨power, behindPower⟩, hpower, h⟩ := Option.bind_eq_some_iff.mp h
  have hrest : behindPower = rest := by
    dsimp only at h
    split at h <;> (obtain ⟨_, _, h⟩ := Option.bind_eq_some_iff.mp h; cases h; rfl)
  subst hrest
  have hdigit : (digitRun cs).1 ≠ [] := fun hempty => by simp [hempty] at hdigits
  have hlt := length_digitRun_lt hdigit
  have hle : behindFrac.length ≤ (digitRun cs).2.length := length_fraction?_le hfrac
  have hle' : behindPower.length ≤ behindFrac.length := length_powerOfTen?_le hpower
  omega

theorem length_number?_lt {cs rest : List Char} {n : Number} (h : number? cs = some (n, rest)) :
    rest.length < cs.length := by
  unfold number? at h
  split at h
  · exact Nat.lt_succ_of_lt (length_magnitude?_lt h)
  · exact length_magnitude?_lt h

/-! ### Strings -/

theorem hexUnit?_return (cs : List Char) : hexUnit? (cs ++ ['\r']) = (hexUnit? cs).map behind := by
  rcases cs with _ | ⟨a, _ | ⟨b, _ | ⟨c, _ | ⟨d, rest⟩⟩⟩⟩
  · rfl
  · rfl
  · rfl
  · -- a carriage return is no digit
    have hreturn : digitValue? 16 '\r' = none := by decide
    simp [hexUnit?, ofDigits?, hreturn]
  · simp only [List.cons_append, hexUnit?, Option.bind_eq_bind]
    rcases ofDigits? 16 [a, b, c, d] <;> rfl

theorem length_hexUnit?_lt {cs rest : List Char} {n : Nat} (h : hexUnit? cs = some (n, rest)) :
    rest.length < cs.length := by
  rcases cs with _ | ⟨a, _ | ⟨b, _ | ⟨c, _ | ⟨d, tail⟩⟩⟩⟩
  iterate 4 cases h
  obtain ⟨n, -, h⟩ := Option.bind_eq_some_iff.mp h
  cases h
  simp only [List.length_cons]
  omega

/-- The second half of a pair is read alike: no escape begins with the carriage return. -/
theorem lowHalf_return (high : Nat) (cs : List Char) :
    (match cs ++ ['\r'] with
      | '\\' :: 'u' :: rest => (hexUnit? rest).bind fun (low, rest) =>
        if 0xdc00 ≤ low && low ≤ 0xdfff then
          some (Char.ofNat (0x10000 + (high - 0xd800) * 0x400 + (low - 0xdc00)), rest)
        else none
      | _ => none) =
    (match cs with
      | '\\' :: 'u' :: rest => (hexUnit? rest).bind fun (low, rest) =>
        if 0xdc00 ≤ low && low ≤ 0xdfff then
          some (Char.ofNat (0x10000 + (high - 0xd800) * 0x400 + (low - 0xdc00)), rest)
        else none
      | _ => none).map behind := by
  rcases cs with _ | ⟨a, _ | ⟨b, rest⟩⟩
  · rfl
  · by_cases ha : a = '\\' <;> simp [ha]
  by_cases ha : a = '\\'
  · by_cases hb : b = 'u'
    · subst ha hb
      simp only [List.cons_append, hexUnit?_return]
      rcases hexUnit? rest with _ | ⟨low, rest⟩
      · rfl
      · simp only [Option.map_some, Option.bind_some, behind]
        split <;> simp only [Option.map_some, Option.map_none, behind]
    · simp [hb]
  · simp [ha]

/-- An escape is read alike. -/
theorem escaped?_return (cs : List Char) : escaped? (cs ++ ['\r']) = (escaped? cs).map behind := by
  rcases cs with _ | ⟨c, cs⟩
  · rfl
  by_cases hunit : c = 'u'
  · subst hunit
    simp only [List.cons_append, escaped?, hexUnit?_return]
    rcases hexUnit? cs with _ | ⟨high, rest⟩
    · rfl
    simp only [Option.map_some, Option.bind_eq_bind, Option.bind_some, behind]
    split
    · rfl
    split
    · exact lowHalf_return high rest
    · rfl
  by_cases hplain : c ∈ ['"', '\\', '/', 'b', 'f', 'n', 'r', 't']
  · simp only [List.mem_cons, List.not_mem_nil, or_false] at hplain
    rcases hplain with rfl | rfl | rfl | rfl | rfl | rfl | rfl | rfl <;> rfl
  · simp only [List.mem_cons, List.not_mem_nil, or_false, not_or] at hplain
    simp [escaped?, hplain, hunit]

theorem length_escaped?_lt {cs rest : List Char} {c : Char} (h : escaped? cs = some (c, rest)) :
    rest.length < cs.length := by
  unfold escaped? at h
  split at h
  case h_9 tail =>
    -- one unit, or the two halves of a pair
    obtain ⟨⟨high, behindHigh⟩, hhigh, h⟩ := Option.bind_eq_some_iff.mp h
    have hhighLength := length_hexUnit?_lt hhigh
    dsimp only at h
    split at h
    · cases h
    split at h
    · split at h
      · obtain ⟨⟨low, behindLow⟩, hlow, h⟩ := Option.bind_eq_some_iff.mp h
        have hlowLength := length_hexUnit?_lt hlow
        dsimp only at h
        split at h
        · simp only [Option.pure_def, Option.some.injEq, Prod.mk.injEq] at h
          obtain ⟨-, rfl⟩ := h
          simp only [List.length_cons] at hhighLength ⊢
          omega
        · cases h
      · cases h
    · cases h
      exact Nat.lt_succ_of_lt hhighLength
  all_goals
    cases h
    try exact Nat.lt_succ_self _

/-- A string is read alike, however many steps beyond its length are allowed. -/
theorem stringTail?_return {fuel fuel' : Nat} {acc cs l : List Char} {s : String}
    (h : stringTail? fuel acc (cs ++ ['\r']) = some (s, l)) (hfuel : cs.length < fuel') :
    ∃ t, l = t ++ ['\r'] ∧ t.length < cs.length ∧ stringTail? fuel' acc cs = some (s, t) := by
  induction fuel generalizing fuel' acc cs with
  | zero => cases h
  | succ fuel ih =>
      obtain ⟨fuel', rfl⟩ : ∃ k, fuel' = k + 1 := ⟨fuel' - 1, by omega⟩
      rcases cs with _ | ⟨c, cs⟩
      · -- a carriage return cannot stand in a string
        simp [stringTail?] at h
      rw [List.cons_append] at h
      rw [List.length_cons] at hfuel
      by_cases hquote : c = '"'
      · subst hquote
        cases h
        exact ⟨cs, rfl, Nat.lt_succ_self _, rfl⟩
      by_cases hslash : c = '\\'
      · subst hslash
        simp only [stringTail?, escaped?_return, Option.bind_eq_bind] at h ⊢
        rcases hc : escaped? cs with _ | ⟨d, rest⟩
        · simp [hc] at h
        have hlength := length_escaped?_lt hc
        simp only [hc, Option.map_some, Option.bind_some, behind] at h ⊢
        obtain ⟨t, rfl, ht, hread⟩ := ih h (by omega : rest.length < fuel')
        exact ⟨t, rfl, by rw [List.length_cons]; omega, hread⟩
      · simp only [stringTail?] at h ⊢
        split at h
        · cases h
        · rename_i hprint
          obtain ⟨t, rfl, ht, hread⟩ := ih h (by omega : cs.length < fuel')
          rw [if_neg hprint]
          exact ⟨t, rfl, by rw [List.length_cons]; omega, hread⟩

/-! ### Values -/

theorem afterWord?_return {word : String} (hword : '\r' ∉ word.toList) {cs l : List Char}
    (h : afterWord? word (cs ++ ['\r']) = some l) :
    ∃ t, l = t ++ ['\r'] ∧ t.length ≤ cs.length ∧ afterWord? word cs = some t := by
  unfold afterWord? at h ⊢
  split at h
  · rename_i hfront
    have hprefix : word.toList <+: cs := by
      rw [List.isPrefixOf_iff_prefix] at hfront
      rcases List.prefix_concat_iff.mp hfront with heq | hprefix
      · exact absurd (heq ▸ by simp) hword
      · exact hprefix
    have hlength : word.length ≤ cs.length :=
      String.length_toList.symm ▸ hprefix.length_le
    cases h
    refine ⟨cs.drop word.length, List.drop_append_of_le_length hlength, ?_, ?_⟩
    · simp
    · rw [if_pos (List.isPrefixOf_iff_prefix.mpr hprefix)]
  · cases h

/-- A value that is a word is read alike. -/
theorem wordValue_return {word : String} (hword : '\r' ∉ word.toList) {cs l : List Char}
    {v w : Value} (h : (afterWord? word (cs ++ ['\r'])).map (w, ·) = some (v, l)) :
    ∃ t, l = t ++ ['\r'] ∧ t.length ≤ cs.length ∧
      (afterWord? word cs).map (w, ·) = some (v, t) := by
  obtain ⟨rest, hrest, h⟩ := Option.map_eq_some_iff.mp h
  obtain ⟨t, rfl, ht, hread⟩ := afterWord?_return hword hrest
  cases h
  exact ⟨t, rfl, ht, by rw [hread]; rfl⟩

/-- Within `fuel` steps a value is read alike, however many steps beyond its length are allowed. -/
def ValuesAlike (fuel : Nat) : Prop :=
  ∀ ⦃fuel' depth : Nat⦄ ⦃cs l : List Char⦄ ⦃v : Value⦄,
    value? fuel depth (cs ++ ['\r']) = some (v, l) → 2 * cs.length ≤ fuel' →
    ∃ t, l = t ++ ['\r'] ∧ t.length < cs.length ∧ value? fuel' depth cs = some (v, t)

/-- Within `fuel` steps the items of an array are read alike. -/
def ItemsAlike (fuel : Nat) : Prop :=
  ∀ ⦃fuel' depth : Nat⦄ ⦃acc : List Value⦄ ⦃cs l : List Char⦄ ⦃items : List Value⦄,
    items? fuel depth acc (cs ++ ['\r']) = some (items, l) → 2 * cs.length + 1 ≤ fuel' →
    ∃ t, l = t ++ ['\r'] ∧ t.length < cs.length ∧ items? fuel' depth acc cs = some (items, t)

/-- Within `fuel` steps the fields of an object are read alike. -/
def FieldsAlike (fuel : Nat) : Prop :=
  ∀ ⦃fuel' depth : Nat⦄ ⦃acc : List (String × Value)⦄ ⦃cs l : List Char⦄
      ⦃fields : List (String × Value)⦄,
    fields? fuel depth acc (cs ++ ['\r']) = some (fields, l) → 2 * cs.length + 1 ≤ fuel' →
    ∃ t, l = t ++ ['\r'] ∧ t.length < cs.length ∧ fields? fuel' depth acc cs = some (fields, t)

theorem skipBlanks_nil : skipBlanks [] = [] := rfl

/-- Something is read of a text only where it has more than blanks. -/
theorem value?_blank {cs : List Char} (h : skipBlanks cs = []) (fuel depth : Nat) :
    value? fuel depth cs = none := by
  cases fuel with
  | zero => rfl
  | succ fuel => simp [value?, h, number?, magnitude?, digitRun]

theorem items?_blank {cs : List Char} (h : skipBlanks cs = []) (fuel depth : Nat)
    (acc : List Value) : items? fuel depth acc cs = none := by
  cases fuel with
  | zero => rfl
  | succ fuel => simp [items?, value?_blank h]

theorem fields?_blank {cs : List Char} (h : skipBlanks cs = []) (fuel depth : Nat)
    (acc : List (String × Value)) : fields? fuel depth acc cs = none := by
  cases fuel with
  | zero => rfl
  | succ fuel => simp [fields?, h]

theorem ValuesAlike.succ {fuel : Nat} (hitems : ItemsAlike fuel) (hfields : FieldsAlike fuel) :
    ValuesAlike (fuel + 1) := by
  intro fuel' depth cs l v h hfuel
  rcases hblank : skipBlanks (cs ++ ['\r']) with _ | ⟨c, l₀⟩
  · simp [value?_blank hblank] at h
  -- the return is a blank, so a value begins in front of it and is told by the same character
  obtain ⟨t₀, hcs, rfl, hlength⟩ := skipBlanks_return hblank
  obtain ⟨fuel', rfl⟩ : ∃ k, fuel' = k + 1 := ⟨fuel' - 1, by omega⟩
  simp only [value?, hblank, hcs] at h ⊢
  by_cases hstring : c = '"'
  · subst hstring
    obtain ⟨⟨s, rest⟩, hs, h⟩ := Option.bind_eq_some_iff.mp h
    obtain ⟨t, rfl, ht, hread⟩ := stringTail?_return hs (Nat.lt_succ_self t₀.length)
    cases h
    exact ⟨t, rfl, by omega, by simp [hread]⟩
  by_cases harray : c = '['
  · subst harray
    rcases depth with _ | depth
    · cases h
    rcases hinner : skipBlanks (t₀ ++ ['\r']) with _ | ⟨d, l₁⟩
    · simp [hinner, items?_blank skipBlanks_nil] at h
    obtain ⟨t₁, ht₀, rfl, hlength₁⟩ := skipBlanks_return hinner
    simp only [hinner, ht₀] at h ⊢
    by_cases hclose : d = ']'
    · subst hclose
      cases h
      exact ⟨t₁, rfl, by omega, rfl⟩
    · simp only [List.cons.injEq, hclose, false_and, imp_self, implies_true, Option.pure_def,
        Option.bind_eq_bind] at h ⊢
      obtain ⟨⟨items, rest⟩, hi, h⟩ := Option.bind_eq_some_iff.mp h
      obtain ⟨t, rfl, ht, hread⟩ := hitems (List.cons_append ▸ hi)
        (by rw [List.length_cons]; omega : 2 * (d :: t₁).length + 1 ≤ fuel')
      rw [List.length_cons] at ht
      cases h
      exact ⟨t, rfl, by omega, by simp [hread]⟩
  by_cases hobject : c = '\x7b'
  · subst hobject
    rcases depth with _ | depth
    · cases h
    rcases hinner : skipBlanks (t₀ ++ ['\r']) with _ | ⟨d, l₁⟩
    · simp [hinner, fields?_blank skipBlanks_nil] at h
    obtain ⟨t₁, ht₀, rfl, hlength₁⟩ := skipBlanks_return hinner
    simp only [hinner, ht₀] at h ⊢
    by_cases hclose : d = '\x7d'
    · subst hclose
      cases h
      exact ⟨t₁, rfl, by omega, rfl⟩
    · simp only [List.cons.injEq, hclose, false_and, imp_self, implies_true, Option.pure_def,
        Option.bind_eq_bind] at h ⊢
      obtain ⟨⟨fields, rest⟩, hf, h⟩ := Option.bind_eq_some_iff.mp h
      obtain ⟨t, rfl, ht, hread⟩ := hfields (List.cons_append ▸ hf)
        (by rw [List.length_cons]; omega : 2 * (d :: t₁).length + 1 ≤ fuel')
      rw [List.length_cons] at ht
      cases h
      exact ⟨t, rfl, by omega, by simp [hread]⟩
  by_cases htrue : c = 't'
  · subst htrue
    obtain ⟨t, rfl, ht, hread⟩ := wordValue_return (by decide) h
    exact ⟨t, rfl, by omega, hread⟩
  by_cases hfalse : c = 'f'
  · subst hfalse
    obtain ⟨t, rfl, ht, hread⟩ := wordValue_return (by decide) h
    exact ⟨t, rfl, by omega, hread⟩
  by_cases hnull : c = 'n'
  · subst hnull
    obtain ⟨t, rfl, ht, hread⟩ := wordValue_return (by decide) h
    exact ⟨t, rfl, by omega, hread⟩
  · -- whatever else begins with anything is a number
    have hnumber := number?_return (c :: t₀)
    rw [List.cons_append] at hnumber
    simp only [List.cons.injEq, hstring, harray, hobject, htrue, hfalse, hnull, hnumber, false_and,
      imp_self, implies_true, Option.pure_def, Option.bind_eq_bind] at h ⊢
    rcases hn : number? (c :: t₀) with _ | ⟨n, t⟩
    · simp [hn] at h
    have ht := length_number?_lt hn
    rw [List.length_cons] at ht
    simp only [hn, Option.map_some, Option.bind_some, behind] at h ⊢
    cases h
    exact ⟨t, rfl, by omega, rfl⟩

theorem ItemsAlike.succ {fuel : Nat} (hvalues : ValuesAlike fuel) (hitems : ItemsAlike fuel) :
    ItemsAlike (fuel + 1) := by
  intro fuel' depth acc cs l items h hfuel
  obtain ⟨fuel', rfl⟩ : ∃ k, fuel' = k + 1 := ⟨fuel' - 1, by omega⟩
  simp only [items?, Option.bind_eq_bind, Option.pure_def] at h ⊢
  obtain ⟨⟨v, rest⟩, hv, h⟩ := Option.bind_eq_some_iff.mp h
  obtain ⟨t, rfl, ht, hread⟩ := hvalues hv (by omega : 2 * cs.length ≤ fuel')
  simp only [hread, Option.bind_some]
  rcases hblank : skipBlanks (t ++ ['\r']) with _ | ⟨c, l₀⟩
  · simp [hblank] at h
  obtain ⟨t₀, hcs, rfl, hlength⟩ := skipBlanks_return hblank
  simp only [hblank, hcs] at h ⊢
  by_cases hcomma : c = ','
  · subst hcomma
    obtain ⟨t₁, rfl, ht₁, hread₁⟩ := hitems h (by omega : 2 * t₀.length + 1 ≤ fuel')
    exact ⟨t₁, rfl, by omega, hread₁⟩
  by_cases hclose : c = ']'
  · subst hclose
    cases h
    exact ⟨t₀, rfl, by omega, rfl⟩
  · simp [hcomma, hclose] at h

theorem FieldsAlike.succ {fuel : Nat} (hvalues : ValuesAlike fuel) (hfields : FieldsAlike fuel) :
    FieldsAlike (fuel + 1) := by
  intro fuel' depth acc cs l fields h hfuel
  obtain ⟨fuel', rfl⟩ : ∃ k, fuel' = k + 1 := ⟨fuel' - 1, by omega⟩
  rcases hfront : skipBlanks (cs ++ ['\r']) with _ | ⟨c, l₀⟩
  · simp [fields?_blank hfront] at h
  obtain ⟨t₀, hcs, rfl, hlength₀⟩ := skipBlanks_return hfront
  simp only [fields?, hfront, hcs, Option.bind_eq_bind, Option.pure_def] at h ⊢
  -- the key
  by_cases hquote : c = '"'
  swap
  · simp [hquote] at h
  subst hquote
  obtain ⟨⟨key, rest⟩, hkey, h⟩ := Option.bind_eq_some_iff.mp h
  obtain ⟨t₁, rfl, ht₁, hkeyRead⟩ := stringTail?_return hkey (Nat.lt_succ_self t₀.length)
  simp only [hkeyRead, Option.bind_some]
  -- the colon, and the value behind it
  rcases hcolon : skipBlanks (t₁ ++ ['\r']) with _ | ⟨d, l₁⟩
  · simp [hcolon] at h
  obtain ⟨t₂, ht₁blank, rfl, hlength₂⟩ := skipBlanks_return hcolon
  simp only [hcolon, ht₁blank] at h ⊢
  by_cases hd : d = ':'
  swap
  · simp [hd] at h
  subst hd
  obtain ⟨⟨v, rest⟩, hv, h⟩ := Option.bind_eq_some_iff.mp h
  obtain ⟨t₃, rfl, ht₃, hread⟩ := hvalues hv (by omega : 2 * t₂.length ≤ fuel')
  simp only [hread, Option.bind_some]
  -- the other fields, or the brace at the end
  rcases hback : skipBlanks (t₃ ++ ['\r']) with _ | ⟨e, l₃⟩
  · simp [hback] at h
  obtain ⟨t₄, ht₃blank, rfl, hlength₄⟩ := skipBlanks_return hback
  simp only [hback, ht₃blank] at h ⊢
  by_cases hcomma : e = ','
  · subst hcomma
    obtain ⟨t₅, rfl, ht₅, hread₅⟩ := hfields h (by omega : 2 * t₄.length + 1 ≤ fuel')
    exact ⟨t₅, rfl, by omega, hread₅⟩
  by_cases hclose : e = '\x7d'
  · subst hclose
    cases h
    exact ⟨t₄, rfl, by omega, rfl⟩
  · simp [hcomma, hclose] at h

/-- Values, items and fields are read alike within any number of steps. -/
theorem alike (fuel : Nat) : ValuesAlike fuel ∧ ItemsAlike fuel ∧ FieldsAlike fuel := by
  induction fuel with
  | zero =>
      exact ⟨fun _ _ _ _ _ h => by simp [value?] at h, fun _ _ _ _ _ _ h => by simp [items?] at h,
        fun _ _ _ _ _ _ h => by simp [fields?] at h⟩
  | succ fuel ih =>
      obtain ⟨hvalues, hitems, hfields⟩ := ih
      exact ⟨.succ hitems hfields, .succ hvalues hitems, .succ hvalues hfields⟩

/-! ### Passing over -/

theorem skipMagnitude?_return (cs : List Char) :
    skipMagnitude? (cs ++ ['\r']) = (skipMagnitude? cs).map (· ++ ['\r']) := by
  simp only [skipMagnitude?, digitRun_return, behind]
  split
  · rfl
  rw [fraction?_return]
  rcases fraction? (digitRun cs).2 with _ | ⟨frac, rest⟩
  · rfl
  simp only [Option.map_some, Option.bind_eq_bind, Option.bind_some, behind, powerOfTen?_return]
  rcases powerOfTen? rest with _ | ⟨power, rest⟩ <;> rfl

theorem skipNumber?_return (cs : List Char) :
    skipNumber? (cs ++ ['\r']) = (skipNumber? cs).map (· ++ ['\r']) := by
  rcases cs with _ | ⟨c, cs⟩
  · rfl
  by_cases hminus : c = '-'
  · subst hminus
    exact skipMagnitude?_return cs
  · have hmagnitude := skipMagnitude?_return (c :: cs)
    rw [List.cons_append] at hmagnitude ⊢
    simpa [skipNumber?, hminus] using hmagnitude

theorem length_skipMagnitude?_lt {cs rest : List Char} (h : skipMagnitude? cs = some rest) :
    rest.length < cs.length := by
  simp only [skipMagnitude?] at h
  split at h
  · cases h
  rename_i hdigits
  obtain ⟨⟨frac, behindFrac⟩, hfrac, h⟩ := Option.bind_eq_some_iff.mp h
  obtain ⟨⟨power, behindPower⟩, hpower, h⟩ := Option.bind_eq_some_iff.mp h
  obtain rfl : behindPower = rest := Option.some.inj h
  have hdigit : (digitRun cs).1 ≠ [] := fun hempty => by simp [hempty] at hdigits
  have hle : behindFrac.length ≤ (digitRun cs).2.length := length_fraction?_le hfrac
  have hle' : behindPower.length ≤ behindFrac.length := length_powerOfTen?_le hpower
  have hlt := length_digitRun_lt hdigit
  omega

theorem length_skipNumber?_lt {cs rest : List Char} (h : skipNumber? cs = some rest) :
    rest.length < cs.length := by
  unfold skipNumber? at h
  split at h
  · exact Nat.lt_succ_of_lt (length_skipMagnitude?_lt h)
  · exact length_skipMagnitude?_lt h

theorem skipEscape?_return (cs : List Char) :
    skipEscape? (cs ++ ['\r']) = (skipEscape? cs).map (· ++ ['\r']) := by
  rcases cs with _ | ⟨c, cs⟩
  · rfl
  by_cases hunit : c = 'u'
  · subst hunit
    simp only [List.cons_append, skipEscape?, hexUnit?_return]
    rcases hexUnit? cs with _ | ⟨n, rest⟩ <;> rfl
  · simp only [List.cons_append, skipEscape?]
    split <;> rfl

theorem length_skipEscape?_lt {cs rest : List Char} (h : skipEscape? cs = some rest) :
    rest.length < cs.length := by
  unfold skipEscape? at h
  split at h
  · obtain ⟨⟨n, tail⟩, hn, rfl⟩ := Option.map_eq_some_iff.mp h
    exact Nat.lt_succ_of_lt (length_hexUnit?_lt hn)
  · split at h
    · cases h
      exact Nat.lt_succ_self _
    · cases h
  · cases h

theorem skipString?_return {fuel fuel' : Nat} {cs l : List Char}
    (h : skipString? fuel (cs ++ ['\r']) = some l) (hfuel : cs.length < fuel') :
    ∃ t, l = t ++ ['\r'] ∧ t.length < cs.length ∧ skipString? fuel' cs = some t := by
  induction fuel generalizing fuel' cs with
  | zero => cases h
  | succ fuel ih =>
      obtain ⟨fuel', rfl⟩ : ∃ k, fuel' = k + 1 := ⟨fuel' - 1, by omega⟩
      rcases cs with _ | ⟨c, cs⟩
      · simp [skipString?] at h
      rw [List.cons_append] at h
      rw [List.length_cons] at hfuel
      by_cases hquote : c = '"'
      · subst hquote
        cases h
        exact ⟨cs, rfl, Nat.lt_succ_self _, rfl⟩
      by_cases hslash : c = '\\'
      · subst hslash
        simp only [skipString?, skipEscape?_return] at h ⊢
        rcases hc : skipEscape? cs with _ | rest
        · simp [hc] at h
        have hlength := length_skipEscape?_lt hc
        simp only [hc, Option.map_some, Option.bind_some] at h ⊢
        obtain ⟨t, rfl, ht, hread⟩ := ih h (by omega : rest.length < fuel')
        exact ⟨t, rfl, by rw [List.length_cons]; omega, hread⟩
      · simp only [skipString?] at h ⊢
        split at h
        · cases h
        · rename_i hprint
          obtain ⟨t, rfl, ht, hread⟩ := ih h (by omega : cs.length < fuel')
          rw [if_neg hprint]
          exact ⟨t, rfl, by rw [List.length_cons]; omega, hread⟩

/-- Within `fuel` steps a value is passed over alike. -/
def ValuesSkipped (fuel : Nat) : Prop :=
  ∀ ⦃fuel' : Nat⦄ ⦃cs l : List Char⦄,
    skipValue? fuel (cs ++ ['\r']) = some l → 2 * cs.length ≤ fuel' →
    ∃ t, l = t ++ ['\r'] ∧ t.length < cs.length ∧ skipValue? fuel' cs = some t

/-- Within `fuel` steps the items of an array are passed over alike. -/
def ItemsSkipped (fuel : Nat) : Prop :=
  ∀ ⦃fuel' : Nat⦄ ⦃cs l : List Char⦄,
    skipItems? fuel (cs ++ ['\r']) = some l → 2 * cs.length + 1 ≤ fuel' →
    ∃ t, l = t ++ ['\r'] ∧ t.length < cs.length ∧ skipItems? fuel' cs = some t

/-- Within `fuel` steps the fields of an object are passed over alike. -/
def FieldsSkipped (fuel : Nat) : Prop :=
  ∀ ⦃fuel' : Nat⦄ ⦃cs l : List Char⦄,
    skipFields? fuel (cs ++ ['\r']) = some l → 2 * cs.length + 1 ≤ fuel' →
    ∃ t, l = t ++ ['\r'] ∧ t.length < cs.length ∧ skipFields? fuel' cs = some t

theorem skipValue?_blank {cs : List Char} (h : skipBlanks cs = []) (fuel : Nat) :
    skipValue? fuel cs = none := by
  cases fuel with
  | zero => rfl
  | succ fuel => simp [skipValue?, h, skipNumber?, skipMagnitude?, digitRun]

theorem skipItems?_blank {cs : List Char} (h : skipBlanks cs = []) (fuel : Nat) :
    skipItems? fuel cs = none := by
  cases fuel with
  | zero => rfl
  | succ fuel => simp [skipItems?, skipValue?_blank h]

theorem skipFields?_blank {cs : List Char} (h : skipBlanks cs = []) (fuel : Nat) :
    skipFields? fuel cs = none := by
  cases fuel with
  | zero => rfl
  | succ fuel => simp [skipFields?, h]

theorem ValuesSkipped.succ {fuel : Nat} (hitems : ItemsSkipped fuel)
    (hfields : FieldsSkipped fuel) : ValuesSkipped (fuel + 1) := by
  intro fuel' cs l h hfuel
  rcases hblank : skipBlanks (cs ++ ['\r']) with _ | ⟨c, l₀⟩
  · simp [skipValue?_blank hblank] at h
  -- one case for each beginning of a value, as where values are read
  obtain ⟨t₀, hcs, rfl, hlength⟩ := skipBlanks_return hblank
  obtain ⟨fuel', rfl⟩ : ∃ k, fuel' = k + 1 := ⟨fuel' - 1, by omega⟩
  simp only [skipValue?, hblank, hcs] at h ⊢
  by_cases hstring : c = '"'
  · subst hstring
    obtain ⟨t, rfl, ht, hread⟩ := skipString?_return h (Nat.lt_succ_self t₀.length)
    exact ⟨t, rfl, by omega, hread⟩
  by_cases harray : c = '['
  · subst harray
    rcases hinner : skipBlanks (t₀ ++ ['\r']) with _ | ⟨d, l₁⟩
    · simp [hinner, skipItems?_blank skipBlanks_nil] at h
    obtain ⟨t₁, ht₀, rfl, hlength₁⟩ := skipBlanks_return hinner
    simp only [hinner, ht₀] at h ⊢
    by_cases hclose : d = ']'
    · subst hclose
      cases h
      exact ⟨t₁, rfl, by omega, rfl⟩
    · simp only [List.cons.injEq, hclose, false_and, imp_self, implies_true] at h ⊢
      obtain ⟨t, rfl, ht, hread⟩ := hitems (List.cons_append ▸ h)
        (by rw [List.length_cons]; omega : 2 * (d :: t₁).length + 1 ≤ fuel')
      rw [List.length_cons] at ht
      exact ⟨t, rfl, by omega, hread⟩
  by_cases hobject : c = '\x7b'
  · subst hobject
    rcases hinner : skipBlanks (t₀ ++ ['\r']) with _ | ⟨d, l₁⟩
    · simp [hinner, skipFields?_blank skipBlanks_nil] at h
    obtain ⟨t₁, ht₀, rfl, hlength₁⟩ := skipBlanks_return hinner
    simp only [hinner, ht₀] at h ⊢
    by_cases hclose : d = '\x7d'
    · subst hclose
      cases h
      exact ⟨t₁, rfl, by omega, rfl⟩
    · simp only [List.cons.injEq, hclose, false_and, imp_self, implies_true] at h ⊢
      obtain ⟨t, rfl, ht, hread⟩ := hfields (List.cons_append ▸ h)
        (by rw [List.length_cons]; omega : 2 * (d :: t₁).length + 1 ≤ fuel')
      rw [List.length_cons] at ht
      exact ⟨t, rfl, by omega, hread⟩
  by_cases htrue : c = 't'
  · subst htrue
    obtain ⟨t, rfl, ht, hread⟩ := afterWord?_return (by decide) h
    exact ⟨t, rfl, by omega, hread⟩
  by_cases hfalse : c = 'f'
  · subst hfalse
    obtain ⟨t, rfl, ht, hread⟩ := afterWord?_return (by decide) h
    exact ⟨t, rfl, by omega, hread⟩
  by_cases hnull : c = 'n'
  · subst hnull
    obtain ⟨t, rfl, ht, hread⟩ := afterWord?_return (by decide) h
    exact ⟨t, rfl, by omega, hread⟩
  · have hnumber := skipNumber?_return (c :: t₀)
    rw [List.cons_append] at hnumber
    simp only [List.cons.injEq, hstring, harray, hobject, htrue, hfalse, hnull, hnumber, false_and,
      imp_self, implies_true] at h ⊢
    obtain ⟨t, hn, rfl⟩ := Option.map_eq_some_iff.mp h
    have ht := length_skipNumber?_lt hn
    rw [List.length_cons] at ht
    exact ⟨t, rfl, by omega, hn⟩

theorem ItemsSkipped.succ {fuel : Nat} (hvalues : ValuesSkipped fuel)
    (hitems : ItemsSkipped fuel) : ItemsSkipped (fuel + 1) := by
  intro fuel' cs l h hfuel
  obtain ⟨fuel', rfl⟩ : ∃ k, fuel' = k + 1 := ⟨fuel' - 1, by omega⟩
  simp only [skipItems?, Option.bind_eq_bind] at h ⊢
  obtain ⟨rest, hv, h⟩ := Option.bind_eq_some_iff.mp h
  obtain ⟨t, rfl, ht, hread⟩ := hvalues hv (by omega : 2 * cs.length ≤ fuel')
  simp only [hread, Option.bind_some]
  rcases hblank : skipBlanks (t ++ ['\r']) with _ | ⟨c, l₀⟩
  · simp [hblank] at h
  obtain ⟨t₀, hcs, rfl, hlength⟩ := skipBlanks_return hblank
  simp only [hblank, hcs] at h ⊢
  by_cases hcomma : c = ','
  · subst hcomma
    obtain ⟨t₁, rfl, ht₁, hread₁⟩ := hitems h (by omega : 2 * t₀.length + 1 ≤ fuel')
    exact ⟨t₁, rfl, by omega, hread₁⟩
  by_cases hclose : c = ']'
  · subst hclose
    cases h
    exact ⟨t₀, rfl, by omega, rfl⟩
  · simp [hcomma, hclose] at h

theorem FieldsSkipped.succ {fuel : Nat} (hvalues : ValuesSkipped fuel)
    (hfields : FieldsSkipped fuel) : FieldsSkipped (fuel + 1) := by
  intro fuel' cs l h hfuel
  obtain ⟨fuel', rfl⟩ : ∃ k, fuel' = k + 1 := ⟨fuel' - 1, by omega⟩
  rcases hfront : skipBlanks (cs ++ ['\r']) with _ | ⟨c, l₀⟩
  · simp [skipFields?_blank hfront] at h
  obtain ⟨t₀, hcs, rfl, hlength₀⟩ := skipBlanks_return hfront
  simp only [skipFields?, hfront, hcs, Option.bind_eq_bind] at h ⊢
  -- the key
  by_cases hquote : c = '"'
  swap
  · simp [hquote] at h
  subst hquote
  obtain ⟨rest, hkey, h⟩ := Option.bind_eq_some_iff.mp h
  obtain ⟨t₁, rfl, ht₁, hkeyRead⟩ := skipString?_return hkey (Nat.lt_succ_self t₀.length)
  simp only [hkeyRead, Option.bind_some]
  -- the colon, and the value behind it
  rcases hcolon : skipBlanks (t₁ ++ ['\r']) with _ | ⟨d, l₁⟩
  · simp [hcolon] at h
  obtain ⟨t₂, ht₁blank, rfl, hlength₂⟩ := skipBlanks_return hcolon
  simp only [hcolon, ht₁blank] at h ⊢
  by_cases hd : d = ':'
  swap
  · simp [hd] at h
  subst hd
  obtain ⟨rest, hv, h⟩ := Option.bind_eq_some_iff.mp h
  obtain ⟨t₃, rfl, ht₃, hread⟩ := hvalues hv (by omega : 2 * t₂.length ≤ fuel')
  simp only [hread, Option.bind_some]
  -- the other fields, or the brace at the end
  rcases hback : skipBlanks (t₃ ++ ['\r']) with _ | ⟨e, l₃⟩
  · simp [hback] at h
  obtain ⟨t₄, ht₃blank, rfl, hlength₄⟩ := skipBlanks_return hback
  simp only [hback, ht₃blank] at h ⊢
  by_cases hcomma : e = ','
  · subst hcomma
    obtain ⟨t₅, rfl, ht₅, hread₅⟩ := hfields h (by omega : 2 * t₄.length + 1 ≤ fuel')
    exact ⟨t₅, rfl, by omega, hread₅⟩
  by_cases hclose : e = '\x7d'
  · subst hclose
    cases h
    exact ⟨t₄, rfl, by omega, rfl⟩
  · simp [hcomma, hclose] at h

/-- Values, items and fields are passed over alike within any number of steps. -/
theorem skippedAlike (fuel : Nat) :
    ValuesSkipped fuel ∧ ItemsSkipped fuel ∧ FieldsSkipped fuel := by
  induction fuel with
  | zero =>
      exact ⟨fun _ _ _ h => by simp [skipValue?] at h, fun _ _ _ h => by simp [skipItems?] at h,
        fun _ _ _ h => by simp [skipFields?] at h⟩
  | succ fuel ih =>
      obtain ⟨hvalues, hitems, hfields⟩ := ih
      exact ⟨.succ hitems hfields, .succ hvalues hitems, .succ hvalues hfields⟩

/-! ### Texts -/

/-- **A text is read alike** with a carriage return at its end and without. -/
theorem parse?_return {s : String} {depth : Nat} {v : Value}
    (h : parse? (s ++ "\r") depth = some v) : parse? s depth = some v := by
  obtain ⟨w, hw, rfl⟩ := Option.map_eq_some_iff.mp h
  obtain ⟨⟨w', rest⟩, hread, hrest⟩ := Option.bind_eq_some_iff.mp hw
  rw [String.toList_append] at hread
  obtain ⟨t, rfl, -, hread'⟩ := (alike _).1 hread (Nat.le_add_right (2 * s.toList.length) 2)
  dsimp only at hrest
  rw [isEmpty_skipBlanks_return] at hrest
  simp only [parse?, parseFields?, hread', Option.bind_eq_bind, Option.bind_some, hrest,
    Option.map_some]

end StorySuite.Json
