import StorySuite.BindingName
import StorySuite.Script.Token

/-!
# Proofs — Text — the characters of names

A binding name is put together from letters and digits of all kinds, a name of a script from the
characters that have `ID_Continue`.  The two agree but for the characters of `strayRanges`: numbers
that are no digits (superscripts, fractions, and the figures of scripts that count without a zero),
letters in circles and squares, and one mark.

* `without`, `inRanges_without`: ranges taken out of ranges, both in increasing order.
* **`isNamePart_iff`**, **`isNameStart_iff`**: which characters of binding names may stand in a name
  of a script, and which of them may begin it.
* `apart_of_isNameChar`: no character of a binding name begins a gap.
-/

namespace StorySuite.Text

/-! ### Ranges -/

/-- The ranges stand in increasing order, the first one not before `k`. -/
def increasing : Nat → List (Nat × Nat) → Bool
  | _, [] => true
  | k, (lo, hi) :: rs => k ≤ lo && lo ≤ hi && increasing (hi + 1) rs

/-- What is left of the first ranges when the second ones are taken out, in so many steps. -/
def withoutUpTo : Nat → List (Nat × Nat) → List (Nat × Nat) → List (Nat × Nat)
  | 0, as, _ => as
  | _, [], _ => []
  | _, as, [] => as
  | fuel + 1, (lo, hi) :: as, (a, b) :: bs =>
    if b < lo then withoutUpTo fuel ((lo, hi) :: as) bs
    else if hi < a then (lo, hi) :: withoutUpTo fuel as ((a, b) :: bs)
    else
      (if lo < a then [(lo, a - 1)] else []) ++
        if b < hi then withoutUpTo fuel ((b + 1, hi) :: as) bs
        else withoutUpTo fuel as ((a, b) :: bs)

/-- What is left of the first ranges when the second ones are taken out. -/
def without (as bs : List (Nat × Nat)) : List (Nat × Nat) :=
  withoutUpTo (as.length + bs.length) as bs

@[simp]
theorem inRanges_nil (n : Nat) : inRanges [] n = false :=
  rfl

@[simp]
theorem inRanges_cons (r : Nat × Nat) (rs : List (Nat × Nat)) (n : Nat) :
    inRanges (r :: rs) n = true ↔ r.1 ≤ n ∧ n ≤ r.2 ∨ inRanges rs n = true := by
  simp [inRanges]

theorem inRanges_append (rs ss : List (Nat × Nat)) (n : Nat) :
    inRanges (rs ++ ss) n = true ↔ inRanges rs n = true ∨ inRanges ss n = true := by
  simp [inRanges]

theorem le_of_increasing {n : Nat} : ∀ {rs : List (Nat × Nat)} {k : Nat}, increasing k rs = true →
    inRanges rs n = true → k ≤ n
  | (lo, hi) :: rs, k, h, hn => by
      simp only [increasing, Bool.and_eq_true, decide_eq_true_eq] at h
      rcases (inRanges_cons _ _ _).mp hn with hn | hn
      · exact Nat.le_trans h.1.1 hn.1
      · have hrest := le_of_increasing h.2 hn
        omega

/-- A number is left exactly if it was there and is not taken out.  In every step the smaller one of
the first ranges goes, or the part of it that is below what is left of the other. -/
theorem inRanges_withoutUpTo {n : Nat} : ∀ (fuel : Nat) {as bs : List (Nat × Nat)} {i j : Nat},
    as.length + bs.length ≤ fuel → increasing i as = true → increasing j bs = true →
      (inRanges (withoutUpTo fuel as bs) n = true ↔
        inRanges as n = true ∧ ¬ inRanges bs n = true)
  | 0, as, bs, i, j, hfuel, _, _ => by
      obtain rfl : as = [] := List.length_eq_zero_iff.mp (by omega)
      simp [withoutUpTo]
  | fuel + 1, [], bs, i, j, _, _, _ => by simp [withoutUpTo]
  | fuel + 1, (lo, hi) :: as, [], i, j, _, _, _ => by simp [withoutUpTo]
  | fuel + 1, (lo, hi) :: as, (a, b) :: bs, i, j, hfuel, has, hbs => by
      have has' := has
      have hbs' := hbs
      simp only [increasing, Bool.and_eq_true, decide_eq_true_eq] at has' hbs'
      obtain ⟨⟨-, hlo⟩, hmore⟩ := has'
      obtain ⟨⟨-, ha⟩, hothers⟩ := hbs'
      -- what follows a range lies above it
      have hafter : inRanges as n = true → hi + 1 ≤ n := le_of_increasing hmore
      have hbehind : inRanges bs n = true → b + 1 ≤ n := le_of_increasing hothers
      simp only [List.length_cons] at hfuel
      unfold withoutUpTo
      split
      · rw [inRanges_withoutUpTo fuel (by simp only [List.length_cons]; omega) has hothers]
        simp only [inRanges_cons]
        grind
      · split
        · rw [inRanges_cons, inRanges_withoutUpTo fuel (by simp only [List.length_cons]; omega) hmore
            hbs]
          simp only [inRanges_cons]
          grind
        · rw [inRanges_append]
          -- they overlap: what is below the other range stays, what is above it is looked at again
          have hfront : inRanges (if lo < a then [(lo, a - 1)] else []) n = true ↔
              lo ≤ n ∧ n < a := by
            split <;> simp <;> omega
          rw [hfront]
          split
          · have hlonger : increasing (b + 1) ((b + 1, hi) :: as) = true := by
              simp only [increasing, Bool.and_eq_true, decide_eq_true_eq]
              exact ⟨⟨Nat.le_refl _, by omega⟩, hmore⟩
            rw [inRanges_withoutUpTo fuel (by simp only [List.length_cons]; omega) hlonger hothers]
            simp only [inRanges_cons]
            grind
          · rw [inRanges_withoutUpTo fuel (by simp only [List.length_cons]; omega) hmore hbs]
            simp only [inRanges_cons]
            grind

/-- **A number is left exactly if it was there and is not taken out.** -/
theorem inRanges_without {as bs : List (Nat × Nat)} {i j : Nat} (has : increasing i as = true)
    (hbs : increasing j bs = true) (n : Nat) :
    inRanges (without as bs) n = true ↔ inRanges as n = true ∧ ¬ inRanges bs n = true :=
  inRanges_withoutUpTo _ (Nat.le_refl _) has hbs

/-! ### Characters that no name can have -/

/-- The letters and digits above ASCII that have not `ID_Continue`, as closed ranges. -/
def strayRanges : List (Nat × Nat) := [
  (0xb2, 0xb3), (0xb9, 0xb9), (0xbc, 0xbe), (0x9f4, 0x9f9), (0xb72, 0xb77), (0xbf0, 0xbf2),
  (0xc78, 0xc7e), (0xd58, 0xd5e), (0xd70, 0xd78), (0xf2a, 0xf33), (0x1372, 0x137c),
  (0x17f0, 0x17f9), (0x2070, 0x2070), (0x2074, 0x2079), (0x2080, 0x2089), (0x2150, 0x215f),
  (0x2189, 0x2189), (0x2460, 0x249b), (0x24b6, 0x24ff), (0x2776, 0x2793), (0x2cfd, 0x2cfd),
  (0x2e2f, 0x2e2f), (0x3192, 0x3195), (0x3220, 0x3229), (0x3248, 0x324f), (0x3251, 0x325f),
  (0x3280, 0x3289), (0x32b1, 0x32bf), (0xa830, 0xa835), (0x10107, 0x10133), (0x10175, 0x10178),
  (0x1018a, 0x1018b), (0x102e1, 0x102fb), (0x10320, 0x10323), (0x10858, 0x1085f),
  (0x10879, 0x1087f), (0x108a7, 0x108af), (0x108fb, 0x108ff), (0x10916, 0x1091b),
  (0x109bc, 0x109bd), (0x109c0, 0x109cf), (0x109d2, 0x109ff), (0x10a40, 0x10a48),
  (0x10a7d, 0x10a7e), (0x10a9d, 0x10a9f), (0x10aeb, 0x10aef), (0x10b58, 0x10b5f),
  (0x10b78, 0x10b7f), (0x10ba9, 0x10baf), (0x10cfa, 0x10cff), (0x10e60, 0x10e7e),
  (0x10f1d, 0x10f26), (0x10f51, 0x10f54), (0x10fc5, 0x10fcb), (0x11052, 0x11065),
  (0x111e1, 0x111f4), (0x1173a, 0x1173b), (0x118ea, 0x118f2), (0x11c5a, 0x11c6c),
  (0x11fc0, 0x11fd4), (0x16b5b, 0x16b61), (0x16e80, 0x16e96), (0x1d2c0, 0x1d2d3),
  (0x1d2e0, 0x1d2f3), (0x1d360, 0x1d378), (0x1e8c7, 0x1e8cf), (0x1ec71, 0x1ecab),
  (0x1ecad, 0x1ecaf), (0x1ecb1, 0x1ecb4), (0x1ed01, 0x1ed2d), (0x1ed2f, 0x1ed3d),
  (0x1f100, 0x1f10c), (0x1f130, 0x1f149), (0x1f150, 0x1f169), (0x1f170, 0x1f189)]

section Tables

variable {n : Nat}

/-- The tables stand in increasing order, that of letters and digits and that of what may only follow
above ASCII.  The stray ranges are what is left of the first one when those of names are taken out.
What may only follow begins no name, and no letter or digit is a blank. -/
theorem tables_fit :
    (increasing 0x80 alphanumericRanges = true ∧ increasing 0 idStartRanges = true ∧
      increasing 0x80 idTailRanges = true ∧ increasing 0 Script.spaceRanges = true) ∧
    (increasing 0 (without alphanumericRanges idStartRanges) = true ∧
      without (without alphanumericRanges idStartRanges) idTailRanges = strayRanges) ∧
    without idTailRanges idStartRanges = idTailRanges ∧
    without alphanumericRanges Script.spaceRanges = alphanumericRanges := by
  decide +kernel

/-- The stray characters are the letters and digits that are in no table of names. -/
theorem isStray_iff : inRanges strayRanges n = true ↔
    (inRanges alphanumericRanges n = true ∧ ¬ inRanges idStartRanges n = true) ∧
      ¬ inRanges idTailRanges n = true := by
  obtain ⟨⟨halpha, hstart, htail, -⟩, ⟨hmiddle, hstray⟩, -⟩ := tables_fit
  rw [← hstray, inRanges_without hmiddle htail, inRanges_without halpha hstart]

/-- No character that may begin a name is listed among those that may not. -/
theorem not_idStart_of_idTail (h : inRanges idTailRanges n = true) :
    ¬ inRanges idStartRanges n = true := by
  obtain ⟨⟨-, hstart, htail, -⟩, -, heq, -⟩ := tables_fit
  rw [← heq, inRanges_without htail hstart] at h
  exact h.2

/-- No letter or digit is a blank. -/
theorem not_space_of_alphanumeric (h : inRanges alphanumericRanges n = true) :
    ¬ inRanges Script.spaceRanges n = true := by
  obtain ⟨⟨halpha, -, -, hspaces⟩, -, -, heq⟩ := tables_fit
  rw [← heq, inRanges_without halpha hspaces] at h
  exact h.2

theorem ascii_le_of_alphanumeric (h : inRanges alphanumericRanges n = true) : 0x80 ≤ n :=
  le_of_increasing tables_fit.1.1 h

theorem ascii_le_of_idTail (h : inRanges idTailRanges n = true) : 0x80 ≤ n :=
  le_of_increasing tables_fit.1.2.2.1 h

end Tables

end StorySuite.Text

namespace StorySuite.BindingName

open Script Text

/-! ### The characters of binding names -/

section Characters

variable {c : Char}

/-- What holds of all characters of ASCII holds of one of them. -/
theorem of_ascii {P : Char → Prop} (h : ∀ n < 0x80, P (Char.ofNat n)) (hc : c.toNat < 0x80) :
    P c := by
  have hn := h c.toNat hc
  rwa [Char.ofNat_toNat] at hn

/-- In ASCII, the characters of binding names are those of names. -/
theorem ascii_cases (hc : c.toNat < 0x80) (h : isNameChar c = true) :
    isNamePart c = true ∧ (isAsciiDigit c = false → isNameStart c = true) ∧
      isSpace c = false ∧ isLineEnd c = false ∧ c ∉ ['/', '<', '-'] := by
  revert h
  refine of_ascii (P := fun c => isNameChar c = true → isNamePart c = true ∧
    (isAsciiDigit c = false → isNameStart c = true) ∧ isSpace c = false ∧ isLineEnd c = false ∧
      c ∉ ['/', '<', '-']) ?_ hc
  decide +kernel

/-- Above ASCII, the characters of binding names are the letters and digits. -/
theorem alphanumeric_of_isNameChar (hc : ¬ c.toNat < 0x80) (h : isNameChar c = true) :
    inRanges alphanumericRanges c.toNat = true := by
  simp only [isNameChar, isAlphanumeric, hc, if_false, Bool.or_eq_true, beq_iff_eq] at h
  rcases h with (h | rfl) | rfl
  · exact h
  · exact absurd (by decide) hc
  · exact absurd (by decide) hc

theorem not_stray_of_ascii (hc : c.toNat < 0x80) : ¬ inRanges strayRanges c.toNat = true :=
  fun h => Nat.not_le.mpr hc (ascii_le_of_alphanumeric (isStray_iff.mp h).1.1)

/-- Characters that are told one by one: those that names may have besides letters and digits, and
those that gaps consist of or begin with. -/
def toldChars : List Char :=
  ['$', '_', '\u200c', '\u200d', '\n', '\r', '\u2028', '\u2029', ' ', '\t', '/', '<', '-']

/-- A letter or digit of the table is none of them. -/
theorem ne_of_alphanumeric (h : inRanges alphanumericRanges c.toNat = true) :
    ∀ d ∈ toldChars, c ≠ d := by
  have hnone : toldChars.all (fun d => !inRanges alphanumericRanges d.toNat) = true := by
    decide +kernel
  rintro d hd rfl
  have hc := List.all_eq_true.mp hnone c hd
  rw [h] at hc
  cases hc

/-- **A character of a binding name may stand in a name exactly if it is none of the stray ones.** -/
theorem isNamePart_iff (h : isNameChar c = true) :
    isNamePart c = true ↔ ¬ inRanges strayRanges c.toNat = true := by
  by_cases hc : c.toNat < 0x80
  · exact iff_of_true (ascii_cases hc h).1 (not_stray_of_ascii hc)
  · have halpha := alphanumeric_of_isNameChar hc h
    have hother := ne_of_alphanumeric halpha
    simp only [toldChars, List.forall_mem_cons, List.not_mem_nil] at hother
    simp only [isNamePart, isIdContinue, hc, isStray_iff, halpha, hother, if_false, beq_iff_eq,
      Bool.or_eq_true, false_or, true_and]
    exact Decidable.or_iff_not_not_and_not

/-- **A character of a binding name, other than a figure of ASCII, may begin a name exactly if it is
none of the stray ones and none of those that may only follow.** -/
theorem isNameStart_iff (h : isNameChar c = true) (hdigit : isAsciiDigit c = false) :
    isNameStart c = true ↔
      ¬ inRanges strayRanges c.toNat = true ∧ ¬ inRanges idTailRanges c.toNat = true := by
  by_cases hc : c.toNat < 0x80
  · have htail : ¬ inRanges idTailRanges c.toNat = true :=
      fun h => Nat.not_le.mpr hc (ascii_le_of_idTail h)
    exact iff_of_true ((ascii_cases hc h).2.1 hdigit) ⟨not_stray_of_ascii hc, htail⟩
  · have halpha := alphanumeric_of_isNameChar hc h
    have hother := ne_of_alphanumeric halpha
    simp only [toldChars, List.forall_mem_cons, List.not_mem_nil] at hother
    have hapart := @not_idStart_of_idTail c.toNat
    simp only [isNameStart, isIdStart, hc, isStray_iff, halpha, hother, if_false, beq_iff_eq,
      Bool.or_eq_true, false_or, true_and]
    grind

/-- No gap begins with a character of a binding name. -/
theorem apart_of_isNameChar (h : isNameChar c = true) :
    isSpace c = false ∧ isLineEnd c = false ∧ c ∉ ['/', '<', '-'] := by
  by_cases hc : c.toNat < 0x80
  · exact (ascii_cases hc h).2.2
  · have halpha := alphanumeric_of_isNameChar hc h
    have hother := ne_of_alphanumeric halpha
    simp only [toldChars, List.forall_mem_cons, List.not_mem_nil] at hother
    have hspace := not_space_of_alphanumeric halpha
    simp [isSpace, isLineEnd, hother, hspace]

end Characters

end StorySuite.BindingName
