/-
# `AskLake.Python.Decimal` — `decimal.Decimal` in its default context

    Decimal(text)         exact: the sign, the digits and the exponent of the numeral
    d.normalize()         rounded to 28 digits, half to even, and its zeros stripped
    format(d, "f")        the digits with a point, without an exponent

A decimal that has been normalised has one text, and two of them have one text exactly when they
are one number (`text_eq_iff`).  What is lost is lost in the rounding before: `fix` keeps a
decimal of at most 28 digits as it is (`rounded_of_short`).

Not modelled: digits beyond ASCII.
-/
import Mathlib.Algebra.Order.Field.Power
import Mathlib.Data.List.DropRight
import Mathlib.Data.Rat.Lemmas
import Mathlib.Tactic.FieldSimp
import Mathlib.Tactic.IntervalCases
import Mathlib.Tactic.Positivity
import Mathlib.Tactic.Ring
import AskLake.Python.Url

namespace AskLake.Python

/-- A finite decimal: `(sign, coefficient, exponent)`. -/
structure Decimal where
  negative : Bool
  coefficient : Nat
  exponent : Int
  deriving DecidableEq, Repr

namespace Decimal

/-- The number without its sign. -/
def magnitude (d : Decimal) : ℚ := d.coefficient * (10 : ℚ) ^ d.exponent

def value (d : Decimal) : ℚ := if d.negative then -d.magnitude else d.magnitude

/-! ## `Decimal(text)` -/

inductive Numeral
  | finite (d : Decimal)
  /-- `NaN`, `sNaN` and `Infinity` -/
  | special
  deriving DecidableEq

/-- `MAX_EMAX` -/
def maxEmax : Int := 999999999999999999

/-- `MIN_ETINY` -/
def minEtiny : Int := -1999999999999999997

/-- The digits of a number. -/
def digits (n : Nat) : Chars := Nat.toDigits 10 n

def isSpecial (cs : Chars) : Bool :=
  let lower := cs.map Char.toLower
  let number := if lower.head? = some 's' then lower.tail else lower
  lower = "inf".toList || lower = "infinity".toList ||
    ("nan".toList.isPrefixOf number && (number.drop 3).all Char.isDigit)

def unsigned : Chars → Bool × Chars
  | '-' :: cs => (true, cs)
  | '+' :: cs => (false, cs)
  | cs => (false, cs)

/-- `(E[-+]?\d+)?` -/
def exponentOf : Chars → Option Int
  | [] => some 0
  | c :: cs =>
      if c = 'e' ∨ c = 'E' then
        let (negative, digits) := unsigned cs
        if digits ≠ [] ∧ digits.all Char.isDigit then
          some (if negative then -(Nat.ofDigitChars 10 digits 0 : Int)
            else Nat.ofDigitChars 10 digits 0)
        else none
      else none

/-- `(\.\d*)?`: the digits of the fraction, and what follows. -/
def fractionOf : Chars → Chars × Chars
  | '.' :: cs => (cs.takeWhile Char.isDigit, cs.dropWhile Char.isDigit)
  | cs => ([], cs)

/-- `Decimal(text)`; `InvalidOperation` is none. -/
def parse (text : String) : Option Numeral := do
  let (negative, cs) := unsigned ((stripChars text.toList).filter (· ≠ '_'))
  if isSpecial cs then some .special
  else
    let whole := cs.takeWhile Char.isDigit
    let (fraction, rest) := fractionOf (cs.dropWhile Char.isDigit)
    if whole ++ fraction = [] then none
    else
      let exponent ← exponentOf rest
      let coefficient := Nat.ofDigitChars 10 (whole ++ fraction) 0
      let exponent := exponent - fraction.length
      -- A numeral that no decimal can hold exactly is refused.
      if exponent < minEtiny ∨ maxEmax < exponent + (digits coefficient).length - 1 then none
      else some (.finite ⟨negative, coefficient, exponent⟩)

/-! ## Rounding -/

/-- The precision of the context. -/
def prec : Int := 28

def emax : Int := 999999

/-- `Emin - prec + 1` -/
def etiny : Int := -1000026

/-- `Emax - prec + 1` -/
def etop : Int := 999972

/-- The number without its last `places` digits, rounded half to even. -/
def roundHalfEven (n places : Nat) : Nat :=
  let half := 2 * (n % 10 ^ places)
  if 10 ^ places < half ∨ half = 10 ^ places ∧ n / 10 ^ places % 2 = 1 then n / 10 ^ places + 1
  else n / 10 ^ places

/-- `_fix(context)`: the decimal in the precision of the context; `Overflow` is none. -/
def fix (d : Decimal) : Option Decimal :=
  if d.coefficient = 0 then some ⟨d.negative, 0, min (max d.exponent etiny) emax⟩
  else
    let exponentMin := (digits d.coefficient).length + d.exponent - prec
    if etop < exponentMin then none
    else
      let exponentMin := max exponentMin etiny
      if d.exponent < exponentMin then
        let coefficient := roundHalfEven d.coefficient (exponentMin - d.exponent).toNat
        let rounded : Decimal :=
          if prec < (digits coefficient).length then
            ⟨d.negative, coefficient / 10, exponentMin + 1⟩
          else ⟨d.negative, coefficient, exponentMin⟩
        if etop < rounded.exponent then none else some rounded
      else some d

/-! ## `normalize` -/

/-- The zeros at the end of the coefficient, as far as the exponent may grow. -/
def stripZeros : Nat → Nat → Int → Nat × Int
  | 0, coefficient, exponent => (coefficient, exponent)
  | left + 1, coefficient, exponent =>
      if coefficient % 10 = 0 ∧ exponent < emax then
        stripZeros left (coefficient / 10) (exponent + 1)
      else (coefficient, exponent)

/-- What `normalize` does after the rounding. -/
def strip (d : Decimal) : Decimal :=
  if d.coefficient = 0 then ⟨d.negative, 0, 0⟩
  else
    ⟨d.negative, (stripZeros (digits d.coefficient).length d.coefficient d.exponent).1,
      (stripZeros (digits d.coefficient).length d.coefficient d.exponent).2⟩

def normalize (d : Decimal) : Option Decimal := (fix d).map strip

/-! ## `format(d, "f")` -/

/-- The digits with the point among them. -/
def plainDigits (coefficient : Nat) (exponent : Int) : Chars :=
  if 0 ≤ exponent then
    if coefficient = 0 then ['0']
    else digits coefficient ++ List.replicate exponent.toNat '0'
  else
    let places := (-exponent).toNat
    let padded :=
      List.replicate (places + 1 - (digits coefficient).length) '0' ++ digits coefficient
    padded.take (padded.length - places) ++ '.' :: padded.drop (padded.length - places)

def plain (d : Decimal) : Chars :=
  (if d.negative then ['-'] else []) ++ plainDigits d.coefficient d.exponent

/-! ## Reading a text back -/

/-- The number that digits with a point are. -/
def readDigits (cs : Chars) : ℚ :=
  let whole := cs.takeWhile (· ≠ '.')
  let fraction := (cs.dropWhile (· ≠ '.')).tail
  (Nat.ofDigitChars 10 (whole ++ fraction) 0 : ℚ) / 10 ^ fraction.length

def readText : Chars → ℚ
  | '-' :: cs => -readDigits cs
  | cs => readDigits cs

theorem isDigit_of_mem_digits {n : Nat} {c : Char} (h : c ∈ digits n) : c.isDigit = true :=
  Nat.isDigit_of_mem_toDigits (by decide) (by decide) h

theorem isDigit_of_mem_zeros {k n : Nat} {c : Char} (h : c ∈ List.replicate k '0' ++ digits n) :
    c.isDigit = true := by
  rcases List.mem_append.mp h with h | h
  · rw [(List.mem_replicate.mp h).2]
    rfl
  · exact isDigit_of_mem_digits h

theorem ne_point_of_isDigit {c : Char} (h : c.isDigit = true) : c ≠ '.' := by
  rintro rfl
  exact absurd h (by decide)

theorem readDigits_whole {cs : Chars} (h : ∀ c ∈ cs, c.isDigit = true) :
    readDigits cs = Nat.ofDigitChars 10 cs 0 := by
  have hall : ∀ c ∈ cs, decide (c ≠ '.') = true := fun c hc =>
    decide_eq_true (ne_point_of_isDigit (h c hc))
  unfold readDigits
  rw [List.takeWhile_eq_self_iff.mpr hall, List.dropWhile_eq_nil_iff.mpr hall]
  simp

theorem readDigits_point {whole fraction : Chars} (h : ∀ c ∈ whole, c.isDigit = true) :
    readDigits (whole ++ '.' :: fraction) =
      (Nat.ofDigitChars 10 (whole ++ fraction) 0 : ℚ) / 10 ^ fraction.length := by
  have hall : ∀ c ∈ whole, decide (c ≠ '.') = true := fun c hc =>
    decide_eq_true (ne_point_of_isDigit (h c hc))
  have htake : (whole ++ '.' :: fraction).takeWhile (· ≠ '.') = whole := by
    rw [List.takeWhile_append_of_pos hall]
    simp
  have hdrop : (whole ++ '.' :: fraction).dropWhile (· ≠ '.') = '.' :: fraction := by
    rw [List.dropWhile_append_of_pos hall]
    simp
  unfold readDigits
  rw [htake, hdrop]
  rfl

theorem ofDigitChars_zeros (k n : Nat) :
    Nat.ofDigitChars 10 (List.replicate k '0' ++ digits n) 0 = n := by
  rw [Nat.ofDigitChars_append, Nat.ofDigitChars_replicate_zero, Nat.mul_zero]
  exact Nat.ofDigitChars_ten_toDigits

/-- The digits with the point are the number. -/
theorem readDigits_plainDigits (coefficient : Nat) (exponent : Int) :
    readDigits (plainDigits coefficient exponent) = coefficient * (10 : ℚ) ^ exponent := by
  unfold plainDigits
  split
  · rename_i hexponent
    obtain ⟨k, rfl⟩ := Int.eq_ofNat_of_zero_le hexponent
    split
    · rename_i hzero
      rw [hzero, readDigits_whole (forall_of_all (by decide))]
      simp [Nat.ofDigitChars]
    · rw [readDigits_whole, Nat.ofDigitChars_append, Nat.ofDigitChars_replicate_zero]
      · rw [digits, Nat.ofDigitChars_ten_toDigits]
        simp [mul_comm]
      · intro c hc
        rcases List.mem_append.mp hc with hc | hc
        · exact isDigit_of_mem_digits hc
        · rw [(List.mem_replicate.mp hc).2]
          rfl
  · rename_i hexponent
    dsimp only
    generalize hplaces : (-exponent).toNat = places
    have hneg : exponent = -(places : Int) := by omega
    set padded := List.replicate (places + 1 - (digits coefficient).length) '0' ++
      digits coefficient with hpadded
    have hlength : places ≤ padded.length := by
      rw [hpadded, List.length_append, List.length_replicate]
      omega
    rw [readDigits_point fun c hc => isDigit_of_mem_zeros (List.mem_of_mem_take hc),
      List.take_append_drop, hpadded, ofDigitChars_zeros, ← hpadded, List.length_drop,
      (by omega : padded.length - (padded.length - places) = places), hneg, zpow_neg, zpow_natCast]
    rfl

theorem plainDigits_ne_nil (coefficient : Nat) (exponent : Int) :
    plainDigits coefficient exponent ≠ [] := by
  unfold plainDigits
  split
  · split
    · exact List.cons_ne_nil _ _
    · exact List.append_ne_nil_of_left_ne_nil Nat.toDigits_ne_nil _
  · exact List.append_ne_nil_of_right_ne_nil _ (List.cons_ne_nil _ _)

/-- Only digits and the point stand in the text of a number without a sign. -/
theorem mem_plainDigits {coefficient : Nat} {exponent : Int} {c : Char}
    (h : c ∈ plainDigits coefficient exponent) : c.isDigit = true ∨ c = '.' := by
  unfold plainDigits at h
  split at h
  · split at h
    · rw [List.mem_singleton.mp h]
      exact Or.inl rfl
    · rcases List.mem_append.mp h with h | h
      · exact Or.inl (isDigit_of_mem_digits h)
      · rw [(List.mem_replicate.mp h).2]
        exact Or.inl rfl
  · rcases List.mem_append.mp h with h | h
    · exact Or.inl (isDigit_of_mem_zeros (List.mem_of_mem_take h))
    · rcases List.mem_cons.mp h with rfl | h
      · exact Or.inr rfl
      · exact Or.inl (isDigit_of_mem_zeros (List.mem_of_mem_drop h))

theorem minus_not_mem_plainDigits {coefficient : Nat} {exponent : Int} :
    '-' ∉ plainDigits coefficient exponent := by
  intro h
  rcases mem_plainDigits h with h | h
  · exact absurd h (by decide)
  · exact absurd h (by decide)

theorem readText_of_not_minus {cs : Chars} (h : '-' ∉ cs) : readText cs = readDigits cs := by
  unfold readText
  split
  · exact absurd List.mem_cons_self h
  · rfl

/-- The text of a decimal is its number. -/
theorem readText_plain (d : Decimal) : readText d.plain = d.value := by
  unfold plain value magnitude
  cases d.negative with
  | true =>
      show -readDigits (plainDigits d.coefficient d.exponent) = _
      rw [readDigits_plainDigits]
      rfl
  | false =>
      show readText (plainDigits d.coefficient d.exponent) = _
      rw [readText_of_not_minus minus_not_mem_plainDigits, readDigits_plainDigits]
      rfl

/-! ## Rounding and stripping -/

theorem stripZeros_spec (left coefficient : Nat) (exponent : Int)
    (hleft : coefficient < 10 ^ left) (hpos : coefficient ≠ 0) :
    (stripZeros left coefficient exponent).1 ≠ 0 ∧
      ((stripZeros left coefficient exponent).2 < 0 →
        (stripZeros left coefficient exponent).1 % 10 ≠ 0) ∧
      ((stripZeros left coefficient exponent).1 : ℚ) *
          (10 : ℚ) ^ (stripZeros left coefficient exponent).2 =
        coefficient * (10 : ℚ) ^ exponent := by
  induction left generalizing coefficient exponent with
  | zero => exact absurd (Nat.lt_one_iff.mp hleft) hpos
  | succ left ih =>
      unfold stripZeros
      split
      · rename_i hzero
        have hten : 10 * (coefficient / 10) = coefficient :=
          Nat.mul_div_cancel' (Nat.dvd_of_mod_eq_zero hzero.1)
        rw [Nat.pow_succ] at hleft
        obtain ⟨h₁, h₂, h₃⟩ := ih (coefficient / 10) (exponent + 1) (by omega) (by omega)
        refine ⟨h₁, h₂, h₃.trans ?_⟩
        have hcast : (coefficient : ℚ) = 10 * ((coefficient / 10 : Nat) : ℚ) := by
          rw [← Nat.cast_ofNat (R := ℚ), ← Nat.cast_mul, hten]
        rw [hcast, zpow_add_one₀ (by norm_num)]
        ring
      · rename_i hstop
        refine ⟨hpos, fun hneg hzero => hstop ⟨hzero, ?_⟩, rfl⟩
        unfold emax
        dsimp only at hneg
        omega

/-- What `strip` leaves: no zero is at the end of a fraction, and zero has one form. -/
structure Stripped (d : Decimal) : Prop where
  zero : d.coefficient = 0 → d.exponent = 0
  fraction : d.exponent < 0 → d.coefficient % 10 ≠ 0

theorem strip_spec (d : Decimal) : Stripped d.strip ∧ d.strip.value = d.value := by
  by_cases hzero : d.coefficient = 0
  · have hstrip : d.strip = ⟨d.negative, 0, 0⟩ := if_pos hzero
    rw [hstrip]
    refine ⟨⟨fun _ => rfl, fun h => absurd h (Int.lt_irrefl 0)⟩, ?_⟩
    unfold value magnitude
    rw [hzero]
    simp
  · obtain ⟨h₁, h₂, h₃⟩ := stripZeros_spec (digits d.coefficient).length d.coefficient d.exponent
      ((Nat.length_toDigits_le_iff (by decide) Nat.length_toDigits_pos).mp (Nat.le_refl _)) hzero
    have hstrip : d.strip = ⟨d.negative,
      (stripZeros (digits d.coefficient).length d.coefficient d.exponent).1,
      (stripZeros (digits d.coefficient).length d.coefficient d.exponent).2⟩ := if_neg hzero
    rw [hstrip]
    refine ⟨⟨fun h => absurd h h₁, h₂⟩, ?_⟩
    unfold value magnitude
    rw [h₃]

/-! ## One text for one number -/

theorem magnitude_pos {d : Decimal} (h : d.coefficient ≠ 0) : 0 < d.magnitude := by
  unfold magnitude
  have : (0 : ℚ) < d.coefficient := Nat.cast_pos.mpr (Nat.pos_of_ne_zero h)
  positivity

theorem value_eq_zero {d : Decimal} : d.value = 0 ↔ d.coefficient = 0 := by
  constructor
  · intro h
    refine (Nat.eq_zero_or_pos d.coefficient).resolve_right fun hpos => ?_
    have hne : d.magnitude ≠ 0 := ne_of_gt (magnitude_pos (Nat.ne_of_gt hpos))
    unfold value at h
    split at h
    · exact hne (neg_eq_zero.mp h)
    · exact hne h
  · intro h
    unfold value magnitude
    rw [h]
    simp

theorem digits_mul_pow {n : Nat} (k : Nat) (h : n ≠ 0) :
    digits (n * 10 ^ k) = digits n ++ List.replicate k '0' := by
  induction k with
  | zero => simp
  | succ k ih =>
      have hpos : 0 < n * 10 ^ k := Nat.mul_pos (Nat.pos_of_ne_zero h) (Nat.pow_pos (by decide))
      have happend := @Nat.toDigits_append_toDigits 10 (n * 10 ^ k) 0 (by decide) hpos (by decide)
      rw [(by rw [Nat.pow_succ]; ring : n * 10 ^ (k + 1) = 10 * (n * 10 ^ k) + 0)]
      rw [List.replicate_succ', ← List.append_assoc, ← ih]
      exact happend.symm

/-- Two stripped numbers that are equal have the same digits. -/
theorem plainDigits_eq {c c' : Nat} {e e' : Int} (hle : e ≤ e') (h₀ : c ≠ 0) (h₀' : c' ≠ 0)
    (hfraction : e < 0 → c % 10 ≠ 0) (h : (c : ℚ) * (10 : ℚ) ^ e = c' * (10 : ℚ) ^ e') :
    plainDigits c e = plainDigits c' e' := by
  obtain ⟨k, hk⟩ := Int.eq_ofNat_of_zero_le (show 0 ≤ e' - e by omega)
  obtain rfl : e' = e + k := by omega
  have hpow : (10 : ℚ) ^ e ≠ 0 := zpow_ne_zero _ (by norm_num)
  have hc : c = c' * 10 ^ k := by
    rw [zpow_add₀ (by norm_num), zpow_natCast] at h
    have : (c : ℚ) = c' * 10 ^ k := mul_right_cancel₀ hpow (h.trans (by ring))
    exact_mod_cast this
  by_cases hneg : e < 0
  · have hmod := hfraction hneg
    cases k with
    | zero =>
        rw [hc]
        simp
    | succ k =>
        refine absurd ?_ hmod
        rw [hc, Nat.pow_succ, ← Nat.mul_assoc, Nat.mul_mod_left]
  · have he : 0 ≤ e := Int.not_lt.mp hneg
    unfold plainDigits
    rw [if_pos he, if_neg h₀, if_pos (by omega), if_neg h₀', hc, digits_mul_pow k h₀',
      List.append_assoc, ← List.replicate_add, (by omega : (e + k).toNat = k + e.toNat)]

theorem value_neg_iff {d : Decimal} (h : d.coefficient ≠ 0) : d.value < 0 ↔ d.negative = true := by
  have hpos := magnitude_pos h
  unfold value
  split
  · rename_i hneg
    exact ⟨fun _ => hneg, fun _ => neg_neg_of_pos hpos⟩
  · rename_i hneg
    exact ⟨fun hlt => absurd hlt (not_lt_of_gt hpos), fun h => absurd h hneg⟩

theorem sign_magnitude_eq {a b : Decimal} (ha : a.coefficient ≠ 0) (hb : b.coefficient ≠ 0)
    (h : a.value = b.value) : a.negative = b.negative ∧ a.magnitude = b.magnitude := by
  have hsign : a.negative = b.negative := by
    rw [Bool.eq_iff_iff, ← value_neg_iff ha, ← value_neg_iff hb, h]
  refine ⟨hsign, ?_⟩
  unfold value at h
  rw [hsign] at h
  split at h
  · exact neg_inj.mp h
  · exact h

theorem plain_eq_of_value_eq {a b : Decimal} (ha : Stripped a) (hb : Stripped b)
    (ha₀ : a.coefficient ≠ 0) (h : a.value = b.value) : a.plain = b.plain := by
  have hb₀ : b.coefficient ≠ 0 := fun hzero =>
    ha₀ (value_eq_zero.mp (h.trans (value_eq_zero.mpr hzero)))
  obtain ⟨hsign, hmagnitude⟩ := sign_magnitude_eq ha₀ hb₀ h
  unfold plain
  rw [hsign]
  refine congrArg _ ?_
  rcases Int.le_total a.exponent b.exponent with hle | hle
  · exact plainDigits_eq hle ha₀ hb₀ ha.fraction hmagnitude
  · exact (plainDigits_eq hle hb₀ ha₀ hb.fraction hmagnitude.symm).symm

/-! ## What the precision holds -/

/-- The number that is left in the precision of the context. -/
def rounded (d : Decimal) : Option ℚ := (fix d).map value

theorem normalize_value {d n : Decimal} (h : normalize d = some n) :
    Stripped n ∧ rounded d = some n.value := by
  unfold normalize at h
  obtain ⟨r, hr, rfl⟩ := Option.map_eq_some_iff.mp h
  obtain ⟨hstripped, hvalue⟩ := strip_spec r
  refine ⟨hstripped, ?_⟩
  rw [rounded, hr, Option.map_some, hvalue]

/-- At most 28 digits, and an exponent within the bounds of the context. -/
structure Short (d : Decimal) : Prop where
  digits : ((digits d.coefficient).length : Int) ≤ prec
  small : etiny ≤ d.exponent
  large : (Decimal.digits d.coefficient).length + d.exponent - 1 ≤ emax

/-- A short decimal is not rounded. -/
theorem rounded_of_short {d : Decimal} (h : Short d) : rounded d = some d.value := by
  obtain ⟨hdigits, hsmall, hlarge⟩ := h
  unfold rounded fix
  split
  · rename_i hzero
    refine congrArg some ?_
    rw [value_eq_zero.mpr hzero]
    exact value_eq_zero.mpr rfl
  · unfold prec at hdigits
    unfold emax at hlarge
    rw [if_neg (by unfold etop prec; omega)]
    dsimp only
    rw [if_neg (by unfold prec; omega)]
    rfl

/-! ## Rounding is of the number

The digits of `n * 10 ^ k` are those of `n` and `k` zeros, so that the place to which a number is
rounded does not depend on how many zeros it is written with. -/

theorem length_digits_mul_pow {n : Nat} (k : Nat) (h : n ≠ 0) :
    (digits (n * 10 ^ k)).length = (digits n).length + k := by
  rw [digits_mul_pow k h, List.length_append, List.length_replicate]

theorem roundHalfEven_mul_pow (n places k : Nat) :
    roundHalfEven (n * 10 ^ k) (places + k) = roundHalfEven n places := by
  have hpos : 0 < 10 ^ k := Nat.pow_pos (by decide)
  unfold roundHalfEven
  rw [Nat.pow_add, Nat.mul_div_mul_right _ _ hpos, Nat.mul_mod_mul_right, ← Nat.mul_assoc]
  dsimp only
  simp only [Nat.mul_lt_mul_right hpos, Nat.mul_left_inj (Nat.ne_of_gt hpos)]

theorem roundHalfEven_exact (n places : Nat) : roundHalfEven (n * 10 ^ places) places = n := by
  have hpos : 0 < 10 ^ places := Nat.pow_pos (by decide)
  unfold roundHalfEven
  rw [Nat.mul_mod_left, Nat.mul_div_cancel _ hpos]
  refine if_neg ?_
  rintro (h | ⟨h, -⟩)
  · exact Nat.not_lt_zero _ h
  · exact Nat.ne_of_gt hpos h.symm

/-- Where a number of `length` digits is cut. -/
def lastPlace (length exponent : Int) : Int := max (length + exponent - prec) etiny

theorem fix_of_ne_zero {d : Decimal} (h : d.coefficient ≠ 0) :
    fix d =
      if etop < (digits d.coefficient).length + d.exponent - prec then none
      else if d.exponent < lastPlace (digits d.coefficient).length d.exponent then
        let coefficient := roundHalfEven d.coefficient
          (lastPlace (digits d.coefficient).length d.exponent - d.exponent).toNat
        let rounded : Decimal :=
          if prec < (digits coefficient).length then
            ⟨d.negative, coefficient / 10,
              lastPlace (digits d.coefficient).length d.exponent + 1⟩
          else ⟨d.negative, coefficient, lastPlace (digits d.coefficient).length d.exponent⟩
        if etop < rounded.exponent then none else some rounded
      else some d := by
  unfold fix
  rw [if_neg h]
  rfl

theorem rounded_shift (negative : Bool) {coefficient : Nat} (exponent : Int) (k : Nat)
    (h : coefficient ≠ 0) :
    rounded ⟨negative, coefficient * 10 ^ k, exponent - k⟩ =
      rounded ⟨negative, coefficient, exponent⟩ := by
  have hpos : 0 < 10 ^ k := Nat.pow_pos (by decide)
  have hne : coefficient * 10 ^ k ≠ 0 := Nat.mul_ne_zero h (Nat.ne_of_gt hpos)
  unfold rounded
  rw [@fix_of_ne_zero ⟨negative, coefficient, exponent⟩ h,
    @fix_of_ne_zero ⟨negative, coefficient * 10 ^ k, exponent - k⟩ hne]
  dsimp only
  rw [length_digits_mul_pow k h]
  generalize hlength : (digits coefficient).length = length
  rw [(by omega : ((length + k : Nat) : Int) + (exponent - k) - prec = length + exponent - prec),
    (by unfold lastPlace; omega :
      lastPlace ((length + k : Nat) : Int) (exponent - k) = lastPlace length exponent)]
  generalize hplace : lastPlace length exponent = place
  split
  · rfl
  · rename_i hover
    have hplace_le : place ≤ etop := by
      rw [← hplace]
      unfold lastPlace etiny etop at *
      omega
    by_cases hcut : exponent < place
    · -- Both are cut, the longer one by `k` places more.
      rw [if_pos (by omega), if_pos hcut,
        (by omega : (place - (exponent - (k : Int))).toNat = (place - exponent).toNat + k),
        roundHalfEven_mul_pow]
    · rw [if_neg hcut]
      by_cases hlong : exponent - k < place
      · -- Only zeros are cut.
        obtain ⟨m, hm⟩ := Int.eq_ofNat_of_zero_le (show 0 ≤ exponent - place by omega)
        have hmk : m ≤ k := by omega
        have hsplit : coefficient * 10 ^ k = coefficient * 10 ^ m * 10 ^ (k - m) := by
          rw [Nat.mul_assoc, ← Nat.pow_add, Nat.add_sub_cancel' hmk]
        have hfits : ¬ prec < ((digits (coefficient * 10 ^ m)).length : Int) := by
          rw [length_digits_mul_pow m h, hlength]
          unfold lastPlace at hplace
          omega
        rw [if_pos hlong, (by omega : (place - (exponent - (k : Int))).toNat = k - m), hsplit,
          roundHalfEven_exact, if_neg hfits, if_neg (Int.not_lt.mpr hplace_le)]
        have hexponent : exponent = place + m := by omega
        refine congrArg some ?_
        unfold value magnitude
        dsimp only
        rw [hexponent, zpow_add₀ (by norm_num), zpow_natCast, Nat.cast_mul, Nat.cast_pow]
        push_cast
        rw [mul_assoc, mul_comm ((10 : ℚ) ^ m)]
      · rw [if_neg hlong]
        refine congrArg some ?_
        unfold value magnitude
        dsimp only
        rw [zpow_sub₀ (by norm_num), zpow_natCast, Nat.cast_mul, Nat.cast_pow]
        push_cast
        have hten : (10 : ℚ) ^ k ≠ 0 := pow_ne_zero _ (by norm_num)
        rw [(by field_simp : (coefficient : ℚ) * 10 ^ k * (10 ^ exponent / 10 ^ k) =
          coefficient * 10 ^ exponent)]

theorem rounded_of_zero {d : Decimal} (h : d.coefficient = 0) : rounded d = some 0 := by
  unfold rounded fix
  rw [if_pos h]
  exact congrArg some (value_eq_zero.mpr rfl)

/-- Of two equal numbers the one with the greater exponent is the other one with fewer zeros. -/
theorem rounded_eq_of_le {a b : Decimal} (hle : a.exponent ≤ b.exponent) (ha : a.coefficient ≠ 0)
    (hsign : a.negative = b.negative) (hb : b.coefficient ≠ 0) (h : a.magnitude = b.magnitude) :
    rounded a = rounded b := by
  obtain ⟨negative, c, e⟩ := a
  obtain ⟨negative', c', e'⟩ := b
  obtain ⟨k, hk⟩ := Int.eq_ofNat_of_zero_le (show 0 ≤ e' - e by dsimp only at hle; omega)
  obtain rfl : e' = e + k := by omega
  cases hsign
  unfold magnitude at h
  dsimp only at h
  rw [zpow_add₀ (by norm_num), zpow_natCast] at h
  have hpow : (10 : ℚ) ^ e ≠ 0 := zpow_ne_zero _ (by norm_num)
  have hc : c = c' * 10 ^ k := by
    have : (c : ℚ) = c' * 10 ^ k := mul_right_cancel₀ hpow (h.trans (by ring))
    exact_mod_cast this
  rw [← rounded_shift negative (e + k) k hb, ← hc, Int.add_sub_cancel]

/-- Equal numbers are rounded to one number, however they are written. -/
theorem rounded_eq_of_value_eq {a b : Decimal} (h : a.value = b.value) : rounded a = rounded b := by
  by_cases ha : a.coefficient = 0
  · have hb : b.coefficient = 0 := value_eq_zero.mp (h.symm.trans (value_eq_zero.mpr ha))
    rw [rounded_of_zero ha, rounded_of_zero hb]
  · have hb : b.coefficient ≠ 0 := fun hzero =>
      ha (value_eq_zero.mp (h.trans (value_eq_zero.mpr hzero)))
    obtain ⟨hsign, hmagnitude⟩ := sign_magnitude_eq ha hb h
    rcases Int.le_total a.exponent b.exponent with hle | hle
    · exact rounded_eq_of_le hle ha hsign hb hmagnitude
    · exact (rounded_eq_of_le hle hb hsign.symm ha hmagnitude.symm).symm

/-! ## The last digit -/

theorem getLast_digits (n : Nat) : (digits n).getLast? = some (n % 10).digitChar := by
  unfold digits
  rw [Nat.toDigits_eq_if (by decide)]
  split
  · rename_i h
    rw [Nat.mod_eq_of_lt h]
    rfl
  · rw [List.getLast?_append]
    rfl

theorem getLast_plainDigits {coefficient : Nat} {exponent : Int} (h : exponent < 0) :
    (plainDigits coefficient exponent).getLast? = some (coefficient % 10).digitChar := by
  unfold plainDigits
  rw [if_neg (Int.not_le.mpr h)]
  dsimp only
  have hpos : 0 < (-exponent).toNat := by omega
  generalize (-exponent).toNat = places at *
  have hlength : places <
      (List.replicate (places + 1 - (digits coefficient).length) '0' ++
        digits coefficient).length := by
    rw [List.length_append, List.length_replicate]
    omega
  have hlast : (List.replicate (places + 1 - (digits coefficient).length) '0' ++
      digits coefficient).getLast? = some (coefficient % 10).digitChar := by
    rw [List.getLast?_append, getLast_digits]
    rfl
  generalize List.replicate (places + 1 - (digits coefficient).length) '0' ++
    digits coefficient = padded at *
  rw [List.getLast?_append, List.getLast?_cons, List.getLast?_drop,
    if_neg (by omega), hlast]
  rfl

theorem digitChar_ne_zero {n : Nat} (h : n % 10 ≠ 0) :
    (n % 10).digitChar ≠ '0' ∧ (n % 10).digitChar ≠ '.' := by
  have hlt : n % 10 < 10 := Nat.mod_lt n (by decide)
  generalize n % 10 = digit at *
  interval_cases digit <;> first | exact absurd rfl h | decide

theorem point_not_mem_plainDigits {coefficient : Nat} {exponent : Int} (h : 0 ≤ exponent) :
    '.' ∉ plainDigits coefficient exponent := by
  unfold plainDigits
  rw [if_pos h]
  split
  · decide
  · intro hmem
    rcases List.mem_append.mp hmem with hmem | hmem
    · exact absurd (isDigit_of_mem_digits hmem) (by decide)
    · exact absurd (List.mem_replicate.mp hmem).2 (by decide)

end Decimal

end AskLake.Python
