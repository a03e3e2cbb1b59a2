import GoSchema.Decimal.Shortest
import GoSchema.Proofs.FieldNumbers
import GoSchema.Proofs.JsonText
import Mathlib.Algebra.Order.Field.Rat
import Mathlib.Data.Nat.Digits.Lemmas
import Mathlib.Tactic.FieldSimp
import Mathlib.Tactic.Linarith
import Mathlib.Tactic.NormNum
import Mathlib.Tactic.Positivity
import Mathlib.Tactic.Ring

/-!
# Shortest decimals

The text of a finite double is a decimal that lies between the midpoints to its neighbours. The search for its digits
always ends with such a decimal: with 17 digits two neighbouring decimals are nearer to each other than the two midpoints.
Between two neighbouring doubles there is one midpoint, which belongs to the one with the even mantissa, so no decimal lies
in the intervals of two doubles. Hence the text of a finite double is that of no other (`Decimal.text_inj`).

## What is proved

* `Interval.eq_of_holds`: no number lies in the intervals of two doubles.
* `Interval.candidate_isSome` and `Interval.search_spec`: with 17 digits there is a candidate, so the search ends
  with one of at most 17 digits.
* `Decimal.holds_shortest`: the digits that are found, with their point, lie in the interval of the double.
* `Decimal.Writes.unique` and `Decimal.text_inj`: a text writes one number, and so the text of a finite double is
  that of no other.

That no shorter decimal lies in the interval is not stated, nor that the digits are the nearest ones: for telling
doubles apart neither is needed. The two tests of a candidate are there in the definitions.
-/

namespace GoSchema

/-! ### Neighbours -/

namespace Double

/-- The mantissa of a finite double with this magnitude. -/
def mantissaOf (m : ℕ) : ℕ := if m < implicitBit then m else implicitBit + m % implicitBit

/-- The exponent of two that goes with it. -/
def exponentOf (m : ℕ) : ℤ := if m < implicitBit then -1074 else (m / implicitBit : ℕ) - 1075

/-- The exact value of a finite double with this magnitude. -/
def valueOf (m : ℕ) : ℚ := mantissaOf m * 2 ^ exponentOf m

/-- The midpoint to the double above. -/
def midpointOf (m : ℕ) : ℚ := valueOf m + 2 ^ (exponentOf m - 1)

theorem implicitBit_eq : implicitBit = 4503599627370496 := rfl

theorem two_zpow_pos (e : ℤ) : (0 : ℚ) < 2 ^ e := zpow_pos (by norm_num) e

theorem two_zpow_succ (e : ℤ) : (2 : ℚ) ^ (e + 1) = 2 * 2 ^ e := by
  rw [zpow_add_one₀ (by norm_num), mul_comm]

theorem two_zpow_pred (e : ℤ) : (2 : ℚ) ^ e = 2 * 2 ^ (e - 1) := by
  rw [← two_zpow_succ, sub_add_cancel]

theorem two_zpow_quarter (e : ℤ) : (2 : ℚ) ^ e = 4 * 2 ^ (e - 2) := by
  rw [two_zpow_pred e, two_zpow_pred (e - 1), show e - 1 - 1 = e - 2 by ring]
  ring

theorem mantissaOf_of_lt {m : ℕ} (h : m < implicitBit) : mantissaOf m = m ∧ exponentOf m = -1074 :=
  ⟨if_pos h, if_pos h⟩

theorem mantissaOf_of_ge {m : ℕ} (h : implicitBit ≤ m) :
    mantissaOf m = implicitBit + m % implicitBit ∧ exponentOf m = (m / implicitBit : ℕ) - 1075 :=
  ⟨if_neg (Nat.not_lt.mpr h), if_neg (Nat.not_lt.mpr h)⟩

/-- How mantissa and exponent go on: the mantissa grows by one, or the next binade begins. -/
theorem mantissaOf_succ (m : ℕ) :
    mantissaOf (m + 1) = mantissaOf m + 1 ∧ exponentOf (m + 1) = exponentOf m ∨
      mantissaOf (m + 1) = implicitBit ∧ mantissaOf m + 1 = 2 * implicitBit ∧ exponentOf (m + 1) = exponentOf m + 1 := by
  rcases Nat.lt_or_ge m implicitBit with h | h <;> rcases Nat.lt_or_ge (m + 1) implicitBit with h' | h'
  · rw [(mantissaOf_of_lt h).1, (mantissaOf_of_lt h).2, (mantissaOf_of_lt h').1, (mantissaOf_of_lt h').2]
    exact .inl ⟨rfl, rfl⟩
  · rw [(mantissaOf_of_lt h).1, (mantissaOf_of_lt h).2, (mantissaOf_of_ge h').1, (mantissaOf_of_ge h').2]
    rw [implicitBit_eq] at *
    omega
  · omega
  · rw [(mantissaOf_of_ge h).1, (mantissaOf_of_ge h).2, (mantissaOf_of_ge h').1, (mantissaOf_of_ge h').2]
    rw [implicitBit_eq] at *
    omega

theorem exponentOf_ge (m : ℕ) : -1074 ≤ exponentOf m := by
  rcases Nat.lt_or_ge m implicitBit with h | h
  · rw [(mantissaOf_of_lt h).2]
  · rw [(mantissaOf_of_ge h).2]
    rw [implicitBit_eq] at *
    omega

/-- A mantissa is short only at the least exponent. -/
theorem implicitBit_le_mantissaOf {m : ℕ} (h : exponentOf m ≠ -1074) : implicitBit ≤ mantissaOf m := by
  rcases Nat.lt_or_ge m implicitBit with hm | hm
  · exact absurd (mantissaOf_of_lt hm).2 h
  · rw [(mantissaOf_of_ge hm).1]
    exact Nat.le_add_right _ _

theorem mantissaOf_lt (m : ℕ) : mantissaOf m < 2 * implicitBit := by
  rcases Nat.lt_or_ge m implicitBit with h | h
  · rw [(mantissaOf_of_lt h).1]
    omega
  · rw [(mantissaOf_of_ge h).1, implicitBit_eq]
    omega

theorem valueOf_succ (m : ℕ) : valueOf (m + 1) = valueOf m + 2 ^ exponentOf m := by
  unfold valueOf
  rcases mantissaOf_succ m with ⟨hmantissa, hexponent⟩ | ⟨hnext, hlast, hexponent⟩
  · rw [hmantissa, hexponent]
    push_cast
    ring
  · have hlast' : (mantissaOf m : ℚ) = 2 * implicitBit - 1 := by
      rw [eq_sub_iff_add_eq]
      exact_mod_cast hlast
    rw [hnext, hexponent, hlast', two_zpow_succ]
    ring

theorem valueOf_strictMono : StrictMono valueOf :=
  strictMono_nat_of_lt_succ fun m => by
    rw [valueOf_succ]
    exact lt_add_of_pos_right _ (two_zpow_pos _)

theorem valueOf_lt_midpointOf (m : ℕ) : valueOf m < midpointOf m :=
  lt_add_of_pos_right _ (two_zpow_pos _)

theorem midpointOf_lt_valueOf (m : ℕ) : midpointOf m < valueOf (m + 1) := by
  rw [valueOf_succ, midpointOf, two_zpow_pred (exponentOf m)]
  linarith [two_zpow_pos (exponentOf m - 1)]

theorem midpointOf_strictMono : StrictMono midpointOf :=
  strictMono_nat_of_lt_succ fun m => (midpointOf_lt_valueOf m).trans (valueOf_lt_midpointOf (m + 1))

theorem valueOf_succ_ge (m : ℕ) : (10 : ℚ) ^ (-331 : ℤ) ≤ valueOf (m + 1) := by
  have hleast : valueOf 1 = (2 ^ 1074)⁻¹ := by
    obtain ⟨hmantissa, hexponent⟩ := @mantissaOf_of_lt 1 (by decide)
    rw [valueOf, hmantissa, hexponent, zpow_neg, Nat.cast_one, one_mul]
    rfl
  have hpow : (2 : ℚ) ^ 1074 ≤ 10 ^ 331 := by
    exact_mod_cast (by decide +kernel : 2 ^ 1074 ≤ 10 ^ 331)
  calc (10 : ℚ) ^ (-331 : ℤ) = (10 ^ 331)⁻¹ := by rw [zpow_neg]; rfl
    _ ≤ (2 ^ 1074)⁻¹ := inv_anti₀ (by positivity) hpow
    _ = valueOf 1 := hleast.symm
    _ ≤ valueOf (m + 1) := valueOf_strictMono.monotone (Nat.succ_le_succ (Nat.zero_le m))

theorem valueOf_lt {m : ℕ} (h : m < infiniteMagnitude) : valueOf m < 10 ^ (370 : ℤ) := by
  have hgreatest : valueOf infiniteMagnitude = 2 ^ 1024 := by
    obtain ⟨hmantissa, hexponent⟩ := @mantissaOf_of_ge infiniteMagnitude (by decide)
    have hfirst : implicitBit + infiniteMagnitude % implicitBit = 2 ^ 52 := by decide
    have hbinade : ((infiniteMagnitude / implicitBit : ℕ) : ℤ) - 1075 = (972 : ℕ) := by decide
    rw [valueOf, hmantissa, hexponent, hfirst, hbinade, zpow_natCast, Nat.cast_pow, Nat.cast_ofNat, ← pow_add]
  have hpow : (2 : ℚ) ^ 1024 ≤ 10 ^ 370 := by
    exact_mod_cast (by decide +kernel : 2 ^ 1024 ≤ 10 ^ 370)
  calc valueOf m < valueOf infiniteMagnitude := valueOf_strictMono h
    _ = 2 ^ 1024 := hgreatest
    _ ≤ 10 ^ 370 := hpow
    _ = 10 ^ (370 : ℤ) := rfl

/-- Neighbouring mantissas are not both even. -/
theorem mantissaOf_parity (m : ℕ) : mantissaOf m % 2 = m % 2 := by
  rcases Nat.lt_or_ge m implicitBit with h | h
  · rw [(mantissaOf_of_lt h).1]
  · rw [(mantissaOf_of_ge h).1, implicitBit_eq]
    omega

end Double

/-! ### Intervals -/

namespace Double

theorem scaleUp_div (x : ℕ) (e : ℤ) : (scaleUp x e : ℚ) / scaleUp 1 (-e) = x * 2 ^ e := by
  unfold scaleUp
  rw [Nat.shiftLeft_eq, Nat.shiftLeft_eq, one_mul]
  rcases le_total 0 e with h | h
  · obtain ⟨k, rfl⟩ := Int.eq_ofNat_of_zero_le h
    simp
  · obtain ⟨k, hk⟩ := Int.eq_ofNat_of_zero_le (neg_nonneg.mpr h)
    obtain rfl : e = -(k : ℤ) := by omega
    simp [zpow_neg, div_eq_mul_inv]

theorem scaleUp_pos {x : ℕ} (h : 0 < x) (e : ℤ) : 0 < scaleUp x e := by
  rw [scaleUp, Nat.shiftLeft_eq]
  positivity

/-- How much of four times a mantissa lies between the double and the midpoint below: the double below is twice as near
below the least mantissa of a binade. -/
def belowOf (m : ℕ) : ℕ := if mantissaOf m = implicitBit ∧ exponentOf m ≠ -1074 then 1 else 2

theorem midpointOf_eq (m : ℕ) :
    midpointOf m = ((4 * mantissaOf (m + 1) - belowOf (m + 1) : ℕ) : ℚ) * 2 ^ (exponentOf (m + 1) - 2) := by
  unfold midpointOf valueOf
  rcases mantissaOf_succ m with ⟨hmantissa, hexponent⟩ | ⟨hnext, hlast, hexponent⟩
  · have hbelow : belowOf (m + 1) = 2 := if_neg fun ⟨hleast, hne⟩ => by
      have := implicitBit_le_mantissaOf (hexponent ▸ hne)
      omega
    have hsub : 4 * (mantissaOf m + 1) - 2 = 4 * mantissaOf m + 2 := by omega
    rw [hbelow, hmantissa, hexponent, hsub, two_zpow_quarter (exponentOf m), two_zpow_pred (exponentOf m - 1),
      show exponentOf m - 1 - 1 = exponentOf m - 2 by ring]
    push_cast
    ring
  · have hbelow : belowOf (m + 1) = 1 := if_pos ⟨hnext, by have := exponentOf_ge m; omega⟩
    have hlast' : (mantissaOf m : ℚ) = 2 * implicitBit - 1 := by
      rw [eq_sub_iff_add_eq]
      exact_mod_cast hlast
    have hpos : 1 ≤ 4 * implicitBit := by decide
    rw [hbelow, hnext, hexponent, hlast', two_zpow_pred (exponentOf m),
      show exponentOf m + 1 - 2 = exponentOf m - 1 by ring, Nat.cast_sub hpos]
    push_cast
    ring

/-- The distance of the midpoints around a double is more than a unit in the 17th digit. -/
theorem width_lt (m : ℕ) : valueOf (m + 1) < 10 ^ 16 * (midpointOf (m + 1) - midpointOf m) := by
  have hmantissa : 1 ≤ mantissaOf (m + 1) := by
    rcases mantissaOf_succ m with ⟨h, -⟩ | ⟨h, -⟩
    · omega
    · rw [h]
      decide
  obtain ⟨hbelow, hratio⟩ : belowOf (m + 1) ≤ 4 * mantissaOf (m + 1) ∧
      4 * mantissaOf (m + 1) < 10 ^ 16 * (2 + belowOf (m + 1)) := by
    have hlt := mantissaOf_lt (m + 1)
    unfold belowOf
    split_ifs with hleast
    · rw [hleast.1]
      decide
    · rw [implicitBit_eq] at hlt
      omega
  have hratio' : (4 : ℚ) * mantissaOf (m + 1) < 10 ^ 16 * (2 + belowOf (m + 1)) := by exact_mod_cast hratio
  have hunit := two_zpow_pos (exponentOf (m + 1) - 2)
  rw [midpointOf_eq m, midpointOf, valueOf, two_zpow_quarter (exponentOf (m + 1)),
    two_zpow_pred (exponentOf (m + 1) - 1), show ∀ e : ℤ, e - 1 - 1 = e - 2 by intro e; ring, Nat.cast_sub hbelow]
  push_cast
  nlinarith

end Double

theorem ten_zpow (e : ℤ) : (10 : ℚ) ^ e = 10 ^ e.toNat / 10 ^ (-e).toNat := by
  rcases le_total 0 e with h | h
  · obtain ⟨k, rfl⟩ := Int.eq_ofNat_of_zero_le h
    simp
  · obtain ⟨k, hk⟩ := Int.eq_ofNat_of_zero_le (neg_nonneg.mpr h)
    obtain rfl : e = -(k : ℤ) := by omega
    simp

namespace Decimal

namespace Interval

/-- The numbers of an interval. -/
def Holds (i : Interval) (x : ℚ) : Prop :=
  if i.closed then (i.low : ℚ) / i.den ≤ x ∧ x ≤ (i.high : ℚ) / i.den
  else (i.low : ℚ) / i.den < x ∧ x < (i.high : ℚ) / i.den

theorem contains_iff {i : Interval} (hden : 0 < i.den) (n : ℕ) (e : ℤ) :
    i.contains n e = true ↔ i.Holds (n * 10 ^ e) := by
  have hscale : (0 : ℚ) < 10 ^ (-e).toNat := by positivity
  have hden' : (0 : ℚ) < i.den := by exact_mod_cast hden
  have hvalue : (n : ℚ) * 10 ^ e = (n * 10 ^ e.toNat) / 10 ^ (-e).toNat := by rw [ten_zpow, mul_div_assoc]
  unfold contains Holds
  rw [hvalue]
  split_ifs
  · rw [div_le_div_iff₀ hden' hscale, div_le_div_iff₀ hscale hden', Bool.and_eq_true, decide_eq_true_iff,
      decide_eq_true_iff]
    simp only [Nat.pow_eq]
    norm_cast
  · rw [div_lt_div_iff₀ hden' hscale, div_lt_div_iff₀ hscale hden', Bool.and_eq_true, decide_eq_true_iff,
      decide_eq_true_iff]
    simp only [Nat.pow_eq]
    norm_cast

/-- The interval of a finite double lies between the midpoints to its neighbours. -/
structure Surrounds (i : Interval) (m : ℕ) : Prop where
  den : 0 < i.den
  low : (i.low : ℚ) / i.den = Double.midpointOf m
  value : (i.value : ℚ) / i.den = Double.valueOf (m + 1)
  high : (i.high : ℚ) / i.den = Double.midpointOf (m + 1)
  closed : i.closed = true ↔ (m + 1) % 2 = 0

theorem ofDouble_surrounds {d : Double} {m : ℕ} (h : d.magnitude = m + 1) : (Interval.ofDouble d).Surrounds m := by
  have hmantissa : d.mantissa = Double.mantissaOf (m + 1) := h ▸ rfl
  have hexponent : d.exponent = Double.exponentOf (m + 1) := h ▸ rfl
  have hscale (x : ℕ) : (Double.scaleUp x (d.exponent - 2) : ℚ) / (Interval.ofDouble d).den =
      x * 2 ^ (Double.exponentOf (m + 1) - 2) := by
    rw [← hexponent]
    exact Double.scaleUp_div x _
  refine ⟨Double.scaleUp_pos one_pos _, ?_, ?_, ?_, ?_⟩
  · rw [Double.midpointOf_eq, ← hscale, Double.belowOf, ← hmantissa, ← hexponent]
    rfl
  · refine (hscale (4 * d.mantissa)).trans ?_
    rw [Double.valueOf, hmantissa, Double.two_zpow_quarter (Double.exponentOf (m + 1))]
    push_cast
    ring
  · refine (hscale (4 * d.mantissa + 2)).trans ?_
    rw [Double.midpointOf, Double.valueOf, hmantissa, Double.two_zpow_quarter (Double.exponentOf (m + 1)),
      Double.two_zpow_pred (Double.exponentOf (m + 1) - 1), show ∀ e : ℤ, e - 1 - 1 = e - 2 by intro e; ring]
    push_cast
    ring
  · rw [← Double.mantissaOf_parity, ← hmantissa]
    exact decide_eq_true_iff

theorem Surrounds.holds {i : Interval} {m : ℕ} (h : i.Surrounds m) {x : ℚ} (hlow : Double.midpointOf m < x)
    (hhigh : x < Double.midpointOf (m + 1)) : i.Holds x := by
  unfold Holds
  rw [h.low, h.high]
  split_ifs
  · exact ⟨hlow.le, hhigh.le⟩
  · exact ⟨hlow, hhigh⟩

section Apart

variable {i i' : Interval} {m m' : ℕ} {x : ℚ}

theorem Holds.bounds (hx : i.Holds x) (h : i.Surrounds m) :
    Double.midpointOf m ≤ x ∧ x ≤ Double.midpointOf (m + 1) := by
  rw [← h.low, ← h.high]
  unfold Holds at hx
  split_ifs at hx
  · exact hx
  · exact ⟨hx.1.le, hx.2.le⟩

/-- A midpoint belongs to the interval only if the mantissa is even. -/
theorem Holds.even (hx : i.Holds x) (h : i.Surrounds m)
    (hend : x = Double.midpointOf m ∨ x = Double.midpointOf (m + 1)) : (m + 1) % 2 = 0 := by
  rw [← h.closed]
  by_contra hopen
  rw [Holds, if_neg hopen, h.low, h.high] at hx
  rcases hend with rfl | rfl
  · exact lt_irrefl _ hx.1
  · exact lt_irrefl _ hx.2

theorem not_holds_of_lt (h : i.Surrounds m) (h' : i'.Surrounds m') (hx : i.Holds x) (hlt : m < m') : ¬ i'.Holds x := by
  intro hx'
  have hhigh := (hx.bounds h).2
  have hlow := (hx'.bounds h').1
  have hle := Double.midpointOf_strictMono.monotone (Nat.succ_le_of_lt hlt)
  have heq : x = Double.midpointOf (m + 1) := le_antisymm hhigh (hle.trans hlow)
  have heq' : x = Double.midpointOf m' := le_antisymm (hhigh.trans hle) hlow
  -- The decimal is the one midpoint between the two, which would have to be neighbours with even mantissas.
  have hnext : m + 1 = m' := Double.midpointOf_strictMono.injective (heq.symm.trans heq')
  have heven := hx.even h (.inr heq)
  have heven' := hx'.even h' (.inl heq')
  omega

/-- No number lies in the intervals of two doubles. -/
theorem eq_of_holds (h : i.Surrounds m) (h' : i'.Surrounds m') (hx : i.Holds x) (hx' : i'.Holds x) : m = m' := by
  rcases lt_trichotomy m m' with hlt | heq | hgt
  · exact absurd hx' (not_holds_of_lt h h' hx hlt)
  · exact heq
  · exact absurd hx (not_holds_of_lt h' h hx' hgt)

end Apart

end Interval

/-! ### The search -/

section Search

theorem ten_zpow_pos (e : ℤ) : (0 : ℚ) < 10 ^ e := zpow_pos (by norm_num) e

theorem lt_ten_zpow_iff {num den : ℕ} (hden : 0 < den) (k : ℤ) :
    num * Nat.pow 10 (-k).toNat < den * Nat.pow 10 k.toNat ↔ (num : ℚ) / den < 10 ^ k := by
  have hden' : (0 : ℚ) < den := by exact_mod_cast hden
  rw [ten_zpow, div_lt_div_iff₀ hden' (by positivity), mul_comm den]
  simp only [Nat.pow_eq]
  rw [mul_comm (10 ^ k.toNat : ℚ)]
  norm_cast
  rw [mul_comm den]

/-- The decimal point stands behind the first digit that is not zero. -/
theorem decimalPoint_spec {num den : ℕ} (hden : 0 < den) {tries : ℕ} {k : ℤ} (hlow : (10 : ℚ) ^ (k - 1) ≤ num / den)
    (hhigh : (num : ℚ) / den < 10 ^ (k + tries)) :
    (10 : ℚ) ^ (decimalPoint num den tries k - 1) ≤ num / den ∧
      (num : ℚ) / den < 10 ^ decimalPoint num den tries k := by
  induction tries generalizing k with
  | zero =>
    rw [decimalPoint]
    exact ⟨hlow, by simpa using hhigh⟩
  | succ tries ih =>
    rw [decimalPoint]
    split_ifs with hlt
    · exact ⟨hlow, (lt_ten_zpow_iff hden k).mp hlt⟩
    · rw [lt_ten_zpow_iff hden, not_lt] at hlt
      refine ih (by simpa using hlt) ?_
      rw [show k + 1 + (tries : ℤ) = k + (tries + 1 : ℕ) by push_cast; ring]
      exact hhigh

namespace Interval

variable {i : Interval} {point : ℤ} {n digits : ℕ}

/-- The number of units of the last of `n` digits that fit into the value. -/
def floor (i : Interval) (point : ℤ) (n : ℕ) : ℕ :=
  i.value * Nat.pow 10 (-(point - n)).toNat / (i.den * Nat.pow 10 (point - n).toNat)

theorem floor_spec (hden : 0 < i.den) (point : ℤ) (n : ℕ) :
    (i.floor point n : ℚ) * 10 ^ (point - n) ≤ i.value / i.den ∧
      (i.value : ℚ) / i.den < (i.floor point n + 1 : ℕ) * 10 ^ (point - n) := by
  have hden' : (0 : ℚ) < i.den := by exact_mod_cast hden
  have hunit : 0 < i.den * Nat.pow 10 (point - n).toNat := Nat.mul_pos hden (Nat.pow_pos (by norm_num))
  have hbelow : (i.floor point n : ℚ) * (i.den * 10 ^ (point - n).toNat) ≤ i.value * 10 ^ (-(point - n)).toNat := by
    exact_mod_cast Nat.div_mul_le_self _ _
  have habove : (i.value : ℚ) * 10 ^ (-(point - n)).toNat <
      (i.floor point n + 1 : ℕ) * (i.den * 10 ^ (point - n).toNat) := by
    rw [mul_comm ((i.floor point n + 1 : ℕ) : ℚ)]
    exact_mod_cast Nat.lt_mul_div_succ _ hunit
  rw [ten_zpow, mul_div_assoc', mul_div_assoc', div_le_div_iff₀ (by positivity) hden',
    div_lt_div_iff₀ hden' (by positivity)]
  constructor <;> linarith

/-- A candidate lies in the interval, and is one of the two neighbours of the value. -/
theorem candidate_spec (hden : 0 < i.den) (h : i.candidate point n = some digits) :
    i.Holds (digits * 10 ^ (point - n)) ∧ (digits = i.floor point n ∨ digits = i.floor point n + 1) := by
  rw [← contains_iff hden]
  unfold candidate at h
  dsimp only at h
  split_ifs at h with hbelow habove
  · cases h
    exact ⟨(Bool.and_eq_true_iff.mp hbelow).1, .inl rfl⟩
  · cases h
    exact ⟨habove, .inr rfl⟩

/-- If there is none, neither neighbour lies in the interval. -/
theorem not_holds_of_candidate_none (hden : 0 < i.den) (h : i.candidate point n = none) :
    ¬ i.Holds (i.floor point n * 10 ^ (point - n)) ∧ ¬ i.Holds ((i.floor point n + 1 : ℕ) * 10 ^ (point - n)) := by
  rw [← contains_iff hden, ← contains_iff hden]
  unfold candidate at h
  dsimp only at h
  split_ifs at h with hbelow habove
  refine ⟨fun hfloor => hbelow ?_, habove⟩
  rw [Bool.not_eq_true] at habove
  rw [habove, Bool.and_eq_true]
  exact ⟨hfloor, rfl⟩

/-- A candidate has `n` digits, or is the least number that has more. -/
theorem candidate_bounds (hden : 0 < i.den) (hlow : (10 : ℚ) ^ (point - 1) ≤ i.value / i.den)
    (hhigh : (i.value : ℚ) / i.den < 10 ^ point) (hn : 1 ≤ n) (h : i.candidate point n = some digits) :
    10 ^ (n - 1) ≤ digits ∧ digits ≤ 10 ^ n := by
  obtain ⟨hbelow, habove⟩ := floor_spec hden point n
  have hunit := ten_zpow_pos (point - n)
  have htop : (10 : ℚ) ^ point = (10 ^ n : ℕ) * 10 ^ (point - n) := by
    rw [Nat.cast_pow, ← zpow_natCast, Nat.cast_ofNat, ← zpow_add₀ (by norm_num)]
    congr 1
    ring
  have hbottom : (10 : ℚ) ^ (point - 1) = (10 ^ (n - 1) : ℕ) * 10 ^ (point - n) := by
    rw [Nat.cast_pow, ← zpow_natCast, Nat.cast_ofNat, ← zpow_add₀ (by norm_num), Nat.cast_sub hn]
    congr 1
    push_cast
    ring
  rw [htop] at hhigh
  rw [hbottom] at hlow
  have hlt : i.floor point n < 10 ^ n := by exact_mod_cast lt_of_mul_lt_mul_right (hbelow.trans_lt hhigh) hunit.le
  have hgt : 10 ^ (n - 1) < i.floor point n + 1 := by
    exact_mod_cast lt_of_mul_lt_mul_right (hlow.trans_lt habove) hunit.le
  rcases (candidate_spec hden h).2 with rfl | rfl <;> omega

/-- With 17 digits there is a candidate: neighbouring decimals are nearer to each other than the midpoints. -/
theorem candidate_isSome {m : ℕ} (h : i.Surrounds m) (hlow : (10 : ℚ) ^ (point - 1) ≤ i.value / i.den) :
    ∃ digits, i.candidate point 17 = some digits := by
  cases hnone : i.candidate point 17 with
  | some digits => exact ⟨digits, rfl⟩
  | none =>
    obtain ⟨hfloor, hnext⟩ := not_holds_of_candidate_none h.den hnone
    obtain ⟨hbelow, habove⟩ := floor_spec h.den point 17
    rw [h.value] at hlow hbelow habove
    have hmiddle := Double.midpointOf_lt_valueOf m
    have hmiddle' := Double.valueOf_lt_midpointOf (m + 1)
    have hleft : (i.floor point 17 : ℚ) * 10 ^ (point - (17 : ℕ)) ≤ Double.midpointOf m := by
      by_contra hin
      exact hfloor (h.holds (not_le.mp hin) (hbelow.trans_lt hmiddle'))
    have hright : Double.midpointOf (m + 1) ≤ (i.floor point 17 + 1 : ℕ) * 10 ^ (point - (17 : ℕ)) := by
      by_contra hin
      exact hnext (h.holds (hmiddle.trans habove) (not_le.mp hin))
    have hunit : (10 : ℚ) ^ (point - 1) = 10 ^ 16 * 10 ^ (point - (17 : ℕ)) := by
      rw [← zpow_natCast, ← zpow_add₀ (by norm_num)]
      congr 1
      push_cast
      ring
    have hwidth := Double.width_lt m
    rw [Nat.cast_add_one, add_mul, one_mul] at hright
    linarith

/-- The search ends with a candidate of at most 17 digits. -/
theorem search_spec {m : ℕ} (h : i.Surrounds m) (hlow : (10 : ℚ) ^ (point - 1) ≤ i.value / i.den) {tries n : ℕ}
    (hn : tries + n = 18) (htries : 1 ≤ tries) :
    ∃ digits n', n ≤ n' ∧ i.search point tries n = (digits, n') ∧ i.candidate point n' = some digits := by
  induction tries generalizing n with
  | zero => omega
  | succ tries ih =>
    rw [search]
    cases hcandidate : i.candidate point n with
    | some digits => exact ⟨digits, n, le_rfl, rfl, hcandidate⟩
    | none =>
      have hne : n ≠ 17 := by
        rintro rfl
        obtain ⟨digits, hdigits⟩ := candidate_isSome h hlow
        cases hdigits.symm.trans hcandidate
      obtain ⟨digits, n', hle, hsearch, hfound⟩ := ih (n := n + 1) (by omega) (by omega)
      exact ⟨digits, n', by omega, hsearch, hfound⟩

end Interval

end Search

/-! ### Digits -/

theorem readDigits_append (ds es : List Char) :
    readDigits (ds ++ es) = readDigits ds * 10 ^ es.length + readDigits es := by
  change Nat.ofDigitChars 10 (ds ++ es) 0 = _
  rw [Nat.ofDigitChars_append, Nat.ofDigitChars_eq_ofDigitChars_zero, mul_comm]
  rfl

theorem readDigits_replicate (n : ℕ) : readDigits (List.replicate n '0') = 0 := Nat.ofDigitChars_replicate_zero

/-- The number of digits tells between which powers of ten a number lies. -/
theorem length_toDigits {n k : ℕ} (hlow : 10 ^ k ≤ n) (hhigh : n < 10 ^ (k + 1)) : (Nat.toDigits 10 n).length = k + 1 := by
  refine le_antisymm ((Nat.length_toDigits_le_iff (by norm_num) (Nat.succ_pos k)).mpr hhigh) ?_
  by_contra hlt
  rcases Nat.eq_zero_or_pos k with rfl | hk
  · exact hlt Nat.length_toDigits_pos
  · exact absurd hlow (Nat.not_le.mpr ((Nat.length_toDigits_le_iff (by norm_num) hk).mp (by omega)))

theorem exists_stripZeros (tries n : ℕ) : ∃ j, n = stripZeros tries n * 10 ^ j := by
  induction tries generalizing n with
  | zero => exact ⟨0, by simp [stripZeros]⟩
  | succ tries ih =>
    rw [stripZeros]
    split_ifs with hzero
    · obtain ⟨j, hj⟩ := ih (n / 10)
      refine ⟨j + 1, ?_⟩
      rw [pow_succ, ← mul_assoc, ← hj]
      omega
    · exact ⟨0, by simp⟩

/-- The number that stands for digits behind the point, with the point moved. -/
def Shortest.value (s : Shortest) : ℚ := s.digits * 10 ^ (s.point - (Nat.toDigits 10 s.digits).length)

/-- Trailing zeros do not change the number. -/
theorem stripZeros_value {n k : ℕ} (hlow : 10 ^ k ≤ n) (hhigh : n < 10 ^ (k + 1)) (tries : ℕ) (point : ℤ) :
    (Shortest.mk (stripZeros tries n) point).value = n * 10 ^ (point - (k + 1 : ℕ)) := by
  obtain ⟨j, hj⟩ := exists_stripZeros tries n
  generalize stripZeros tries n = a at hj ⊢
  subst hj
  have hpos : 0 < a := by
    by_contra hzero
    have hpow := Nat.pow_pos (n := k) (show 0 < 10 by norm_num)
    obtain rfl : a = 0 := by omega
    omega
  have hj : j < k + 1 := by
    refine (Nat.pow_lt_pow_iff_right (show 1 < 10 by norm_num)).mp (lt_of_le_of_lt ?_ hhigh)
    exact Nat.le_mul_of_pos_left _ hpos
  obtain ⟨l, rfl⟩ : ∃ l, k = l + j := ⟨k - j, by omega⟩
  have hlength : (Nat.toDigits 10 a).length = l + 1 := by
    refine length_toDigits ?_ ?_
    · exact Nat.le_of_mul_le_mul_right (by rwa [← pow_add]) (Nat.pow_pos (n := j) (by norm_num))
    · refine Nat.lt_of_mul_lt_mul_right (a := 10 ^ j) ?_
      rwa [← pow_add, show l + 1 + j = l + j + 1 by omega]
  rw [Shortest.value, hlength, Nat.cast_mul, Nat.cast_pow, Nat.cast_ofNat, mul_assoc, ← zpow_natCast,
    ← zpow_add₀ (by norm_num)]
  congr 2
  push_cast
  ring

/-- The shortest decimal of a finite double other than zero lies in the interval of the double. -/
theorem holds_shortest {d : Double} (hfinite : d.isFinite = true) {m : ℕ} (hm : d.magnitude = m + 1) :
    (Interval.ofDouble d).Holds (shortest d).value := by
  have hsurrounds := Interval.ofDouble_surrounds hm
  have hrange : m + 1 < Double.infiniteMagnitude := by simpa [Double.isFinite, hm] using hfinite
  have hlow : (10 : ℚ) ^ ((-330 : ℤ) - 1) ≤ (Interval.ofDouble d).value / (Interval.ofDouble d).den := by
    rw [hsurrounds.value]
    exact Double.valueOf_succ_ge m
  have hhigh : ((Interval.ofDouble d).value : ℚ) / (Interval.ofDouble d).den < 10 ^ ((-330 : ℤ) + (700 : ℕ)) := by
    rw [hsurrounds.value]
    exact Double.valueOf_lt hrange
  obtain ⟨hpoint, hpoint'⟩ := decimalPoint_spec hsurrounds.den hlow hhigh
  obtain ⟨digits, n, hn, hsearch, hcandidate⟩ :=
    Interval.search_spec hsurrounds hpoint (show 17 + 1 = 18 from rfl) (by norm_num)
  obtain ⟨hdigits, hdigits'⟩ := Interval.candidate_bounds hsurrounds.den hpoint hpoint' hn hcandidate
  have hholds := (Interval.candidate_spec hsurrounds.den hcandidate).1
  unfold shortest
  dsimp only
  rw [hsearch]
  dsimp only
  generalize decimalPoint _ _ 700 (-330) = point at *
  split_ifs with hpower
  · rw [Nat.pow_eq] at hpower
    have hvalue := @stripZeros_value digits n hpower.ge
      (hpower.trans_lt (Nat.pow_lt_pow_right (by norm_num) n.lt_succ_self)) 17 (point + 1)
    rwa [hvalue, show point + 1 - (n + 1 : ℕ) = point - n by push_cast; ring]
  · rw [Nat.pow_eq] at hpower
    obtain ⟨k, rfl⟩ : ∃ k, n = k + 1 := ⟨n - 1, by omega⟩
    rw [stripZeros_value (by simpa using hdigits) (lt_of_le_of_ne hdigits' hpower)]
    exact hholds

/-! ### Texts -/

/-- The number that digits with a point between them write. -/
def pointValue (cs : List Char) : ℚ :=
  readDigits (cs.filter (· != '.')) / 10 ^ ((cs.dropWhile (· != '.')).length - 1)

section Forms

variable {whole fraction ds : List Char}

theorem filter_point (h : '.' ∉ ds) : ds.filter (· != '.') = ds :=
  List.filter_eq_self.mpr fun _ hc => bne_iff_ne.mpr fun heq => h (heq ▸ hc)

theorem dropWhile_point (h : '.' ∉ ds) : ds.dropWhile (· != '.') = [] :=
  List.dropWhile_eq_nil_iff.mpr fun _ hc => bne_iff_ne.mpr fun heq => h (heq ▸ hc)

theorem pointValue_digits (h : '.' ∉ ds) : pointValue ds = readDigits ds := by
  simp [pointValue, filter_point h, dropWhile_point h]

/-- What stands before the point and behind it. -/
theorem pointValue_append (hwhole : '.' ∉ whole) (hfraction : '.' ∉ fraction) :
    pointValue (whole ++ '.' :: fraction) = readDigits (whole ++ fraction) * 10 ^ (-(fraction.length : ℤ)) := by
  have hfilter : (whole ++ '.' :: fraction).filter (· != '.') = whole ++ fraction := by
    rw [List.filter_append, filter_point hwhole, List.filter_cons_of_neg (by decide), filter_point hfraction]
  have hdrop : (whole ++ '.' :: fraction).dropWhile (· != '.') = '.' :: fraction := by
    rw [List.dropWhile_append, dropWhile_point hwhole]
    rfl
  rw [pointValue, hfilter, hdrop, List.length_cons, Nat.add_sub_cancel, zpow_neg, zpow_natCast, div_eq_mul_inv]

theorem point_notMem_replicate (n : ℕ) : '.' ∉ List.replicate n '0' := fun h =>
  absurd (List.eq_of_mem_replicate h) (by decide)

theorem pointValue_positional (hds : '.' ∉ ds) (point : ℤ) :
    pointValue (positional ds point) = readDigits ds * 10 ^ (point - ds.length) := by
  unfold positional
  split_ifs with hneg hlong
  · -- The digits stand behind zeros behind the point.
    have hzeros : '.' ∉ List.replicate (-point).toNat '0' ++ ds :=
      fun h => (List.mem_append.mp h).elim (point_notMem_replicate _) hds
    have hread : readDigits (['0'] ++ (List.replicate (-point).toNat '0' ++ ds)) = readDigits ds := by
      rw [readDigits_append, readDigits_append, readDigits_replicate]
      simp [readDigits, digitValue]
    rw [List.append_assoc]
    refine (@pointValue_append ['0'] _ (by decide) hzeros).trans ?_
    rw [hread]
    congr 2
    simp
    omega
  · -- Zeros fill up the digits before the point.
    have hzeros : '.' ∉ ds ++ List.replicate (point.toNat - ds.length) '0' :=
      fun h => (List.mem_append.mp h).elim hds (point_notMem_replicate _)
    have hplaces : point - ds.length = (point.toNat - ds.length : ℕ) := by omega
    have hlast : readDigits ['0'] = 0 := rfl
    refine (@pointValue_append _ ['0'] hzeros (by decide)).trans ?_
    rw [readDigits_append, readDigits_append, readDigits_replicate, hlast, hplaces, zpow_natCast]
    simp only [List.length_replicate, List.length_singleton, Nat.cast_one, zpow_neg, zpow_one]
    push_cast
    ring
  · have htake : '.' ∉ ds.take point.toNat := fun h => hds (List.mem_of_mem_take h)
    have hdrop : '.' ∉ ds.drop point.toNat := fun h => hds (List.mem_of_mem_drop h)
    rw [List.append_assoc]
    refine (pointValue_append htake hdrop).trans ?_
    rw [List.take_append_drop]
    congr 2
    simp
    omega

/-- What stands before the exponent. -/
def significand (ds : List Char) : List Char := ds.take 1 ++ if ds.length ≤ 1 then [] else '.' :: ds.drop 1

theorem scientific_eq (ds : List Char) (point : ℤ) :
    scientific ds point = significand ds ++ 'e' :: (toString (point - 1)).toList := by
  rw [scientific, significand, List.append_assoc]
  rfl

theorem pointValue_significand (hds : '.' ∉ ds) (hne : ds ≠ []) :
    pointValue (significand ds) = readDigits ds * 10 ^ (1 - (ds.length : ℤ)) := by
  have hpos := List.length_pos_of_ne_nil hne
  unfold significand
  split_ifs with hone
  · rw [List.append_nil, List.take_of_length_le hone, pointValue_digits hds, show ds.length = 1 by omega]
    simp
  · rw [pointValue_append (fun h => hds (List.mem_of_mem_take h)) fun h => hds (List.mem_of_mem_drop h),
      List.take_append_drop]
    congr 2
    simp
    omega

end Forms

/-- The text of the magnitude of a finite double. -/
def magnitudeText (d : Double) : List Char :=
  if d.isZero then "0.0".toList
  else
    let s := shortest d
    let digits := Nat.toDigits 10 s.digits
    if -3 ≤ s.point ∧ s.point ≤ 16 then positional digits s.point else scientific digits s.point

/-- The text writes the number, with or without an exponent of ten. -/
inductive Writes : List Char → ℚ → Prop where
  | plain {cs : List Char} : 'e' ∉ cs → Writes cs (pointValue cs)
  | scaled {cs : List Char} (k : ℤ) : 'e' ∉ cs → Writes (cs ++ 'e' :: (toString k).toList) (pointValue cs * 10 ^ k)

theorem notMem_toString {c : Char} (hminus : c ≠ '-') (hdigit : c.isDigit = false) (k : ℤ) : c ∉ (toString k).toList := by
  rw [Json.toList_toString_int]
  intro h
  rcases List.mem_append.mp h with h | h
  · split_ifs at h
    · exact hminus (List.mem_singleton.mp h)
    · cases h
  · have hdigit' := Nat.isDigit_of_mem_toDigits (by norm_num) le_rfl h
    rw [hdigit] at hdigit'
    cases hdigit'

/-- A text writes one number. -/
theorem Writes.unique {cs : List Char} {x y : ℚ} (hx : Writes cs x) (hy : Writes cs y) : x = y := by
  have hexponent (k : ℤ) : 'e' ∉ (toString k).toList := notMem_toString (by decide) (by decide) k
  cases hx with
  | plain hplain =>
    generalize hcs : cs = text at hy
    cases hy with
    | plain _ => rfl
    | scaled k _ => exact absurd (by simp [hcs]) hplain
  | @scaled ds k hds =>
    generalize hcs : ds ++ 'e' :: (toString k).toList = text at hy
    cases hy with
    | plain hplain => exact absurd (by simp [← hcs]) hplain
    | scaled l hes =>
      obtain ⟨rfl, -, hkl⟩ := (List.append_cons_inj_of_notMem hds (hexponent k)).mp hcs
      rw [toString_int_injective (String.toList_injective hkl)]

theorem notMem_toDigits {c : Char} (hdigit : c.isDigit = false) (n : ℕ) : c ∉ Nat.toDigits 10 n := by
  intro h
  have hdigit' := Nat.isDigit_of_mem_toDigits (by norm_num) le_rfl h
  rw [hdigit] at hdigit'
  cases hdigit'

section Letters

variable {c : Char} {ds : List Char}

/-- Before an exponent no other characters stand than digits and the point. -/
theorem notMem_positional (hc : c.isDigit = false) (hpoint : c ≠ '.') (hds : c ∉ ds) (point : ℤ) :
    c ∉ positional ds point := by
  have hzero : c ≠ '0' := by
    rintro rfl
    cases hc
  have htake (n : ℕ) : c ∉ ds.take n := fun h => hds (List.mem_of_mem_take h)
  have hdrop (n : ℕ) : c ∉ ds.drop n := fun h => hds (List.mem_of_mem_drop h)
  unfold positional
  split_ifs <;> simp [hzero, hpoint, hds, htake, hdrop]

theorem notMem_significand (hpoint : c ≠ '.') (hds : c ∉ ds) : c ∉ significand ds := by
  have htake : c ∉ ds.take 1 := fun h => hds (List.mem_of_mem_take h)
  have htail : c ∉ ds.tail := fun h => hds (List.mem_of_mem_tail h)
  unfold significand
  split_ifs <;> simp [hpoint, htake, htail]

end Letters

/-- The number that the text of the magnitude of a finite double writes. -/
def textValue (d : Double) : ℚ := if d.isZero then 0 else (shortest d).value

theorem magnitudeText_writes (d : Double) : Writes (magnitudeText d) (textValue d) := by
  unfold magnitudeText textValue
  dsimp only
  split_ifs with hzero hpoint
  · have hvalue : pointValue "0.0".toList = 0 := by simp [pointValue, readDigits, digitValue]
    rw [← hvalue]
    exact .plain (by decide)
  · have hdigits : '.' ∉ Nat.toDigits 10 (shortest d).digits := notMem_toDigits (by decide) _
    have hvalue := pointValue_positional hdigits (shortest d).point
    rw [Json.readDigits_toDigits] at hvalue
    rw [Shortest.value, ← hvalue]
    exact .plain (notMem_positional (by decide) (by decide) (notMem_toDigits (by decide) _) _)
  · have hdigits : '.' ∉ Nat.toDigits 10 (shortest d).digits := notMem_toDigits (by decide) _
    have hvalue : (shortest d).value =
        pointValue (significand (Nat.toDigits 10 (shortest d).digits)) * 10 ^ ((shortest d).point - 1) := by
      rw [pointValue_significand hdigits Nat.toDigits_ne_nil, Json.readDigits_toDigits, Shortest.value, mul_assoc,
        ← zpow_add₀ (by norm_num)]
      congr 2
      ring
    rw [hvalue, scientific_eq]
    exact .scaled _ (notMem_significand (by decide) (notMem_toDigits (by decide) _))

theorem toList_text {d : Double} (h : d.isFinite = true) :
    (text d).toList = (if d.negative then ['-'] else []) ++ magnitudeText d := by
  have hnan : d.isNaN = false := by
    simp only [Double.isFinite, Double.isNaN, decide_eq_true_eq, decide_eq_false_iff_not] at h ⊢
    omega
  rw [text, hnan]
  simp [h, magnitudeText]

/-- How the text of the magnitude of a finite double is put together: it begins with a digit, and it has one point with a
digit behind it, or no point but an exponent. -/
structure IsDecimal (cs : List Char) : Prop where
  leading : ∃ c rest, cs = c :: rest ∧ c.isDigit = true
  marked : ('.' ∉ cs ∧ 'e' ∈ cs) ∨
    ∃ start c rest, cs = start ++ '.' :: c :: rest ∧ '.' ∉ start ∧ '.' ∉ c :: rest ∧ c.isDigit = true

/-- The characters are digits, and there are some. -/
structure AreDigits (ds : List Char) : Prop where
  digits : ∀ x ∈ ds, x.isDigit = true
  nonempty : ds ≠ []

section Shape

variable {ds es more : List Char}

theorem AreDigits.point_notMem (h : AreDigits ds) : '.' ∉ ds := fun hmem => absurd (h.digits _ hmem) (by decide)

theorem AreDigits.exists_cons (h : AreDigits ds) : ∃ c rest, ds = c :: rest ∧ c.isDigit = true := by
  obtain ⟨c, rest, rfl⟩ := List.exists_cons_of_ne_nil h.nonempty
  exact ⟨c, rest, rfl, h.digits c List.mem_cons_self⟩

theorem AreDigits.append_zeros (h : AreDigits ds) (n : ℕ) : AreDigits (ds ++ List.replicate n '0') := by
  refine ⟨List.forall_mem_append.mpr ⟨h.digits, fun x hx => ?_⟩, List.append_ne_nil_of_left_ne_nil h.nonempty _⟩
  rw [List.eq_of_mem_replicate hx]
  rfl

theorem AreDigits.zeros_append (h : AreDigits ds) (n : ℕ) : AreDigits (List.replicate n '0' ++ ds) := by
  refine ⟨List.forall_mem_append.mpr ⟨fun x hx => ?_, h.digits⟩, List.append_ne_nil_of_right_ne_nil _ h.nonempty⟩
  rw [List.eq_of_mem_replicate hx]
  rfl

theorem isDecimal_point (hds : AreDigits ds) (hes : AreDigits es) (hmore : '.' ∉ more) :
    IsDecimal (ds ++ '.' :: (es ++ more)) := by
  obtain ⟨c, rest, hc, hdigit⟩ := hds.exists_cons
  obtain ⟨c', rest', rfl, hdigit'⟩ := hes.exists_cons
  refine ⟨⟨c, rest ++ '.' :: (c' :: rest' ++ more), by rw [hc]; rfl, hdigit⟩, .inr ?_⟩
  refine ⟨ds, c', rest' ++ more, rfl, hds.point_notMem, fun hmem => ?_, hdigit'⟩
  rcases List.mem_append.mp (show '.' ∈ (c' :: rest') ++ more from hmem) with hmem | hmem
  · exact hes.point_notMem hmem
  · exact hmore hmem

theorem isDecimal_positional (hds : AreDigits ds) (point : ℤ) : IsDecimal (positional ds point) := by
  have hzero : AreDigits ['0'] := ⟨fun c hc => List.mem_singleton.mp hc ▸ rfl, List.cons_ne_nil _ _⟩
  unfold positional
  split_ifs with hneg hlong
  · have hform := @isDecimal_point _ _ [] hzero (hds.zeros_append (-point).toNat) List.not_mem_nil
    simpa using hform
  · have hform := @isDecimal_point _ _ [] (hds.append_zeros (point.toNat - ds.length)) hzero List.not_mem_nil
    simpa using hform
  · have htake : AreDigits (ds.take point.toNat) :=
      ⟨fun x hx => hds.digits x (List.mem_of_mem_take hx), List.ne_nil_of_length_pos (by rw [List.length_take]; omega)⟩
    have hdrop : AreDigits (ds.drop point.toNat) :=
      ⟨fun x hx => hds.digits x (List.mem_of_mem_drop hx), List.ne_nil_of_length_pos (by rw [List.length_drop]; omega)⟩
    have hform := @isDecimal_point _ _ [] htake hdrop List.not_mem_nil
    simpa using hform

theorem isDecimal_scientific (hds : AreDigits ds) (point : ℤ) : IsDecimal (scientific ds point) := by
  have hexponent : '.' ∉ 'e' :: (toString (point - 1)).toList := by
    rw [List.mem_cons, not_or]
    exact ⟨by decide, notMem_toString (by decide) (by decide) _⟩
  obtain ⟨c, rest, rfl, hc⟩ := hds.exists_cons
  rw [scientific_eq, significand]
  split_ifs with hone
  · obtain rfl : rest = [] := by simpa using hone
    refine ⟨⟨c, _, rfl, hc⟩, .inl ⟨fun hmem => ?_, by simp⟩⟩
    rcases List.mem_append.mp hmem with hmem | hmem
    · exact hds.point_notMem (by simpa using hmem)
    · exact hexponent hmem
  · have hrest : AreDigits rest :=
      ⟨fun x hx => hds.digits x (List.mem_cons_of_mem _ hx), fun hnil => hone (by simp [hnil])⟩
    have hform := @isDecimal_point [c] rest _ ⟨by simpa using hc, by simp⟩ hrest hexponent
    simpa using hform

end Shape

theorem isDecimal_magnitudeText (d : Double) : IsDecimal (magnitudeText d) := by
  have hnumeral := Json.isNumeral_toDigits (shortest d).digits
  have hdigits : AreDigits (Nat.toDigits 10 (shortest d).digits) := ⟨hnumeral.digits, hnumeral.nonempty⟩
  unfold magnitudeText
  dsimp only
  split_ifs
  · exact ⟨⟨'0', ['.', '0'], rfl, rfl⟩, .inr ⟨['0'], '0', [], rfl, by decide, by decide, rfl⟩⟩
  · exact isDecimal_positional hdigits _
  · exact isDecimal_scientific hdigits _

/-! ### Doubles from texts -/

section Finite

variable {d d' : Double}

theorem textValue_of_succ {m : ℕ} (hm : d.magnitude = m + 1) : textValue d = (shortest d).value := by
  simp [textValue, Double.isZero, hm]

/-- The text of a double other than zero writes a number other than zero. -/
theorem textValue_pos (h : d.isFinite = true) {m : ℕ} (hm : d.magnitude = m + 1) : 0 < textValue d := by
  rw [textValue_of_succ hm]
  have hvalue : 0 ≤ Double.valueOf m := mul_nonneg (Nat.cast_nonneg _) (Double.two_zpow_pos _).le
  calc 0 ≤ Double.valueOf m := hvalue
    _ < Double.midpointOf m := Double.valueOf_lt_midpointOf m
    _ ≤ (shortest d).value := ((holds_shortest h hm).bounds (Interval.ofDouble_surrounds hm)).1

theorem magnitude_eq_of_textValue_eq (h : d.isFinite = true) (h' : d'.isFinite = true)
    (heq : textValue d = textValue d') : d.magnitude = d'.magnitude := by
  cases hm : d.magnitude with
  | zero =>
    cases hm' : d'.magnitude with
    | zero => rfl
    | succ m' =>
      have hzero : textValue d = 0 := by simp [textValue, Double.isZero, hm]
      exact absurd (hzero ▸ heq ▸ textValue_pos h' hm') (lt_irrefl _)
  | succ m =>
    cases hm' : d'.magnitude with
    | zero =>
      have hzero : textValue d' = 0 := by simp [textValue, Double.isZero, hm']
      exact absurd (hzero ▸ heq ▸ textValue_pos h hm) (lt_irrefl _)
    | succ m' =>
      rw [textValue_of_succ hm, textValue_of_succ hm'] at heq
      have hholds := holds_shortest h hm
      rw [heq] at hholds
      rw [Interval.eq_of_holds (Interval.ofDouble_surrounds hm) (Interval.ofDouble_surrounds hm') hholds
        (holds_shortest h' hm')]

theorem eq_of_magnitude_eq (hsign : d.negative = d'.negative) (h : d.magnitude = d'.magnitude) : d = d' := by
  obtain ⟨bits⟩ := d
  obtain ⟨bits'⟩ := d'
  have hlt : bits.toNat < 2 * Double.signBit := bits.toNat_lt
  have hlt' : bits'.toNat < 2 * Double.signBit := bits'.toNat_lt
  simp only [Double.negative, Double.magnitude, decide_eq_decide] at hsign h
  rw [show Double.signBit = 9223372036854775808 from rfl] at hlt hlt' hsign h
  have hbits : bits.toNat = bits'.toNat := by omega
  rw [UInt64.toNat_inj.mp hbits]

/-- The text of a finite double is that of no other finite double. -/
theorem text_inj (h : d.isFinite = true) (h' : d'.isFinite = true) : text d = text d' ↔ d = d' := by
  refine ⟨fun heq => ?_, congrArg text⟩
  have htext := congrArg String.toList heq
  rw [toList_text h, toList_text h'] at htext
  obtain ⟨c, rest, hc, hdigit⟩ := (isDecimal_magnitudeText d).leading
  obtain ⟨c', rest', hc', hdigit'⟩ := (isDecimal_magnitudeText d').leading
  obtain ⟨hsign, hbody⟩ : d.negative = d'.negative ∧ magnitudeText d = magnitudeText d' := by
    have hminus {x : Char} (hx : x.isDigit = true) : '-' ≠ x := by
      rintro rfl
      cases hx
    cases hsign : d.negative <;> cases hsign' : d'.negative <;> rw [hsign, hsign'] at htext
    · exact ⟨rfl, htext⟩
    · rw [hc] at htext
      exact absurd (List.cons.inj htext).1.symm (hminus hdigit)
    · rw [hc'] at htext
      exact absurd (List.cons.inj htext).1 (hminus hdigit')
    · exact ⟨rfl, (List.cons.inj htext).2⟩
  have hwrites := magnitudeText_writes d
  rw [hbody] at hwrites
  exact eq_of_magnitude_eq hsign
    (magnitude_eq_of_textValue_eq h h' (hwrites.unique (magnitudeText_writes d')))

end Finite

end Decimal

end GoSchema
