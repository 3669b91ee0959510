import BearerCache.Number.Binary64
import Mathlib.Algebra.Group.Int.Defs
import Mathlib.Algebra.Group.Nat.Defs

/-! # Numbers that stay large when they are rounded

Rounding to the nearest number never goes below a power of two that the exact value reaches: powers
of two are numbers themselves.  So a whole number that is too large to be kept exactly is read as a
number that is still large, if it is read at all.

## Key results

- `atLeast_round?`: rounding keeps to powers of two
- `atLeast_ofDecimal?`: decimals
-/

namespace BearerCache.Number.Binary64

variable {x y : Binary64} {num den k : Nat}

/-- A number is at least a power of two. -/
def AtLeast (x : Binary64) (k : Nat) : Prop :=
  2 ^ k * x.fraction.2 ≤ x.fraction.1

/-- A number is at least a power of two if its mantissa is, in the units of its exponent. -/
theorem atLeast_iff {m : Nat} {e : Int} :
    AtLeast ⟨m, e⟩ k ↔ 2 ^ k * 2 ^ (-e).toNat ≤ m * 2 ^ e.toNat := by
  simp only [AtLeast, fraction, inUnits, Int.neg_neg, Nat.one_mul, Nat.pow_eq]

theorem le_nearestEven (num den : Nat) : num / den ≤ nearestEven num den := by
  unfold nearestEven
  simp only
  split <;> omega

/-- Where the mantissa is full, half of it in twice the units is the same. -/
theorem AtLeast.carry {e : Int} (h : AtLeast ⟨2 ^ 53, e⟩ k) : AtLeast ⟨2 ^ 52, e + 1⟩ k := by
  rw [atLeast_iff] at h ⊢
  -- The unit doubles and the number of units halves; below the point that is a division less.
  by_cases he : e < 0
  · obtain ⟨p, hp⟩ : ∃ p : Nat, e = -(p + 1 : Nat) := ⟨(-e).toNat - 1, by omega⟩
    subst hp
    have hunits : (-(-(↑(p + 1) : Int))).toNat = p + 1 := by omega
    have hunits' : (-(-(↑(p + 1) : Int) + 1)).toNat = p := by omega
    have hzero : (-(↑(p + 1) : Int)).toNat = 0 := by omega
    have hzero' : (-(↑(p + 1) : Int) + 1).toNat = 0 := by omega
    rw [hunits, hzero, Nat.pow_succ, ← Nat.mul_assoc] at h
    rw [hunits', hzero']
    omega
  · have hunits : (e + 1).toNat = e.toNat + 1 := by omega
    have hzero : (-e).toNat = 0 := by omega
    have hzero' : (-(e + 1)).toNat = 0 := by omega
    rw [hzero] at h
    rw [hunits, hzero', Nat.pow_succ]
    omega

/-- The nearest number in units that are small enough reaches the power of two. -/
theorem atLeast_nearestEven {e : Int} (hden : 0 < den) (h : 2 ^ k * den ≤ num)
    (hunit : 0 ≤ e → 2 ^ e.toNat * den ≤ num) :
    AtLeast ⟨nearestEven (inUnits num den e).1 (inUnits num den e).2, e⟩ k := by
  rw [atLeast_iff]
  simp only [inUnits, Nat.pow_eq]
  -- By the sign of the exponent, which says whether the number or the unit is multiplied.
  by_cases he : e < 0
  · have hzero : e.toNat = 0 := by omega
    rw [hzero, Nat.pow_zero, Nat.mul_one, Nat.mul_one]
    refine Nat.le_trans ?_ (le_nearestEven _ _)
    rw [Nat.le_div_iff_mul_le hden]
    calc 2 ^ k * 2 ^ (-e).toNat * den = 2 ^ k * den * 2 ^ (-e).toNat := by
          rw [Nat.mul_right_comm]
      _ ≤ num * 2 ^ (-e).toNat := Nat.mul_le_mul_right _ h
  · have hzero : (-e).toNat = 0 := by omega
    rw [hzero, Nat.pow_zero, Nat.mul_one, Nat.mul_one]
    have hunits : 0 < den * 2 ^ e.toNat := Nat.mul_pos hden (Nat.two_pow_pos _)
    by_cases hk : k ≤ e.toNat
    · -- One unit is enough.
      have hone : 1 ≤ nearestEven num (den * 2 ^ e.toNat) := by
        refine Nat.le_trans ?_ (le_nearestEven _ _)
        rw [Nat.le_div_iff_mul_le hunits, Nat.one_mul, Nat.mul_comm]
        exact hunit (by omega)
      calc 2 ^ k ≤ 2 ^ e.toNat := Nat.pow_le_pow_right (by decide) hk
        _ = 1 * 2 ^ e.toNat := (Nat.one_mul _).symm
        _ ≤ nearestEven num (den * 2 ^ e.toNat) * 2 ^ e.toNat := Nat.mul_le_mul_right _ hone
    -- The whole number is so many units at least, and the rounding does not go below it.
    · obtain ⟨p, rfl⟩ : ∃ p, k = p + e.toNat := ⟨k - e.toNat, by omega⟩
      rw [Nat.pow_add]
      refine Nat.mul_le_mul_right _ (Nat.le_trans ?_ (le_nearestEven _ _))
      rw [Nat.le_div_iff_mul_le hunits]
      calc 2 ^ p * (den * 2 ^ e.toNat) = 2 ^ (p + e.toNat) * den := by
            rw [Nat.pow_add, Nat.mul_assoc, Nat.mul_comm den]
        _ ≤ num := h

/-- A unit that is not below one is that of a mantissa of more than fifty bits, so the value
reaches it. -/
theorem unit_mul_le {e : Int} (hnum : num ≠ 0) (he : 0 ≤ e)
    (hle : e ≤ Int.ofNat num.log2 - Int.ofNat den.log2 - 52) : 2 ^ e.toNat * den ≤ num := by
  have hden : den < 2 ^ (den.log2 + 1) := Nat.lt_log2_self
  -- The unit has no more bits than the number.
  have hexponent : e.toNat + (den.log2 + 1) ≤ num.log2 := by
    simp only [Int.ofNat_eq_natCast] at hle
    omega
  calc 2 ^ e.toNat * den ≤ 2 ^ e.toNat * 2 ^ (den.log2 + 1) :=
        Nat.mul_le_mul_left _ (Nat.le_of_lt hden)
    _ = 2 ^ (e.toNat + (den.log2 + 1)) := (Nat.pow_add ..).symm
    _ ≤ 2 ^ num.log2 := Nat.pow_le_pow_right (by decide) hexponent
    _ ≤ num := Nat.log2_self_le hnum

/-- Rounding keeps to powers of two that the value reaches. -/
theorem atLeast_round? (hden : 0 < den) (h : 2 ^ k * den ≤ num) (hx : round? num den = some x) :
    x.AtLeast k := by
  -- The number is not zero, so the exponent is found and the units are rounded to even.
  have hnum : num ≠ 0 := by
    rintro rfl
    have hpos := Nat.mul_pos (Nat.two_pow_pos k) hden
    omega
  rw [round?, if_neg hnum] at hx
  simp only at hx
  generalize hunit : max minExponent _ = e at hx
  have hsmall : 0 ≤ e → 2 ^ e.toNat * den ≤ num := by
    intro he
    refine unit_mul_le hnum he ?_
    simp only [minExponent] at hunit
    split at hunit <;> omega
  have hnearest := atLeast_nearestEven hden h hsmall
  -- Rounding up can fill all digits, which moves the exponent by one.
  split at hx
  next hfull =>
    rw [hfull] at hnearest
    split at hx
    next => exact Option.some.inj hx ▸ hnearest.carry
    next => cases hx
  next =>
    split at hx
    next => exact Option.some.inj hx ▸ hnearest
    next => cases hx

theorem fraction_pos (x : Binary64) : 0 < x.fraction.2 := by
  simp only [fraction, inUnits, Nat.one_mul, Nat.pow_eq]
  exact Nat.two_pow_pos _

/-- A product is at least the product of powers of two that its factors reach. -/
theorem AtLeast.mul? {j : Nat} {product : Binary64} (hx : x.AtLeast j) (hy : y.AtLeast k)
    (h : x.mul? y = some product) : product.AtLeast (j + k) := by
  refine atLeast_round? (Nat.mul_pos x.fraction_pos y.fraction_pos) ?_ h
  calc 2 ^ (j + k) * (x.fraction.2 * y.fraction.2) =
        2 ^ j * x.fraction.2 * (2 ^ k * y.fraction.2) := by
          rw [Nat.pow_add, Nat.mul_mul_mul_comm]
    _ ≤ x.fraction.1 * y.fraction.1 := Nat.mul_le_mul hx hy

/-- A decimal with a large significand, and an exponent that is not negative, is large. -/
theorem atLeast_ofDecimal? {significand : Nat} {exponent : Int} (h : 2 ^ k ≤ significand)
    (hexponent : 0 ≤ exponent) (hx : ofDecimal? significand exponent = some x) : x.AtLeast k := by
  obtain ⟨y, hy, hx⟩ := Option.bind_eq_some_iff.mp hx
  -- The power of ten is one at least, and multiplying by it makes the number no smaller.
  have hy : y.AtLeast k := atLeast_round? Nat.one_pos (by simpa using h) hy
  rw [if_neg (Int.not_lt.mpr hexponent)] at hx
  split at hx
  next =>
    obtain ⟨power, hpower, hx⟩ := Option.bind_eq_some_iff.mp hx
    have hone : 2 ^ 0 * 1 ≤ Nat.pow 10 exponent.toNat := Nat.pow_pos (by decide)
    have hpower : power.AtLeast 0 := atLeast_round? Nat.one_pos hone hpower
    exact hy.mul? hpower hx
  next =>
    split at hx
    next => exact Option.some.inj hx ▸ hy
    next => cases hx

/-- The whole number below a large number is large, and so is the one below its negation. -/
theorem AtLeast.floor (h : x.AtLeast k) :
    (2 ^ k : Int) ≤ x.floor false ∧ x.floor true ≤ -(2 ^ k : Int) := by
  have hpos := x.fraction_pos
  have hle : 2 ^ k ≤ x.fraction.1 / x.fraction.2 := (Nat.le_div_iff_mul_le hpos).mpr h
  have hup : x.fraction.1 / x.fraction.2 ≤ (x.fraction.1 + (x.fraction.2 - 1)) / x.fraction.2 :=
    Nat.div_le_div_right (Nat.le_add_right _ _)
  have hcast : ((2 ^ k : Nat) : Int) = 2 ^ k := by simp
  constructor
  · rw [← hcast]
    exact Int.ofNat_le.mpr hle
  · rw [← hcast]
    exact Int.neg_le_neg (Int.ofNat_le.mpr (Nat.le_trans hle hup))

end BearerCache.Number.Binary64
