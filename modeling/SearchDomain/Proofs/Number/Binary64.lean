/-
  SearchDomain.Proofs.Number.Binary64

  Quotients that are rounded to a finite number. A quotient below two to the
  power of `53 + k` units has a significand of 53 bits at a scale of at most `k`;
  rounding adds at most one to the significand, and even a carry into the exponent
  stays far below infinity unless the quotient itself is there.
-/
import Mathlib.Data.Nat.Log
import SearchDomain.Number.Binary64

namespace SearchDomain

theorem roundHalfEven_le (num den : Nat) : roundHalfEven num den ≤ num / den + 1 := by
  unfold roundHalfEven
  dsimp only
  split
  · omega
  · split
    · omega
    · split <;> omega

namespace Binary64

/-- The bits of a quotient above the lowest `log2 - 52` are at most 53. -/
theorem div_two_pow_lt (q : Nat) : q / Nat.pow 2 (Nat.log2 q - 52) < Nat.pow 2 53 := by
  have hlog : q < Nat.pow 2 (Nat.log2 q + 1) := Nat.lt_log2_self
  have hpow : Nat.pow 2 (Nat.log2 q + 1) ≤ Nat.pow 2 (53 + (Nat.log2 q - 52)) :=
    Nat.pow_le_pow_right (by decide) (by omega)
  have hsplit : Nat.pow 2 (53 + (Nat.log2 q - 52)) =
      Nat.pow 2 53 * Nat.pow 2 (Nat.log2 q - 52) := Nat.pow_add 2 _ _
  rw [hsplit] at hpow
  exact (Nat.div_lt_iff_lt_mul (Nat.two_pow_pos _)).2 (Nat.lt_of_lt_of_le hlog hpow)

/-- The magnitude of a quotient is at most two exponents above the scale it needs. -/
theorem nearestMagnitude_le {num den k : Nat} (h : num / den < Nat.pow 2 (k + 53)) :
    nearestMagnitude num den ≤ (k + 2) * fractionCount := by
  have hscale : Nat.log2 (num / den) - 52 ≤ k := by
    by_cases hzero : num / den = 0
    · rw [hzero, Nat.log2_zero]
      omega
    · have hlog : Nat.log2 (num / den) < k + 53 := (Nat.log2_lt hzero).2 h
      omega
  -- rounding up may carry, but only to the next power of two
  have hrounded : roundHalfEven num (den * Nat.pow 2 (Nat.log2 (num / den) - 52)) ≤
      2 * fractionCount := by
    have hle := roundHalfEven_le num (den * Nat.pow 2 (Nat.log2 (num / den) - 52))
    rw [← Nat.div_div_eq_div_mul] at hle
    exact Nat.le_trans hle (div_two_pow_lt (num / den))
  calc nearestMagnitude num den
    _ ≤ (Nat.log2 (num / den) - 52) * fractionCount +
          roundHalfEven num (den * Nat.pow 2 (Nat.log2 (num / den) - 52)) := Nat.min_le_left _ _
    _ ≤ k * fractionCount + 2 * fractionCount :=
      Nat.add_le_add (Nat.mul_le_mul_right _ hscale) hrounded
    _ = (k + 2) * fractionCount := (Nat.add_mul k 2 fractionCount).symm

/-- A quotient is rounded to a finite number if its scale is below the last two. -/
theorem isFinite_ofRatio (negative : Bool) {num den k : Nat} (hk : k + 2 < 0x7FF)
    (h : num * unitsPerOne / den < Nat.pow 2 (k + 53)) :
    (ofRatio negative num den).isFinite = true := by
  have hle : nearestMagnitude (num * unitsPerOne) den ≤ (k + 2) * fractionCount :=
    nearestMagnitude_le h
  have hinfinity : (k + 2) * fractionCount < infinityMagnitude :=
    Nat.mul_lt_mul_of_pos_right hk (by decide)
  exact decide_eq_true (Nat.lt_of_le_of_lt hle hinfinity)

/-- A whole number of at most 1000 bits is rounded to a finite number. -/
theorem isFinite_ofInt {n : Int} {bits : Nat} (hbits : bits ≤ 1000)
    (h : n.natAbs ≤ Nat.pow 2 bits) : (ofInt n).isFinite = true := by
  have hk : (bits + 1022) + 2 < 0x7FF := by omega
  apply isFinite_ofRatio _ hk
  calc n.natAbs * unitsPerOne / 1
    _ = n.natAbs * unitsPerOne := Nat.div_one _
    _ ≤ Nat.pow 2 bits * unitsPerOne := Nat.mul_le_mul_right _ h
    _ = Nat.pow 2 (bits + 1074) := (Nat.pow_add 2 bits 1074).symm
    _ < Nat.pow 2 ((bits + 1022) + 53) := Nat.pow_lt_pow_right (by decide) (by omega)

end Binary64

end SearchDomain
