/-
  SearchDomain.Proofs.Number.Whole

  Whole numbers in binary64. A whole number is rounded to a whole number, its 53
  leading bits with zeros behind, and to itself as long as it has no more bits than
  that. The whole numbers that are rounded to one number lie without gaps.
-/
import SearchDomain.Proofs.Number.Rounding

namespace SearchDomain

namespace Binary64

/-! ## The whole number that is kept -/

/-- The whole number that is kept of a whole number without sign in binary64. -/
def kept (n : Nat) : Nat :=
  roundHalfEven n (Nat.pow 2 (scaleOf n)) * Nat.pow 2 (scaleOf n)

/-- One has more units than a significand has values; no more than that is used of their number. -/
theorem exists_unitsPerOne : ∃ bits, 53 ≤ bits ∧ unitsPerOne = Nat.pow 2 bits :=
  ⟨1074, by decide, rfl⟩

theorem unitsPerOne_pos : 0 < unitsPerOne := by
  obtain ⟨bits, -, hone⟩ := exists_unitsPerOne
  rw [hone]
  exact Nat.two_pow_pos bits

/-- Whole numbers of 53 bits are kept as they are, and the next power of two as well. -/
theorem kept_of_le {n : Nat} (h : n ≤ Nat.pow 2 53) : kept n = n := by
  by_cases hfull : n = Nat.pow 2 53
  · -- one bit more than fits, but a zero
    rw [hfull]
    decide +kernel
  · have hscale : scaleOf n = 0 :=
      Nat.le_zero.1 (scaleOf_le (Nat.lt_of_le_of_ne h hfull))
    have hround := @roundHalfEven_mul 1 n (by decide)
    rw [Nat.mul_one] at hround
    rw [kept, hscale]
    show roundHalfEven n 1 * 1 = n
    rw [hround, Nat.mul_one]

theorem kept_pos {n : Nat} (h : 0 < n) : 0 < kept n := by
  have hpow : Nat.pow 2 (scaleOf n) ≤ n := by
    have hlog : Nat.pow 2 (Nat.log2 n) ≤ n := Nat.log2_self_le (by omega)
    exact Nat.le_trans (Nat.pow_le_pow_right (by decide) (Nat.sub_le _ _)) hlog
  have hquotient : 1 ≤ n / Nat.pow 2 (scaleOf n) :=
    (Nat.le_div_iff_mul_le (Nat.two_pow_pos _)).2 ((Nat.one_mul _).symm ▸ hpow)
  have hround := div_le_roundHalfEven n (Nat.pow 2 (scaleOf n))
  exact Nat.mul_pos (by omega) (Nat.two_pow_pos _)

/-- Rounding does not lead out of a word. -/
theorem kept_le {n : Nat} (h : n ≤ Nat.pow 2 63) : kept n ≤ Nat.pow 2 63 := by
  by_cases hfull : n = Nat.pow 2 63
  · rw [hfull]
    decide +kernel
  · have hscale : scaleOf n ≤ 10 := scaleOf_le (Nat.lt_of_le_of_ne h hfull)
    calc roundHalfEven n (Nat.pow 2 (scaleOf n)) * Nat.pow 2 (scaleOf n)
      _ ≤ 2 * fractionCount * Nat.pow 2 10 :=
        Nat.mul_le_mul (roundHalfEven_scaleOf_le n) (Nat.pow_le_pow_right (by decide) hscale)
      _ = Nat.pow 2 63 := by decide

/-- In units, a whole number has a significand at a scale above the least. -/
theorem scaleOf_mul_two_pow {n : Nat} (h : 0 < n) (bits : Nat) :
    scaleOf (n * Nat.pow 2 bits) = Nat.log2 n + bits - 52 := by
  have hne : n ≠ 0 := by omega
  have hpos : 0 < Nat.pow 2 bits := Nat.two_pow_pos bits
  have hlower : Nat.pow 2 (Nat.log2 n) ≤ n := Nat.log2_self_le hne
  have hupper : n < Nat.pow 2 (Nat.log2 n + 1) := Nat.lt_log2_self
  have hlog : Nat.log2 (n * Nat.pow 2 bits) = Nat.log2 n + bits := by
    refine (Nat.log2_eq_iff (Nat.mul_ne_zero hne (Nat.ne_of_gt hpos))).2 ⟨?_, ?_⟩
    · calc Nat.pow 2 (Nat.log2 n + bits)
        _ = Nat.pow 2 (Nat.log2 n) * Nat.pow 2 bits := Nat.pow_add 2 _ _
        _ ≤ n * Nat.pow 2 bits := Nat.mul_le_mul_right _ hlower
    · calc n * Nat.pow 2 bits
        _ < Nat.pow 2 (Nat.log2 n + 1) * Nat.pow 2 bits :=
          Nat.mul_lt_mul_of_pos_right hupper hpos
        _ = Nat.pow 2 (Nat.log2 n + 1 + bits) := (Nat.pow_add 2 _ _).symm
        _ = Nat.pow 2 (Nat.log2 n + bits + 1) := congrArg _ (by omega)
  rw [scaleOf, hlog]

/-- The significand of a whole number in units, at its scale, is what is kept of the number. -/
theorem roundHalfEven_mul_two_pow {n bits : Nat} (h : 0 < n) (hbits : 53 ≤ bits) :
    roundHalfEven (n * Nat.pow 2 bits) (Nat.pow 2 (scaleOf (n * Nat.pow 2 bits))) *
      Nat.pow 2 (scaleOf (n * Nat.pow 2 bits)) = kept n * Nat.pow 2 bits := by
  rw [scaleOf_mul_two_pow h bits]
  by_cases hlong : 52 ≤ Nat.log2 n
  · -- in units, the same significand stands at a greater scale
    have hpow : Nat.pow 2 (Nat.log2 n + bits - 52) =
        Nat.pow 2 (scaleOf n) * Nat.pow 2 bits := by
      have hsum : Nat.log2 n + bits - 52 = scaleOf n + bits := by
        rw [scaleOf]
        omega
      rw [hsum]
      exact Nat.pow_add 2 _ _
    have hstep : 0 < Nat.pow 2 bits := Nat.two_pow_pos bits
    rw [hpow, roundHalfEven_mul_mul_right _ _ hstep, ← Nat.mul_assoc]
    rfl
  · -- the number is shorter than a significand, which holds it with zeros behind
    have hpow : Nat.pow 2 bits =
        Nat.pow 2 (52 - Nat.log2 n) * Nat.pow 2 (Nat.log2 n + bits - 52) := by
      have hsum : bits = 52 - Nat.log2 n + (Nat.log2 n + bits - 52) := by omega
      calc Nat.pow 2 bits
        _ = Nat.pow 2 (52 - Nat.log2 n + (Nat.log2 n + bits - 52)) := congrArg _ hsum
        _ = _ := Nat.pow_add 2 _ _
    have hshort : n ≤ Nat.pow 2 53 := by
      have hupper : n < Nat.pow 2 (Nat.log2 n + 1) := Nat.lt_log2_self
      have hle : Nat.pow 2 (Nat.log2 n + 1) ≤ Nat.pow 2 53 :=
        Nat.pow_le_pow_right (by decide) (by omega)
      omega
    have hstep : 0 < Nat.pow 2 (Nat.log2 n + bits - 52) := Nat.two_pow_pos _
    rw [kept_of_le hshort, hpow, ← Nat.mul_assoc, roundHalfEven_mul _ hstep]

/-- A whole number is rounded to the whole number that is kept of it. -/
theorem units_ofRatio_one {negative : Bool} {n : Nat}
    (hfinite : (ofRatio negative n 1).isFinite = true) :
    (ofRatio negative n 1).units = kept n * unitsPerOne := by
  obtain ⟨bits, hbits, hone⟩ := exists_unitsPerOne
  rcases Nat.eq_zero_or_pos n with rfl | hpos
  · have hzero : nearestMagnitude 0 1 = 0 := by decide +kernel
    rw [ofRatio, Nat.zero_mul, kept_of_le (Nat.zero_le _), Nat.zero_mul, hzero]
    exact Nat.zero_mul _
  · have hscale := scaleOf_mul_two_pow hpos bits
    have hlow := @fractionCount_le_roundHalfEven (n * Nat.pow 2 bits) (by omega)
    have hhigh := roundHalfEven_scaleOf_le (n * Nat.pow 2 bits)
    -- the magnitude is finite, so infinity does not cut it short
    have hmagnitude : nearestMagnitude (n * Nat.pow 2 bits) 1 =
        unboundedMagnitude (n * Nat.pow 2 bits) := by
      rw [isFinite, ofRatio, decide_eq_true_eq, hone, nearestMagnitude_one] at hfinite
      dsimp only at hfinite
      rw [nearestMagnitude_one]
      omega
    rw [ofRatio, hone, hmagnitude, unboundedMagnitude, units_of_magnitude hlow hhigh,
      roundHalfEven_mul_two_pow hpos hbits]

/-! ## The numbers around a whole number -/

/-- The last bit of a great number is worth at least the power of two that a full significand
leaves. At a power of two the number exceeds the next one down, whose last bit is worth as much. -/
theorem exists_significand_of_lt {x : Binary64} {k : Nat} (h : Nat.pow 2 (52 + k) < x.units) :
    ∃ sig scale, fractionCount ≤ sig ∧ sig < 2 * fractionCount ∧
      x.units = sig * Nat.pow 2 scale ∧ x.magnitude = scale * fractionCount + sig ∧
      Nat.pow 2 k ≤ Nat.pow 2 scale ∧
      (sig = fractionCount → 2 * Nat.pow 2 k ≤ Nat.pow 2 scale) := by
  have hnormal : fractionCount ≤ x.magnitude := by
    by_contra hsmall
    have htiny := units_of_lt (Nat.not_le.1 hsmall)
    have hle : Nat.pow 2 52 ≤ Nat.pow 2 (52 + k) :=
      Nat.pow_le_pow_right (by decide) (by omega)
    rw [fractionCount_eq] at hsmall
    omega
  obtain ⟨sig, scale, hlow, hhigh, hunits, hmagnitude⟩ := exists_significand hnormal
  rw [hunits] at h
  -- a bound for the significand is one for the scale
  have hscale : ∀ bits, sig ≤ Nat.pow 2 bits → 52 + k < bits + scale := by
    intro bits hsig
    have hbits : Nat.pow 2 (52 + k) < Nat.pow 2 (bits + scale) := by
      calc Nat.pow 2 (52 + k)
        _ < sig * Nat.pow 2 scale := h
        _ ≤ Nat.pow 2 bits * Nat.pow 2 scale := Nat.mul_le_mul_right _ hsig
        _ = Nat.pow 2 (bits + scale) := (Nat.pow_add 2 _ _).symm
    exact (Nat.pow_lt_pow_iff_right (by decide : 1 < 2)).1 hbits
  refine ⟨sig, scale, hlow, hhigh, hunits, hmagnitude, ?_, ?_⟩
  · have hfull : 2 * fractionCount = Nat.pow 2 53 := by decide
    have hlt := hscale 53 (by omega)
    exact Nat.pow_le_pow_right (by decide) (by omega)
  · intro hsig
    have hlt := hscale 52 (by rw [hsig, fractionCount_eq])
    calc 2 * Nat.pow 2 k
      _ = Nat.pow 2 (k + 1) := Nat.mul_comm 2 _
      _ ≤ Nat.pow 2 scale := Nat.pow_le_pow_right (by decide) (by omega)

/-- Whether a whole number without sign is rounded to the magnitude of a number. -/
def Attracts (x : Binary64) (n : Nat) : Prop :=
  nearestMagnitude (n * unitsPerOne) 1 = x.magnitude

instance (x : Binary64) (n : Nat) : Decidable (x.Attracts n) :=
  inferInstanceAs (Decidable (_ = _))

namespace Attracts

variable {x : Binary64} {a b v : Nat}

/-- What lies between two whole numbers is attracted if both are. -/
theorem between {c : Nat} (ha : x.Attracts a) (hb : x.Attracts b) (hac : a ≤ c) (hcb : c ≤ b) :
    x.Attracts c := by
  have hends : nearestMagnitude (a * unitsPerOne) 1 = nearestMagnitude (b * unitsPerOne) 1 :=
    ha.trans hb.symm
  exact (nearestMagnitude_between (Nat.mul_le_mul_right _ hac) (Nat.mul_le_mul_right _ hcb)
    hends).trans ha

/-- A finite whole number attracts itself. -/
theorem self (hx : x.isFinite = true) (hunits : x.units = v * unitsPerOne) : x.Attracts v := by
  rw [Attracts, ← hunits]
  exact nearestMagnitude_units hx

/-- A finite whole number is what is kept of the numbers it attracts. -/
theorem kept_eq (hx : x.isFinite = true) (hunits : x.units = v * unitsPerOne)
    (ha : x.Attracts a) : kept a = v := by
  have hnumber : ofRatio x.negative a 1 = x := by
    rw [ofRatio, ha]
  have hkept := @units_ofRatio_one x.negative a (hnumber.symm ▸ hx)
  rw [hnumber, hunits] at hkept
  exact (Nat.eq_of_mul_eq_mul_right unitsPerOne_pos hkept).symm

/-- A number of more than 53 bits attracts what is less than half of its last bit away. -/
theorem near (hx : x.isFinite = true) (hunits : x.units = v * unitsPerOne) {j d : Nat}
    (hv : Nat.pow 2 (52 + j) < v) (hd : 2 * d < Nat.pow 2 j) :
    x.Attracts (v + d) ∧ x.Attracts (v - d) := by
  obtain ⟨bits, hbits, hone⟩ := exists_unitsPerOne
  have hgreat : Nat.pow 2 (52 + (j + bits)) < x.units := by
    calc Nat.pow 2 (52 + (j + bits))
      _ = Nat.pow 2 (52 + j + bits) := congrArg _ (by omega)
      _ = Nat.pow 2 (52 + j) * Nat.pow 2 bits := Nat.pow_add 2 _ _
      _ < v * Nat.pow 2 bits := Nat.mul_lt_mul_of_pos_right hv (Nat.two_pow_pos bits)
      _ = x.units := by rw [hunits, hone]
  obtain ⟨sig, k, hlow, hhigh, hsplit, hmagnitude, hstep, hpower⟩ :=
    exists_significand_of_lt hgreat
  -- the same distance in units, to be compared with the last bit of the significand
  have hscaled : 2 * (d * unitsPerOne) < Nat.pow 2 (j + bits) := by
    calc 2 * (d * unitsPerOne)
      _ = 2 * d * Nat.pow 2 bits := by rw [hone, Nat.mul_assoc]
      _ < Nat.pow 2 j * Nat.pow 2 bits := Nat.mul_lt_mul_of_pos_right hd (Nat.two_pow_pos bits)
      _ = Nat.pow 2 (j + bits) := (Nat.pow_add 2 _ _).symm
  have hfinite : min (k * fractionCount + sig) infinityMagnitude = x.magnitude := by
    rw [← hmagnitude]
    exact Nat.min_eq_left (Nat.le_of_lt (of_decide_eq_true hx))
  constructor
  · have hsum : (v + d) * unitsPerOne = sig * Nat.pow 2 k + d * unitsPerOne := by
      rw [Nat.add_mul, ← hunits, hsplit]
    rw [Attracts, hsum, nearestMagnitude_one,
      unboundedMagnitude_mul_add hlow hhigh (Nat.lt_of_lt_of_le hscaled hstep), hfinite]
  · rcases Nat.eq_zero_or_pos d with rfl | hpos
    · exact self hx hunits
    · have hdifference : (v - d) * unitsPerOne = sig * Nat.pow 2 k - d * unitsPerOne := by
        rw [Nat.sub_mul, ← hunits, hsplit]
      have hhalved : sig = fractionCount → 4 * (d * unitsPerOne) < Nat.pow 2 k := by
        intro hsig
        have hdouble := hpower hsig
        omega
      rw [Attracts, hdifference, nearestMagnitude_one,
        unboundedMagnitude_mul_sub hlow hhigh (Nat.mul_pos hpos unitsPerOne_pos)
          (Nat.lt_of_lt_of_le hscaled hstep) hhalved, hfinite]

end Attracts

end Binary64

end SearchDomain
