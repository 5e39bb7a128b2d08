/-
  SearchDomain.Proofs.Number.Rounding

  Rounding to binary64 as a map of the line onto itself. It keeps the order, it
  leaves alone what binary64 holds, and it moves onto a number all that lies within
  half a step of it.
-/
import Mathlib.Data.Nat.Log
import SearchDomain.Proofs.Number.Binary64

namespace SearchDomain

/-! ## Quotients -/

section

variable {den : Nat}

theorem div_le_roundHalfEven (num den : Nat) : num / den ≤ roundHalfEven num den := by
  unfold roundHalfEven
  dsimp only
  split_ifs <;> omega

/-- A greater number is not rounded to a smaller quotient. -/
theorem roundHalfEven_mono (den : Nat) {num num' : Nat} (h : num ≤ num') :
    roundHalfEven num den ≤ roundHalfEven num' den := by
  have hdiv : num / den ≤ num' / den := Nat.div_le_div_right h
  have hupper := roundHalfEven_le num den
  have hlower := div_le_roundHalfEven num' den
  by_cases hsame : num / den = num' / den
  · -- with the same quotient the rests are in the order of the numbers
    have hrest : num % den ≤ num' % den := by
      have hnum := Nat.div_add_mod num den
      have hnum' := Nat.div_add_mod num' den
      rw [hsame] at hnum
      omega
    unfold roundHalfEven
    dsimp only
    rw [hsame]
    split_ifs <;> omega
  · omega

/-- What is less than half a step above a multiple is rounded to the multiple. -/
theorem roundHalfEven_mul_add {d : Nat} (q : Nat) (hd : 2 * d < den) :
    roundHalfEven (q * den + d) den = q := by
  have hquotient : (q * den + d) / den = q := by
    rw [Nat.mul_comm, Nat.mul_add_div (by omega), Nat.div_eq_of_lt (by omega), Nat.add_zero]
  have hrest : (q * den + d) % den = d := by
    rw [Nat.mul_comm, Nat.mul_add_mod, Nat.mod_eq_of_lt (by omega)]
  unfold roundHalfEven
  dsimp only
  rw [hquotient, hrest, if_pos hd]

/-- What is less than half a step below a multiple is rounded to the multiple. -/
theorem roundHalfEven_mul_sub {d : Nat} (q : Nat) (hpos : 0 < d) (hd : 2 * d < den) :
    roundHalfEven ((q + 1) * den - d) den = q + 1 := by
  have hsplit : (q + 1) * den - d = q * den + (den - d) := by
    rw [Nat.add_mul]
    omega
  have hquotient : (q * den + (den - d)) / den = q := by
    rw [Nat.mul_comm, Nat.mul_add_div (by omega), Nat.div_eq_of_lt (by omega), Nat.add_zero]
  have hrest : (q * den + (den - d)) % den = den - d := by
    rw [Nat.mul_comm, Nat.mul_add_mod, Nat.mod_eq_of_lt (by omega)]
  have hhalf : den < 2 * (den - d) := by omega
  rw [hsplit]
  unfold roundHalfEven
  dsimp only
  rw [hquotient, hrest, if_neg (by omega), if_pos hhalf]

theorem roundHalfEven_mul (q : Nat) (hden : 0 < den) : roundHalfEven (q * den) den = q :=
  roundHalfEven_mul_add (d := 0) q (by omega)

/-- A common factor does not count. -/
theorem roundHalfEven_mul_mul_right (num den : Nat) {k : Nat} (hk : 0 < k) :
    roundHalfEven (num * k) (den * k) = roundHalfEven num den := by
  have hquotient : num * k / (den * k) = num / den := Nat.mul_div_mul_right _ _ hk
  have hrest : num * k % (den * k) = num % den * k := Nat.mul_mod_mul_right _ _ _
  have hbelow : 2 * (num % den * k) < den * k ↔ 2 * (num % den) < den := by
    rw [← Nat.mul_assoc, Nat.mul_lt_mul_right hk]
  have habove : den * k < 2 * (num % den * k) ↔ den < 2 * (num % den) := by
    rw [← Nat.mul_assoc, Nat.mul_lt_mul_right hk]
  unfold roundHalfEven
  dsimp only
  simp only [hquotient, hrest, hbelow, habove]

end

namespace Binary64

/-! ## Magnitudes of units -/

/-- The scale at which a number of units has a significand of 53 bits. -/
def scaleOf (units : Nat) : Nat :=
  Nat.log2 units - 52

/-- A number of at most `53 + k` bits needs no greater scale than `k`. -/
theorem scaleOf_le {units k : Nat} (h : units < Nat.pow 2 (53 + k)) : scaleOf units ≤ k := by
  rw [scaleOf]
  by_cases hzero : units = 0
  · rw [hzero, Nat.log2_zero]
    omega
  · have hlog : Nat.log2 units < 53 + k := (Nat.log2_lt hzero).2 h
    omega

/-- The magnitude nearest to a number of units, were there no infinity. -/
def unboundedMagnitude (units : Nat) : Nat :=
  scaleOf units * fractionCount + roundHalfEven units (Nat.pow 2 (scaleOf units))

theorem nearestMagnitude_one (units : Nat) :
    nearestMagnitude units 1 = min (unboundedMagnitude units) infinityMagnitude := by
  rw [nearestMagnitude, Nat.div_one, Nat.one_mul]
  rfl

theorem fractionCount_eq : fractionCount = Nat.pow 2 52 := by decide

/-- A significand has at most 53 bits, and the carry of a full one. -/
theorem roundHalfEven_scaleOf_le (units : Nat) :
    roundHalfEven units (Nat.pow 2 (scaleOf units)) ≤ 2 * fractionCount := by
  have hround := roundHalfEven_le units (Nat.pow 2 (scaleOf units))
  have hbits : units / Nat.pow 2 (scaleOf units) < Nat.pow 2 53 := div_two_pow_lt units
  have hfull : Nat.pow 2 53 = 2 * fractionCount := by decide
  omega

/-- Above the least scale a significand has 53 bits. -/
theorem fractionCount_le_roundHalfEven {units : Nat} (hscale : 0 < scaleOf units) :
    fractionCount ≤ roundHalfEven units (Nat.pow 2 (scaleOf units)) := by
  have hne : units ≠ 0 := by
    rintro rfl
    rw [scaleOf, Nat.log2_zero] at hscale
    omega
  have hlog : Nat.pow 2 (Nat.log2 units) ≤ units := Nat.log2_self_le hne
  -- the leading bit of the number is that of a full significand, moved up by the scale
  have hsplit : Nat.pow 2 (Nat.log2 units) = fractionCount * Nat.pow 2 (scaleOf units) := by
    have hsum : Nat.log2 units = 52 + scaleOf units := by
      rw [scaleOf] at hscale ⊢
      omega
    calc Nat.pow 2 (Nat.log2 units)
      _ = Nat.pow 2 (52 + scaleOf units) := by rw [← hsum]
      _ = Nat.pow 2 52 * Nat.pow 2 (scaleOf units) := Nat.pow_add 2 _ _
      _ = fractionCount * Nat.pow 2 (scaleOf units) := by rw [fractionCount_eq]
  rw [hsplit] at hlog
  have hdiv : fractionCount ≤ units / Nat.pow 2 (scaleOf units) :=
    (Nat.le_div_iff_mul_le (Nat.two_pow_pos _)).2 hlog
  exact Nat.le_trans hdiv (div_le_roundHalfEven _ _)

/-- The scale is known from a significand of 53 bits. -/
theorem scaleOf_mul_add {sig k d : Nat} (hlow : fractionCount ≤ sig)
    (hhigh : sig < 2 * fractionCount) (hd : d < Nat.pow 2 k) :
    scaleOf (sig * Nat.pow 2 k + d) = k := by
  have hpos : 0 < Nat.pow 2 k := Nat.two_pow_pos k
  -- between these two powers of two, the logarithm is known
  have hlower : Nat.pow 2 (52 + k) ≤ sig * Nat.pow 2 k + d := by
    calc Nat.pow 2 (52 + k)
      _ = fractionCount * Nat.pow 2 k := by rw [fractionCount_eq]; exact Nat.pow_add 2 _ _
      _ ≤ sig * Nat.pow 2 k := Nat.mul_le_mul_right _ hlow
      _ ≤ sig * Nat.pow 2 k + d := Nat.le_add_right _ _
  have hupper : sig * Nat.pow 2 k + d < Nat.pow 2 (52 + k + 1) := by
    calc sig * Nat.pow 2 k + d
      _ < sig * Nat.pow 2 k + Nat.pow 2 k := by omega
      _ = (sig + 1) * Nat.pow 2 k := by rw [Nat.add_mul, Nat.one_mul]
      _ ≤ 2 * fractionCount * Nat.pow 2 k := Nat.mul_le_mul_right _ hhigh
      _ = Nat.pow 2 (53 + k) := by
        rw [show 2 * fractionCount = Nat.pow 2 53 by decide]
        exact (Nat.pow_add 2 _ _).symm
      _ = Nat.pow 2 (52 + k + 1) := congrArg _ (by omega)
  have hne : sig * Nat.pow 2 k + d ≠ 0 := by
    have hone : 0 < Nat.pow 2 (52 + k) := Nat.two_pow_pos _
    omega
  have hlog : Nat.log2 (sig * Nat.pow 2 k + d) = 52 + k := (Nat.log2_eq_iff hne).2 ⟨hlower, hupper⟩
  rw [scaleOf, hlog]
  omega

/-- What is less than half a step above a number is rounded to the number. -/
theorem unboundedMagnitude_mul_add {sig k d : Nat} (hlow : fractionCount ≤ sig)
    (hhigh : sig < 2 * fractionCount) (hd : 2 * d < Nat.pow 2 k) :
    unboundedMagnitude (sig * Nat.pow 2 k + d) = k * fractionCount + sig := by
  rw [unboundedMagnitude, scaleOf_mul_add hlow hhigh (by omega), roundHalfEven_mul_add sig hd]

/-- What is less than half a step below the end of a step is rounded to the end, the carry of a
full significand included. -/
theorem unboundedMagnitude_succ_mul_sub {sig k d : Nat} (hlow : fractionCount ≤ sig)
    (hhigh : sig < 2 * fractionCount) (hpos : 0 < d) (hd : 2 * d < Nat.pow 2 k) :
    unboundedMagnitude ((sig + 1) * Nat.pow 2 k - d) = k * fractionCount + (sig + 1) := by
  have hrest : (sig + 1) * Nat.pow 2 k - d = sig * Nat.pow 2 k + (Nat.pow 2 k - d) := by
    rw [Nat.add_mul]
    omega
  have hscale : scaleOf ((sig + 1) * Nat.pow 2 k - d) = k := by
    rw [hrest]
    exact scaleOf_mul_add hlow hhigh (by omega)
  rw [unboundedMagnitude, hscale, roundHalfEven_mul_sub sig hpos hd]

/-- What is less than half a step below a number is rounded to the number. Below a power of two
steps are half as long. -/
theorem unboundedMagnitude_mul_sub {sig k d : Nat} (hlow : fractionCount ≤ sig)
    (hhigh : sig < 2 * fractionCount) (hpos : 0 < d) (hd : 2 * d < Nat.pow 2 k)
    (hpower : sig = fractionCount → 4 * d < Nat.pow 2 k) :
    unboundedMagnitude (sig * Nat.pow 2 k - d) = k * fractionCount + sig := by
  have hF : 0 < fractionCount := by decide
  by_cases hsig : sig = fractionCount
  · -- one scale further down, the significand is full and carries
    obtain ⟨k, rfl⟩ : ∃ j, k = j + 1 := by
      cases k with
      | zero =>
        have hone : Nat.pow 2 0 = 1 := rfl
        omega
      | succ j => exact ⟨j, rfl⟩
    have hstep : Nat.pow 2 (k + 1) = 2 * Nat.pow 2 k := Nat.mul_comm _ 2
    have hhalf := hpower hsig
    have hfull : sig * Nat.pow 2 (k + 1) = (2 * fractionCount - 1 + 1) * Nat.pow 2 k := by
      rw [hsig, hstep, Nat.sub_add_cancel (by omega), ← Nat.mul_assoc,
        Nat.mul_comm fractionCount 2]
    have hcarry := @unboundedMagnitude_succ_mul_sub (2 * fractionCount - 1) k d (by omega)
      (by omega) hpos (by omega)
    rw [hfull, hcarry, hsig, Nat.add_mul]
    omega
  · obtain ⟨sig, rfl⟩ : ∃ other, sig = other + 1 := ⟨sig - 1, by omega⟩
    exact unboundedMagnitude_succ_mul_sub (by omega) (by omega) hpos hd

/-! ## Order -/

/-- A number with more units has no smaller magnitude. -/
theorem unboundedMagnitude_mono {a b : Nat} (h : a ≤ b) :
    unboundedMagnitude a ≤ unboundedMagnitude b := by
  have hlog : Nat.log2 a ≤ Nat.log2 b := by
    rw [Nat.log2_eq_log_two, Nat.log2_eq_log_two]
    exact Nat.log_mono_right h
  rw [unboundedMagnitude, unboundedMagnitude]
  by_cases hscale : scaleOf a = scaleOf b
  · rw [hscale]
    have hround := roundHalfEven_mono (Nat.pow 2 (scaleOf b)) h
    omega
  · -- at a lesser scale not even a carry reaches the significands of the greater
    have hlt : scaleOf a + 1 ≤ scaleOf b := by
      rw [scaleOf, scaleOf] at hscale ⊢
      omega
    have hupper := roundHalfEven_scaleOf_le a
    have hlower := @fractionCount_le_roundHalfEven b (by omega)
    calc scaleOf a * fractionCount + roundHalfEven a (Nat.pow 2 (scaleOf a))
      _ ≤ scaleOf a * fractionCount + 2 * fractionCount := Nat.add_le_add_left hupper _
      _ = (scaleOf a + 1) * fractionCount + fractionCount := by rw [Nat.add_mul]; omega
      _ ≤ scaleOf b * fractionCount + roundHalfEven b (Nat.pow 2 (scaleOf b)) :=
        Nat.add_le_add (Nat.mul_le_mul_right _ hlt) hlower

theorem nearestMagnitude_mono {a b : Nat} (h : a ≤ b) :
    nearestMagnitude a 1 ≤ nearestMagnitude b 1 := by
  rw [nearestMagnitude_one, nearestMagnitude_one]
  have hmono := unboundedMagnitude_mono h
  omega

/-! ## Numbers that are held -/

/-- A number whose significand is full or carries has the units of its scale. -/
theorem units_of_magnitude {negative : Bool} {sig k : Nat} (hlow : fractionCount ≤ sig)
    (hhigh : sig ≤ 2 * fractionCount) :
    (Binary64.mk negative (k * fractionCount + sig)).units = sig * Nat.pow 2 k := by
  have hF : 0 < fractionCount := by decide
  have hnot : ¬(k * fractionCount + sig < fractionCount) := by omega
  rw [units, significand, scale]
  dsimp only
  rw [if_neg hnot]
  by_cases hcarry : sig = 2 * fractionCount
  · -- a significand that carries is the least one, a scale further up
    have hsum : k * fractionCount + sig = fractionCount * (k + 2) := by
      rw [hcarry, Nat.mul_comm fractionCount, Nat.add_mul]
    rw [hsum, Nat.mul_mod_right, Nat.mul_div_cancel_left _ hF, hcarry]
    show fractionCount * Nat.pow 2 (k + 1) = _
    rw [Nat.pow_eq, Nat.pow_eq, Nat.pow_succ, Nat.mul_comm (2 ^ k) 2, ← Nat.mul_assoc,
      Nat.mul_comm fractionCount 2]
  · have hsum : k * fractionCount + sig =
        fractionCount * (k + 1) + (sig - fractionCount) := by
      rw [Nat.mul_comm fractionCount, Nat.add_mul]
      omega
    rw [hsum, Nat.mul_add_mod, Nat.mod_eq_of_lt (by omega), Nat.mul_add_div hF,
      Nat.div_eq_of_lt (by omega), Nat.add_sub_cancel' hlow]
    rfl

/-- A number below the normal ones has the units of its magnitude. -/
theorem units_of_lt {x : Binary64} (h : x.magnitude < fractionCount) :
    x.units = x.magnitude := by
  rw [units, significand, scale, if_pos h, Nat.div_eq_of_lt h]
  exact Nat.mul_one _

/-- A normal number has a full significand at a scale, and its magnitude spells both. -/
theorem exists_significand {x : Binary64} (h : fractionCount ≤ x.magnitude) :
    ∃ sig k, fractionCount ≤ sig ∧ sig < 2 * fractionCount ∧ x.units = sig * Nat.pow 2 k ∧
      x.magnitude = k * fractionCount + sig := by
  have hF : 0 < fractionCount := by decide
  have hrest : x.magnitude % fractionCount < fractionCount := Nat.mod_lt _ hF
  have hone : 1 ≤ x.magnitude / fractionCount := (Nat.le_div_iff_mul_le hF).2 (by omega)
  obtain ⟨k, hk⟩ : ∃ k, x.magnitude / fractionCount = k + 1 :=
    ⟨x.magnitude / fractionCount - 1, by omega⟩
  have hsum := Nat.div_add_mod x.magnitude fractionCount
  rw [hk, Nat.mul_add, Nat.mul_comm fractionCount k] at hsum
  refine ⟨fractionCount + x.magnitude % fractionCount, k, by omega, by omega, ?_, by omega⟩
  rw [units, significand, scale, if_neg (Nat.not_lt.2 h), hk, Nat.add_sub_cancel]

/-- What binary64 holds is left as it is. -/
theorem unboundedMagnitude_units (x : Binary64) : unboundedMagnitude x.units = x.magnitude := by
  by_cases hsmall : x.magnitude < fractionCount
  · -- below the normal numbers nothing is cut off
    have hbits : x.magnitude < Nat.pow 2 (53 + 0) := Nat.lt_trans hsmall (by decide)
    have hscale : scaleOf x.magnitude = 0 := Nat.le_zero.1 (scaleOf_le hbits)
    have hround := @roundHalfEven_mul 1 x.magnitude (by decide)
    rw [Nat.mul_one] at hround
    rw [units_of_lt hsmall, unboundedMagnitude, hscale, Nat.zero_mul, Nat.zero_add]
    exact hround
  · obtain ⟨sig, k, hlow, hhigh, hunits, hmagnitude⟩ := exists_significand (Nat.not_lt.1 hsmall)
    have hround := @unboundedMagnitude_mul_add sig k 0 hlow hhigh (Nat.two_pow_pos k)
    rw [Nat.add_zero] at hround
    rw [hunits, hround, hmagnitude]

/-- A finite number is rounded to itself. -/
theorem nearestMagnitude_units {x : Binary64} (hx : x.isFinite = true) :
    nearestMagnitude x.units 1 = x.magnitude := by
  have hfinite : x.magnitude < infinityMagnitude := of_decide_eq_true hx
  rw [nearestMagnitude_one, unboundedMagnitude_units]
  omega

/-- Whatever lies between two numbers that are rounded alike is rounded like them. -/
theorem nearestMagnitude_between {a b c : Nat} (hab : a ≤ b) (hbc : b ≤ c)
    (h : nearestMagnitude a 1 = nearestMagnitude c 1) :
    nearestMagnitude b 1 = nearestMagnitude a 1 := by
  have hleft := nearestMagnitude_mono hab
  have hright := nearestMagnitude_mono hbc
  omega

end Binary64

end SearchDomain
