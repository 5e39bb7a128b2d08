/-
  SearchDomain.Proofs.Number.Shortest

  The decimal that is written for a whole number in binary64. The search goes from
  few digits to many, and for each number of digits it tries the two decimals
  around the number. What is rounded to one number lies without gaps, so these two
  stand for all decimals with as many digits: the search ends with the number that
  ends in the most zeros, and of those with the nearest. Seventeen digits suffice,
  since one in the eighteenth place is less than half of the last bit.
-/
import Mathlib.Data.Nat.Dist
import SearchDomain.Number.Decimal
import SearchDomain.Proofs.Number.Whole

namespace SearchDomain.Decimal

open Binary64 (unitsPerOne)

/-! ## Digits -/

/-- A power of ten puts zeros behind the digits. -/
theorem toDigits_mul_ten_pow {n : Nat} (hn : 0 < n) (k : Nat) :
    Nat.toDigits 10 (n * Nat.pow 10 k) = Nat.toDigits 10 n ++ List.replicate k '0' := by
  induction k with
  | zero =>
    show Nat.toDigits 10 (n * 1) = _
    rw [Nat.mul_one, List.replicate_zero, List.append_nil]
  | succ k ih =>
    have hpos : 0 < n * Nat.pow 10 k := Nat.mul_pos hn (Nat.pow_pos (by decide))
    have hshift : n * Nat.pow 10 (k + 1) = 10 * (n * Nat.pow 10 k) + 0 := by
      show n * (Nat.pow 10 k * 10) = _
      rw [Nat.add_zero, ← Nat.mul_assoc, Nat.mul_comm 10]
    rw [hshift, ← Nat.toDigits_append_toDigits (by decide) hpos (by decide), ih,
      List.append_assoc, List.replicate_succ']
    rfl

theorem digitCount_mul_ten_pow {n : Nat} (hn : 0 < n) (k : Nat) :
    digitCount (n * Nat.pow 10 k) = digitCount n + k := by
  rw [digitCount, toDigits_mul_ten_pow hn, List.length_append, List.length_replicate]
  rfl

theorem digitCount_pos (n : Nat) : 0 < digitCount n :=
  Nat.length_toDigits_pos

theorem lt_ten_pow_digitCount (n : Nat) : n < Nat.pow 10 (digitCount n) :=
  (Nat.length_toDigits_le_iff (by decide) (digitCount_pos n)).1 (Nat.le_refl _)

theorem ten_pow_le_of_lt_digitCount {n k : Nat} (hk : 0 < k) (h : k < digitCount n) :
    Nat.pow 10 k ≤ n := by
  have hnot := mt (Nat.length_toDigits_le_iff (by decide) hk).2 (Nat.not_le.2 h)
  exact Nat.not_lt.1 hnot

/-- Dropping zeros leaves the number as it is. -/
theorem dropZeros_eq (fuel d e : Nat) :
    ∃ d' e' : Nat, dropZeros fuel ⟨d, e⟩ = ⟨d', e'⟩ ∧ d' * Nat.pow 10 e' = d * Nat.pow 10 e := by
  induction fuel generalizing d e with
  | zero => exact ⟨d, e, rfl, rfl⟩
  | succ fuel ih =>
    rw [dropZeros]
    dsimp only
    split
    case isFalse => exact ⟨d, e, rfl, rfl⟩
    case isTrue hzero =>
      obtain ⟨d', e', hdrop, hvalue⟩ := ih (d / 10) (e + 1)
      refine ⟨d', e', hdrop, ?_⟩
      have hten : d / 10 * 10 = d := Nat.div_mul_cancel (Nat.dvd_of_mod_eq_zero hzero.2)
      calc d' * Nat.pow 10 e'
        _ = d / 10 * Nat.pow 10 (e + 1) := hvalue
        _ = d / 10 * (Nat.pow 10 e * 10) := rfl
        _ = d / 10 * 10 * Nat.pow 10 e := by rw [Nat.mul_comm (Nat.pow 10 e), Nat.mul_assoc]
        _ = d * Nat.pow 10 e := by rw [hten]

/-! ## Candidates -/

section

variable {x : Binary64} {v : Nat}

/-- A whole number has its point behind its last digit. -/
theorem pointPosition_eq (hunits : x.units = v * unitsPerOne) (hpos : 0 < v) :
    pointPosition x = digitCount v := by
  -- the places that are added for numbers below one are all zeros here
  have hquotient : x.units * Nat.pow 10 400 / unitsPerOne = v * Nat.pow 10 400 := by
    rw [hunits, Nat.mul_right_comm, Nat.mul_div_cancel _ Binary64.unitsPerOne_pos]
  rw [pointPosition, hquotient, digitCount_mul_ten_pow hpos]
  omega

theorem toBinary64_eq_iff (d e : Nat) :
    (Decimal.mk d e).toBinary64 x.negative = x ↔ x.Attracts (d * Nat.pow 10 e) := by
  rw [toBinary64, if_pos (Int.natCast_nonneg e), Int.toNat_natCast, Binary64.ofRatio,
    Binary64.Attracts]
  constructor
  · intro h
    exact congrArg Binary64.magnitude h
  · intro h
    rw [h]

/-- With digits down to the power `10 ^ e`, the decimals below and above a whole number are
multiples of that power. -/
theorem candidate_eq (hunits : x.units = v * unitsPerOne) (hpos : 0 < v) {count e : Nat}
    (hcount : count + e = digitCount v) :
    candidate .up x count =
      if x.Attracts (v / Nat.pow 10 e * Nat.pow 10 e) ∧
          (2 * (v % Nat.pow 10 e) < Nat.pow 10 e ∨
            ¬x.Attracts ((v / Nat.pow 10 e + 1) * Nat.pow 10 e)) then
        some ⟨v / Nat.pow 10 e, e⟩
      else if x.Attracts ((v / Nat.pow 10 e + 1) * Nat.pow 10 e) then
        some ⟨v / Nat.pow 10 e + 1, e⟩
      else none := by
  have hexponent : pointPosition x - count = e := by
    rw [pointPosition_eq hunits hpos]
    omega
  -- the candidates are computed in units, which cancel from each of the three
  have hquotient : v * unitsPerOne / (unitsPerOne * Nat.pow 10 e) = v / Nat.pow 10 e := by
    rw [Nat.mul_comm v, Nat.mul_div_mul_left _ _ Binary64.unitsPerOne_pos]
  have hrest : v * unitsPerOne % (unitsPerOne * Nat.pow 10 e) =
      unitsPerOne * (v % Nat.pow 10 e) := by
    rw [Nat.mul_comm v, Nat.mul_mod_mul_left]
  have hnearer : 2 * (unitsPerOne * (v % Nat.pow 10 e)) < unitsPerOne * Nat.pow 10 e ↔
      2 * (v % Nat.pow 10 e) < Nat.pow 10 e := by
    rw [Nat.mul_left_comm, Nat.mul_lt_mul_left Binary64.unitsPerOne_pos]
  rw [candidate, hexponent]
  simp only [Int.natCast_nonneg, if_true, Int.toNat_natCast, hunits, hquotient, hrest, hnearer,
    toBinary64_eq_iff]
  simp

/-- The whole number that stands for all multiples of a step which a number attracts: the nearest
of them, and the greater of two that are equally near. -/
structure IsNearest (x : Binary64) (v step s : Nat) : Prop where
  attracts : x.Attracts s
  dvd : step ∣ s
  nearest : ∀ m, x.Attracts m → step ∣ m → Nat.dist s v ≤ Nat.dist m v
  greater : ∀ m, x.Attracts m → step ∣ m → Nat.dist s v = Nat.dist m v → m ≤ s

/-- A multiple on one side of a number has the neighbour on that side between itself and the
number. -/
theorem attracts_side {step q : Nat} (hself : x.Attracts v) (hlow : q * step ≤ v)
    (hhigh : v < (q + 1) * step) {m : Nat} (hm : x.Attracts m) (hdvd : step ∣ m) :
    (m ≤ q * step ∧ x.Attracts (q * step)) ∨
      ((q + 1) * step ≤ m ∧ x.Attracts ((q + 1) * step)) := by
  obtain ⟨a, rfl⟩ := hdvd
  rw [Nat.mul_comm] at hm ⊢
  by_cases ha : a ≤ q
  · have hle : a * step ≤ q * step := Nat.mul_le_mul_right _ ha
    exact .inl ⟨hle, hm.between hself hle hlow⟩
  · have hle : (q + 1) * step ≤ a * step := Nat.mul_le_mul_right _ (by omega)
    exact .inr ⟨hle, hself.between hm (Nat.le_of_lt hhigh) hle⟩

/-- The multiple below a number is the nearest if it is less than half a step away, or if the one
above is not attracted. -/
theorem isNearest_below {step q r : Nat} (hself : x.Attracts v) (hv : v = q * step + r)
    (hr : r < step) (hbelow : x.Attracts (q * step))
    (hnearer : 2 * r < step ∨ ¬x.Attracts ((q + 1) * step)) :
    IsNearest x v step (q * step) := by
  have hnext : (q + 1) * step = q * step + step := Nat.succ_mul q step
  have hlow : q * step ≤ v := by omega
  have hhigh : v < (q + 1) * step := by omega
  refine ⟨hbelow, Nat.dvd_mul_left _ _, ?_, ?_⟩
  · intro m hm hdvd
    unfold Nat.dist
    rcases attracts_side hself hlow hhigh hm hdvd with ⟨hle, -⟩ | ⟨hle, hattracts⟩
    · omega
    · have hhalf := hnearer.resolve_right fun h => h hattracts
      omega
  · intro m hm hdvd hdist
    unfold Nat.dist at hdist
    rcases attracts_side hself hlow hhigh hm hdvd with ⟨hle, -⟩ | ⟨hle, hattracts⟩
    · exact hle
    · have hhalf := hnearer.resolve_right fun h => h hattracts
      omega

/-- The multiple above a number is the nearest if the one below is no nearer, or not attracted. -/
theorem isNearest_above {step q r : Nat} (hself : x.Attracts v) (hv : v = q * step + r)
    (hr : r < step) (habove : x.Attracts ((q + 1) * step))
    (hnearer : x.Attracts (q * step) → step ≤ 2 * r) :
    IsNearest x v step ((q + 1) * step) := by
  have hnext : (q + 1) * step = q * step + step := Nat.succ_mul q step
  have hlow : q * step ≤ v := by omega
  have hhigh : v < (q + 1) * step := by omega
  refine ⟨habove, Nat.dvd_mul_left _ _, ?_, ?_⟩
  · intro m hm hdvd
    unfold Nat.dist
    rcases attracts_side hself hlow hhigh hm hdvd with ⟨hle, hattracts⟩ | ⟨hle, -⟩
    · have hhalf := hnearer hattracts
      omega
    · omega
  · intro m hm hdvd hdist
    unfold Nat.dist at hdist
    rcases attracts_side hself hlow hhigh hm hdvd with ⟨hle, -⟩ | ⟨hle, -⟩
    · omega
    · omega

/-- The candidate with digits down to a power of ten is the nearest multiple of the power that is
rounded to the number. There is none only if no multiple is. -/
theorem candidate_cases (hx : x.isFinite = true) (hunits : x.units = v * unitsPerOne)
    (hpos : 0 < v) {count e : Nat} (hcount : count + e = digitCount v) :
    (candidate .up x count = none ∧ ∀ m, x.Attracts m → ¬Nat.pow 10 e ∣ m) ∨
    ∃ d : Nat, candidate .up x count = some ⟨d, e⟩ ∧
      IsNearest x v (Nat.pow 10 e) (d * Nat.pow 10 e) := by
  have hself := Binary64.Attracts.self hx hunits
  have hcandidate := candidate_eq hunits hpos hcount
  have hrest : v % Nat.pow 10 e < Nat.pow 10 e := Nat.mod_lt _ (Nat.pow_pos (by decide))
  have hsplit : v = v / Nat.pow 10 e * Nat.pow 10 e + v % Nat.pow 10 e := by
    rw [Nat.mul_comm, Nat.div_add_mod]
  generalize Nat.pow 10 e = step at *
  generalize v / step = q at *
  generalize v % step = r at *
  by_cases hbelow : x.Attracts (q * step) ∧ (2 * r < step ∨ ¬x.Attracts ((q + 1) * step))
  · rw [if_pos hbelow] at hcandidate
    exact .inr ⟨q, hcandidate, isNearest_below hself hsplit hrest hbelow.1 hbelow.2⟩
  · rw [if_neg hbelow] at hcandidate
    by_cases habove : x.Attracts ((q + 1) * step)
    · rw [if_pos habove] at hcandidate
      refine .inr ⟨q + 1, hcandidate, isNearest_above hself hsplit hrest habove fun h => ?_⟩
      by_contra hhalf
      exact hbelow ⟨h, .inl (Nat.not_le.1 hhalf)⟩
    · rw [if_neg habove] at hcandidate
      refine .inl ⟨hcandidate, fun m hm hdvd => ?_⟩
      have hlow : q * step ≤ v := hsplit ▸ Nat.le_add_right _ _
      have hhigh : v < (q + 1) * step := by
        rw [Nat.succ_mul, hsplit]
        exact Nat.add_lt_add_left hrest _
      rcases attracts_side hself hlow hhigh hm hdvd with ⟨-, hattracts⟩ | ⟨-, hattracts⟩
      · exact hbelow ⟨hattracts, .inr habove⟩
      · exact habove hattracts

/-! ## The search -/

/-- A search along numbers stops at the first that gives anything. -/
theorem exists_first {α : Type} {f : Nat → Option α} {n k : Nat} (hk : k < n) (h : f k ≠ none) :
    ∃ j a, j ≤ k ∧ f j = some a ∧ (∀ i, i < j → f i = none) ∧
      (List.range n).findSome? f = some a := by
  cases hfound : (List.range n).findSome? f with
  | none =>
    rw [List.findSome?_eq_none_iff] at hfound
    exact absurd (hfound k (List.mem_range.2 hk)) h
  | some a =>
    obtain ⟨before, j, after, hrange, hj, hbefore⟩ := List.findSome?_eq_some_iff.1 hfound
    have hsorted : (before ++ j :: after).Pairwise (· < ·) := hrange ▸ List.pairwise_lt_range
    have hjn : j < n := List.mem_range.1 (hrange ▸ by simp)
    have hnone : ∀ i, i < j → f i = none := by
      intro i hi
      have hmem : i ∈ before ++ j :: after := hrange ▸ List.mem_range.2 (Nat.lt_trans hi hjn)
      rcases List.mem_append.1 hmem with hleft | hright
      · exact hbefore i hleft
      · -- behind the place where the search stops, numbers are greater
        rcases List.mem_cons.1 hright with rfl | hright
        · exact absurd hi (Nat.lt_irrefl _)
        · have hlt := (List.pairwise_cons.1 (List.pairwise_append.1 hsorted).2.1).1 i hright
          exact absurd hi (Nat.lt_asymm hlt)
    refine ⟨j, a, ?_, hj, hnone, rfl⟩
    by_contra hlate
    exact h (hnone k (Nat.not_le.1 hlate))

/-- Powers of ten of up to nineteen zeros are kept whole. -/
theorem kept_ten_pow {k : Nat} (hk : k ≤ 19) : Binary64.kept (Nat.pow 10 k) = Nat.pow 10 k := by
  have hall : ∀ k < 20, Binary64.kept (Nat.pow 10 k) = Nat.pow 10 k := by decide +kernel
  exact hall k (by omega)

theorem digitCount_le_of_word {n : Nat} (h : n ≤ Nat.pow 2 63) : digitCount n ≤ 19 := by
  refine (Nat.length_toDigits_le_iff (by decide) (by decide)).2 ?_
  exact Nat.lt_of_le_of_lt h (by decide)

/-- No number that is rounded to a word's whole number has more digits with zeros for all but the
first. -/
theorem not_ten_pow_dvd (hx : x.isFinite = true) (hunits : x.units = v * unitsPerOne)
    (hpos : 0 < v) (hword : v ≤ Nat.pow 2 63) {m : Nat} (hm : x.Attracts m) :
    ¬Nat.pow 10 (digitCount v) ∣ m := by
  intro hdvd
  have hlt := lt_ten_pow_digitCount v
  have hmpos : 0 < m := by
    rcases Nat.eq_zero_or_pos m with rfl | h
    · -- zero is rounded to zero
      have hkept := hm.kept_eq hx hunits
      rw [Binary64.kept_of_le (Nat.zero_le _)] at hkept
      omega
    · exact h
  have hle := Nat.le_of_dvd hmpos hdvd
  have hself := Binary64.Attracts.self hx hunits
  have hpower := hself.between hm (Nat.le_of_lt hlt) hle
  have hkept := hpower.kept_eq hx hunits
  rw [kept_ten_pow (digitCount_le_of_word hword)] at hkept
  omega

/-- Where fewer digits give no candidate, nothing that is rounded to the number ends in one zero
more. -/
theorem not_ten_pow_succ_dvd (hx : x.isFinite = true) (hunits : x.units = v * unitsPerOne)
    (hpos : 0 < v) (hword : v ≤ Nat.pow 2 63) {j e : Nat} (he : j + 1 + e = digitCount v)
    (hnone : ∀ i, i < j → candidate .up x (i + 1) = none) {m : Nat} (hm : x.Attracts m) :
    ¬Nat.pow 10 (e + 1) ∣ m := by
  cases j with
  | zero =>
    have hall : e + 1 = digitCount v := by omega
    rw [hall]
    exact not_ten_pow_dvd hx hunits hpos hword hm
  | succ j =>
    have hprevious : candidate .up x (j + 1) = none := hnone j (Nat.lt_succ_self j)
    have hcount : j + 1 + (e + 1) = digitCount v := by omega
    rcases candidate_cases hx hunits hpos hcount with ⟨-, hmultiples⟩ | ⟨other, hother, -⟩
    · exact hmultiples m hm
    · rw [hother] at hprevious
      cases hprevious

/-- A whole number of more than 53 bits attracts the nearest multiple of a step of which half is
less than half of the last bit. -/
theorem exists_dvd_of_step (hx : x.isFinite = true) (hunits : x.units = v * unitsPerOne)
    {step j : Nat} (hstep : 0 < step) (hv : Nat.pow 2 (52 + j) < v)
    (hhalf : step < Nat.pow 2 j) : ∃ m, x.Attracts m ∧ step ∣ m := by
  have hrest : v % step < step := Nat.mod_lt _ hstep
  have hsplit := Nat.div_add_mod v step
  by_cases hnear : 2 * (v % step) ≤ step
  · refine ⟨v - v % step, (Binary64.Attracts.near hx hunits hv (by omega)).2, v / step, ?_⟩
    omega
  · refine ⟨v + (step - v % step), (Binary64.Attracts.near hx hunits hv (by omega)).1,
      v / step + 1, ?_⟩
    rw [Nat.mul_add]
    omega

/-- Seventeen digits suffice for a word's whole number. -/
theorem exists_candidate (hx : x.isFinite = true) (hunits : x.units = v * unitsPerOne)
    (hpos : 0 < v) (hword : v ≤ Nat.pow 2 63) :
    ∃ k, k < 17 ∧ k + 1 ≤ digitCount v ∧ candidate .up x (k + 1) ≠ none := by
  have hcount := digitCount_pos v
  have hle := digitCount_le_of_word hword
  have hsome : ∀ k e : Nat, k + 1 + e = digitCount v → (∃ m, x.Attracts m ∧ Nat.pow 10 e ∣ m) →
      candidate .up x (k + 1) ≠ none := by
    rintro k e hsum ⟨m, hm, hdvd⟩
    rcases candidate_cases hx hunits hpos hsum with ⟨-, hnone⟩ | ⟨d, hd, -⟩
    · exact absurd hdvd (hnone m hm)
    · rw [hd]
      exact Option.some_ne_none _
  by_cases hfew : digitCount v ≤ 17
  · -- with all of its digits the number is its own candidate
    refine ⟨digitCount v - 1, by omega, by omega, hsome _ 0 (by omega) ⟨v, ?_, Nat.one_dvd v⟩⟩
    exact Binary64.Attracts.self hx hunits
  · -- what one or two zeros take away is less than the last bit is worth
    have hlong : digitCount v = 18 ∨ digitCount v = 19 := by omega
    rcases hlong with hlong | hlong
    · have hv : Nat.pow 10 17 ≤ v := ten_pow_le_of_lt_digitCount (by decide) (by omega)
      have hbits : Nat.pow 2 (52 + 4) < v := Nat.lt_of_lt_of_le (by decide) hv
      exact ⟨16, by omega, by omega, hsome 16 1 (by omega)
        (exists_dvd_of_step hx hunits (by decide) hbits (by decide))⟩
    · have hv : Nat.pow 10 18 ≤ v := ten_pow_le_of_lt_digitCount (by decide) (by omega)
      have hbits : Nat.pow 2 (52 + 7) < v := Nat.lt_of_lt_of_le (by decide) hv
      exact ⟨16, by omega, by omega, hsome 16 2 (by omega)
        (exists_dvd_of_step hx hunits (by decide) hbits (by decide))⟩

/-- The whole number whose digits are shown for a whole number `v` in binary64. Of all that are
rounded to the same, it ends in the most zeros; of those that end in as many it is the nearest, and
the greater of two that are equally near. -/
structure IsShortest (x : Binary64) (v s : Nat) : Prop where
  attracts : x.Attracts s
  zeros : ∀ m, x.Attracts m → ∀ k, Nat.pow 10 k ∣ m → Nat.pow 10 k ∣ s
  nearest : ∀ m, x.Attracts m → (∀ k, Nat.pow 10 k ∣ s → Nat.pow 10 k ∣ m) →
    Nat.dist s v ≤ Nat.dist m v
  greater : ∀ m, x.Attracts m → (∀ k, Nat.pow 10 k ∣ s → Nat.pow 10 k ∣ m) →
    Nat.dist s v = Nat.dist m v → m ≤ s

theorem isZero_eq_false (hunits : x.units = v * unitsPerOne) (hpos : 0 < v) :
    x.isZero = false := by
  rw [Binary64.isZero, decide_eq_false_iff_not]
  intro hmagnitude
  have hnone := Binary64.units_of_lt (x := x) (by rw [hmagnitude]; decide)
  have hsome := Nat.mul_pos hpos Binary64.unitsPerOne_pos
  omega

/-- The decimal that is found for a word's whole number is whole and the shortest. -/
theorem shortest_whole (hx : x.isFinite = true) (hunits : x.units = v * unitsPerOne)
    (hpos : 0 < v) (hword : v ≤ Nat.pow 2 63) :
    ∃ d e : Nat, shortest .up x = ⟨d, e⟩ ∧ IsShortest x v (d * Nat.pow 10 e) := by
  obtain ⟨k, hk, hdigits, hsome⟩ := exists_candidate hx hunits hpos hword
  obtain ⟨j, found, hjk, hfound, hnone, hsearch⟩ :=
    @exists_first _ (fun n => candidate .up x (n + 1)) 17 k hk hsome
  -- the search stops after `j + 1` digits, which leaves room for `e` zeros
  obtain ⟨e, he⟩ : ∃ e, j + 1 + e = digitCount v := ⟨digitCount v - (j + 1), by omega⟩
  rcases candidate_cases hx hunits hpos he with ⟨hcandidate, -⟩ | ⟨d, hcandidate, hnearest⟩
  · rw [hcandidate] at hfound
    cases hfound
  rw [hcandidate, Option.some.injEq] at hfound
  subst hfound
  obtain ⟨d', e', hdrop, hvalue⟩ := dropZeros_eq 17 d e
  refine ⟨d', e', ?_, ?_⟩
  · rw [shortest, isZero_eq_false hunits hpos, hsearch]
    exact hdrop
  · rw [hvalue]
    refine ⟨hnearest.attracts, ?_, fun m hm hzeros => ?_, fun m hm hzeros => ?_⟩
    · intro m hm i hdvd
      have hno := not_ten_pow_succ_dvd hx hunits hpos hword he hnone hm
      have hle : i ≤ e := by
        by_contra hgt
        exact hno (Nat.dvd_trans (Nat.pow_dvd_pow 10 (by omega)) hdvd)
      exact Nat.dvd_trans (Nat.pow_dvd_pow 10 hle) hnearest.dvd
    · exact hnearest.nearest m hm (hzeros e hnearest.dvd)
    · exact hnearest.greater m hm (hzeros e hnearest.dvd)

end

end SearchDomain.Decimal
