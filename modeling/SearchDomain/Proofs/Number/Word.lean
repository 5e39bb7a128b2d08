/-
  SearchDomain.Proofs.Number.Word

  Checked arithmetic on words of 64 bits. Each operation gives the exact result
  or, where no word holds it, nothing.
-/
namespace SearchDomain.Word

/-- The word for a number, if it fits. -/
def ofNat? (n : Nat) : Option UInt64 :=
  if n < 0x10000000000000000 then some (UInt64.ofNat n) else none

/-- The sum, if it does not overflow. -/
def add? (a b : UInt64) : Option UInt64 :=
  ofNat? (a.toNat + b.toNat)

/-- The difference, if it does not underflow. -/
def sub? (a b : UInt64) : Option UInt64 :=
  if b.toNat ≤ a.toNat then ofNat? (a.toNat - b.toNat) else none

/-- The product, if it does not overflow. -/
def mul? (a b : UInt64) : Option UInt64 :=
  ofNat? (a.toNat * b.toNat)

/-- The quotient, unless the divisor is zero. -/
def div? (a b : UInt64) : Option UInt64 :=
  if b.toNat = 0 then none else ofNat? (a.toNat / b.toNat)

/-- The remainder, unless the divisor is zero. -/
def mod? (a b : UInt64) : Option UInt64 :=
  if b.toNat = 0 then none else ofNat? (a.toNat % b.toNat)

/-- The quotient, rounded up: a remainder asks for one more. -/
def divUp? (a b : UInt64) : Option UInt64 := do
  let quotient ← div? a b
  let remainder ← mod? a b
  if 0 < remainder.toNat then add? quotient 1 else some quotient

/-- Whether a checked result is there and is the number. -/
def Gives (result : Option UInt64) (n : Nat) : Prop :=
  ∃ word, result = some word ∧ word.toNat = n

/-- Whether an optional checked result is there and is the optional number. -/
def GivesOptional (result : Option (Option UInt64)) (n : Option Nat) : Prop :=
  ∃ word, result = some word ∧ word.map UInt64.toNat = n

/-! ## When results are there -/

theorem ofNat?_gives {n : Nat} (h : n < 0x10000000000000000) : Gives (ofNat? n) n := by
  refine ⟨UInt64.ofNat n, ?_, UInt64.toNat_ofNat_of_lt h⟩
  rw [ofNat?, if_pos h]

theorem ofNat?_eq_none_iff {n : Nat} : ofNat? n = none ↔ 0x10000000000000000 ≤ n := by
  rw [ofNat?]
  by_cases h : n < 0x10000000000000000
  · rw [if_pos h]
    constructor
    · intro hnone
      cases hnone
    · intro hle
      omega
  · rw [if_neg h]
    exact ⟨fun _ => by omega, fun _ => rfl⟩

variable {a b : UInt64}

theorem add?_gives (h : a.toNat + b.toNat < 0x10000000000000000) :
    Gives (add? a b) (a.toNat + b.toNat) :=
  ofNat?_gives h

theorem sub?_gives (h : b.toNat ≤ a.toNat) : Gives (sub? a b) (a.toNat - b.toNat) := by
  have hlt : a.toNat < 0x10000000000000000 := a.toNat_lt
  rw [sub?, if_pos h]
  exact ofNat?_gives (by omega)

theorem mul?_gives (h : a.toNat * b.toNat < 0x10000000000000000) :
    Gives (mul? a b) (a.toNat * b.toNat) :=
  ofNat?_gives h

theorem div?_gives (h : b.toNat ≠ 0) : Gives (div? a b) (a.toNat / b.toNat) := by
  have hle : a.toNat / b.toNat ≤ a.toNat := Nat.div_le_self _ _
  have hlt : a.toNat < 0x10000000000000000 := a.toNat_lt
  rw [div?, if_neg h]
  exact ofNat?_gives (by omega)

theorem mod?_gives (h : b.toNat ≠ 0) : Gives (mod? a b) (a.toNat % b.toNat) := by
  have hle : a.toNat % b.toNat ≤ a.toNat := Nat.mod_le _ _
  have hlt : a.toNat < 0x10000000000000000 := a.toNat_lt
  rw [mod?, if_neg h]
  exact ofNat?_gives (by omega)

/-- Where there is a remainder, there is room for one more. -/
theorem divUp?_gives (h : 0 < b.toNat) :
    Gives (divUp? a b) ((a.toNat + b.toNat - 1) / b.toNat) := by
  have hone : (1 : UInt64).toNat = 1 := rfl
  obtain ⟨quotient, hquotient, hdiv⟩ := div?_gives (a := a) (b := b) (by omega)
  obtain ⟨remainder, hremainder, hmod⟩ := mod?_gives (a := a) (b := b) (by omega)
  have hsplit : remainder.toNat + b.toNat * quotient.toNat = a.toNat := by
    rw [hdiv, hmod]
    exact Nat.mod_add_div _ _
  have hrem : remainder.toNat < b.toNat := by
    rw [hmod]
    exact Nat.mod_lt _ h
  have hle : quotient.toNat ≤ b.toNat * quotient.toNat := Nat.le_mul_of_pos_left _ h
  have hlt : a.toNat < 0x10000000000000000 := a.toNat_lt
  rw [divUp?, hquotient, hremainder]
  simp only [Option.bind_eq_bind, Option.bind_some]
  by_cases hpos : 0 < remainder.toNat
  · have hup : (a.toNat + b.toNat - 1) / b.toNat = quotient.toNat + (1 : UInt64).toNat := by
      rw [hone, Nat.div_eq_iff h, Nat.add_mul, Nat.one_mul, Nat.mul_comm quotient.toNat]
      omega
    rw [if_pos hpos, hup]
    exact add?_gives (by omega)
  · have hdown : (a.toNat + b.toNat - 1) / b.toNat = quotient.toNat := by
      rw [Nat.div_eq_iff h, Nat.mul_comm quotient.toNat]
      omega
    rw [if_neg hpos, hdown]
    exact ⟨quotient, rfl, rfl⟩

/-- The next word, up to the last. -/
theorem add?_one_eq_none_iff : add? a 1 = none ↔ a.toNat = 0xFFFFFFFFFFFFFFFF := by
  have hlt : a.toNat < 0x10000000000000000 := a.toNat_lt
  have hone : (1 : UInt64).toNat = 1 := rfl
  rw [add?, ofNat?_eq_none_iff, hone]
  omega

end SearchDomain.Word
