/-
  SearchDomain.Proofs.Number.Digits

  Numbers written in decimal digits and read again. Digits of one length are told
  apart by the number that they spell. A number is split off the front of a text
  whole, whatever follows it, as long as no further digit does.
-/
import Mathlib.Data.List.Induction
import Mathlib.Data.List.TakeWhile
import SearchDomain.Number.Digits
import SearchDomain.Proofs.Text.Split

namespace SearchDomain.Digits

open Text (StopsAt)

/-! ## Writing -/

/-- The digits of a number spell the number. -/
theorem toNat_toDigits (n : Nat) : toNat (Nat.toDigits 10 n) = n :=
  Nat.ofDigitChars_ten_toDigits

theorem isDigit_of_mem_toDigits {n : Nat} {c : Char} (h : c ∈ Nat.toDigits 10 n) :
    c.isDigit = true :=
  Nat.isDigit_of_mem_toDigits (by decide) (by decide) h

/-- Only zero begins with a zero. -/
theorem head?_toDigits_ne_zero {n : Nat} (hn : 0 < n) :
    (Nat.toDigits 10 n).head? ≠ some '0' := by
  induction n using Nat.strongRecOn with
  | ind n ih =>
    by_cases hlt : n < 10
    · have hall : ∀ m : Fin 10, 0 < m.val → m.val.digitChar ≠ '0' := by decide
      rw [Nat.toDigits_of_lt_base hlt, List.head?_cons]
      exact fun h => hall ⟨n, hlt⟩ hn (Option.some.inj h)
    · have hfront := ih (n / 10) (by omega) (by omega)
      rw [Nat.toDigits_of_base_le (by decide) (by omega), List.head?_append]
      cases hdigits : Nat.toDigits 10 (n / 10) with
      | nil => exact absurd hdigits Nat.toDigits_ne_nil
      | cons d ds => simpa [hdigits] using hfront

/-! ## Values -/

theorem value_lt {c : Char} (h : c.isDigit = true) : value c < 10 := by
  simp only [Char.isDigit, Bool.and_eq_true, decide_eq_true_eq, UInt32.le_iff_toNat_le] at h
  have hle : c.toNat ≤ 57 := h.2
  show c.toNat - 48 < 10
  omega

theorem eq_of_value_eq {c d : Char} (hc : c.isDigit = true) (hd : d.isDigit = true)
    (h : value c = value d) : c = d := by
  simp only [Char.isDigit, Bool.and_eq_true, decide_eq_true_eq, ge_iff_le,
    UInt32.le_iff_toNat_le] at hc hd
  have hc' : 48 ≤ c.val.toNat := hc.1
  have hd' : 48 ≤ d.val.toNat := hd.1
  have hvalues : c.val.toNat - 48 = d.val.toNat - 48 := h
  apply Char.ext
  apply UInt32.toNat.inj
  omega

theorem toNat_concat (ds : List Char) (d : Char) :
    toNat (ds ++ [d]) = 10 * toNat ds + value d := by
  rw [toNat, List.foldl_append]
  rfl

theorem toNat_append (ds es : List Char) :
    toNat (ds ++ es) = Nat.pow 10 es.length * toNat ds + toNat es := by
  induction es using List.reverseRecOn with
  | nil =>
    rw [List.append_nil]
    exact (Nat.one_mul (toNat ds)).symm
  | append_singleton es e ih =>
    have hpow : Nat.pow 10 (es.length + 1) = 10 * Nat.pow 10 es.length := Nat.mul_comm _ _
    rw [← List.append_assoc, toNat_concat, toNat_concat, ih, List.length_append,
      List.length_singleton, hpow, Nat.mul_assoc]
    omega

/-- Digits of one length that spell the same number are the same. -/
theorem toNat_inj {ds es : List Char} (hds : ∀ c ∈ ds, c.isDigit = true)
    (hes : ∀ c ∈ es, c.isDigit = true) (hlength : ds.length = es.length)
    (h : toNat ds = toNat es) : ds = es := by
  induction ds using List.reverseRecOn generalizing es with
  | nil => exact (List.length_eq_zero_iff.1 hlength.symm).symm
  | append_singleton ds d ih =>
    cases es using List.reverseRecOn with
    | nil => simp at hlength
    | append_singleton es e =>
      rw [toNat_concat, toNat_concat] at h
      simp only [List.mem_append, List.mem_singleton, or_imp, forall_and, forall_eq] at hds hes
      have hd := value_lt hds.2
      have he := value_lt hes.2
      have hlast : d = e := eq_of_value_eq hds.2 hes.2 (by omega)
      rw [ih hds.1 hes.1 (by simpa using hlength) (by omega), hlast]

/-! ## Splitting off -/

/-- What follows the digits of a text does not change which digits stand in front. -/
theorem span_append_of_stopsAt {rest : List Char} (hrest : StopsAt (fun c => !c.isDigit) rest)
    (cs : List Char) : span (cs ++ rest) = ((span cs).1, (span cs).2 ++ rest) := by
  induction cs with
  | nil =>
    cases rest with
    | nil => rfl
    | cons c rest =>
      rw [Text.stopsAt_cons, Bool.not_eq_true'] at hrest
      simp [span, hrest]
  | cons c cs ih =>
    rw [span, span, Prod.mk.injEq] at ih
    by_cases hc : c.isDigit = true
    · simp [span, hc, ih.1, ih.2]
    · simp [span, hc]

/-- Digits alone are split off whole. -/
theorem span_of_isDigit {ds : List Char} (hds : ∀ c ∈ ds, c.isDigit = true) :
    span ds = (ds, []) := by
  rw [span, Prod.mk.injEq]
  exact ⟨List.takeWhile_eq_self_iff.2 hds, List.dropWhile_eq_nil_iff.2 hds⟩

/-- The digits of a number are split off whole. -/
theorem span_toDigits (n : Nat) : span (Nat.toDigits 10 n) = (Nat.toDigits 10 n, []) :=
  span_of_isDigit fun _ => isDigit_of_mem_toDigits

end SearchDomain.Digits
