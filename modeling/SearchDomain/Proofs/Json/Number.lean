/-
  SearchDomain.Proofs.Json.Number

  Numbers of JSON text read back. The reader of numbers stops where a number can
  go on no further, so what it reads as a whole text it reads in front of any
  punctuation too. A whole number within 64 bits is read as it was written. A
  binary64 number need not be, since the reader rounds more than once, so that
  it is stands as a condition on the number.
-/
import SearchDomain.Json.Reader
import SearchDomain.Proofs.Number.Digits

namespace SearchDomain.Json

open Text (StopsAt)

/-! ## Where a number ends -/

/-- Whether no number goes on with this character. -/
def endsNumber (c : Char) : Bool :=
  !(c.isDigit || c = '.' || c = 'e' || c = 'E')

theorem stopsAt_digits_of_endsNumber {rest : List Char} (h : StopsAt endsNumber rest) :
    StopsAt (fun c => !c.isDigit) rest := by
  intro c hc
  have hends := h c hc
  simp only [endsNumber, Bool.not_eq_true', Bool.or_eq_false_iff] at hends
  simp [hends.1.1.1]

/-! ## Exponents -/

/-- The number that digits in front of a text spell, and what follows them. -/
def spanDigits (cs : List Char) : Option (Nat × List Char) :=
  match Digits.span cs with
  | ([], _) => none
  | (digits, rest) => some (Digits.toNat digits, rest)

theorem spanExponent_cons (c : Char) (cs : List Char) :
    spanExponent (c :: cs) =
      if c = '-' then (spanDigits cs).map fun found => (-Int.ofNat found.1, found.2)
      else if c = '+' then (spanDigits cs).map fun found => (Int.ofNat found.1, found.2)
      else (spanDigits (c :: cs)).map fun found => (Int.ofNat found.1, found.2) := by
  by_cases hminus : c = '-'
  · subst hminus
    rfl
  · by_cases hplus : c = '+'
    · subst hplus
      rfl
    · rw [if_neg hminus, if_neg hplus, spanExponent]
      · rfl
      · intro rest h
        exact hminus (List.cons.inj h).1
      · intro rest h
        exact hplus (List.cons.inj h).1

theorem spanDigits_append {cs after rest : List Char} {n : Nat}
    (h : spanDigits cs = some (n, after)) (hrest : StopsAt endsNumber rest) :
    spanDigits (cs ++ rest) = some (n, after ++ rest) := by
  rw [spanDigits] at h ⊢
  rw [Digits.span_append_of_stopsAt (stopsAt_digits_of_endsNumber hrest)]
  cases hspan : Digits.span cs with
  | mk digits more =>
    rw [hspan] at h
    cases digits with
    | nil => simp at h
    | cons d ds =>
      simp only [Option.some.injEq, Prod.mk.injEq] at h ⊢
      exact ⟨h.1, congrArg (· ++ rest) h.2⟩

theorem spanExponent_append {cs after rest : List Char} {e : Int}
    (h : spanExponent cs = some (e, after)) (hrest : StopsAt endsNumber rest) :
    spanExponent (cs ++ rest) = some (e, after ++ rest) := by
  have hmap : ∀ (ds : List Char) (sign : Nat → Int),
      (spanDigits ds).map (fun found => (sign found.1, found.2)) = some (e, after) →
      (spanDigits (ds ++ rest)).map (fun found => (sign found.1, found.2)) =
        some (e, after ++ rest) := by
    intro ds sign hds
    obtain ⟨⟨n, more⟩, hspan, hfound⟩ := Option.map_eq_some_iff.1 hds
    obtain ⟨rfl, rfl⟩ := Prod.mk.inj hfound
    rw [spanDigits_append hspan hrest, Option.map_some]
  cases cs with
  | nil => simp [spanExponent, Digits.span] at h
  | cons c cs =>
    rw [List.cons_append, spanExponent_cons] at *
    split
    next hc => exact hmap cs (fun n => -Int.ofNat n) (by rwa [if_pos hc] at h)
    next hc =>
      rw [if_neg hc] at h
      split
      next hc => exact hmap cs Int.ofNat (by rwa [if_pos hc] at h)
      next hc => exact hmap (c :: cs) Int.ofNat (by rwa [if_neg hc] at h)

/-! ## Fractions -/

theorem finishReal_append {negative : Bool} {n : Scaled} {cs rest : List Char} {m : JsonNumber}
    (h : finishReal negative n cs = some (m, [])) :
    finishReal negative n (cs ++ rest) = some (m, rest) := by
  obtain ⟨x, hx, hm⟩ := Option.map_eq_some_iff.1 h
  obtain ⟨rfl, rfl⟩ := Prod.mk.inj hm
  rw [finishReal, hx, Option.map_some, List.nil_append]

/-- Behind the digits of a number nothing is read but an exponent. -/
theorem spanScaled_of_stopsAt {negative : Bool} {n : Scaled} {rest : List Char}
    (hrest : StopsAt endsNumber rest) :
    spanScaled negative n rest = finishReal negative n rest := by
  cases rest with
  | nil => rfl
  | cons c rest =>
    have hc : ¬(c = 'e' ∨ c = 'E') := by
      simp only [Text.stopsAt_cons, endsNumber, Bool.not_eq_true', Bool.or_eq_false_iff,
        decide_eq_false_iff_not] at hrest
      exact fun h => h.elim hrest.1.2 hrest.2
    rw [spanScaled, if_neg hc]

theorem spanScaled_append {negative : Bool} {n : Scaled} {cs rest : List Char} {m : JsonNumber}
    (h : spanScaled negative n cs = some (m, [])) (hrest : StopsAt endsNumber rest) :
    spanScaled negative n (cs ++ rest) = some (m, rest) := by
  cases cs with
  | nil =>
    rw [List.nil_append, spanScaled_of_stopsAt hrest]
    exact finishReal_append h
  | cons c cs =>
    rw [spanScaled] at h
    rw [List.cons_append, spanScaled]
    split at h
    next hc =>
      obtain ⟨⟨e, after⟩, hexponent, hfinish⟩ := Option.bind_eq_some_iff.1 h
      rw [if_pos hc, spanExponent_append hexponent hrest]
      exact finishReal_append hfinish
    next hc =>
      rw [if_neg hc, ← List.cons_append]
      exact finishReal_append h

/-! ## Numbers in front of a text -/

/-- What is read behind the digits before the point. -/
def spanTail (negative : Bool) (n : Scaled) : List Char → Option (JsonNumber × List Char)
  | [] => if n.exponent = 0 then some (ofWhole negative n.significand, [])
    else finishReal negative n []
  | c :: cs =>
    if c = '.' then
      if (Digits.span cs).1 = [] then none
      else spanScaled negative (n.readFraction (Digits.span cs).1) (Digits.span cs).2
    else if c = 'e' ∨ c = 'E' then spanScaled negative n (c :: cs)
    else if n.exponent = 0 then some (ofWhole negative n.significand, c :: cs)
    else finishReal negative n (c :: cs)

theorem spanUnsigned_eq (negative : Bool) (cs : List Char) :
    spanUnsigned negative cs =
      if (Digits.span cs).1 = [] ∨
          ((Digits.span cs).1.head? = some '0' ∧ 1 < (Digits.span cs).1.length) then none
      else spanTail negative (Scaled.readWhole ⟨0, 0⟩ (Digits.span cs).1) (Digits.span cs).2 := by
  unfold spanUnsigned
  cases Digits.span cs with
  | mk digits after =>
  refine if_congr Iff.rfl rfl ?_
  cases after with
  | nil => rfl
  | cons c after =>
    by_cases hpoint : c = '.'
    · subst hpoint
      rfl
    · rw [spanTail, if_neg hpoint]
      split
      next heq => exact absurd (List.cons.inj heq).1 hpoint
      next heq =>
        obtain ⟨rfl, rfl⟩ := List.cons.inj heq
        rfl
      next heq => cases heq

/-- A number that ends with its digits ends in front of any punctuation. -/
theorem spanTail_of_stopsAt {negative : Bool} {n : Scaled} {rest : List Char}
    (hrest : StopsAt endsNumber rest) :
    spanTail negative n rest =
      if n.exponent = 0 then some (ofWhole negative n.significand, rest)
      else finishReal negative n rest := by
  cases rest with
  | nil => rfl
  | cons c rest =>
    have hc : c ≠ '.' ∧ ¬(c = 'e' ∨ c = 'E') := by
      simp only [Text.stopsAt_cons, endsNumber, Bool.not_eq_true', Bool.or_eq_false_iff,
        decide_eq_false_iff_not] at hrest
      exact ⟨hrest.1.1.2, fun h => h.elim hrest.1.2 hrest.2⟩
    rw [spanTail, if_neg hc.1, if_neg hc.2]

theorem spanTail_append {negative : Bool} {n : Scaled} {cs rest : List Char} {m : JsonNumber}
    (h : spanTail negative n cs = some (m, [])) (hrest : StopsAt endsNumber rest) :
    spanTail negative n (cs ++ rest) = some (m, rest) := by
  cases cs with
  | nil =>
    rw [List.nil_append, spanTail_of_stopsAt hrest]
    rw [spanTail] at h
    split at h
    next hwhole =>
      obtain ⟨rfl, -⟩ := Prod.mk.inj (Option.some.inj h)
      rw [if_pos hwhole]
    next hlong =>
      rw [if_neg hlong]
      exact finishReal_append h
  | cons c cs =>
    rw [spanTail] at h
    rw [List.cons_append, spanTail,
      Digits.span_append_of_stopsAt (stopsAt_digits_of_endsNumber hrest)]
    by_cases hpoint : c = '.'
    · rw [if_pos hpoint] at h ⊢
      by_cases hfraction : (Digits.span cs).1 = []
      · rw [if_pos hfraction] at h
        cases h
      · rw [if_neg hfraction] at h ⊢
        exact spanScaled_append h hrest
    · rw [if_neg hpoint] at h ⊢
      by_cases hexponent : c = 'e' ∨ c = 'E'
      · rw [if_pos hexponent] at h ⊢
        exact spanScaled_append h hrest
      · rw [if_neg hexponent] at h ⊢
        split at h
        next => cases h
        next hlong =>
          rw [if_neg hlong]
          exact finishReal_append h

theorem spanUnsigned_append {negative : Bool} {cs rest : List Char} {m : JsonNumber}
    (h : spanUnsigned negative cs = some (m, [])) (hrest : StopsAt endsNumber rest) :
    spanUnsigned negative (cs ++ rest) = some (m, rest) := by
  rw [spanUnsigned_eq] at h ⊢
  rw [Digits.span_append_of_stopsAt (stopsAt_digits_of_endsNumber hrest)]
  split at h
  next => cases h
  next hdigits =>
    rw [if_neg hdigits]
    exact spanTail_append h hrest

theorem spanNumber_cons (c : Char) (cs : List Char) :
    spanNumber (c :: cs) =
      if c = '-' then spanUnsigned true cs else spanUnsigned false (c :: cs) := by
  by_cases hminus : c = '-'
  · subst hminus
    rfl
  · rw [if_neg hminus, spanNumber]
    intro rest h
    exact hminus (List.cons.inj h).1

/-- A number that makes up a text is read in front of any punctuation too. -/
theorem spanNumber_append {cs rest : List Char} {m : JsonNumber}
    (h : spanNumber cs = some (m, [])) (hrest : StopsAt endsNumber rest) :
    spanNumber (cs ++ rest) = some (m, rest) := by
  cases cs with
  | nil => cases h
  | cons c cs =>
    rw [spanNumber_cons] at h
    rw [List.cons_append, spanNumber_cons]
    split at h
    next hminus =>
      rw [if_pos hminus]
      exact spanUnsigned_append h hrest
    next hminus =>
      rw [if_neg hminus, ← List.cons_append]
      exact spanUnsigned_append h hrest

/-! ## Whole numbers -/

/-- Reading further digits makes a number no smaller. -/
theorem le_ofDigitChars (ds : List Char) (n : Nat) : n ≤ Nat.ofDigitChars 10 ds n := by
  induction ds generalizing n with
  | nil => rw [Nat.ofDigitChars_nil]
  | cons d ds ih =>
    rw [Nat.ofDigitChars_cons]
    have hrest := ih (10 * n + (d.toNat - '0'.toNat))
    omega

/-- Digits whose number stays within 64 bits are all kept. -/
theorem readWhole_of_lt (ds : List Char) (n : Nat)
    (h : Nat.ofDigitChars 10 ds n < 0x10000000000000000) :
    Scaled.readWhole ⟨n, 0⟩ ds = ⟨Nat.ofDigitChars 10 ds n, 0⟩ := by
  induction ds generalizing n with
  | nil => rw [Scaled.readWhole, Nat.ofDigitChars_nil]
  | cons d ds ih =>
    rw [Nat.ofDigitChars_cons] at h ⊢
    have hpush : 10 * n + Digits.value d < 0x10000000000000000 :=
      Nat.lt_of_le_of_lt (le_ofDigitChars ds _) h
    have hfits : Scaled.overflows ⟨n, 0⟩ d = false :=
      decide_eq_false (Nat.not_le.2 hpush)
    rw [Scaled.readWhole, if_pos ⟨rfl, by rw [hfits]; exact Bool.false_ne_true⟩]
    exact ih _ h

/-- The digits of a number within 64 bits are read as that number. -/
theorem spanUnsigned_toDigits (negative : Bool) {n : Nat} (hn : n < 0x10000000000000000) :
    spanUnsigned negative (Nat.toDigits 10 n) = some (ofWhole negative n, []) := by
  have hread : Scaled.readWhole ⟨0, 0⟩ (Nat.toDigits 10 n) = ⟨n, 0⟩ := by
    rw [readWhole_of_lt _ _ (by rwa [Nat.ofDigitChars_ten_toDigits]),
      Nat.ofDigitChars_ten_toDigits]
  have hdigits : ¬(Nat.toDigits 10 n = [] ∨
      ((Nat.toDigits 10 n).head? = some '0' ∧ 1 < (Nat.toDigits 10 n).length)) := by
    rintro (hnil | ⟨hzero, hlong⟩)
    · exact Nat.toDigits_ne_nil hnil
    · rcases Nat.eq_zero_or_pos n with rfl | hpos
      · exact absurd hlong (by decide)
      · exact Digits.head?_toDigits_ne_zero hpos hzero
  rw [spanUnsigned_eq, Digits.span_toDigits, if_neg hdigits, hread, spanTail, if_pos rfl]

/-- A whole number within 64 bits is read as it is written. -/
theorem spanNumber_toString {n : Int} (hmin : -0x8000000000000000 ≤ n)
    (hmax : n < 0x10000000000000000) :
    spanNumber (toString n).toList = some (.whole n, []) := by
  cases n with
  | ofNat n =>
    have hn : n < 0x10000000000000000 := by
      rw [Int.ofNat_eq_natCast] at hmax
      omega
    rw [show (toString (Int.ofNat n)).toList = Nat.toDigits 10 n from Nat.toList_repr]
    have hread := spanUnsigned_toDigits false hn
    cases hdigits : Nat.toDigits 10 n with
    | nil => exact absurd hdigits Nat.toDigits_ne_nil
    | cons d ds =>
      have hd : d ≠ '-' := by
        rintro rfl
        exact absurd (Digits.isDigit_of_mem_toDigits (hdigits ▸ List.mem_cons_self)) (by decide)
      rw [hdigits] at hread
      rw [spanNumber_cons, if_neg hd, hread]
      rfl
  | negSucc m =>
    have hm : m + 1 ≤ 0x8000000000000000 := by omega
    have htext : (toString (Int.negSucc m)).toList = '-' :: Nat.toDigits 10 (m + 1) := by
      rw [← Nat.toList_repr]
      exact String.toList_append
    have hsmall : ¬(m + 1 = 0 ∨ 0x8000000000000000 < m + 1) := by omega
    rw [htext, spanNumber_cons, if_pos rfl, spanUnsigned_toDigits true (by omega), ofWhole,
      if_pos rfl, if_neg hsmall]
    rfl

end SearchDomain.Json

namespace SearchDomain

/-! ## Numbers as they are written -/

/-- Whether the number is read back from its JSON text. -/
def Binary64.ReadsBack (x : Binary64) : Prop :=
  Json.spanNumber x.jsonText.toList = some (.real x, [])

instance (x : Binary64) : Decidable x.ReadsBack :=
  inferInstanceAs (Decidable (_ = _))

namespace JsonNumber

/-- Whether a whole number is within 64 bits, and any other number passes a test. -/
def isProper (test : Binary64 → Bool) : JsonNumber → Bool
  | whole n => -0x8000000000000000 ≤ n && n < 0x10000000000000000
  | real x => test x

/-- A number is read as it is written, in front of any punctuation. -/
theorem spanNumber_text_append {n : JsonNumber}
    (hn : n.isProper (fun x => decide x.ReadsBack) = true) {rest : List Char}
    (hrest : Text.StopsAt Json.endsNumber rest) :
    Json.spanNumber (n.text.toList ++ rest) = some (n, rest) := by
  apply Json.spanNumber_append _ hrest
  cases n with
  | whole n =>
    rw [isProper, Bool.and_eq_true, decide_eq_true_eq, decide_eq_true_eq] at hn
    exact Json.spanNumber_toString hn.1 hn.2
  | real x => exact of_decide_eq_true hn

end JsonNumber

end SearchDomain
