/-
  SearchDomain.Proofs.Filter.IntegerRange

  Ranges between 64-bit integers, as filters write them. The bounds are taken in
  binary64 and written with the fewest digits that read back, so what stands in the
  text is a whole number, but not always the bound: it is the one of all whole
  numbers with the same binary64 number that ends in the most zeros. Main
  statement: what is written for a closed range, for the same range in JSON and for
  a half-open one, and exactly when it is the bounds themselves; up to two to the
  power of 53 it always is.
-/
import Std.Data.String.ToInt
import SearchDomain.Proofs.Filter.Delimited
import SearchDomain.Proofs.Filter.OfJson
import SearchDomain.Proofs.Number.Shortest

namespace SearchDomain

/-! ## Text -/

/-- Without exponents, digits in front of the point are followed by zeros up to it. -/
theorem Layout.positional_plain (digits : List Char) {e : Nat} (h : 0 < digits.length) :
    Binary64.plainLayout.positional digits (e + digits.length) =
      digits ++ List.replicate e '0' := by
  have hposition : ¬((e : Int) + digits.length ≤ 0) := by omega
  have hnat : ((e : Int) + digits.length).toNat = e + digits.length := by omega
  rw [positional, if_neg hposition, hnat, if_pos (Nat.le_add_left _ _), Nat.add_sub_cancel]
  exact List.append_nil _

theorem toString_neg_natCast {n : Nat} (h : 0 < n) :
    toString (-(n : Int)) = "-" ++ toString n := by
  have hneg : ¬(0 ≤ -(n : Int)) := by omega
  rw [Int.toString_eq_repr, Int.repr_eq_if, if_neg hneg, Int.neg_neg, Int.toNat_natCast]
  rfl

namespace Binary64

/-- A number with a whole shortest decimal is written as the whole number. -/
theorem plainText_of_shortest {x : Binary64} (hx : x.isFinite = true) {d e : Nat}
    (hshortest : Decimal.shortest .up x = ⟨d, e⟩) (hpos : 0 < d * Nat.pow 10 e) :
    x.plainText = toString (if x.negative then -((d * Nat.pow 10 e : Nat) : Int)
      else ((d * Nat.pow 10 e : Nat) : Int)) := by
  have hd : 0 < d := Nat.pos_of_mul_pos_right hpos
  have hlength : 0 < (Nat.toDigits 10 d).length := Nat.length_toDigits_pos
  have hposition : (e : Int) + (Nat.toDigits 10 d).length - 1 + 1 =
      e + (Nat.toDigits 10 d).length := by omega
  have hdigits : plainLayout.positional (Nat.toDigits 10 d) (e + (Nat.toDigits 10 d).length) =
      Nat.toDigits 10 (d * Nat.pow 10 e) := by
    rw [Layout.positional_plain _ hlength, Decimal.toDigits_mul_ten_pow hd]
  have hnan : x.isNaN = false := by
    simp only [isFinite, isNaN, decide_eq_true_eq, decide_eq_false_iff_not] at hx ⊢
    omega
  have htext : plainLayout.finiteText x =
      if x.negative then '-' :: Nat.toDigits 10 (d * Nat.pow 10 e)
      else Nat.toDigits 10 (d * Nat.pow 10 e) := by
    have hleading : ∀ leading, plainLayout.isPositional leading = true := fun _ => rfl
    have htie : plainLayout.tie = .up := rfl
    simp only [Layout.finiteText, htie, hshortest, hleading, if_true, hposition, hdigits]
  rw [plainText, Layout.text, hnan, hx, if_neg Bool.false_ne_true, if_pos rfl, htext]
  cases x.negative with
  | true =>
    rw [if_pos rfl, if_pos rfl, toString_neg_natCast hpos]
    apply String.toList_inj.1
    rw [String.toList_ofList, String.toList_append]
    exact congrArg _ Nat.toList_repr.symm
  | false =>
    rw [if_neg Bool.false_ne_true, if_neg Bool.false_ne_true]
    apply String.toList_inj.1
    rw [String.toList_ofList]
    exact Nat.toList_repr.symm

/-! ## Integers with the same number -/

/-- Integers with the same number have the same sign, and the number attracts both. -/
theorem ofInt_eq_iff {m n : Int} :
    ofInt m = ofInt n ↔ (m < 0 ↔ n < 0) ∧ (ofInt n).Attracts m.natAbs := by
  rw [ofInt, ofInt, ofRatio, ofRatio, Binary64.mk.injEq, decide_eq_decide]
  rfl

/-- How far an integer lies from a number, in units of `2 ^ -1074`. -/
def distance (x : Binary64) (m : Int) : Nat :=
  (m * unitsPerOne - if x.negative then -(x.units : Int) else x.units).natAbs

/-- On one side of zero, distances are those of the numbers without sign. -/
theorem distance_eq {x : Binary64} {v : Nat} (hunits : x.units = v * unitsPerOne) {m : Int}
    (hsign : m < 0 ↔ x.negative = true) :
    distance x m = Nat.dist m.natAbs v * unitsPerOne := by
  have hdist : ∀ a : Nat, ((a : Int) - v).natAbs = Nat.dist a v := by
    intro a
    unfold Nat.dist
    omega
  rw [distance, hunits, Int.natCast_mul]
  -- on either side the sign comes out of the difference
  by_cases hneg : m < 0
  · have habs : m = -(m.natAbs : Int) := by omega
    have hfactor : m * unitsPerOne - -((v : Int) * unitsPerOne) =
        -(((m.natAbs : Int) - v) * unitsPerOne) := by
      rw [Int.sub_mul]
      conv_lhs => rw [habs]
      rw [Int.neg_mul]
      omega
    rw [if_pos (hsign.1 hneg), hfactor, Int.natAbs_neg, Int.natAbs_mul, hdist, Int.natAbs_natCast]
  · have habs : m = (m.natAbs : Int) := by omega
    have hfactor : m * unitsPerOne - (v : Int) * unitsPerOne =
        ((m.natAbs : Int) - v) * unitsPerOne := by
      rw [Int.sub_mul, ← habs]
    rw [if_neg (mt hsign.2 hneg), hfactor, Int.natAbs_mul, hdist, Int.natAbs_natCast]

/-- The integer that is written for an integer in binary64. Of all integers with the same number,
it ends in the most zeros; of those that end in as many it is the nearest to the number, and the
greater of two that are equally near. -/
structure ShownFor (n shown : Int) : Prop where
  rounded : ofInt shown = ofInt n
  zeros : ∀ m, ofInt m = ofInt n →
    ∀ k, Nat.pow 10 k ∣ m.natAbs → Nat.pow 10 k ∣ shown.natAbs
  nearest : ∀ m, ofInt m = ofInt n →
    (∀ k, Nat.pow 10 k ∣ shown.natAbs → Nat.pow 10 k ∣ m.natAbs) →
      (ofInt n).distance shown ≤ (ofInt n).distance m
  greater : ∀ m, ofInt m = ofInt n →
    (∀ k, Nat.pow 10 k ∣ shown.natAbs → Nat.pow 10 k ∣ m.natAbs) →
      (ofInt n).distance shown = (ofInt n).distance m → m.natAbs ≤ shown.natAbs

/-- There is only one such integer. -/
theorem ShownFor.unique {n shown other : Int} (h : ShownFor n shown) (h' : ShownFor n other) :
    shown = other := by
  have hzeros := h.zeros other h'.rounded
  have hzeros' := h'.zeros shown h.rounded
  have hdistance : (ofInt n).distance shown = (ofInt n).distance other :=
    Nat.le_antisymm (h.nearest other h'.rounded hzeros') (h'.nearest shown h.rounded hzeros)
  have hle := h.greater other h'.rounded hzeros' hdistance
  have hge := h'.greater shown h.rounded hzeros hdistance.symm
  have hsign := (ofInt_eq_iff.1 (h.rounded.trans h'.rounded.symm)).1
  omega

/-- Up to two to the power of 53, an integer is its number. -/
theorem units_ofInt_of_le {n : Int} (hn : n.natAbs ≤ Nat.pow 2 53) :
    (ofInt n).isFinite = true ∧ (ofInt n).units = n.natAbs * unitsPerOne := by
  have hfinite : (ofInt n).isFinite = true := isFinite_ofInt (by decide) hn
  have hunits : (ofInt n).units = kept n.natAbs * unitsPerOne := units_ofRatio_one hfinite
  rw [kept_of_le hn] at hunits
  exact ⟨hfinite, hunits⟩

/-- Up to two to the power of 53, an integer shares its number with no other. That power itself
shares it with its successor. -/
theorem natAbs_eq_of_ofInt_eq {m n : Int} (hn : n.natAbs ≤ Nat.pow 2 53)
    (h : ofInt m = ofInt n) :
    m.natAbs = n.natAbs ∨ (n.natAbs = Nat.pow 2 53 ∧ m.natAbs = Nat.pow 2 53 + 1) := by
  obtain ⟨hfinite, hunits⟩ := units_ofInt_of_le hn
  have hself := Attracts.self hfinite hunits
  have hattracts := (ofInt_eq_iff.1 h).2
  by_cases hm : m.natAbs ≤ Nat.pow 2 53
  · have hkept := hattracts.kept_eq hfinite hunits
    rw [kept_of_le hm] at hkept
    exact .inl hkept
  · -- the power lies between the two, and what comes after its successor is rounded elsewhere
    have hpower := (hself.between hattracts hn (by omega)).kept_eq hfinite hunits
    rw [kept_of_le (Nat.le_refl _)] at hpower
    refine .inr ⟨hpower.symm, ?_⟩
    by_contra hne
    have hnext := hself.between (c := Nat.pow 2 53 + 2) hattracts (by omega) (by omega)
    have hkept := hnext.kept_eq hfinite hunits
    have hheld : kept (Nat.pow 2 53 + 2) = Nat.pow 2 53 + 2 := by decide +kernel
    omega

/-- Up to two to the power of 53, an integer is shown for itself. -/
theorem shownFor_self {n : Int} (hn : n.natAbs ≤ Nat.pow 2 53) : ShownFor n n := by
  obtain ⟨-, hunits⟩ := units_ofInt_of_le hn
  have hsign : n < 0 ↔ (ofInt n).negative = true := decide_eq_true_iff.symm
  have hnearest : (ofInt n).distance n = 0 := by
    rw [distance_eq hunits hsign, Nat.dist_self, Nat.zero_mul]
  refine ⟨rfl, ?_, fun m _ _ => hnearest ▸ Nat.zero_le _, ?_⟩
  · intro m hm k hdvd
    rcases natAbs_eq_of_ofInt_eq hn hm with hsame | ⟨-, hnext⟩
    · rwa [hsame] at hdvd
    · -- the successor of the power ends in no zero
      rw [hnext] at hdvd
      cases k with
      | zero => exact Nat.one_dvd _
      | succ k =>
        have hten : 10 ∣ Nat.pow 2 53 + 1 := Nat.dvd_trans (Nat.dvd_mul_left 10 _) hdvd
        exact absurd hten (by decide)
  · intro m hm _ hequal
    rcases natAbs_eq_of_ofInt_eq hn hm with hsame | ⟨hpower, hnext⟩
    · exact Nat.le_of_eq hsame
    · rw [hnearest, distance_eq hunits ((ofInt_eq_iff.1 hm).1.trans hsign), hnext, hpower] at hequal
      have hdist : Nat.dist (Nat.pow 2 53 + 1) (Nat.pow 2 53) = 1 := by decide
      have hone := unitsPerOne_pos
      rw [hdist] at hequal
      omega

/-- The whole number whose digits are found for an integer is shown for it, with its sign. -/
theorem shownFor_of_isShortest {n shown : Int}
    (hunits : (ofInt n).units = kept n.natAbs * unitsPerOne) (hside : shown < 0 ↔ n < 0)
    (h : Decimal.IsShortest (ofInt n) (kept n.natAbs) shown.natAbs) : ShownFor n shown := by
  have hsign : n < 0 ↔ (ofInt n).negative = true := decide_eq_true_iff.symm
  have hdistance : ∀ m, ofInt m = ofInt n →
      (ofInt n).distance m = Nat.dist m.natAbs (kept n.natAbs) * unitsPerOne :=
    fun m hm => distance_eq hunits ((ofInt_eq_iff.1 hm).1.trans hsign)
  have hrounded : ofInt shown = ofInt n := ofInt_eq_iff.2 ⟨hside, h.attracts⟩
  refine ⟨hrounded, fun m hm => h.zeros m.natAbs (ofInt_eq_iff.1 hm).2, ?_, ?_⟩
  · intro m hm hzeros
    rw [hdistance shown hrounded, hdistance m hm]
    exact Nat.mul_le_mul_right _ (h.nearest m.natAbs (ofInt_eq_iff.1 hm).2 hzeros)
  · intro m hm hzeros hequal
    rw [hdistance shown hrounded, hdistance m hm] at hequal
    exact h.greater m.natAbs (ofInt_eq_iff.1 hm).2 hzeros
      (Nat.eq_of_mul_eq_mul_right unitsPerOne_pos hequal)

/-- An integer of a word is written as one that is shown for it. -/
theorem exists_shownFor {n : Int} (hn : n.natAbs ≤ Nat.pow 2 63) :
    ∃ shown, ShownFor n shown ∧ (ofInt n).plainText = toString shown := by
  have hfinite : (ofInt n).isFinite = true := isFinite_ofInt (by decide) hn
  have hunits : (ofInt n).units = kept n.natAbs * unitsPerOne := units_ofRatio_one hfinite
  have hsign : n < 0 ↔ (ofInt n).negative = true := decide_eq_true_iff.symm
  by_cases hzero : n = 0
  · subst hzero
    exact ⟨0, shownFor_self (by decide), by decide +kernel⟩
  · have hpos : 0 < kept n.natAbs := kept_pos (by omega)
    obtain ⟨d, e, hshortest, hshown⟩ :=
      Decimal.shortest_whole hfinite hunits hpos (kept_le hn)
    have htext : 0 < d * Nat.pow 10 e → _ := plainText_of_shortest hfinite hshortest
    generalize d * Nat.pow 10 e = s at hshown htext
    have hs : 0 < s := by
      rcases Nat.eq_zero_or_pos s with rfl | h
      · -- only zero is rounded to zero
        have hkept := hshown.attracts.kept_eq hfinite hunits
        rw [kept_of_le (Nat.zero_le _)] at hkept
        omega
      · exact h
    obtain ⟨shown, hvalue, rfl, hside⟩ : ∃ shown : Int,
        (if (ofInt n).negative then -(s : Int) else s) = shown ∧ shown.natAbs = s ∧
          (shown < 0 ↔ n < 0) := by
      by_cases hneg : n < 0
      · exact ⟨-(s : Int), if_pos (hsign.1 hneg), by omega, by omega⟩
      · exact ⟨s, if_neg (mt hsign.2 hneg), by omega, by omega⟩
    exact ⟨shown, shownFor_of_isShortest hunits hside hshown, hvalue ▸ htext hs⟩

end Binary64

/-! ## Ranges -/

open Binary64 (ShownFor)

/-- A word above another has a word just below it. -/
theorem toInt_sub_one_of_lt {a b : Int64} (h : a < b) : (b - 1).toInt = b.toInt - 1 := by
  have hlt : a.toInt < b.toInt := Int64.lt_iff_toInt_lt.1 h
  have hlower : -0x8000000000000000 ≤ a.toInt := a.le_toInt
  have hupper : b.toInt < 0x8000000000000000 := b.toInt_lt
  have hone : (1 : Int64).toInt = 1 := by decide
  rw [Int64.toInt_sub, hone]
  exact Int.bmod_eq_of_le (by omega) (by omega)

theorem natAbs_toInt_le (n : Int64) : n.toInt.natAbs ≤ Nat.pow 2 63 := by
  have hlower : -0x8000000000000000 ≤ n.toInt := n.le_toInt
  have hupper : n.toInt < 0x8000000000000000 := n.toInt_lt
  show n.toInt.natAbs ≤ 0x8000000000000000
  omega

namespace Filter

/-- A condition on a field with a closed range between integers. -/
def rangeText (field : String) (least greatest : Int) : String :=
  field ++ ":[" ++ toString least ++ "," ++ toString greatest ++ "]"

/-- The bounds of a range can be read from the condition. -/
theorem rangeText_inj {field : String} {a b c d : Int}
    (h : rangeText field a b = rangeText field c d) : a = c ∧ b = d := by
  have hlists := congrArg String.toList h
  simp only [rangeText, String.toList_append, List.append_assoc] at hlists
  have hbounds := List.append_cancel_left (List.append_cancel_left hlists)
  -- a bound ends at the mark behind it, since no number has that mark in it
  have hnumber : ∀ {n : Int}, ∀ c ∈ (toString n).toList, isNumberChar c = true :=
    fun c hc => (isNumberChar_of_mem_toString_int hc).1
  have hcomma : isNumberChar ',' = false := by decide
  have hbracket : isNumberChar ']' = false := by decide
  obtain ⟨hleast, hrest⟩ := PrintedValue.bound_append_inj hcomma hnumber hnumber hbounds
  obtain ⟨hgreatest, -⟩ := PrintedValue.bound_append_inj hbracket hnumber hnumber hrest
  exact ⟨Int.repr_injective hleast, Int.repr_injective hgreatest⟩

/-- What is written for a closed range between integers: the integers that are shown for the
bounds, and these are the bounds themselves exactly if each is shown for itself. -/
structure RangeShown (field : String) (least greatest : Int) (text : Option String) : Prop where
  shown : ∃ shownLeast shownGreatest, ShownFor least shownLeast ∧
    ShownFor greatest shownGreatest ∧ text = some (rangeText field shownLeast shownGreatest)
  exact_iff : text = some (rangeText field least greatest) ↔
    ShownFor least least ∧ ShownFor greatest greatest
  exact_of_le : least.natAbs ≤ Nat.pow 2 53 ∧ greatest.natAbs ≤ Nat.pow 2 53 →
    text = some (rangeText field least greatest)

theorem rangeShown_ofClosedIntegers (field : String) (least greatest : Int64) :
    RangeShown field least.toInt greatest.toInt
      (conditionText field (.ofClosedIntegers least greatest)) := by
  have hleastWord := natAbs_toInt_le least
  have hgreatestWord := natAbs_toInt_le greatest
  obtain ⟨shownLeast, hleast, hleastText⟩ := Binary64.exists_shownFor hleastWord
  obtain ⟨shownGreatest, hgreatest, hgreatestText⟩ := Binary64.exists_shownFor hgreatestWord
  -- no bound of a word is infinite, so the condition is not left out
  have hfinite : (FilterValue.ofClosedIntegers least greatest).isEmpty = false := by
    rw [FilterValue.ofClosedIntegers, FilterValue.isEmpty,
      Binary64.isFinite_ofInt (by decide) hleastWord,
      Binary64.isFinite_ofInt (by decide) hgreatestWord]
    rfl
  have htext : conditionText field (.ofClosedIntegers least greatest) =
      some (rangeText field shownLeast shownGreatest) := by
    have hrender : (FilterValue.ofClosedIntegers least greatest).render =
        some ("[" ++ toString shownLeast ++ "," ++ toString shownGreatest ++ "]") := by
      rw [← hleastText, ← hgreatestText]
      exact if_neg (Bool.eq_false_iff.1 hfinite)
    rw [conditionText, hrender, Option.map_some, rangeText, Option.some.injEq,
      ← String.toList_inj]
    simp
  have hexact : conditionText field (.ofClosedIntegers least greatest) =
        some (rangeText field least.toInt greatest.toInt) ↔
      ShownFor least.toInt least.toInt ∧ ShownFor greatest.toInt greatest.toInt := by
    rw [htext, Option.some.injEq]
    constructor
    · intro h
      obtain ⟨hsame, hsame'⟩ := rangeText_inj h
      exact ⟨hsame ▸ hleast, hsame' ▸ hgreatest⟩
    · rintro ⟨hself, hself'⟩
      rw [hleast.unique hself, hgreatest.unique hself']
  refine ⟨⟨shownLeast, shownGreatest, hleast, hgreatest, htext⟩, hexact, ?_⟩
  rintro ⟨hsmall, hsmall'⟩
  exact hexact.2 ⟨Binary64.shownFor_self hsmall, Binary64.shownFor_self hsmall'⟩

/-- Every range between words is written, with the integers that are shown for its bounds: as a
closed range, as two numbers in JSON, and as a half-open range, whose last integer is the one
before its bound. Only the half-open range without integers is left out. -/
theorem integerRanges_shown (field : String) (a b : Int64) :
    RangeShown field a.toInt b.toInt (conditionText field (.ofClosedIntegers a b)) ∧
    ofJson (.object [(field, .array [.whole a.toInt, .whole b.toInt])]) =
      .ok (.condition field (.ofClosedIntegers a b)) ∧
    if a.toInt < b.toInt then
      RangeShown field a.toInt (b.toInt - 1) (conditionText field (.ofHalfOpenIntegers a b))
    else conditionText field (.ofHalfOpenIntegers a b) = none := by
  refine ⟨rangeShown_ofClosedIntegers field a b, ?_, ?_⟩
  · exact ofJson_single (fun _ h => by cases h) (FilterValue.ofJson_numbers field rfl rfl)
  · by_cases hlt : a < b
    · -- the bound is above some word, so one less is a word again
      have hlast := rangeShown_ofClosedIntegers field a (b - 1)
      rw [toInt_sub_one_of_lt hlt] at hlast
      rw [if_pos (Int64.lt_iff_toInt_lt.1 hlt), FilterValue.ofHalfOpenIntegers, if_pos hlt]
      exact hlast
    · rw [if_neg (mt Int64.lt_iff_toInt_lt.2 hlt), FilterValue.ofHalfOpenIntegers, if_neg hlt]
      rfl

/-- The widest range is written with bounds that are no words. -/
example : conditionText "n" (.ofClosedIntegers Int64.minValue Int64.maxValue) =
    some "n:[-9223372036854776000,9223372036854776000]" := by
  decide +kernel

/-- The range of one integer that binary64 does not hold is written without that integer. -/
theorem halfOpenIntegers_not_exact :
    conditionText "n" (.ofHalfOpenIntegers 9007199254740993 9007199254740994) =
        some "n:[9007199254740992,9007199254740992]" ∧
      conditionText "n" (.ofHalfOpenIntegers 9007199254740993 9007199254740994) ≠
        some (rangeText "n" 9007199254740993 (9007199254740994 - 1)) := by
  decide +kernel

end Filter

end SearchDomain
