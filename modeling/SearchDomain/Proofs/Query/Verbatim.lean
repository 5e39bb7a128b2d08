/-
  SearchDomain.Proofs.Query.Verbatim

  Texts in a query that are written as they are. Such a text means itself if no
  character of it is an escape, and if none ends the parameter or the query. For
  names with commas between them this is a condition on each name.
-/
import SearchDomain.Proofs.Query.Form

namespace SearchDomain.Query

open Text (hexValue)

/-! ## Texts that stand for themselves -/

/-- Whether the characters begin with two hexadecimal digits. -/
def beginsWithDigits : List Char → Bool
  | a :: b :: _ => (hexValue a).isSome && (hexValue b).isSome
  | _ => false

/-- Whether a character stands for something else in front of others: a plus sign does, and a
percent sign in front of two digits. -/
def isEscape (c : Char) (rest : List Char) : Bool :=
  c == '+' || (c == '%' && beginsWithDigits rest)

def isUnescaped : List Char → Bool
  | [] => true
  | c :: cs => !isEscape c cs && isUnescaped cs

/-- Whether characters in a query mean themselves and nothing else. -/
structure StandForThemselves (cs : List Char) : Prop where
  noAmpersand : '&' ∉ cs
  noNumberSign : '#' ∉ cs
  unescaped : isUnescaped cs = true

/-- The bytes of the UTF-8 form of characters. -/
def utf8Chars (cs : List Char) : List UInt8 :=
  cs.flatMap String.utf8EncodeChar

theorem utf8Chars_cons (c : Char) (cs : List Char) :
    utf8Chars (c :: cs) = String.utf8EncodeChar c ++ utf8Chars cs :=
  List.flatMap_cons

theorem utf8Chars_append (cs ds : List Char) :
    utf8Chars (cs ++ ds) = utf8Chars cs ++ utf8Chars ds :=
  List.flatMap_append

theorem length_utf8EncodeChar_pos (c : Char) : 0 < (String.utf8EncodeChar c).length :=
  List.length_pos_iff.2 String.utf8EncodeChar_ne_nil

theorem eq_nil_of_length_utf8Chars {cs : List Char} (h : (utf8Chars cs).length = 0) : cs = [] := by
  cases cs with
  | nil => rfl
  | cons c cs =>
    have hpos := length_utf8EncodeChar_pos c
    rw [utf8Chars_cons, List.length_append] at h
    omega

/-- What characters stand for is no longer than they are. -/
theorem length_decodeBytes_le (cs : List Char) :
    (decodeBytes cs).length ≤ (utf8Chars cs).length := by
  fun_induction decodeBytes cs with
  | case1 => exact Nat.le_refl _
  | case2 rest ih =>
    have hpos := length_utf8EncodeChar_pos '+'
    rw [utf8Chars_cons, List.length_append, List.length_cons]
    omega
  | case3 a b rest high hhigh low hlow ih =>
    have hpos := length_utf8EncodeChar_pos '%'
    simp only [utf8Chars_cons, List.length_append, List.length_cons]
    omega
  | case4 a b rest hdigits ih =>
    have hpos := length_utf8EncodeChar_pos '%'
    rw [utf8Chars_cons, List.length_append, List.length_cons]
    omega
  | case5 c rest hplus hpercent ih =>
    rw [utf8Chars_cons, List.length_append, List.length_append]
    omega

/-- Characters stand for themselves just when none of them is an escape. -/
theorem decodeBytes_eq_iff (cs : List Char) :
    decodeBytes cs = utf8Chars cs ↔ isUnescaped cs = true := by
  fun_induction decodeBytes cs with
  | case1 => exact ⟨fun _ => rfl, fun _ => rfl⟩
  | case2 rest ih =>
    have hplus : String.utf8EncodeChar '+' = [0x2B] := by decide
    rw [utf8Chars_cons, hplus]
    constructor
    · intro heq
      have hspace : (0x20 : UInt8) = 0x2B := List.head_eq_of_cons_eq heq
      exact absurd hspace (by decide)
    · intro hescape
      rw [isUnescaped, isEscape] at hescape
      simp at hescape
  | case3 a b rest high low hlow hhigh ih =>
    -- three characters stand for one byte
    have hshort := length_decodeBytes_le rest
    have ha := length_utf8EncodeChar_pos a
    have hb := length_utf8EncodeChar_pos b
    have hpercent := length_utf8EncodeChar_pos '%'
    constructor
    · intro heq
      have hlength := congrArg List.length heq
      simp only [utf8Chars_cons, List.length_append, List.length_cons] at hlength
      omega
    · intro hescape
      have hdigits : beginsWithDigits (a :: b :: rest) = true := by
        rw [beginsWithDigits, hhigh, hlow]
        rfl
      rw [isUnescaped, isEscape, hdigits] at hescape
      simp at hescape
  | case4 a b rest hdigits ih =>
    have hpercent : String.utf8EncodeChar '%' = [0x25] := by decide
    have hnone : beginsWithDigits (a :: b :: rest) = false := by
      rw [beginsWithDigits]
      cases ha : hexValue a with
      | none => rfl
      | some high =>
        cases hb : hexValue b with
        | none => rfl
        | some low => exact (hdigits high low ha hb).elim
    have hescape : isEscape '%' (a :: b :: rest) = false := by
      rw [isEscape, hnone]
      decide
    have hstep : isUnescaped ('%' :: a :: b :: rest) = isUnescaped (a :: b :: rest) := by
      rw [isUnescaped, hescape, Bool.not_false, Bool.true_and]
    rw [utf8Chars_cons, hpercent, List.singleton_append, List.cons.injEq, ih, hstep]
    exact ⟨fun h => h.2, fun h => ⟨rfl, h⟩⟩
  | case5 c rest hplus hpercent ih =>
    have hescape : isEscape c rest = false := by
      rw [isEscape, Bool.or_eq_false_iff, beq_eq_false_iff_ne]
      refine ⟨hplus, ?_⟩
      cases hc : c == '%' with
      | false => rfl
      | true =>
        -- fewer than two characters follow
        match rest, hpercent with
        | [], _ => rfl
        | [a], _ => rfl
        | a :: b :: rest, hpercent => exact (hpercent a b rest (eq_of_beq hc) rfl).elim
    rw [utf8Chars_cons, List.append_cancel_left_eq, ih, isUnescaped, hescape, Bool.not_false,
      Bool.true_and]

/-- A text that characters stand for has their bytes. -/
theorem utf8Bytes_of_decodeChars {cs : List Char} {s : String} (h : decodeChars cs = some s) :
    utf8Bytes s = decodeBytes cs := by
  rw [decodeChars, String.fromUTF8?] at h
  split at h
  · next hvalid =>
    rw [Option.some.injEq] at h
    have hbytes : s.toByteArray = ⟨(decodeBytes cs).toArray⟩ := by
      rw [← h]
      rfl
    rw [← String.utf8Encode_toList, List.utf8Encode, ByteArray.ext_iff,
      List.data_toByteArray] at hbytes
    exact Array.toList_inj.2 hbytes
  · cases h

/-- A text is read back from its own characters just when none of them is an escape. -/
theorem decodeChars_toList_iff (s : String) :
    decodeChars s.toList = some s ↔ isUnescaped s.toList = true := by
  rw [← decodeBytes_eq_iff]
  constructor
  · intro h
    exact (utf8Bytes_of_decodeChars h).symm
  · intro h
    have hbytes : decodeBytes s.toList = utf8Bytes s := h
    rw [decodeChars, hbytes, fromUTF8?_utf8Bytes]

/-! ## Names put together -/

/-- No escape reaches across a comma. -/
theorem beginsWithDigits_append_comma (cs ds : List Char) :
    beginsWithDigits (cs ++ ',' :: ds) = beginsWithDigits cs := by
  have hcomma : hexValue ',' = none := by decide
  match cs with
  | [] =>
    cases ds with
    | nil => rfl
    | cons d ds =>
      rw [List.nil_append, beginsWithDigits, hcomma]
      rfl
  | [a] =>
    rw [List.singleton_append, beginsWithDigits, hcomma]
    exact Bool.and_false _
  | a :: b :: cs => rfl

theorem isUnescaped_append_comma (cs ds : List Char) :
    isUnescaped (cs ++ ',' :: ds) = (isUnescaped cs && isUnescaped ds) := by
  induction cs with
  | nil =>
    have hcomma : isUnescaped (',' :: ds) = isUnescaped ds := rfl
    rw [List.nil_append, hcomma]
    rfl
  | cons c cs ih =>
    rw [List.cons_append, isUnescaped, isUnescaped, ih, isEscape, isEscape,
      beginsWithDigits_append_comma, Bool.and_assoc]

theorem standForThemselves_append_comma (cs ds : List Char) :
    StandForThemselves (cs ++ ',' :: ds) ↔ StandForThemselves cs ∧ StandForThemselves ds := by
  have hjoin := isUnescaped_append_comma cs ds
  constructor
  · rintro ⟨hamp, hsign, hescape⟩
    rw [hjoin, Bool.and_eq_true] at hescape
    rw [List.mem_append, List.mem_cons, not_or, not_or] at hamp hsign
    exact ⟨⟨hamp.1, hsign.1, hescape.1⟩, ⟨hamp.2.2, hsign.2.2, hescape.2⟩⟩
  · rintro ⟨⟨hamp, hsign, hescape⟩, ⟨hamp', hsign', hescape'⟩⟩
    refine ⟨?_, ?_, ?_⟩
    · rw [List.mem_append, List.mem_cons, not_or, not_or]
      exact ⟨hamp, by decide, hamp'⟩
    · rw [List.mem_append, List.mem_cons, not_or, not_or]
      exact ⟨hsign, by decide, hsign'⟩
    · rw [hjoin, hescape, hescape']
      rfl

/-- Names with commas between them stand for themselves just when each of them does. -/
theorem standForThemselves_intercalate {names : List (List Char)} (hne : names ≠ []) :
    StandForThemselves ([','].intercalate names) ↔ ∀ name ∈ names, StandForThemselves name := by
  induction names with
  | nil => exact absurd rfl hne
  | cons name names ih =>
    cases names with
    | nil => simp
    | cons next names =>
      rw [List.intercalate_cons_cons, List.append_assoc, List.singleton_append,
        standForThemselves_append_comma, ih (List.cons_ne_nil _ _)]
      exact List.forall_mem_cons.symm

end SearchDomain.Query
