/-
  SearchDomain.Proofs.Query.Form

  The form encoding is read back. What an encoded text stands for is the text,
  an encoded text has no separator of query strings in it, and so a query string
  put together from encoded names and values is taken apart into the same names
  and values.
-/
import SearchDomain.Proofs.Text.Split
import SearchDomain.Query.Form

namespace SearchDomain.Query

open Text (StopsAt hexDigit hexValue hexValue_hexDigit)

/-! ## Bytes -/

theorem isPlainByte_bounds {b : UInt8} (h : isPlainByte b = true) :
    b.toNat < 0x80 ∧ b.toNat ≠ '%'.toNat ∧ b.toNat ≠ '&'.toNat ∧ b.toNat ≠ '+'.toNat ∧
      b.toNat ≠ '='.toNat := by
  simp only [isPlainByte, Bool.or_eq_true, Bool.and_eq_true, decide_eq_true_eq] at h
  have hmarks : '%'.toNat = 0x25 ∧ '&'.toNat = 0x26 ∧ '+'.toNat = 0x2B ∧ '='.toNat = 0x3D := by
    decide
  omega

/-- A byte below the first of several is the code point of its character. -/
theorem toNat_charOfByte {b : UInt8} (h : b.toNat < 0x80) :
    (Char.ofNat b.toNat).toNat = b.toNat := by
  have hvalid : b.toNat.isValidChar := .inl (by omega)
  rw [Char.ofNat, dif_pos hvalid]
  exact UInt32.toNat_ofNatLT

theorem utf8EncodeChar_charOfByte {b : UInt8} (h : b.toNat < 0x80) :
    String.utf8EncodeChar (Char.ofNat b.toNat) = [b] := by
  have hval : (Char.ofNat b.toNat).val.toNat = b.toNat := toNat_charOfByte h
  rw [String.utf8EncodeChar, hval, if_pos (by omega), UInt8.ofNat_toNat]

/-- Both halves of a byte are hexadecimal digits. -/
theorem halves_lt (b : UInt8) : b.toNat / 16 < 16 ∧ b.toNat % 16 < 16 := by
  have hbyte := b.toNat_lt
  omega

/-- A character that stands for itself is read as its own bytes. -/
theorem decodeBytes_cons {c : Char} (hplus : c ≠ '+') (hpercent : c ≠ '%') (rest : List Char) :
    decodeBytes (c :: rest) = String.utf8EncodeChar c ++ decodeBytes rest := by
  rw [decodeBytes]
  · exact fun h => absurd h hplus
  · intro _ _ _ h
    exact absurd h hpercent

/-- An encoded byte is read back, whatever follows. -/
theorem decodeBytes_encodeByte_append (b : UInt8) (rest : List Char) :
    decodeBytes (encodeByte b ++ rest) = b :: decodeBytes rest := by
  unfold encodeByte
  by_cases hplain : isPlainByte b = true
  · -- the byte stands for itself, and neither of the characters with a meaning is such a byte
    obtain ⟨hlt, hpercent, -, hplus, -⟩ := isPlainByte_bounds hplain
    have hchar := toNat_charOfByte hlt
    rw [if_pos hplain, List.singleton_append, decodeBytes_cons, utf8EncodeChar_charOfByte hlt,
      List.singleton_append]
    · intro h
      exact hplus (by rw [← hchar, h])
    · intro h
      exact hpercent (by rw [← hchar, h])
  · rw [if_neg hplain]
    by_cases hspace : b = 0x20
    · subst hspace
      rfl
    · obtain ⟨hhigh, hlow⟩ := halves_lt b
      rw [if_neg hspace]
      simp only [List.cons_append, List.nil_append]
      rw [decodeBytes, hexValue_hexDigit (.inr rfl) hhigh, hexValue_hexDigit (.inr rfl) hlow]
      have hvalue : 16 * (b.toNat / 16) + b.toNat % 16 = b.toNat := by omega
      simp only [hvalue, UInt8.ofNat_toNat]

/-- No encoded byte has a separator in it. -/
theorem ne_mark_of_mem_encodeByte {b : UInt8} {c : Char} (hc : c ∈ encodeByte b) :
    c ≠ '&' ∧ c ≠ '=' := by
  unfold encodeByte at hc
  split at hc
  next hplain =>
    obtain ⟨hlt, -, hamp, -, hequals⟩ := isPlainByte_bounds hplain
    have hchar := toNat_charOfByte hlt
    rw [List.mem_singleton] at hc
    subst hc
    constructor
    · intro h
      exact hamp (by rw [← hchar, h])
    · intro h
      exact hequals (by rw [← hchar, h])
  next =>
    split at hc
    next =>
      rw [List.mem_singleton] at hc
      subst hc
      decide
    next =>
      have hdigit : ∀ n : Fin 16, hexDigit 'A' n ≠ '&' ∧ hexDigit 'A' n ≠ '=' := by decide
      obtain ⟨hhigh, hlow⟩ := halves_lt b
      simp only [List.mem_cons, List.not_mem_nil, or_false] at hc
      rcases hc with rfl | rfl | rfl
      · decide
      · exact hdigit ⟨_, hhigh⟩
      · exact hdigit ⟨_, hlow⟩

/-! ## Texts -/

theorem decodeBytes_encodeChars (s : String) : decodeBytes (encodeChars s) = utf8Bytes s := by
  have happend : ∀ bytes : List UInt8, decodeBytes (bytes.flatMap encodeByte) = bytes := by
    intro bytes
    induction bytes with
    | nil => rfl
    | cons b bytes ih => rw [List.flatMap_cons, decodeBytes_encodeByte_append, ih]
  exact happend (utf8Bytes s)

theorem fromUTF8?_utf8Bytes (s : String) : String.fromUTF8? ⟨(utf8Bytes s).toArray⟩ = some s := by
  have hbytes : (⟨(utf8Bytes s).toArray⟩ : ByteArray) = s.toByteArray := by
    rw [← String.utf8Encode_toList]
    apply ByteArray.ext
    rw [List.utf8Encode, List.data_toByteArray, utf8Bytes]
  rw [hbytes, String.fromUTF8?, dif_pos s.isValidUTF8]
  rfl

/-- An encoded text stands for the text. -/
theorem decodeChars_encodeChars (s : String) : decodeChars (encodeChars s) = some s := by
  rw [decodeChars, decodeBytes_encodeChars, fromUTF8?_utf8Bytes]

/-- No encoded text has a separator in it. -/
theorem ne_mark_of_mem_encodeChars {s : String} {c : Char} (hc : c ∈ encodeChars s) :
    c ≠ '&' ∧ c ≠ '=' := by
  obtain ⟨b, -, hb⟩ := List.mem_flatMap.1 hc
  exact ne_mark_of_mem_encodeByte hb

/-! ## Parameters -/

/-- A name and a value are found again on the two sides of the equals sign. -/
theorem decodePiece_encodeChars (name value : String) :
    decodePiece (encodeChars name ++ '=' :: encodeChars value) = some (name, value) := by
  have hname : ∀ c ∈ encodeChars name, decide (c ≠ '=') = true :=
    fun c hc => decide_eq_true (ne_mark_of_mem_encodeChars hc).2
  rw [decodePiece, List.takeWhile_append_of_pos hname, List.dropWhile_append_of_pos hname,
    List.takeWhile_cons_of_neg (by decide), List.dropWhile_cons_of_neg (by decide),
    List.append_nil, List.drop_one, List.tail_cons, decodeChars_encodeChars,
    decodeChars_encodeChars]
  rfl

/-- No encoded name and value have the mark between parameters in them. -/
theorem ampersand_not_mem_piece (name value : String) :
    '&' ∉ encodeChars name ++ '=' :: encodeChars value := by
  intro hamp
  rcases List.mem_append.1 hamp with h | h
  · exact (ne_mark_of_mem_encodeChars h).1 rfl
  · rcases List.mem_cons.1 h with h | h
    · exact absurd h (by decide)
    · exact (ne_mark_of_mem_encodeChars h).1 rfl

theorem mapM_decodePiece (parameters : List (String × String)) :
    (parameters.map fun p => encodeChars p.1 ++ '=' :: encodeChars p.2).mapM decodePiece =
      some parameters := by
  induction parameters with
  | nil => rfl
  | cons p parameters ih =>
    rw [List.map_cons, List.mapM_cons, ih, decodePiece_encodeChars]
    rfl

/-- A query string put together from encoded names and values has these for parameters. -/
theorem decode_intercalate {parameters : List (String × String)} (hne : parameters ≠ []) :
    decode ("&".intercalate (parameters.map fun p => encode p.1 ++ "=" ++ encode p.2)) =
      some parameters := by
  have hpieces : (parameters.map fun p => encode p.1 ++ "=" ++ encode p.2).map String.toList =
      parameters.map fun p => encodeChars p.1 ++ '=' :: encodeChars p.2 := by
    simp [encode]
  have hmark : ∀ piece ∈ parameters.map fun p => encodeChars p.1 ++ '=' :: encodeChars p.2,
      '&' ∉ piece := by
    intro piece hpiece
    obtain ⟨p, -, rfl⟩ := List.mem_map.1 hpiece
    exact ampersand_not_mem_piece p.1 p.2
  have hamp : "&".toList = ['&'] := by decide
  rw [decode, String.toList_intercalate, hpieces, hamp,
    Text.splitAtMark_intercalate (by simpa using hne) hmark, mapM_decodePiece]

end SearchDomain.Query
