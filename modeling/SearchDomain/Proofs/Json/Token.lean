/-
  SearchDomain.Proofs.Json.Token

  Tokens written and scanned again. Each token has one text. Punctuation and
  strings mark their own end, a number ends in front of white space and of
  anything but a further piece of a number, so tokens that are written back to
  back, or with any white space around them, are found again one by one.
-/
import SearchDomain.Json.Writer
import SearchDomain.Proofs.Json.Number

namespace SearchDomain.Json

open Text (StopsAt)

/-! ## Strings -/

/-- A control character is read back from the digits of its escape. -/
theorem hexQuad_of_control {n : Nat} (hn : n < 0x20) :
    hexQuad '0' '0' (Text.hexDigit 'a' (n / 16)) (Text.hexDigit 'a' (n % 16)) = some n := by
  have hzero : Text.hexValue '0' = some 0 := by decide
  rw [hexQuad, hzero, Text.hexValue_hexDigit (.inl rfl) (by omega),
    Text.hexValue_hexDigit (.inl rfl) (Nat.mod_lt _ (by decide))]
  simp only [Option.bind_eq_bind, Option.bind_some, Option.pure_def, Option.some.injEq]
  omega

/-- A short escape stands for one character. -/
theorem spanString_short {c e : Char} (hc : c ≠ 'u') (he : escapedChar c = some e)
    (rest : List Char) :
    spanString ('\\' :: c :: rest) =
      (spanString rest).map fun found => (e :: found.1, found.2) := by
  rw [spanString]
  · rw [he]
  · rintro a b d d' rest' h
    exact absurd h hc

/-- An escape by number stands for a character of the basic plane. -/
theorem spanString_numbered {a b c d : Char} {n : Nat} (hquad : hexQuad a b c d = some n)
    (hn : n < 0xD800) (rest : List Char) :
    spanString ('\\' :: 'u' :: a :: b :: c :: d :: rest) =
      (spanString rest).map fun found => (Char.ofNat n :: found.1, found.2) := by
  have hhigh : isHighSurrogate n = false := by
    simp only [isHighSurrogate, Bool.and_eq_false_iff, decide_eq_false_iff_not]
    omega
  have hlow : isLowSurrogate n = false := by
    simp only [isLowSurrogate, Bool.and_eq_false_iff, decide_eq_false_iff_not]
    omega
  rw [spanString, hquad]
  simp only [hhigh, hlow, Bool.false_eq_true, if_false]

/-- A character that needs no escape stands for itself. -/
theorem spanString_plain {c : Char} (hquote : c ≠ '"') (hslash : c ≠ '\\') (hc : 0x20 ≤ c.toNat)
    (rest : List Char) :
    spanString (c :: rest) = (spanString rest).map fun found => (c :: found.1, found.2) := by
  have hplain : ¬(c.toNat < 0x20 ∨ c = '\\') := fun h => h.elim (Nat.not_lt.2 hc) hslash
  rw [spanString]
  · rw [if_neg hplain]
  · exact hquote
  · rintro a b d d' rest' h
    exact absurd h hslash
  · rintro e rest' h
    exact absurd h hslash

/-- A character is read back from its escaped form. -/
theorem spanString_escapeChar_append (c : Char) (rest : List Char) :
    spanString (escapeChar c ++ rest) =
      (spanString rest).map fun found => (c :: found.1, found.2) := by
  unfold escapeChar
  split_ifs with hquote hslash hb hf hn hr ht hcontrol
  · subst hquote
    exact spanString_short (by decide) (by decide) rest
  · subst hslash
    exact spanString_short (by decide) (by decide) rest
  · subst hb
    exact spanString_short (by decide) (by decide) rest
  · subst hf
    exact spanString_short (by decide) (by decide) rest
  · subst hn
    exact spanString_short (by decide) (by decide) rest
  · subst hr
    exact spanString_short (by decide) (by decide) rest
  · subst ht
    exact spanString_short (by decide) (by decide) rest
  · have hread := spanString_numbered (hexQuad_of_control hcontrol) (by omega) rest
    rwa [Char.ofNat_toNat] at hread
  · exact spanString_plain hquote hslash (Nat.not_lt.1 hcontrol) rest

/-- The reader of strings stops at the closing quote, whatever follows. -/
theorem spanString_escaped_append (cs rest : List Char) :
    spanString (cs.flatMap escapeChar ++ '"' :: rest) = some (cs, rest) := by
  induction cs with
  | nil => rw [List.flatMap_nil, List.nil_append, spanString]
  | cons c cs ih =>
    rw [List.flatMap_cons, List.append_assoc, spanString_escapeChar_append, ih, Option.map_some]

/-! ## Single tokens -/

namespace Token

/-- A token as it is written. -/
def text : Token → List Char
  | openArray => ['[']
  | closeArray => [']']
  | openObject => ['\x7b']
  | closeObject => ['\x7d']
  | comma => [',']
  | colon => [':']
  | null => ['n', 'u', 'l', 'l']
  | bool true => ['t', 'r', 'u', 'e']
  | bool false => ['f', 'a', 'l', 's', 'e']
  | number n => n.text.toList
  | string s => '"' :: (s.toList.flatMap escapeChar ++ ['"'])

/-- Whether a number, if the token is one, is read as it is written. -/
def isReadable : Token → Bool
  | number n => n.isProper fun x => decide x.ReadsBack
  | _ => true

/-- What may follow a token: behind a number, nothing with which it could go on. -/
def Precedes : Token → List Char → Prop
  | number _, rest => StopsAt endsNumber rest
  | _, _ => True

/-! ## Numbers among other tokens -/

/-- Whether a number may begin with this character. -/
def beginsNumber (c : Char) : Bool :=
  c = '-' || c.isDigit

theorem beginsNumber_of_spanNumber {c : Char} {cs rest : List Char} {n : JsonNumber}
    (h : spanNumber (c :: cs) = some (n, rest)) : beginsNumber c = true := by
  rw [spanNumber_cons] at h
  by_cases hminus : c = '-'
  · simp [beginsNumber, hminus]
  · rw [if_neg hminus, spanUnsigned_eq] at h
    by_cases hdigit : c.isDigit = true
    · simp [beginsNumber, hdigit]
    · simp [Digits.span, hdigit] at h

/-- What begins like a number is no other token, and no white space. -/
theorem span_of_spanNumber {c : Char} {cs rest : List Char} {n : JsonNumber}
    (h : spanNumber (c :: cs) = some (n, rest)) : span (c :: cs) = some (.number n, rest) := by
  have hc := beginsNumber_of_spanNumber h
  have hne : ∀ d, beginsNumber d = false → c ≠ d := by
    rintro d hd rfl
    rw [hc] at hd
    cases hd
  rw [span]
  · rw [h, Option.map_some]
  all_goals
    intro more heq
    exact hne _ (by decide) (List.cons.inj heq).1

/-- A token is read as it is written, in front of whatever may follow it. -/
theorem span_text_append {token : Token} (htoken : token.isReadable = true) {rest : List Char}
    (hrest : token.Precedes rest) : span (token.text ++ rest) = some (token, rest) := by
  cases token with
  | bool b => cases b <;> rfl
  | number n =>
    have hread := JsonNumber.spanNumber_text_append htoken hrest
    rw [text]
    cases htext : n.text.toList ++ rest with
    | nil =>
      rw [htext] at hread
      cases hread
    | cons c cs =>
      rw [htext] at hread
      exact span_of_spanNumber hread
  | string s =>
    rw [text, List.cons_append, List.append_assoc, span, List.singleton_append,
      spanString_escaped_append, Option.map_some, String.ofList_toList]
  | _ => rfl

/-- A token is at least one character long and begins with no white space. -/
theorem exists_text_eq_cons {token : Token} (htoken : token.isReadable = true) :
    ∃ c cs, token.text = c :: cs ∧ isSpace c = false := by
  cases token with
  | bool b => cases b <;> exact ⟨_, _, rfl, by decide⟩
  | number n =>
    have hread := JsonNumber.spanNumber_text_append htoken (Text.stopsAt_nil _)
    rw [List.append_nil] at hread
    rw [text]
    cases htext : n.text.toList with
    | nil =>
      rw [htext] at hread
      cases hread
    | cons c cs =>
      rw [htext] at hread
      have hc := beginsNumber_of_spanNumber hread
      refine ⟨c, cs, rfl, Bool.eq_false_iff.2 fun hspace => ?_⟩
      simp only [isSpace, Bool.or_eq_true, decide_eq_true_eq] at hspace
      rcases hspace with ((rfl | rfl) | rfl) | rfl <;> exact absurd hc (by decide)
  | string s => exact ⟨_, _, rfl, by decide⟩
  | _ => exact ⟨_, _, rfl, by decide⟩

/-! ## Tokens back to back -/

/-- Tokens as they are written one behind the other. -/
def allText (tokens : List Token) : List Char :=
  tokens.flatMap text

@[simp] theorem allText_nil : allText [] = [] := rfl

@[simp] theorem allText_cons (token : Token) (tokens : List Token) :
    allText (token :: tokens) = token.text ++ allText tokens :=
  List.flatMap_cons

@[simp] theorem allText_append (tokens more : List Token) :
    allText (tokens ++ more) = allText tokens ++ allText more :=
  List.flatMap_append

/-- Whether each token is read as it is written and ends in front of the next. -/
def AreApart : List Token → Prop
  | [] => True
  | token :: tokens => token.isReadable = true ∧ token.Precedes (allText tokens) ∧ AreApart tokens

theorem stopsAt_text_append {token : Token} (htoken : token.isReadable = true) {p : Char → Bool}
    {rest other : List Char} (h : StopsAt p (token.text ++ rest)) :
    StopsAt p (token.text ++ other) := by
  obtain ⟨c, cs, htext, -⟩ := exists_text_eq_cons htoken
  rw [htext, List.cons_append, Text.stopsAt_cons] at h ⊢
  exact h

/-! ## Tokens with white space around them -/

/-- The texts in which tokens stand one behind the other, with any white space in front of them,
between them and behind them. -/
inductive Spaced : List Token → List Char → Prop
  | nil : Spaced [] []
  | space {tokens : List Token} {c : Char} {text : List Char} :
      isSpace c = true → Spaced tokens text → Spaced tokens (c :: text)
  | token {token : Token} {tokens : List Token} {text : List Char} :
      Spaced tokens text → Spaced (token :: tokens) (token.text ++ text)

/-- Without any white space, tokens are written back to back. -/
theorem spaced_allText (tokens : List Token) : Spaced tokens (allText tokens) := by
  induction tokens with
  | nil => exact .nil
  | cons token tokens ih =>
    rw [allText_cons]
    exact .token ih

/-- White space ends a number as well as the next token does. -/
theorem endsNumber_of_isSpace {c : Char} (hc : isSpace c = true) : endsNumber c = true := by
  simp only [isSpace, Bool.or_eq_true, decide_eq_true_eq] at hc
  rcases hc with ((rfl | rfl) | rfl) | rfl <;> decide

/-- A number that ends in front of the next token ends in front of the white space before it. -/
theorem Spaced.stopsAt {tokens : List Token} {text : List Char} (h : Spaced tokens text)
    (hapart : AreApart tokens) (hstops : StopsAt endsNumber (allText tokens)) :
    StopsAt endsNumber text := by
  cases h with
  | nil => exact hstops
  | space hc hrest =>
    rw [Text.stopsAt_cons]
    exact endsNumber_of_isSpace hc
  | token hrest =>
    rw [allText_cons] at hstops
    exact stopsAt_text_append hapart.1 hstops

theorem Precedes.of_spaced {token : Token} {tokens : List Token} {text : List Char}
    (h : token.Precedes (allText tokens)) (htext : Spaced tokens text)
    (hapart : AreApart tokens) : token.Precedes text := by
  cases token with
  | number n => exact htext.stopsAt hapart h
  | _ => trivial

/-- Tokens that are apart are scanned one by one, whatever white space is around them. -/
theorem scanWithin_of_spaced {tokens : List Token} {text : List Char} (h : Spaced tokens text)
    (hapart : AreApart tokens) (fuel : Nat) (hfuel : text.length ≤ fuel) :
    scanWithin fuel text = some tokens := by
  -- each character of white space and each token takes one unit of fuel
  induction h generalizing fuel with
  | nil => rw [scanWithin]
  | @space tokens c text hc hrest ih =>
    rw [List.length_cons] at hfuel
    obtain ⟨fuel, rfl⟩ : ∃ less, fuel = less + 1 := ⟨fuel - 1, by omega⟩
    rw [scanWithin, if_pos hc]
    exact ih hapart fuel (by omega)
  | @token token tokens text hrest ih =>
    obtain ⟨hread, hprecedes, hothers⟩ := hapart
    obtain ⟨c, cs, htext, hspace⟩ := exists_text_eq_cons hread
    have hspan := span_text_append hread (hprecedes.of_spaced hrest hothers)
    rw [htext, List.cons_append] at hspan hfuel ⊢
    rw [List.length_cons, List.length_append] at hfuel
    obtain ⟨fuel, rfl⟩ : ∃ less, fuel = less + 1 := ⟨fuel - 1, by omega⟩
    rw [scanWithin, if_neg (Bool.eq_false_iff.1 hspace), hspan]
    simp only [ih hothers fuel (by omega), Option.map_some]

theorem scan_of_spaced {tokens : List Token} {text : List Char} (h : Spaced tokens text)
    (hapart : AreApart tokens) : scan text = some tokens :=
  scanWithin_of_spaced h hapart text.length (Nat.le_refl _)

end Token

end SearchDomain.Json
