/-
  SearchDomain.Proofs.Json.Nulls

  Where `null` stands in a JSON text. The word counts outside string literals
  only, so the text is walked through with a mark of whether a literal is open.
  No number spells the word and no literal lets it out, whatever is in it. Main
  statement: in the compact text of a value, `null` is counted as often as there
  are nulls in the value, at every depth.
-/
import SearchDomain.Proofs.Json.RoundTrip
import SearchDomain.Proofs.Number.Text

namespace SearchDomain

/-! ## Characters of numbers -/

/-- A character of a number with an exponent or without one. -/
def isExponentChar (c : Char) : Bool :=
  isNumberChar c || c = 'e'

theorem isExponentChar_of_isNumberChar {c : Char} (h : isNumberChar c = true) :
    isExponentChar c = true := by
  rw [isExponentChar, h, Bool.true_or]

namespace Layout

/-- Digits with an exponent behind are made of characters of numbers. -/
theorem isExponentChar_of_mem_scientific {digits : List Char} {leading : Int}
    (hdigits : ∀ c ∈ digits, c.isDigit = true) {c : Char} (hc : c ∈ scientific digits leading) :
    isExponentChar c = true := by
  have hmem : c ∈ digits ∨ c = '.' ∨ c = 'e' ∨ c ∈ (toString leading).toList := by
    unfold scientific at hc
    rcases List.mem_append.1 hc with hmantissa | hexponent
    · cases digits with
      | nil => cases hmantissa
      | cons d ds => cases ds with
        | nil => exact .inl hmantissa
        | cons d' ds =>
          rw [List.mem_cons, List.mem_cons] at hmantissa
          rcases hmantissa with h | h | h
          · exact .inl (h ▸ List.mem_cons_self)
          · exact .inr (.inl h)
          · exact .inl (List.mem_cons_of_mem _ h)
    · exact .inr (.inr (List.mem_cons.1 hexponent))
  rcases hmem with h | rfl | rfl | h
  · exact isExponentChar_of_isNumberChar (isNumberChar_of_isDigit (hdigits c h))
  · decide
  · decide
  · exact isExponentChar_of_isNumberChar (isNumberChar_of_mem_toString_int h).1

theorem isExponentChar_of_mem_unsigned {layout : Layout} {digits : List Char}
    (hdigits : ∀ c ∈ digits, c.isDigit = true) {leading : Int} {c : Char}
    (hc : c ∈ if layout.isPositional leading then layout.positional digits (leading + 1)
      else scientific digits leading) : isExponentChar c = true := by
  split at hc
  · exact isExponentChar_of_isNumberChar (isNumberChar_of_mem_positional hdigits hc)
  · exact isExponentChar_of_mem_scientific hdigits hc

/-- A finite number is written in characters of numbers, whatever the layout. -/
theorem isExponentChar_of_mem_finiteText {layout : Layout} {x : Binary64} {c : Char}
    (hc : c ∈ layout.finiteText x) : isExponentChar c = true := by
  have hdigits : ∀ d ∈ Nat.toDigits 10 (Decimal.shortest layout.tie x).digits,
      d.isDigit = true :=
    fun d hd => Nat.isDigit_of_mem_toDigits (by decide) (by decide) hd
  simp only [finiteText] at hc
  split at hc
  · rcases List.mem_cons.1 hc with rfl | h
    · decide
    · exact isExponentChar_of_mem_unsigned hdigits h
  · exact isExponentChar_of_mem_unsigned hdigits hc

end Layout

namespace Json

/-! ## The word in a text -/

/-- Where in a JSON text one is. -/
inductive Place where
  /-- Outside string literals. -/
  | outside
  /-- In a string literal. -/
  | literal
  /-- In a string literal, behind a backslash. -/
  | escape
deriving DecidableEq, Repr

/-- How often `null` stands outside string literals in the rest of a JSON text, from a place on. -/
def nullsFrom : Place → List Char → Nat
  | _, [] => 0
  | .outside, c :: rest =>
    if c = '"' then nullsFrom .literal rest
    else if ['n', 'u', 'l', 'l'].isPrefixOf (c :: rest) then nullsFrom .outside rest + 1
    else nullsFrom .outside rest
  | .literal, c :: rest =>
    if c = '"' then nullsFrom .outside rest
    else if c = '\\' then nullsFrom .escape rest
    else nullsFrom .literal rest
  | .escape, _ :: rest => nullsFrom .literal rest

/-- How often `null` stands outside string literals in a JSON text. -/
def nullsIn (text : String) : Nat :=
  nullsFrom .outside text.toList

/-- A character that neither opens a literal nor begins the word is passed over. -/
theorem nullsFrom_outside_cons {c : Char} (hquote : c ≠ '"') (hn : c ≠ 'n') (rest : List Char) :
    nullsFrom .outside (c :: rest) = nullsFrom .outside rest := by
  have hword : ['n', 'u', 'l', 'l'].isPrefixOf (c :: rest) = false := by
    rw [List.isPrefixOf_cons_cons, beq_false_of_ne hn.symm, Bool.false_and]
  rw [nullsFrom, if_neg hquote, hword, if_neg Bool.false_ne_true]

theorem nullsFrom_outside_append {cs : List Char} (h : ∀ c ∈ cs, c ≠ '"' ∧ c ≠ 'n')
    (rest : List Char) : nullsFrom .outside (cs ++ rest) = nullsFrom .outside rest := by
  induction cs with
  | nil => rfl
  | cons c cs ih =>
    obtain ⟨hquote, hn⟩ := h c List.mem_cons_self
    rw [List.cons_append, nullsFrom_outside_cons hquote hn,
      ih fun d hd => h d (List.mem_cons_of_mem _ hd)]

/-- Numbers do not spell the word, those without digits included. -/
theorem nullsFrom_number (n : JsonNumber) (rest : List Char) :
    nullsFrom .outside (n.text.toList ++ rest) = nullsFrom .outside rest := by
  have hpass : ∀ {c : Char}, isExponentChar c = true → c ≠ '"' ∧ c ≠ 'n' := by
    intro c hc
    constructor
    all_goals
      rintro rfl
      exact absurd hc (by decide)
  cases n with
  | whole n =>
    refine nullsFrom_outside_append (fun c hc => hpass ?_) rest
    exact isExponentChar_of_isNumberChar (isNumberChar_of_mem_toString_int hc).1
  | real x =>
    rw [JsonNumber.text, Binary64.jsonText, Layout.text]
    -- NaN and the infinities have letters, but not those of the word
    split_ifs with hnan hfinite hnegative
    · rfl
    · rw [String.toList_ofList]
      exact nullsFrom_outside_append
        (fun c hc => hpass (Layout.isExponentChar_of_mem_finiteText hc)) rest
    · rfl
    · rfl

/-! ## String literals -/

theorem nullsFrom_literal_cons {c : Char} (hquote : c ≠ '"') (hslash : c ≠ '\\')
    (rest : List Char) : nullsFrom .literal (c :: rest) = nullsFrom .literal rest := by
  rw [nullsFrom, if_neg hquote, if_neg hslash]

/-- A character in its escaped form leaves the literal open. -/
theorem nullsFrom_escapeChar_append (c : Char) (rest : List Char) :
    nullsFrom .literal (escapeChar c ++ rest) = nullsFrom .literal rest := by
  unfold escapeChar
  split_ifs with hquote hslash hb hf hn hr ht hcontrol
  iterate 7 rfl
  · -- of the six characters of a numbered escape, only the first is a mark
    have hhex : ∀ {k : Nat}, k < 16 →
        Text.hexDigit 'a' k ≠ '"' ∧ Text.hexDigit 'a' k ≠ '\\' := by decide
    have hhigh := @hhex (c.toNat / 16) (by omega)
    have hlow := @hhex (c.toNat % 16) (Nat.mod_lt _ (by decide))
    show nullsFrom .literal ('0' :: '0' :: _ :: _ :: rest) = _
    rw [nullsFrom_literal_cons (by decide) (by decide),
      nullsFrom_literal_cons (by decide) (by decide), nullsFrom_literal_cons hhigh.1 hhigh.2,
      nullsFrom_literal_cons hlow.1 hlow.2]
  · exact nullsFrom_literal_cons hquote hslash rest

theorem nullsFrom_literal_append (cs rest : List Char) :
    nullsFrom .literal (cs.flatMap escapeChar ++ '"' :: rest) = nullsFrom .outside rest := by
  -- every character leaves the literal open, so the quote behind is the one that closes it
  induction cs with
  | nil => rfl
  | cons c cs ih => rw [List.flatMap_cons, List.append_assoc, nullsFrom_escapeChar_append, ih]

/-! ## Nulls in a value -/

mutual

/-- How many nulls there are in a value, at every depth. -/
def nullCount : Json → Nat
  | null => 1
  | array items => itemsNullCount items
  | object members => membersNullCount members
  | _ => 0

/-- How many nulls there are in items. -/
def itemsNullCount : List Json → Nat
  | [] => 0
  | item :: rest => item.nullCount + itemsNullCount rest

/-- How many nulls there are in the values of members. -/
def membersNullCount : List (String × Json) → Nat
  | [] => 0
  | (_, value) :: rest => value.nullCount + membersNullCount rest

end

open Token (allText)

/-- A string, with its quotes, hides all that is in it. -/
theorem nullsFrom_string (s : String) (rest : List Char) :
    nullsFrom .outside ((Token.string s).text ++ rest) = nullsFrom .outside rest := by
  have hopen : (Token.string s).text ++ rest =
      '"' :: (s.toList.flatMap escapeChar ++ '"' :: rest) := by
    simp [Token.text]
  rw [hopen, nullsFrom, if_pos rfl, nullsFrom_literal_append]

/-- Punctuation is passed over. -/
theorem nullsFrom_mark {token : Token} {c : Char} (htext : token.text = [c]) (hquote : c ≠ '"')
    (hn : c ≠ 'n') (rest : List Char) :
    nullsFrom .outside (token.text ++ rest) = nullsFrom .outside rest := by
  rw [htext, List.singleton_append, nullsFrom_outside_cons hquote hn]

mutual

/-- In the text of a value the word is counted once for each null. -/
theorem nullsFrom_tokens_append : ∀ (json : Json) (rest : List Char),
    nullsFrom .outside (allText json.tokens ++ rest) =
      json.nullCount + nullsFrom .outside rest
  -- any rest may follow, since inside a container the other items do
  | null, rest => Nat.add_comm (nullsFrom .outside rest) 1
  | bool true, rest => (Nat.zero_add _).symm
  | bool false, rest => (Nat.zero_add _).symm
  | number n, rest => by
    simpa [tokens, Token.text, nullCount] using nullsFrom_number n rest
  | string s, rest => by
    simpa [tokens, nullCount] using nullsFrom_string s rest
  | array [], rest => (Nat.zero_add _).symm
  | array (item :: more), rest => by
    calc nullsFrom .outside (allText (array (item :: more)).tokens ++ rest)
      _ = nullsFrom .outside (Token.openArray.text ++ (allText item.tokens ++
            (allText (itemsTokens more) ++ (Token.closeArray.text ++ rest)))) := by
        simp [tokens]
      _ = item.nullCount + nullsFrom .outside
            (allText (itemsTokens more) ++ (Token.closeArray.text ++ rest)) := by
        rw [nullsFrom_mark rfl (by decide) (by decide), nullsFrom_tokens_append item]
      _ = item.nullCount + (itemsNullCount more + nullsFrom .outside rest) := by
        rw [nullsFrom_itemsTokens_append more, nullsFrom_mark rfl (by decide) (by decide)]
      _ = (array (item :: more)).nullCount + nullsFrom .outside rest := by
        rw [nullCount, itemsNullCount, Nat.add_assoc]
  | object [], rest => (Nat.zero_add _).symm
  | object ((name, value) :: more), rest => by
    calc nullsFrom .outside (allText (object ((name, value) :: more)).tokens ++ rest)
      _ = nullsFrom .outside (Token.openObject.text ++ ((Token.string name).text ++
            (Token.colon.text ++ (allText value.tokens ++
              (allText (membersTokens more) ++ (Token.closeObject.text ++ rest)))))) := by
        simp [tokens]
      _ = value.nullCount + nullsFrom .outside
            (allText (membersTokens more) ++ (Token.closeObject.text ++ rest)) := by
        rw [nullsFrom_mark rfl (by decide) (by decide), nullsFrom_string,
          nullsFrom_mark rfl (by decide) (by decide), nullsFrom_tokens_append value]
      _ = value.nullCount + (membersNullCount more + nullsFrom .outside rest) := by
        rw [nullsFrom_membersTokens_append more, nullsFrom_mark rfl (by decide) (by decide)]
      _ = (object ((name, value) :: more)).nullCount + nullsFrom .outside rest := by
        rw [nullCount, membersNullCount, Nat.add_assoc]

theorem nullsFrom_itemsTokens_append : ∀ (items : List Json) (rest : List Char),
    nullsFrom .outside (allText (itemsTokens items) ++ rest) =
      itemsNullCount items + nullsFrom .outside rest
  | [], rest => (Nat.zero_add _).symm
  | item :: more, rest => by
    have hsplit : allText (itemsTokens (item :: more)) ++ rest =
        Token.comma.text ++ (allText item.tokens ++ (allText (itemsTokens more) ++ rest)) := by
      simp [itemsTokens]
    rw [hsplit, nullsFrom_mark rfl (by decide) (by decide), nullsFrom_tokens_append item,
      nullsFrom_itemsTokens_append more, itemsNullCount, Nat.add_assoc]

theorem nullsFrom_membersTokens_append : ∀ (members : List (String × Json)) (rest : List Char),
    nullsFrom .outside (allText (membersTokens members) ++ rest) =
      membersNullCount members + nullsFrom .outside rest
  | [], rest => (Nat.zero_add _).symm
  | (name, value) :: more, rest => by
    have hsplit : allText (membersTokens ((name, value) :: more)) ++ rest =
        Token.comma.text ++ ((Token.string name).text ++ (Token.colon.text ++
          (allText value.tokens ++ (allText (membersTokens more) ++ rest)))) := by
      simp [membersTokens]
    rw [hsplit, nullsFrom_mark rfl (by decide) (by decide), nullsFrom_string,
      nullsFrom_mark rfl (by decide) (by decide), nullsFrom_tokens_append value,
      nullsFrom_membersTokens_append more, membersNullCount, Nat.add_assoc]

end

/-- The compact text of a value has as many nulls as the value. -/
theorem nullsIn_compact (json : Json) : nullsIn json.compact = json.nullCount := by
  have hcount := nullsFrom_tokens_append json []
  rwa [List.append_nil, ← toList_compact] at hcount

example : nullsIn "[null,\"null\\\"null\",1.5,\x7b\"null\":null\x7d]" = 2 := by decide

end Json

end SearchDomain
