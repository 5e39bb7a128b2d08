/-
  SearchDomain.Proofs.Json.Layout

  The indented text of a value is one of its texts: line breaks and the space
  behind a colon stand between tokens and nowhere else. Piece by piece, each with
  its own tokens, the text is put together as the value is. With this a reader
  gets the same value from what is written for people as from the compact text.
-/
import SearchDomain.Proofs.Json.RoundTrip

namespace SearchDomain.Json

open Token (Spaced)

/-! ## Pieces of a text -/

theorem spaced_token (token : Token) : Spaced [token] token.text := by
  have h : Spaced [token] (token.text ++ []) := .token .nil
  rwa [List.append_nil] at h

theorem Token.Spaced.append {tokens more : List Token} {text rest : List Char}
    (h : Spaced tokens text) (hmore : Spaced more rest) :
    Spaced (tokens ++ more) (text ++ rest) := by
  induction h with
  | nil => exact hmore
  | space hc _ ih => exact .space hc ih
  | token _ ih =>
    rw [List.cons_append, List.append_assoc]
    exact .token ih

/-- White space alone has no tokens. -/
theorem spaced_of_isSpace {cs : List Char} (h : ∀ c ∈ cs, isSpace c = true) : Spaced [] cs := by
  induction cs with
  | nil => exact .nil
  | cons c cs ih =>
    apply Spaced.space (h c List.mem_cons_self)
    exact ih fun d hd => h d (List.mem_cons_of_mem c hd)

theorem spaced_lineBreak (level : Nat) : Spaced [] (lineBreak level).toList := by
  rw [lineBreak, String.toList_ofList]
  apply spaced_of_isSpace
  intro c hc
  rcases List.mem_cons.1 hc with rfl | hblank
  · decide
  · rw [List.eq_of_mem_replicate hblank]
    decide

/-- The colon behind a name has a space behind it. -/
theorem spaced_colon : Spaced [.colon] ": ".toList := by
  have h : Spaced [.colon] (Token.text .colon ++ [' ']) := .token (.space (by decide) .nil)
  exact h

theorem spaced_stringText (s : String) : Spaced [.string s] (stringText s).toList := by
  rw [toList_stringText]
  exact spaced_token (.string s)

/-! ## Whole values -/

mutual

/-- The indented text of a value has the tokens of the value. -/
theorem spaced_indented : ∀ (json : Json) (level : Nat),
    Spaced json.tokens (json.indented level).toList
  | null, _ => by simpa [indented, tokens, Token.text] using spaced_token .null
  | bool true, _ => by simpa [indented, tokens, Token.text] using spaced_token (.bool true)
  | bool false, _ => by simpa [indented, tokens, Token.text] using spaced_token (.bool false)
  | number n, _ => by simpa [indented, tokens, Token.text] using spaced_token (.number n)
  | string s, _ => by simpa [indented, tokens] using spaced_stringText s
  | array [], _ => by
    have h := (spaced_token .openArray).append (spaced_token .closeArray)
    simpa [indented, tokens, Token.text] using h
  | array (item :: rest), level => by
    -- the items stand on lines of their own, one level further in than the brackets
    have hitems := (spaced_lineBreak (level + 1)).append
      ((spaced_indented item (level + 1)).append (spaced_indentedItems rest (level + 1)))
    have hend := (spaced_lineBreak level).append (spaced_token .closeArray)
    have h := (spaced_token .openArray).append (hitems.append hend)
    simpa [indented, tokens, Token.text] using h
  | object [], _ => by
    have h := (spaced_token .openObject).append (spaced_token .closeObject)
    simpa [indented, tokens, Token.text] using h
  | object ((name, value) :: rest), level => by
    have hname := (spaced_lineBreak (level + 1)).append
      ((spaced_stringText name).append spaced_colon)
    have hmembers := hname.append
      ((spaced_indented value (level + 1)).append (spaced_indentedMembers rest (level + 1)))
    have hend := (spaced_lineBreak level).append (spaced_token .closeObject)
    have h := (spaced_token .openObject).append (hmembers.append hend)
    simpa [indented, tokens, Token.text] using h

theorem spaced_indentedItems : ∀ (items : List Json) (level : Nat),
    Spaced (itemsTokens items) (indentedItems level items).toList
  | [], _ => .nil
  | item :: rest, level => by
    have hitem := (spaced_lineBreak level).append (spaced_indented item level)
    have h := (spaced_token .comma).append (hitem.append (spaced_indentedItems rest level))
    simpa [indentedItems, itemsTokens, Token.text] using h

theorem spaced_indentedMembers : ∀ (members : List (String × Json)) (level : Nat),
    Spaced (membersTokens members) (indentedMembers level members).toList
  | [], _ => .nil
  | (name, value) :: rest, level => by
    have hname := (spaced_lineBreak level).append ((spaced_stringText name).append spaced_colon)
    have hvalue := (spaced_indented value level).append (spaced_indentedMembers rest level)
    have h := (spaced_token .comma).append (hname.append hvalue)
    simpa [indentedMembers, membersTokens, Token.text] using h

end

theorem isTextOf_pretty (json : Json) : json.IsTextOf json.pretty :=
  spaced_indented json 0

end SearchDomain.Json
