/-
  SearchDomain.Proofs.Json.RoundTrip

  JSON values written and read again. A text of a value has the tokens of the
  value with any white space around them; scanned, the text gives the tokens back,
  and the reader, going through the tokens of a value with any containers open
  around it, comes out with the value finished and the same containers open. Main
  statement: a value without repeated names, with numbers that are read back and
  at most 127 containers deep is read back from each of its texts, of which the
  compact one has no white space.
-/
import SearchDomain.Proofs.Json.Token

namespace SearchDomain

namespace Entries

variable {α : Type}

/-- A name that is new is entered at the end. -/
theorem insert_of_not_mem {entries : Entries α} {name : String} (h : name ∉ entries.names)
    (value : α) : entries.insert name value = entries ++ [(name, value)] := by
  induction entries with
  | nil => rfl
  | cons entry rest ih =>
    rw [names, List.map_cons, List.mem_cons, not_or] at h
    rw [insert, if_neg (Ne.symm h.1), ih h.2, List.cons_append]

/-- Where names are distinct, none stands in front of itself. -/
theorem not_mem_names_of_nodup {done rest : Entries α} {name : String} {value : α}
    (h : (names (done ++ (name, value) :: rest)).Nodup) : name ∉ done.names := by
  rw [names, List.map_append, List.map_cons] at h
  exact fun hmem => (List.nodup_append.1 h).2.2 name hmem name List.mem_cons_self rfl

end Entries

namespace Json

/-! ## Values that can be written -/

mutual

/-- Whether names are distinct in every object, whole numbers are within 64 bits, and all other
numbers pass a test. -/
def isProper (test : Binary64 → Bool) : Json → Bool
  | number n => n.isProper test
  | array items => allProper test items
  | object members => decide (Entries.names members).Nodup && allMembersProper test members
  | _ => true

/-- Whether all items are proper. -/
def allProper (test : Binary64 → Bool) : List Json → Bool
  | [] => true
  | item :: rest => isProper test item && allProper test rest

/-- Whether the values of all members are proper. -/
def allMembersProper (test : Binary64 → Bool) : List (String × Json) → Bool
  | [] => true
  | (_, value) :: rest => isProper test value && allMembersProper test rest

end

/-- Whether a value can be the value of a text: no NaN, no infinity, no name twice. -/
def isWellFormed (json : Json) : Bool :=
  json.isProper Binary64.isFinite

/-- Whether a value can be the value of a text and all its numbers are read back. -/
def isReadable (json : Json) : Bool :=
  json.isProper fun x => decide x.ReadsBack

/-! ## The tokens of a value -/

mutual

/-- The tokens in which a value is written. -/
def tokens : Json → List Token
  | null => [.null]
  | bool b => [.bool b]
  | number n => [.number n]
  | string s => [.string s]
  | array [] => [.openArray, .closeArray]
  | array (item :: rest) =>
    .openArray :: (tokens item ++ (itemsTokens rest ++ [.closeArray]))
  | object [] => [.openObject, .closeObject]
  | object ((name, value) :: rest) =>
    .openObject :: .string name :: .colon ::
      (tokens value ++ (membersTokens rest ++ [.closeObject]))

/-- Further items, each behind a comma. -/
def itemsTokens : List Json → List Token
  | [] => []
  | item :: rest => .comma :: (tokens item ++ itemsTokens rest)

/-- Further members, each behind a comma. -/
def membersTokens : List (String × Json) → List Token
  | [] => []
  | (name, value) :: rest =>
    .comma :: .string name :: .colon :: (tokens value ++ membersTokens rest)

end

open Token (allText AreApart)

theorem toList_stringText (s : String) : (stringText s).toList = (Token.string s).text := by
  rw [stringText, String.toList_ofList]
  rfl

mutual

/-- The compact text of a value is the text of its tokens. -/
theorem toList_compact : ∀ json : Json, json.compact.toList = allText json.tokens
  | null => by simp [compact, tokens, Token.text]
  | bool true => by simp [compact, tokens, Token.text]
  | bool false => by simp [compact, tokens, Token.text]
  | number n => by simp [compact, tokens, Token.text]
  | string s => by simp [compact, tokens, toList_stringText]
  | array [] => by simp [compact, tokens, Token.text]
  | array (item :: rest) => by
    simp [compact, tokens, Token.text, toList_compact item, toList_compactItems rest]
  | object [] => by simp [compact, tokens, Token.text]
  | object ((name, value) :: rest) => by
    simp [compact, tokens, toList_stringText, toList_compact value,
      toList_compactMembers rest]
    simp [Token.text]

theorem toList_compactItems : ∀ items : List Json,
    (compactItems items).toList = allText (itemsTokens items)
  | [] => by simp [compactItems, itemsTokens]
  | item :: rest => by
    simp [compactItems, itemsTokens, Token.text, toList_compact item, toList_compactItems rest]

theorem toList_compactMembers : ∀ members : List (String × Json),
    (compactMembers members).toList = allText (membersTokens members)
  | [] => by simp [compactMembers, membersTokens]
  | (name, value) :: rest => by
    simp [compactMembers, membersTokens, toList_stringText, toList_compact value,
      toList_compactMembers rest]
    simp [Token.text]

end

/-! ## Scanning a value -/

/-- What may stand behind a value: tokens that are apart, and begin like no piece of a number. -/
def MayFollow (more : List Token) : Prop :=
  AreApart more ∧ Text.StopsAt endsNumber (allText more)

theorem mayFollow_nil : MayFollow [] :=
  ⟨trivial, Text.stopsAt_nil _⟩

/-- A comma, or the end of a container, may stand behind a value. -/
theorem mayFollow_cons {token : Token} {c : Char} {more : List Token} (htext : token.text = [c])
    (hc : endsNumber c = true) (hread : token.isReadable = true)
    (hprecedes : ∀ rest, token.Precedes rest) (hmore : AreApart more) :
    MayFollow (token :: more) := by
  refine ⟨⟨hread, hprecedes _, hmore⟩, ?_⟩
  rw [Token.allText_cons, htext, List.singleton_append, Text.stopsAt_cons]
  exact hc

theorem mayFollow_comma {more : List Token} (h : AreApart more) : MayFollow (.comma :: more) :=
  mayFollow_cons rfl (by decide) rfl (fun _ => trivial) h

theorem mayFollow_closeArray {more : List Token} (h : AreApart more) :
    MayFollow (.closeArray :: more) :=
  mayFollow_cons rfl (by decide) rfl (fun _ => trivial) h

theorem mayFollow_closeObject {more : List Token} (h : AreApart more) :
    MayFollow (.closeObject :: more) :=
  mayFollow_cons rfl (by decide) rfl (fun _ => trivial) h

mutual

/-- The tokens of a readable value are apart, and so are what follows them. -/
theorem areApart_tokens_append : ∀ {json : Json} {more : List Token},
    json.isReadable = true → MayFollow more → AreApart (json.tokens ++ more)
  | null, more, _, hmore => ⟨rfl, trivial, hmore.1⟩
  | bool b, more, _, hmore => ⟨rfl, trivial, hmore.1⟩
  | number n, more, hread, hmore => ⟨hread, hmore.2, hmore.1⟩
  | string s, more, _, hmore => ⟨rfl, trivial, hmore.1⟩
  | array [], more, _, hmore => ⟨rfl, trivial, rfl, trivial, hmore.1⟩
  | array (item :: rest), more, hread, hmore => by
    have hall := Bool.and_eq_true_iff.1 hread
    have hrest := mayFollow_itemsTokens_append hall.2 (mayFollow_closeArray hmore.1)
    have hitem := areApart_tokens_append hall.1 hrest
    refine ⟨rfl, trivial, ?_⟩
    simpa using hitem
  | object [], more, _, hmore => ⟨rfl, trivial, rfl, trivial, hmore.1⟩
  | object ((name, value) :: rest), more, hread, hmore => by
    have hall := Bool.and_eq_true_iff.1 (Bool.and_eq_true_iff.1 hread).2
    have hrest := mayFollow_membersTokens_append hall.2 (mayFollow_closeObject hmore.1)
    have hvalue := areApart_tokens_append hall.1 hrest
    refine ⟨rfl, trivial, rfl, trivial, rfl, trivial, ?_⟩
    simpa using hvalue

theorem mayFollow_itemsTokens_append : ∀ {items : List Json} {more : List Token},
    allProper (fun x => decide x.ReadsBack) items = true → MayFollow more →
      MayFollow (itemsTokens items ++ more)
  | [], more, _, hmore => hmore
  | item :: rest, more, hread, hmore => by
    have hall := Bool.and_eq_true_iff.1 hread
    have hrest := mayFollow_itemsTokens_append hall.2 hmore
    have hitem := areApart_tokens_append hall.1 hrest
    rw [itemsTokens, List.cons_append, List.append_assoc]
    exact mayFollow_comma hitem

theorem mayFollow_membersTokens_append : ∀ {members : List (String × Json)} {more : List Token},
    allMembersProper (fun x => decide x.ReadsBack) members = true → MayFollow more →
      MayFollow (membersTokens members ++ more)
  | [], more, _, hmore => hmore
  | (name, value) :: rest, more, hread, hmore => by
    have hall := Bool.and_eq_true_iff.1 hread
    have hrest := mayFollow_membersTokens_append hall.2 hmore
    have hvalue := areApart_tokens_append hall.1 hrest
    rw [membersTokens, List.cons_append, List.cons_append, List.cons_append, List.append_assoc]
    exact mayFollow_comma ⟨rfl, trivial, rfl, trivial, hvalue⟩

end

/-- Whether a text is one of a value: the tokens of the value, with any white space around them. -/
def IsTextOf (json : Json) (text : String) : Prop :=
  Token.Spaced json.tokens text.toList

theorem isTextOf_compact (json : Json) : json.IsTextOf json.compact := by
  rw [IsTextOf, toList_compact]
  exact Token.spaced_allText json.tokens

/-- A text of a readable value is scanned into the value's tokens. -/
theorem scan_of_isTextOf {json : Json} {text : String} (h : json.IsTextOf text)
    (hread : json.isReadable = true) : Token.scan text.toList = some json.tokens := by
  have hapart := areApart_tokens_append hread mayFollow_nil
  rw [List.append_nil] at hapart
  exact Token.scan_of_spaced h hapart

/-! ## Reading a value -/

namespace Reader

theorem run_openArray {stack : List Frame} (h : stack.length < maxDepth) (more : List Token) :
    run ⟨.value, stack⟩ (.openArray :: more) = run ⟨.firstItem, .array [] :: stack⟩ more := by
  have hstep : step ⟨.value, stack⟩ .openArray = some ⟨.firstItem, .array [] :: stack⟩ :=
    if_pos h
  rw [run, List.foldlM_cons, hstep]
  rfl

theorem run_openObject {stack : List Frame} (h : stack.length < maxDepth) (more : List Token) :
    run ⟨.value, stack⟩ (.openObject :: more) = run ⟨.firstName, stack⟩ more := by
  have hstep : step ⟨.value, stack⟩ .openObject = some ⟨.firstName, stack⟩ := if_pos h
  rw [run, List.foldlM_cons, hstep]
  rfl

/-- Where an item or the end of an array may come, an item is read as a value. -/
theorem run_firstItem (json : Json) (stack : List Frame) (more : List Token) :
    run ⟨.firstItem, stack⟩ (json.tokens ++ more) = run ⟨.value, stack⟩ (json.tokens ++ more) := by
  match json with
  | null | bool _ | number _ | string _ => rfl
  | array [] | array (_ :: _) => rfl
  | object [] | object ((_, _) :: _) => rfl

mutual

/-- The tokens of a value lead from where a value is expected to where it is finished, with the
same containers open around it. -/
theorem run_tokens : ∀ {json : Json} {stack : List Frame} (more : List Token),
    json.isReadable = true → stack.length + json.depth ≤ maxDepth →
      run ⟨.value, stack⟩ (json.tokens ++ more) = run ⟨.finished json, stack⟩ more
  | null, _, _, _, _ => rfl
  | bool _, _, _, _, _ => rfl
  | number _, _, _, _, _ => rfl
  | string _, _, _, _, _ => rfl
  | array [], stack, more, _, hdepth => by
    rw [depth, itemsDepth] at hdepth
    exact run_openArray (by omega) _
  | array (item :: rest), stack, more, hread, hdepth => by
    have hall := Bool.and_eq_true_iff.1 hread
    rw [depth, itemsDepth] at hdepth
    have hopen : stack.length < maxDepth := by omega
    -- the items are read one container further in
    have hitem : (Frame.array [] :: stack).length + item.depth ≤ maxDepth := by
      rw [List.length_cons]
      omega
    calc run ⟨.value, stack⟩ ((array (item :: rest)).tokens ++ more)
      _ = run ⟨.value, stack⟩
            (.openArray :: (item.tokens ++ (itemsTokens rest ++ .closeArray :: more))) := by
        simp [tokens]
      _ = run ⟨.firstItem, .array [] :: stack⟩
            (item.tokens ++ (itemsTokens rest ++ .closeArray :: more)) :=
        run_openArray hopen _
      _ = run ⟨.finished item, .array [] :: stack⟩ (itemsTokens rest ++ .closeArray :: more) := by
        rw [run_firstItem, run_tokens _ hall.1 hitem]
      _ = run ⟨.finished (array (item :: rest)), stack⟩ more :=
        run_itemsTokens [] item more hall.2 (by omega)
  | object [], stack, more, _, hdepth => by
    rw [depth, membersDepth] at hdepth
    exact run_openObject (by omega) _
  | object ((name, value) :: rest), stack, more, hread, hdepth => by
    have hparts := Bool.and_eq_true_iff.1 hread
    have hall := Bool.and_eq_true_iff.1 hparts.2
    rw [depth, membersDepth] at hdepth
    have hopen : stack.length < maxDepth := by omega
    have hvalue : (Frame.object [] name :: stack).length + value.depth ≤ maxDepth := by
      rw [List.length_cons]
      omega
    calc run ⟨.value, stack⟩ ((object ((name, value) :: rest)).tokens ++ more)
      _ = run ⟨.value, stack⟩ (.openObject :: .string name :: .colon ::
            (value.tokens ++ (membersTokens rest ++ .closeObject :: more))) := by
        simp [tokens]
      _ = run ⟨.firstName, stack⟩ (.string name :: .colon ::
            (value.tokens ++ (membersTokens rest ++ .closeObject :: more))) :=
        run_openObject hopen _
      _ = run ⟨.value, .object [] name :: stack⟩
            (value.tokens ++ (membersTokens rest ++ .closeObject :: more)) := rfl
      _ = run ⟨.finished value, .object [] name :: stack⟩
            (membersTokens rest ++ .closeObject :: more) :=
        run_tokens _ hall.1 hvalue
      _ = run ⟨.finished (object ((name, value) :: rest)), stack⟩ more :=
        run_membersTokens [] name value more hall.2 (of_decide_eq_true hparts.1) (by omega)

/-- Further items and the end of the array finish the array. -/
theorem run_itemsTokens : ∀ {items : List Json} {stack : List Frame} (done : List Json)
    (item : Json) (more : List Token),
      allProper (fun x => decide x.ReadsBack) items = true →
      stack.length + (itemsDepth items + 1) ≤ maxDepth →
      run ⟨.finished item, .array done :: stack⟩ (itemsTokens items ++ .closeArray :: more) =
        run ⟨.finished (.array (done.reverse ++ item :: items)), stack⟩ more
  | [], stack, done, item, more, _, _ => by
    rw [← List.reverse_cons]
    rfl
  | next :: rest, stack, done, item, more, hread, hdepth => by
    have hall := Bool.and_eq_true_iff.1 hread
    rw [itemsDepth] at hdepth
    have hnext : (Frame.array (item :: done) :: stack).length + next.depth ≤ maxDepth := by
      rw [List.length_cons]
      omega
    calc run ⟨.finished item, .array done :: stack⟩
          (itemsTokens (next :: rest) ++ .closeArray :: more)
      _ = run ⟨.finished item, .array done :: stack⟩
            (.comma :: (next.tokens ++ (itemsTokens rest ++ .closeArray :: more))) := by
        simp [itemsTokens]
      _ = run ⟨.value, .array (item :: done) :: stack⟩
            (next.tokens ++ (itemsTokens rest ++ .closeArray :: more)) := rfl
      _ = run ⟨.finished next, .array (item :: done) :: stack⟩
            (itemsTokens rest ++ .closeArray :: more) :=
        run_tokens _ hall.1 hnext
      _ = run ⟨.finished (.array (done.reverse ++ item :: next :: rest)), stack⟩ more := by
        rw [run_itemsTokens (item :: done) next more hall.2 (by omega), List.reverse_cons,
          List.append_assoc, List.singleton_append]

/-- Further members and the end of the object finish the object, if no name comes twice. -/
theorem run_membersTokens : ∀ {members : List (String × Json)} {stack : List Frame}
    (done : Entries Json) (name : String) (value : Json) (more : List Token),
      allMembersProper (fun x => decide x.ReadsBack) members = true →
      (Entries.names (done ++ (name, value) :: members)).Nodup →
      stack.length + (membersDepth members + 1) ≤ maxDepth →
      run ⟨.finished value, .object done name :: stack⟩
          (membersTokens members ++ .closeObject :: more) =
        run ⟨.finished (.object (done ++ (name, value) :: members)), stack⟩ more
  | [], stack, done, name, value, more, _, hnames, _ => by
    rw [← Entries.insert_of_not_mem (Entries.not_mem_names_of_nodup hnames)]
    rfl
  | (next, nextValue) :: rest, stack, done, name, value, more, hread, hnames, hdepth => by
    have hall := Bool.and_eq_true_iff.1 hread
    -- the name is new, so the member goes to the end of those before it
    have hinsert := Entries.insert_of_not_mem (Entries.not_mem_names_of_nodup hnames) value
    rw [membersDepth] at hdepth
    have hnext : (Frame.object (done.insert name value) next :: stack).length + nextValue.depth ≤
        maxDepth := by
      rw [List.length_cons]
      omega
    have hnames' : (Entries.names (done.insert name value ++ (next, nextValue) :: rest)).Nodup := by
      rw [hinsert, List.append_assoc]
      exact hnames
    calc run ⟨.finished value, .object done name :: stack⟩
          (membersTokens ((next, nextValue) :: rest) ++ .closeObject :: more)
      _ = run ⟨.finished value, .object done name :: stack⟩ (.comma :: .string next :: .colon ::
            (nextValue.tokens ++ (membersTokens rest ++ .closeObject :: more))) := by
        simp [membersTokens]
      _ = run ⟨.value, .object (done.insert name value) next :: stack⟩
            (nextValue.tokens ++ (membersTokens rest ++ .closeObject :: more)) := rfl
      _ = run ⟨.finished nextValue, .object (done.insert name value) next :: stack⟩
            (membersTokens rest ++ .closeObject :: more) :=
        run_tokens _ hall.1 hnext
      _ = run ⟨.finished (.object (done ++ (name, value) :: (next, nextValue) :: rest)), stack⟩
            more := by
        rw [run_membersTokens _ next nextValue more hall.2 hnames' (by omega), hinsert,
          List.append_assoc, List.singleton_append]

end

/-- The tokens of a value lead from the start to the value. -/
theorem run_start {json : Json} (hread : json.isReadable = true) (hdepth : json.depth ≤ maxDepth) :
    start.run json.tokens = some ⟨.finished json, []⟩ := by
  have hrun := @run_tokens json [] [] hread (by simpa using hdepth)
  rwa [List.append_nil] at hrun

end Reader

/-- A readable value that is not too deep is read back from each of its texts. -/
theorem read_of_isTextOf {json : Json} {text : String} (h : json.IsTextOf text)
    (hread : json.isReadable = true) (hdepth : json.depth ≤ Reader.maxDepth) :
    read text = some json := by
  rw [read, scan_of_isTextOf h hread, Option.bind_eq_bind, Option.bind_some,
    Reader.run_start hread hdepth]
  rfl

theorem read_compact {json : Json} (hread : json.isReadable = true)
    (hdepth : json.depth ≤ Reader.maxDepth) : read json.compact = some json :=
  read_of_isTextOf json.isTextOf_compact hread hdepth

end Json

end SearchDomain
