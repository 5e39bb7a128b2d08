/-
  SearchDomain.Proofs.Filter.Grammar

  The JSON documents that describe filters, stated apart from the reader.

  Reading goes through the members of an object in the order of the document and
  into the object behind an operator, and nowhere else. The members met on the
  way are the reached ones; each has to be an operator over an object or a field
  with a value that a condition takes. Main statement: a document is read exactly
  when all of its reached members are of these two kinds, the filter has one node
  for each of them, and otherwise the first that is neither is complained about.
  The texts of the complaints are stated here as well, apart from the errors.
-/
import SearchDomain.Config.Error

namespace SearchDomain

/-! ## Values of conditions -/

namespace Json

/-- Whether a text is an RFC 3339 timestamp. -/
def isTimestamp (s : String) : Bool :=
  (Instant.ofTimestamp? s).isSome

/-- Whether two values are the ends of a range: two numbers, or two timestamps. -/
def areRangeEnds : Json → Json → Bool
  | number _, number _ => true
  | string first, string last => isTimestamp first && isTimestamp last
  | _, _ => false

/-- Whether a condition takes the value: anything but containers, and the two ends of a range. -/
def isOperand : Json → Bool
  | null | bool _ | number _ | string _ => true
  | array [least, greatest] => areRangeEnds least greatest
  | array _ | object _ => false

/-- What a condition compares with for a value. -/
inductive StandsFor : Json → FilterValue → Prop
  | null : StandsFor null .empty
  | bool (b : Bool) : StandsFor (bool b) (.ofBool b)
  | integer {n : JsonNumber} {i : Int64} :
      n.toInt64? = some i → StandsFor (number n) (.integer i)
  | number {n : JsonNumber} : n.toInt64? = none → StandsFor (number n) (.scalar n.text)
  | string (s : String) : StandsFor (string s) (.ofText s)
  | numbers (m n : JsonNumber) :
      StandsFor (array [number m, number n]) (.numericRange m.toBinary64 n.toBinary64)
  | timestamps {s t : String} {first last : Instant} :
      Instant.ofTimestamp? s = some first → Instant.ofTimestamp? t = some last →
      StandsFor (array [string s, string t]) (.dateRange first last)

/-- What is said about a member with a value that no condition takes. -/
def complaint (name : String) : Json → FilterError
  | array [_, _] => .badRange name
  | json => .unsupportedValue json.sort name

/-- The word by which messages call a value. -/
inductive IsCalled : Json → String → Prop
  | null : IsCalled null "null"
  | bool (b : Bool) : IsCalled (bool b) "boolean"
  | number (n : JsonNumber) : IsCalled (number n) "number"
  | string (s : String) : IsCalled (string s) "string"
  | array (items : List Json) : IsCalled (array items) "array"
  | object (members : List (String × Json)) : IsCalled (object members) "object"

/-- What a message says about a value under a name: of two elements, that they are no range, and of
anything else, that it is unsupported. -/
inductive IsRefused (name : String) : Json → String → Prop
  | range (least greatest : Json) :
      IsRefused name (array [least, greatest])
        ("range for field '" ++ name ++ "' must be two numbers or two RFC 3339 timestamps")
  | unsupported {json : Json} {word : String} :
      (∀ least greatest, json ≠ array [least, greatest]) → json.IsCalled word →
      IsRefused name json ("unsupported " ++ word ++ " value for field '" ++ name ++ "'")

theorem isCalled_sort (json : Json) : json.IsCalled json.sort := by
  cases json with
  | null => exact .null
  | bool b => exact .bool b
  | number n => exact .number n
  | string s => exact .string s
  | array items => exact .array items
  | object members => exact .object members

theorem isRefused_complaint (name : String) (json : Json) :
    json.IsRefused name (json.complaint name).message := by
  unfold complaint
  split
  case h_1 least greatest => exact .range least greatest
  case h_2 hother => exact .unsupported hother json.isCalled_sort

end Json

namespace FilterValue

open Json (StandsFor complaint)

/-- Two values are the ends of a range, or the range is complained about. -/
theorem rangeOfJson_cases (field : String) (least greatest : Json) :
    (Json.areRangeEnds least greatest = true ∧
      ∃ value, rangeOfJson field least greatest = .ok value ∧
        StandsFor (.array [least, greatest]) value) ∨
    (Json.areRangeEnds least greatest = false ∧
      rangeOfJson field least greatest = .error (.badRange field)) := by
  cases least with
  | number m =>
    cases greatest with
    | number n => exact .inl ⟨rfl, _, rfl, .numbers m n⟩
    | null | bool | string | array | object => exact .inr ⟨rfl, rfl⟩
  | string s =>
    have hfirst : instantOfJson? (.string s) = Instant.ofTimestamp? s := rfl
    cases greatest with
    | string t =>
      have hlast : instantOfJson? (.string t) = Instant.ofTimestamp? t := rfl
      rw [rangeOfJson, hfirst, hlast, Json.areRangeEnds, Json.isTimestamp, Json.isTimestamp]
      -- the texts are tried one after the other
      cases hs : Instant.ofTimestamp? s with
      | none => exact .inr ⟨rfl, rfl⟩
      | some first =>
        cases ht : Instant.ofTimestamp? t with
        | none => exact .inr ⟨rfl, rfl⟩
        | some last => exact .inl ⟨rfl, _, rfl, .timestamps hs ht⟩
    | null | bool | number | array | object =>
      refine .inr ⟨rfl, ?_⟩
      rw [rangeOfJson, hfirst]
      cases Instant.ofTimestamp? s with
      | none => rfl
      | some first => rfl
  | null | bool | array | object => exact .inr ⟨rfl, rfl⟩

/-- A value is one that a condition takes, and read as such, or it is complained about. -/
theorem ofJson_cases (field : String) (json : Json) :
    (json.isOperand = true ∧ ∃ value, ofJson field json = .ok value ∧ json.StandsFor value) ∨
    (json.isOperand = false ∧ ofJson field json = .error (json.complaint field)) := by
  cases json with
  | null => exact .inl ⟨rfl, _, rfl, .null⟩
  | bool b => exact .inl ⟨rfl, _, rfl, .bool b⟩
  | number n =>
    rw [ofJson]
    cases hn : n.toInt64? with
    | some i => exact .inl ⟨rfl, _, rfl, .integer hn⟩
    | none => exact .inl ⟨rfl, _, rfl, .number hn⟩
  | string s => exact .inl ⟨rfl, _, rfl, .string s⟩
  | array items =>
    match items with
    | [least, greatest] => exact rangeOfJson_cases field least greatest
    | [] => exact .inr ⟨rfl, rfl⟩
    | [_] => exact .inr ⟨rfl, rfl⟩
    | _ :: _ :: _ :: _ => exact .inr ⟨rfl, rfl⟩
  | object members => exact .inr ⟨rfl, rfl⟩

theorem ofJson_of_standsFor {json : Json} {value : FilterValue} (h : json.StandsFor value)
    (field : String) : ofJson field json = .ok value := by
  cases h with
  | null => rfl
  | bool b => rfl
  | integer h => rw [ofJson, h]
  | number h => rw [ofJson, h]
  | string s => rfl
  | numbers m n => rfl
  | timestamps hs ht =>
    rw [ofJson, rangeOfJson]
    simp [instantOfJson?, Json.asString?, hs, ht, Json.asBinary64?]

end FilterValue

/-! ## Reached members -/

namespace Filter

/-- Whether a name is that of an operator. -/
def namesOperator (name : String) : Bool :=
  name = "and" || name = "or" || name = "not"

/-- Whether a member is an operator: its name is one, and its value is an object. -/
def isOperator : String × Json → Bool
  | (name, .object _) => namesOperator name
  | _ => false

mutual

/-- The members that reading meets, in the order of the document: each member, and behind an
operator the members of its object. -/
def reached : List (String × Json) → List (String × Json)
  | [] => []
  | (name, json) :: rest => (name, json) :: (reachedBehind name json ++ reached rest)

/-- The members that reading meets inside the value of a member. -/
def reachedBehind (name : String) : Json → List (String × Json)
  | .object members => if namesOperator name then reached members else []
  | _ => []

end

/-- Whether a member is neither an operator nor a field with a value that a condition takes. -/
def isOffending (member : String × Json) : Bool :=
  !isOperator member && !member.2.isOperand

mutual

/-- The node that a member describes. -/
inductive MemberDescribes : String → Json → Filter → Prop
  | node {op : Connective} {members : List (String × Json)} {children : List Filter} :
      MembersDescribe members children →
      MemberDescribes op.keyword (.object members) (logic op children)
  | condition {name : String} {json : Json} {value : FilterValue} :
      json.StandsFor value → MemberDescribes name json (condition name value)

/-- The nodes that members describe, one for each, in the same order. -/
inductive MembersDescribe : List (String × Json) → List Filter → Prop
  | nil : MembersDescribe [] []
  | cons {name : String} {json : Json} {rest : List (String × Json)} {filter : Filter}
      {filters : List Filter} :
      MemberDescribes name json filter → MembersDescribe rest filters →
      MembersDescribe ((name, json) :: rest) (filter :: filters)

end

/-- The filter that a document describes: the node of its only member, or a sequence. -/
inductive Describes : Json → Filter → Prop
  | single {member : String × Json} {filter : Filter} :
      MembersDescribe [member] [filter] → Describes (.object [member]) filter
  | several {members : List (String × Json)} {filters : List Filter} :
      members.length ≠ 1 → MembersDescribe members filters →
      Describes (.object members) (sequence filters)

mutual

/-- The names of the nodes in a filter, a node before those below it: the keyword of an operator,
the field of a condition. -/
def nodeNames : Filter → List String
  | logic op children => op.keyword :: allNodeNames children
  | condition field _ => [field]
  | sequence members => allNodeNames members

/-- The names of the nodes in filters, one filter after another. -/
def allNodeNames : List Filter → List String
  | [] => []
  | filter :: rest => nodeNames filter ++ allNodeNames rest

end

/-- What is said about a document that describes no filter: that it is no object, or what is wrong
with the first offending member that reading meets. -/
def firstComplaint? : Json → Option FilterError
  | .object members =>
    ((reached members).find? isOffending).map fun offender => offender.2.complaint offender.1
  | other => some (.notObject other.sort)

/-! ## Single members -/

theorem isSome_ofKeyword? (name : String) :
    (Connective.ofKeyword? name).isSome = namesOperator name := by
  rw [Connective.ofKeyword?, namesOperator]
  split
  · simp_all
  · split
    · simp_all
    · split <;> simp_all

theorem keyword_of_ofKeyword? {name : String} {op : Connective}
    (h : Connective.ofKeyword? name = some op) : op.keyword = name := by
  rw [Connective.ofKeyword?] at h
  split at h
  · cases h; simp_all [Connective.keyword]
  · split at h
    · cases h; simp_all [Connective.keyword]
    · split at h
      · cases h; simp_all [Connective.keyword]
      · cases h

theorem ofMember_of_standsFor {json : Json} {value : FilterValue} (h : json.StandsFor value)
    (name : String) : ofMember name json = .ok (condition name value) := by
  -- no condition takes an object, so the name is not looked at
  have hobject : ∀ members, json ≠ .object members := by
    rintro members rfl
    cases h
  rw [ofMember, FilterValue.ofJson_of_standsFor h]
  · rfl
  · exact hobject

theorem ofMember_of_not_isOperand {name : String} {json : Json} (h : json.isOperand = false)
    (hoperator : isOperator (name, json) = false) :
    ofMember name json = .error (json.complaint name) := by
  have hvalue : FilterValue.ofJson name json = .error (json.complaint name) := by
    rcases FilterValue.ofJson_cases name json with ⟨htrue, -⟩ | ⟨-, hvalue⟩
    · simp [h] at htrue
    · exact hvalue
  cases json with
  | object members =>
    have hname : Connective.ofKeyword? name = none := by
      rw [← Option.not_isSome_iff_eq_none, isSome_ofKeyword?, Bool.not_eq_true]
      exact hoperator
    rw [ofMember, hname]
    dsimp only
    rw [hvalue]
    rfl
  | null | bool | number | string | array =>
    rw [ofMember, hvalue]
    · rfl
    · exact fun _ => Json.noConfusion

/-! ## Reading -/

mutual

theorem ofMember_of_memberDescribes : ∀ {name : String} {json : Json} {filter : Filter},
    MemberDescribes name json filter → ofMember name json = .ok filter
  | _, _, _, @MemberDescribes.node op _ _ h => by
    rw [ofMember, op.ofKeyword?_keyword]
    dsimp only
    rw [ofMembers_of_membersDescribe h]
    rfl
  | name, _, _, .condition h => ofMember_of_standsFor h name

theorem ofMembers_of_membersDescribe : ∀ {members : List (String × Json)} {filters : List Filter},
    MembersDescribe members filters → ofMembers members = .ok filters
  | _, _, .nil => rfl
  | _, _, .cons h hs => by
    rw [ofMembers, ofMember_of_memberDescribes h, ofMembers_of_membersDescribe hs]
    rfl

end

/-- A member that is no operator is a field, or it is offending itself. -/
theorem ofMember_cases_of_not_isOperator {name : String} {json : Json}
    (h : isOperator (name, json) = false) (hbehind : reachedBehind name json = []) :
    (∃ filter, ofMember name json = .ok filter ∧ MemberDescribes name json filter ∧
      ((name, json) :: reachedBehind name json).find? isOffending = none) ∨
    (∃ offender, ((name, json) :: reachedBehind name json).find? isOffending = some offender ∧
      ofMember name json = .error (offender.2.complaint offender.1)) := by
  rw [hbehind]
  rcases FilterValue.ofJson_cases name json with ⟨hoperand, value, -, hvalue⟩ | ⟨hoperand, -⟩
  · refine .inl ⟨_, ofMember_of_standsFor hvalue name, .condition hvalue, ?_⟩
    simp [isOffending, hoperand]
  · refine .inr ⟨(name, json), ?_, ofMember_of_not_isOperand hoperand h⟩
    simp [isOffending, h, hoperand]

mutual

/-- A member is read as the node that it describes, or the first offending member met is
complained about. -/
theorem ofMember_cases (name : String) : ∀ json : Json,
    (∃ filter, ofMember name json = .ok filter ∧ MemberDescribes name json filter ∧
      ((name, json) :: reachedBehind name json).find? isOffending = none) ∨
    (∃ offender, ((name, json) :: reachedBehind name json).find? isOffending = some offender ∧
      ofMember name json = .error (offender.2.complaint offender.1))
  | .object members => by
    cases hname : namesOperator name with
    | false =>
      have hoperator : isOperator (name, .object members) = false := hname
      have hbehind : reachedBehind name (.object members) = [] := by
        rw [reachedBehind, hname]
        rfl
      exact ofMember_cases_of_not_isOperator hoperator hbehind
    | true =>
      have hop : (Connective.ofKeyword? name).isSome = true := by
        rw [isSome_ofKeyword?, hname]
      obtain ⟨op, hop⟩ := Option.isSome_iff_exists.1 hop
      have hfind : ((name, Json.object members) :: reachedBehind name (.object members)).find?
          isOffending = (reached members).find? isOffending := by
        rw [reachedBehind, hname, if_pos rfl, List.find?_cons_of_neg]
        simp [isOffending, isOperator, hname]
      rw [hfind, ofMember, hop]
      -- the operator itself offends nobody, so the members behind it decide
      rcases ofMembers_cases members with ⟨children, hread, hchildren, hnone⟩ |
        ⟨offender, hfound, hread⟩
      · refine .inl ⟨logic op children, ?_, ?_, hnone⟩
        · rw [hread]
          rfl
        · rw [← keyword_of_ofKeyword? hop]
          exact .node hchildren
      · refine .inr ⟨offender, hfound, ?_⟩
        rw [hread]
        rfl
  | .null | .bool _ | .number _ | .string _ | .array _ =>
    ofMember_cases_of_not_isOperator rfl rfl

/-- Members are read as the nodes that they describe, or the first offending member met is
complained about. -/
theorem ofMembers_cases : ∀ members : List (String × Json),
    (∃ filters, ofMembers members = .ok filters ∧ MembersDescribe members filters ∧
      (reached members).find? isOffending = none) ∨
    (∃ offender, (reached members).find? isOffending = some offender ∧
      ofMembers members = .error (offender.2.complaint offender.1))
  | [] => .inl ⟨[], rfl, .nil, rfl⟩
  | (name, json) :: rest => by
    rw [reached, ← List.cons_append, List.find?_append]
    -- a member that offends, or one behind it, is found before those in the rest
    rcases ofMember_cases name json with ⟨filter, hread, hfilter, hnone⟩ | ⟨offender, hfound, hread⟩
    · rcases ofMembers_cases rest with ⟨filters, hreads, hfilters, hnones⟩ |
        ⟨offender, hfound, hreads⟩
      · refine .inl ⟨filter :: filters, ?_, .cons hfilter hfilters, ?_⟩
        · rw [ofMembers, hread, hreads]
          rfl
        · rw [hnone, hnones]
          rfl
      · refine .inr ⟨offender, ?_, ?_⟩
        · rw [hnone, hfound]
          rfl
        · rw [ofMembers, hread, hreads]
          rfl
    · refine .inr ⟨offender, ?_, ?_⟩
      · rw [hfound]
        rfl
      · rw [ofMembers, hread]

end

/-! ## Nodes -/

theorem namesOperator_keyword (op : Connective) : namesOperator op.keyword = true := by
  cases op with
  | all => rfl
  | any => rfl
  | negation => rfl

mutual

/-- A node and those below it have the names of the members that reading meets. -/
theorem nodeNames_of_memberDescribes : ∀ {name : String} {json : Json} {filter : Filter},
    MemberDescribes name json filter →
      filter.nodeNames = name :: (reachedBehind name json).map Prod.fst
  | _, _, _, @MemberDescribes.node op _ _ h => by
    rw [nodeNames, reachedBehind, namesOperator_keyword, if_pos rfl,
      allNodeNames_of_membersDescribe h]
  | name, json, _, .condition h => by
    have hbehind : reachedBehind name json = [] := by
      cases h <;> rfl
    rw [nodeNames, hbehind, List.map_nil]

theorem allNodeNames_of_membersDescribe : ∀ {members : List (String × Json)}
    {filters : List Filter}, MembersDescribe members filters →
      allNodeNames filters = (reached members).map Prod.fst
  | _, _, .nil => rfl
  | _, _, .cons h hs => by
    rw [allNodeNames, nodeNames_of_memberDescribes h, allNodeNames_of_membersDescribe hs, reached,
      List.map_cons, List.map_append, List.cons_append]

end

/-! ## Whole documents -/

theorem ofJson_of_describes {json : Json} {filter : Filter} (h : Describes json filter) :
    ofJson json = .ok filter := by
  cases h with
  | single h => rw [ofJson, ofMembers_of_membersDescribe h]
  | several hlength h =>
    rw [ofJson, ofMembers_of_membersDescribe h]
    -- there are as many nodes as members, and so not one
    cases h with
    | nil => rfl
    | cons h hs =>
      cases hs with
      | nil => exact absurd rfl hlength
      | cons h hs => rfl

theorem describes_of_membersDescribe {members : List (String × Json)} {filters : List Filter}
    (h : MembersDescribe members filters) : ∃ filter, Describes (.object members) filter := by
  cases h with
  | nil => exact ⟨_, .several (by decide) .nil⟩
  | cons h hs =>
    cases hs with
    | nil => exact ⟨_, .single (.cons h .nil)⟩
    | cons h' hs => exact ⟨_, .several (by simp) (.cons h (.cons h' hs))⟩

/-- A document is read as the filter that it describes, or it is complained about. -/
theorem ofJson_cases (json : Json) :
    (∃ filter, ofJson json = .ok filter ∧ Describes json filter ∧ firstComplaint? json = none) ∨
    (∃ error, ofJson json = .error error ∧ firstComplaint? json = some error) := by
  cases json with
  | object members =>
    rcases ofMembers_cases members with ⟨filters, -, hfilters, hnone⟩ | ⟨offender, hfound, hread⟩
    · obtain ⟨filter, hfilter⟩ := describes_of_membersDescribe hfilters
      refine .inl ⟨filter, ofJson_of_describes hfilter, hfilter, ?_⟩
      rw [firstComplaint?, hnone]
      rfl
    · refine .inr ⟨offender.2.complaint offender.1, ?_, ?_⟩
      · rw [ofJson, hread]
      · rw [firstComplaint?, hfound]
        rfl
  | null | bool | number | string | array => exact .inr ⟨_, rfl, rfl⟩

theorem nodeNames_of_describes {members : List (String × Json)} {filter : Filter}
    (h : Describes (.object members) filter) :
    filter.nodeNames = (reached members).map Prod.fst := by
  cases h with
  | single h =>
    have hnames := allNodeNames_of_membersDescribe h
    rwa [allNodeNames, allNodeNames, List.append_nil] at hnames
  | several _ h => exact allNodeNames_of_membersDescribe h

/-- Nothing is said about a document whose members all are operators or fields with values that
conditions take, and only about such a document nothing is said. -/
theorem firstComplaint?_eq_none_iff (json : Json) :
    firstComplaint? json = none ↔ ∃ members, json = .object members ∧
      ∀ member ∈ reached members, isOperator member = true ∨ member.2.isOperand = true := by
  have hoffending : ∀ member : String × Json, ¬isOffending member = true ↔
      isOperator member = true ∨ member.2.isOperand = true := by
    intro member
    rw [isOffending]
    cases isOperator member <;> cases member.2.isOperand <;> decide
  cases json with
  | object members =>
    rw [firstComplaint?, Option.map_eq_none_iff, List.find?_eq_none]
    constructor
    · intro h
      exact ⟨members, rfl, fun member hmem => (hoffending member).1 (h member hmem)⟩
    · rintro ⟨_, hmembers, h⟩ member hmem
      cases hmembers
      exact (hoffending member).2 (h member hmem)
  | null | bool | number | string | array => simp [firstComplaint?]

/-- A document is read exactly when each of its reached members is an operator over an object or a
field with a value that a condition takes. It is read as the filter that it describes, which has
one node for each reached member, in their order. Otherwise the complaint is about the first
offending member in the order of the document, and its message refuses the value under that name, or
it is about a document that is no object, and its message has the word for it. -/
theorem ofJson_reads_grammar (json : Json) :
    ((∃ filter, ofJson json = .ok filter) ↔ ∃ members, json = .object members ∧
      ∀ member ∈ reached members, isOperator member = true ∨ member.2.isOperand = true) ∧
    (∀ filter, ofJson json = .ok filter ↔ Describes json filter) ∧
    (∀ members filter, json = .object members → ofJson json = .ok filter →
      filter.nodeNames = (reached members).map Prod.fst) ∧
    (∀ error, ofJson json = .error error ↔ firstComplaint? json = some error) ∧
    (∀ offender : String × Json, ∃ text, offender.2.IsRefused offender.1 text ∧
      (ConfigError.invalidFilter (offender.2.complaint offender.1)).message =
        "invalid filter: " ++ text) ∧
    (∀ value : Json, ∃ word, value.IsCalled word ∧
      (ConfigError.invalidFilter (.notObject value.sort)).message =
        "invalid filter: " ++ ("expected an object, found " ++ word)) := by
  refine ⟨?_, ?_, ?_, ?_, fun offender => ⟨_, offender.2.isRefused_complaint offender.1, rfl⟩,
    fun value => ⟨_, value.isCalled_sort, rfl⟩⟩
  · rw [← firstComplaint?_eq_none_iff]
    rcases ofJson_cases json with ⟨filter, hread, -, hnone⟩ | ⟨error, hread, hsome⟩
    · simp [hread, hnone]
    · simp [hread, hsome]
  · intro filter
    refine ⟨fun hread => ?_, ofJson_of_describes⟩
    rcases ofJson_cases json with ⟨found, hfound, hdescribes, -⟩ | ⟨error, herror, -⟩
    · rw [hread] at hfound
      cases hfound
      exact hdescribes
    · simp [hread] at herror
  · rintro members filter rfl hread
    rcases ofJson_cases (.object members) with ⟨found, hfound, hdescribes, -⟩ | ⟨error, herror, -⟩
    · rw [hread] at hfound
      cases hfound
      exact nodeNames_of_describes hdescribes
    · simp [hread] at herror
  · intro error
    rcases ofJson_cases json with ⟨filter, hread, -, hnone⟩ | ⟨found, hread, hsome⟩
    · simp [hread, hnone]
    · rw [hread, hsome, Except.error.injEq, Option.some.injEq]

/-- The offending member behind the operator comes before the one after it; a field may be named
like an operator. -/
example :
    firstComplaint? (.object [("not", .object [("or", .whole 1), ("when", .array [.null, .null])]),
      ("tags", .object [])]) = some (.badRange "when") := by
  decide +kernel

end Filter

end SearchDomain
