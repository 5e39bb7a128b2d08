/-
  SearchDomain.Proofs.Query.ReturnFields

  What the names of return fields do to a query string. All other values are
  written in form encoding, and these are written as they are, so that a name may
  stand for another one, end its parameter early, or cut off what follows it.
  Main statement: the names come back as they are, and leave all other parameters
  as they are without them, exactly if no name has a character that means
  something in a query.
-/
import Mathlib.Data.List.TakeWhile
import SearchDomain.Proofs.Query.Url
import SearchDomain.Proofs.Query.Verbatim

namespace SearchDomain.Query

open Text (splitAtMark)

/-! ## The query string -/

/-- The query of a URL, decoded; it ends in front of a number sign. -/
def received (query : String) : Option (List (String × String)) :=
  decode (String.ofList (query.toList.takeWhile (· ≠ '#')))

/-- The parameters in front of the return fields. -/
def leadingParameters (version : ApiVersion) (term : String) (options : SearchOptions) :
    List (String × String) :=
  termParameters term (options.filter.bind Filter.compile?) version ++
    [("size", toString (intendedSize version options))]

/-- The parameters behind the return fields. -/
def trailingParameters (version : ApiVersion) (options : SearchOptions) : List (String × String) :=
  (intendedStart version options).toList.map (fun start => ("start", toString start)) ++
    options.rank.toList.map (fun rank => (version.rankParameter, rank.fragment version)) ++
    (intendedCursor version options).toList.map (fun cursor => ("cursor", cursor))

/-- The characters of a parameter that is written in form encoding. -/
def pieceChars (parameter : String × String) : List Char :=
  encodeChars parameter.1 ++ '=' :: encodeChars parameter.2

variable {version : ApiVersion} {term : String} {options : SearchOptions}

theorem intendedParameters_eq_append :
    intendedParameters version term options =
      leadingParameters version term options ++ trailingParameters version options := by
  simp only [intendedParameters, leadingParameters, trailingParameters, List.append_assoc]

theorem numberSign_not_mem_encodeChars (s : String) : '#' ∉ encodeChars s := by
  have hbytes : ∀ n : Fin 256, '#' ∉ encodeByte (UInt8.ofNat n) := by decide +kernel
  intro hmem
  obtain ⟨b, -, hb⟩ := List.mem_flatMap.1 hmem
  have hbyte := hbytes ⟨b.toNat, b.toNat_lt⟩
  rw [UInt8.ofNat_toNat] at hbyte
  exact hbyte hb

theorem numberSign_not_mem_pieceChars (parameter : String × String) :
    '#' ∉ pieceChars parameter := by
  rw [pieceChars, List.mem_append, List.mem_cons, not_or, not_or]
  exact ⟨numberSign_not_mem_encodeChars _, by decide, numberSign_not_mem_encodeChars _⟩

theorem numberSign_not_mem_intercalate (parameters : List (String × String)) :
    '#' ∉ ['&'].intercalate (parameters.map pieceChars) := by
  intro h
  rcases Text.mem_intercalate h with heq | ⟨piece, hpiece, hmem⟩
  · exact absurd heq (by decide)
  · obtain ⟨parameter, -, rfl⟩ := List.mem_map.1 hpiece
    exact numberSign_not_mem_pieceChars parameter hmem

/-- A parameter that a version knows is written in the same way as name and as value. -/
theorem toList_text_encoded {parameter : String × String}
    (h : parameter.1 ∈ parameterNames version) :
    (QueryParameter.encoded parameter.1 parameter.2).text.toList = pieceChars parameter := by
  have hname : encodeChars parameter.1 = parameter.1.toList := by
    have hencode := encode_of_mem_parameterNames h
    rw [encode] at hencode
    rw [← hencode, String.toList_ofList, hencode]
  simp [QueryParameter.text, pieceChars, hname, encode]

theorem mem_parameterNames_of_mem (term : String) {parameter : String × String}
    (h : parameter ∈ leadingParameters version term options ++ trailingParameters version options) :
    parameter.1 ∈ parameterNames version := by
  rw [← intendedParameters_eq_append] at h
  exact (names_intendedParameters_sublist version term options).subset
    (List.mem_map_of_mem (f := Prod.fst) h)

/-- Between parameters in form encoding, the names of return fields stand as they are. -/
theorem toList_queryString (hfields : options.returnFields ≠ []) :
    (queryString version term options).toList =
      ['&'].intercalate ((leadingParameters version term options).map pieceChars) ++
        '&' :: (version.returnFieldsParameter.toList ++
          '=' :: ((",".intercalate options.returnFields).toList ++
            ((trailingParameters version options).map pieceChars).flatMap ('&' :: ·))) := by
  have hasks : options.asksForFields = true := by
    rw [SearchOptions.asksForFields, Bool.not_eq_true', List.isEmpty_eq_false_iff]
    exact hfields
  have hparameters : parameters version term options =
      (leadingParameters version term options).map (fun p => .encoded p.1 p.2) ++
        .verbatim version.returnFieldsParameter (",".intercalate options.returnFields) ::
          (trailingParameters version options).map (fun p => .encoded p.1 p.2) := by
    rw [parameters, leadingParameters, trailingParameters, compiledFilter, hasks,
      pageSizeInForce_eq, start_eq, cursorInForce_eq]
    cases intendedStart version options <;> cases options.rank <;>
      cases intendedCursor version options <;> simp
  have htexts : ∀ sent : List (String × String), (∀ p ∈ sent, p.1 ∈ parameterNames version) →
      (sent.map fun p => (QueryParameter.encoded p.1 p.2).text.toList) = sent.map pieceChars := by
    intro sent hsent
    exact List.map_congr_left fun p hp => toList_text_encoded (hsent p hp)
  have hamp : "&".toList = ['&'] := by decide
  rw [queryString, String.toList_intercalate, hamp, hparameters]
  simp only [List.map_append, List.map_cons, List.map_map, Function.comp_def]
  rw [htexts _ fun p hp => mem_parameterNames_of_mem term (List.mem_append_left _ hp),
    htexts _ fun p hp => mem_parameterNames_of_mem term (List.mem_append_right _ hp),
    Text.intercalate_append (by simp [leadingParameters]), List.flatMap_cons]
  simp [QueryParameter.text]

/-! ## What is received -/

/-- The name of the parameter has none of the marks that divide a query. -/
theorem ne_mark_of_mem_returnFieldsParameter {version : ApiVersion} {mark : Char}
    (hmark : mark ∈ ['=', '&', '#']) (c : Char)
    (hc : c ∈ version.returnFieldsParameter.toList) : decide (c ≠ mark) = true := by
  have hall : (version.returnFieldsParameter.toList.all fun c =>
      ['=', '&', '#'].all fun mark => decide (c ≠ mark)) = true := by
    cases version <;> rfl
  exact List.all_eq_true.1 (List.all_eq_true.1 hall c hc) mark hmark

theorem decodePiece_verbatim (version : ApiVersion) (cs : List Char) :
    decodePiece (version.returnFieldsParameter.toList ++ '=' :: cs) =
      (decodeChars cs).map fun value => (version.returnFieldsParameter, value) := by
  have hname : ∀ c ∈ version.returnFieldsParameter.toList, decide (c ≠ '=') = true :=
    ne_mark_of_mem_returnFieldsParameter (by simp)
  have hself : decodeChars version.returnFieldsParameter.toList =
      some version.returnFieldsParameter := by
    rw [decodeChars_toList_iff]
    cases version <;> rfl
  rw [decodePiece, List.takeWhile_append_of_pos hname, List.dropWhile_append_of_pos hname,
    List.takeWhile_cons_of_neg (by decide), List.dropWhile_cons_of_neg (by decide),
    List.append_nil, List.drop_one, List.tail_cons, hself]
  cases decodeChars cs <;> rfl

/-- In front of the return fields everything is received piece by piece. -/
theorem received_queryString (hfields : options.returnFields ≠ []) :
    received (queryString version term options) =
      ((leadingParameters version term options).map pieceChars ++
        splitAtMark '&' (version.returnFieldsParameter.toList ++
          '=' :: ((",".intercalate options.returnFields).toList ++
            ((trailingParameters version options).map pieceChars).flatMap ('&' :: ·)).takeWhile
              (· ≠ '#'))).mapM decodePiece := by
  have hlead : ∀ c ∈ ['&'].intercalate
      ((leadingParameters version term options).map pieceChars), decide (c ≠ '#') = true := by
    intro c hc
    exact decide_eq_true fun h => numberSign_not_mem_intercalate _ (h ▸ hc)
  have hparam : ∀ c ∈ version.returnFieldsParameter.toList, decide (c ≠ '#') = true :=
    ne_mark_of_mem_returnFieldsParameter (by simp)
  have hpieces : ∀ piece ∈ (leadingParameters version term options).map pieceChars,
      '&' ∉ piece := by
    intro piece hpiece
    obtain ⟨parameter, -, rfl⟩ := List.mem_map.1 hpiece
    exact ampersand_not_mem_piece parameter.1 parameter.2
  rw [received, decode, String.toList_ofList, toList_queryString hfields,
    List.takeWhile_append_of_pos hlead, List.takeWhile_cons_of_pos (by decide),
    List.takeWhile_append_of_pos hparam, List.takeWhile_cons_of_pos (by decide),
    Text.splitAtMark_append_mark,
    Text.splitAtMark_intercalate (by simp [leadingParameters]) hpieces]

theorem mapM_decodePiece_pieceChars (parameters : List (String × String)) :
    (parameters.map pieceChars).mapM decodePiece = some parameters :=
  mapM_decodePiece parameters

/-- The value that is received for the return fields is read up to the first mark among them. -/
theorem exists_of_received (hfields : options.returnFields ≠ [])
    {parameters : List (String × String)}
    (h : received (queryString version term options) = some parameters) :
    ∃ value more, decodeChars ((",".intercalate options.returnFields).toList.takeWhile
        fun c => decide (decide (c ≠ '&') = true ∧ decide (c ≠ '#') = true)) = some value ∧
      parameters = leadingParameters version term options ++
        (version.returnFieldsParameter, value) :: more := by
  have hparam : ∀ c ∈ version.returnFieldsParameter.toList, decide (c ≠ '&') = true :=
    ne_mark_of_mem_returnFieldsParameter (by simp)
  rw [received_queryString hfields] at h
  obtain ⟨pieces, hpieces⟩ := Text.exists_splitAtMark_eq_cons '&'
    (version.returnFieldsParameter.toList ++
      '=' :: ((",".intercalate options.returnFields).toList ++
        ((trailingParameters version options).map pieceChars).flatMap ('&' :: ·)).takeWhile
          (· ≠ '#'))
  rw [hpieces, List.takeWhile_append_of_pos hparam, List.takeWhile_cons_of_pos (by decide),
    List.takeWhile_takeWhile, Text.takeWhile_append_flatMap (by decide), List.mapM_append,
    mapM_decodePiece_pieceChars, List.mapM_cons, decodePiece_verbatim] at h
  simp only [Option.bind_eq_bind, Option.bind_some, Option.bind_eq_some_iff,
    Option.map_eq_some_iff] at h
  obtain ⟨decoded, ⟨piece, ⟨value, hvalue, rfl⟩, more, -, hdecoded⟩, hparameters⟩ := h
  refine ⟨value, more, hvalue, ?_⟩
  cases hdecoded
  cases hparameters
  rfl

/-- Only the whole text has the bytes of the whole text. -/
theorem takeWhile_eq_self_of_decodeChars {p : Char → Bool} {s : String}
    (h : decodeChars (s.toList.takeWhile p) = some s) :
    s.toList.takeWhile p = s.toList := by
  have hbytes := congrArg List.length (utf8Bytes_of_decodeChars h)
  have hle := length_decodeBytes_le (s.toList.takeWhile p)
  have hsplit : utf8Chars (s.toList.takeWhile p) ++ utf8Chars (s.toList.dropWhile p) =
      utf8Bytes s := by
    rw [← utf8Chars_append, List.takeWhile_append_dropWhile]
    rfl
  have hlength := congrArg List.length hsplit
  rw [List.length_append] at hlength
  have hdrop : s.toList.dropWhile p = [] := eq_nil_of_length_utf8Chars (by omega)
  have hwhole : s.toList.takeWhile p ++ s.toList.dropWhile p = s.toList :=
    List.takeWhile_append_dropWhile
  rw [hdrop, List.append_nil] at hwhole
  exact hwhole

/-- A name that no other parameter has. -/
theorem ne_returnFieldsParameter_of_mem {parameter : String × String}
    (h : parameter ∈ leadingParameters version term options ++ trailingParameters version options) :
    parameter.1 ≠ version.returnFieldsParameter := by
  have hname := mem_parameterNames_of_mem term h
  intro heq
  rw [heq] at hname
  revert hname
  cases version <;> decide

/-- Names that stand for themselves are received as they are, in their place. -/
theorem received_of_standForThemselves (hfields : options.returnFields ≠ [])
    (h : StandForThemselves (",".intercalate options.returnFields).toList) :
    received (queryString version term options) =
      some (leadingParameters version term options ++
        (version.returnFieldsParameter, ",".intercalate options.returnFields) ::
          trailingParameters version options) := by
  have htrail : '#' ∉ ((trailingParameters version options).map pieceChars).flatMap ('&' :: ·) := by
    intro hmem
    obtain ⟨piece, hpiece, hc⟩ := List.mem_flatMap.1 hmem
    obtain ⟨parameter, -, rfl⟩ := List.mem_map.1 hpiece
    rcases List.mem_cons.1 hc with heq | hc
    · exact absurd heq (by decide)
    · exact numberSign_not_mem_pieceChars parameter hc
  have hall : ∀ c ∈ (",".intercalate options.returnFields).toList ++
      ((trailingParameters version options).map pieceChars).flatMap ('&' :: ·),
      decide (c ≠ '#') = true := by
    intro c hc
    refine decide_eq_true fun heq => ?_
    rw [heq] at hc
    rcases List.mem_append.1 hc with hc | hc
    · exact h.noNumberSign hc
    · exact htrail hc
  -- the return fields are one piece, and every piece behind them follows its mark
  have hpieces : version.returnFieldsParameter.toList ++
      '=' :: ((",".intercalate options.returnFields).toList ++
        ((trailingParameters version options).map pieceChars).flatMap ('&' :: ·)) =
      ['&'].intercalate ((version.returnFieldsParameter.toList ++
        '=' :: (",".intercalate options.returnFields).toList) ::
          (trailingParameters version options).map pieceChars) := by
    rw [Text.intercalate_cons, List.append_assoc, List.cons_append]
  have hmarks : ∀ piece ∈ (version.returnFieldsParameter.toList ++
      '=' :: (",".intercalate options.returnFields).toList) ::
        (trailingParameters version options).map pieceChars, '&' ∉ piece := by
    intro piece hpiece
    rcases List.mem_cons.1 hpiece with rfl | hpiece
    · rw [List.mem_append, List.mem_cons, not_or, not_or]
      refine ⟨?_, by decide, h.noAmpersand⟩
      cases version <;> decide
    · obtain ⟨parameter, -, rfl⟩ := List.mem_map.1 hpiece
      exact ampersand_not_mem_piece parameter.1 parameter.2
  rw [received_queryString hfields, List.takeWhile_eq_self_iff.2 hall, hpieces,
    Text.splitAtMark_intercalate (List.cons_ne_nil _ _) hmarks, List.mapM_append,
    mapM_decodePiece_pieceChars, List.mapM_cons, decodePiece_verbatim,
    (decodeChars_toList_iff _).2 h.unescaped, mapM_decodePiece_pieceChars]
  rfl

/-- Without return fields, the intended parameters are received. -/
theorem received_without (version : ApiVersion) (term : String) (options : SearchOptions) :
    received (queryString version term { options with returnFields := [] }) =
      some (leadingParameters version term options ++ trailingParameters version options) := by
  have hintended : intendedParameters version term { options with returnFields := [] } =
      intendedParameters version term options := rfl
  have htexts : (parameters version term { options with returnFields := [] }).map
      (fun parameter => parameter.text.toList) =
      (intendedParameters version term options).map pieceChars := by
    rw [parameters_eq_map_encoded rfl, List.map_map, hintended]
    refine List.map_congr_left fun p hp => ?_
    rw [intendedParameters_eq_append] at hp
    exact toList_text_encoded (mem_parameterNames_of_mem term hp)
  have hquery : (queryString version term { options with returnFields := [] }).toList =
      ['&'].intercalate ((intendedParameters version term options).map pieceChars) := by
    have hamp : "&".toList = ['&'] := by decide
    rw [queryString, String.toList_intercalate, hamp, List.map_map, ← htexts]
    rfl
  have hall : ∀ c ∈ (queryString version term { options with returnFields := [] }).toList,
      decide (c ≠ '#') = true := by
    intro c hc
    rw [hquery] at hc
    exact decide_eq_true fun h => numberSign_not_mem_intercalate _ (h ▸ hc)
  rw [received, List.takeWhile_eq_self_iff.2 hall, String.ofList_toList, decode_queryString rfl,
    hintended, intendedParameters_eq_append]

/-- Joined names stand for themselves when each name does. -/
theorem standForThemselves_join_iff {names : List String} (hne : names ≠ []) :
    StandForThemselves (",".intercalate names).toList ↔
      ∀ name ∈ names, StandForThemselves name.toList := by
  have hcomma : ",".toList = [','] := by decide
  rw [String.toList_intercalate, hcomma, standForThemselves_intercalate (by simpa using hne),
    List.forall_mem_map]

/-- Names that stand for themselves take at most one place among all that is received. -/
theorem exists_received_eq (version : ApiVersion) (term : String)
    (hfields : ∀ name ∈ options.returnFields, StandForThemselves name.toList) :
    ∃ fields, (∀ parameter ∈ fields, parameter.1 = version.returnFieldsParameter) ∧
      received (queryString version term options) =
        some (leadingParameters version term options ++ fields ++
          trailingParameters version options) := by
  by_cases hnone : options.returnFields = []
  · have hself : { options with returnFields := [] } = options := by
      rw [← hnone]
    have hreceived := received_without version term options
    rw [hself] at hreceived
    refine ⟨[], List.forall_mem_nil _, ?_⟩
    rw [List.append_nil, hreceived]
  · have hjoined := (standForThemselves_join_iff hnone).2 hfields
    refine ⟨[(version.returnFieldsParameter, ",".intercalate options.returnFields)], ?_, ?_⟩
    · intro parameter hparameter
      rw [List.mem_singleton.1 hparameter]
    · rw [received_of_standForThemselves hnone hjoined, List.append_assoc, List.singleton_append]

/-- Whether the return fields are received once and as they are, and everything else as without
them. -/
def ReceivedApart (name value : String) (plain got : Option (List (String × String))) : Prop :=
  ∃ others parameters, plain = some others ∧ got = some parameters ∧
    parameters.filter (fun parameter => parameter.1 = name) = [(name, value)] ∧
    parameters.filter (fun parameter => parameter.1 ≠ name) = others

theorem receivedApart_iff (hfields : options.returnFields ≠ []) :
    ReceivedApart version.returnFieldsParameter (",".intercalate options.returnFields)
        (received (queryString version term { options with returnFields := [] }))
        (received (queryString version term options)) ↔
      StandForThemselves (",".intercalate options.returnFields).toList := by
  have hothers : ∀ p ∈ leadingParameters version term options ++
      trailingParameters version options, p.1 ≠ version.returnFieldsParameter :=
    fun p hp => ne_returnFieldsParameter_of_mem hp
  have hlead : (leadingParameters version term options).filter
      (fun p => p.1 = version.returnFieldsParameter) = [] :=
    List.filter_eq_nil_iff.2 fun p hp => by simpa using hothers p (List.mem_append_left _ hp)
  constructor
  · rintro ⟨others, parameters, -, hgot, hfilter, -⟩
    obtain ⟨value, more, hvalue, rfl⟩ := exists_of_received hfields hgot
    -- the first parameter with the name has what stands in front of the first mark
    rw [List.filter_append, hlead, List.nil_append, List.filter_cons_of_pos (by simp),
      List.cons.injEq, Prod.mk.injEq] at hfilter
    rw [hfilter.1.2] at hvalue
    have hwhole := takeWhile_eq_self_of_decodeChars hvalue
    rw [hwhole, decodeChars_toList_iff] at hvalue
    have hmarks := List.takeWhile_eq_self_iff.1 hwhole
    simp only [decide_eq_true_eq] at hmarks
    exact ⟨fun h => (hmarks _ h).1 rfl, fun h => (hmarks _ h).2 rfl, hvalue⟩
  · intro h
    refine ⟨_, _, received_without version term options,
      received_of_standForThemselves hfields h, ?_, ?_⟩
    · have htrail : (trailingParameters version options).filter
          (fun p => p.1 = version.returnFieldsParameter) = [] :=
        List.filter_eq_nil_iff.2 fun p hp => by
          simpa using hothers p (List.mem_append_right _ hp)
      rw [List.filter_append, hlead, List.nil_append, List.filter_cons_of_pos (by simp), htrail]
    · have hall : (leadingParameters version term options ++
          trailingParameters version options).filter
            (fun p => p.1 ≠ version.returnFieldsParameter) = _ :=
        List.filter_eq_self.2 fun p hp => by simpa using hothers p hp
      rw [List.filter_append, List.filter_cons_of_neg (by simp), ← List.filter_append, hall]

/-- Return fields are received once and as they are, and all other parameters as without them, just
when every name means itself in a query. -/
theorem searchUrl_receivedApart_iff (host : String) (version : ApiVersion) (term : String)
    (options : SearchOptions) (hfields : options.returnFields ≠ []) :
    ∃ query plain,
      searchUrl host version term options =
        host ++ "/" ++ version.text ++ "/search?" ++ query ∧
      searchUrl host version term { options with returnFields := [] } =
        host ++ "/" ++ version.text ++ "/search?" ++ plain ∧
      (ReceivedApart version.returnFieldsParameter (",".intercalate options.returnFields)
          (received plain) (received query) ↔
        ∀ name ∈ options.returnFields, StandForThemselves name.toList) := by
  refine ⟨queryString version term options,
    queryString version term { options with returnFields := [] }, rfl, rfl, ?_⟩
  rw [receivedApart_iff hfields, standForThemselves_join_iff hfields]

/-- A percent sign without digits behind it, an equals sign and letters beyond ASCII do no harm. -/
theorem searchUrl_receivedApart_of_percent :
    ["title", "100%", "é=é"] ≠ [] ∧
    ∃ query plain,
      searchUrl "http://host" .structured "x"
          { page := some 2, returnFields := ["title", "100%", "é=é"] } =
        "http://host" ++ "/" ++ "2013-01-01" ++ "/search?" ++ query ∧
      searchUrl "http://host" .structured "x" { page := some 2 } =
        "http://host" ++ "/" ++ "2013-01-01" ++ "/search?" ++ plain ∧
      ReceivedApart "return" "title,100%,é=é" (received plain) (received query) := by
  refine ⟨List.cons_ne_nil _ _, ?_⟩
  obtain ⟨query, plain, hquery, hplain, hiff⟩ := searchUrl_receivedApart_iff "http://host"
    .structured "x" { page := some 2, returnFields := ["title", "100%", "é=é"] }
    (List.cons_ne_nil _ _)
  refine ⟨query, plain, hquery, hplain, hiff.2 ?_⟩
  intro name hname
  simp only [List.mem_cons, List.not_mem_nil, or_false] at hname
  rcases hname with rfl | rfl | rfl <;> exact ⟨by decide, by decide, by decide⟩

/-- A name that holds an ampersand loses what follows it, which counts as a parameter of its own. -/
theorem searchUrl_not_receivedApart :
    searchUrl "http://host" .legacy "x" { returnFields := ["a&size=1"] } =
      "http://host" ++ "/" ++ "2011-02-01" ++ "/search?" ++
        "q=x&size=10&return-fields=a&size=1" ∧
    received "q=x&size=10&return-fields=a&size=1" =
      some [("q", "x"), ("size", "10"), ("return-fields", "a"), ("size", "1")] ∧
    searchUrl "http://host" .legacy "x" {} =
      "http://host" ++ "/" ++ "2011-02-01" ++ "/search?" ++ "q=x&size=10" ∧
    received "q=x&size=10" = some [("q", "x"), ("size", "10")] ∧
    ¬ReceivedApart "return-fields" "a&size=1" (received "q=x&size=10")
      (received "q=x&size=10&return-fields=a&size=1") := by
  have hreceived : received "q=x&size=10&return-fields=a&size=1" =
      some [("q", "x"), ("size", "10"), ("return-fields", "a"), ("size", "1")] := by decide
  refine ⟨by decide, hreceived, by decide, by decide, ?_⟩
  rintro ⟨others, parameters, -, hgot, hvalue, -⟩
  rw [hreceived, Option.some.injEq] at hgot
  subst hgot
  revert hvalue
  decide

end SearchDomain.Query
