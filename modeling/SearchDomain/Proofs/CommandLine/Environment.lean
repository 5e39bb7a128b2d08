/-
  SearchDomain.Proofs.CommandLine.Environment

  The environment as the command line reads it, and as the library does. Where no
  option is given, the command line takes every variable that is set for the
  value of its option: a mode that cannot be read is misuse, and a blank text is
  a value. The library passes over both. Main statement: the two make the same
  configuration exactly if no variable but the version is set to white space, and
  the mode, if it is set, can be read.
-/
import SearchDomain.CommandLine.Run
import SearchDomain.Proofs.Config.Domain

namespace SearchDomain

/-! ## What the library makes of the variables -/

namespace Environment

variable {env : Environment}

/-- Whether the mode of the environment can be read, if there is one. -/
def HasGoodMode (env : Environment) : Prop :=
  ∀ value, env modeName = some value → ∃ mode, Mode.parse value = .ok mode

/-- Whether a domain, a region or an endpoint that is set is more than white space. -/
def HasNoBlank (env : Environment) : Prop :=
  ∀ name ∈ [domainName, regionName, endpointName],
    ∀ value, env name = some value → Text.isBlankText value = false

/-- A variable is read as it is exactly if it is not blank. -/
theorem given?_eq_iff (name : String) :
    env.given? name = env name ↔
      ∀ value, env name = some value → Text.isBlankText value = false := by
  rw [given?]
  cases env name with
  | none => simp
  | some value =>
    rw [Option.filter_some]
    cases hblank : Text.isBlankText value with
    | true => simp [hblank]
    | false => simp [hblank]

theorem hasNoBlank_iff :
    env.HasNoBlank ↔
      env.given? domainName = env domainName ∧ env.given? regionName = env regionName ∧
      env.given? endpointName = env endpointName := by
  simp only [HasNoBlank, ← given?_eq_iff, List.forall_mem_cons, List.not_mem_nil, false_implies,
    implies_true, and_true]

/-- A blank region is not the usual one that the library takes in its place. -/
theorem getD_given?_region_eq_iff :
    (env regionName).getD Config.default.region =
        (env.given? regionName).getD Config.default.region ↔
      env.given? regionName = env regionName := by
  constructor
  · intro hregion
    rw [given?_eq_iff]
    intro value hvalue
    cases hblank : Text.isBlankText value with
    | true =>
      rw [given?, hvalue, Option.filter_some, hblank] at hregion
      have husual : value = Config.default.region := hregion
      rw [husual] at hblank
      exact absurd hblank (by decide)
    | false => rfl
  · intro hgiven
    rw [hgiven]

end Environment

/-- A blank version is passed over in any case. -/
theorem ApiVersion.fromEnvironment_given? (env : Environment) (name : String) :
    fromEnvironment (env.given? name) = fromEnvironment (env name) := by
  have hgiven : ((env.given? name).map Text.trim).filter (· ≠ "") =
      ((env name).map Text.trim).filter (· ≠ "") := by
    rw [Environment.given?]
    cases env name with
    | none => rfl
    | some value =>
      rw [Option.filter_some]
      cases hblank : Text.isBlankText value with
      | true =>
        rw [Option.map_some, (Text.trim_eq_empty_iff value).2 hblank]
        rfl
      | false => rfl
  rw [fromEnvironment, fromEnvironment, hgiven]

/-- No mode is blank. -/
theorem Mode.parse_of_isBlankText {value : String} (h : Text.isBlankText value = true) :
    parse value = .error (.invalidMode value) := by
  have hempty : ("" : String).map Char.toLower = "" := by simp
  rw [parse, (Text.trim_eq_empty_iff value).2 h, hempty]
  rfl

namespace CommandLine

variable {env : Environment} {given : Given}

theorem isSome_readMode_iff (value : String) :
    (readMode value).isSome = true ↔ ∃ mode, Mode.parse value = .ok mode := by
  rw [readMode]
  cases Mode.parse value with
  | ok mode => exact ⟨fun _ => ⟨mode, rfl⟩, fun _ => rfl⟩
  | error e => exact ⟨nofun, nofun⟩

/-- The library reads the mode as the command line does where it can be read. -/
theorem modeFromEnvironment_given? (hgood : env.HasGoodMode) :
    (Mode.fromEnvironment (env.given? Environment.modeName)).1 =
      ((env Environment.modeName).bind readMode).getD .live := by
  have hgiven : env.given? Environment.modeName = env Environment.modeName := by
    rw [Environment.given?_eq_iff]
    intro value hvalue
    obtain ⟨mode, hmode⟩ := hgood value hvalue
    cases hblank : Text.isBlankText value with
    | true =>
      rw [Mode.parse_of_isBlankText hblank] at hmode
      cases hmode
    | false => rfl
  rw [hgiven]
  cases hset : env Environment.modeName with
  | none => rfl
  | some value =>
    obtain ⟨mode, hmode⟩ := hgood value hset
    simp only [Mode.fromEnvironment, hmode, Option.bind_some, readMode]
    rfl

/-! ## Commands without the common options -/

/-- Whether a command line begins with its command, is well formed where no variable is set, and
has none of the options that every command takes. -/
structure IsBare (args : List String) (name : CommandName) (behind : Given) : Prop where
  reads : ∃ word rest, splitAtCommand {} args = .ok ({}, some (word, rest)) ∧
    CommandName.ofText? word = some name ∧ readBehind (fun _ => none) name rest = .ok behind
  noGlobals : ∀ option ∈ globalOptions, behind.has option.name = false

namespace Given

theorem all_eq_nil {name : String} (h : given.has name = false) :
    given.all name = [] := by
  have hnone : given.values.filter (·.1 == name) = [] := by
    rw [List.filter_eq_nil_iff]
    intro entry hentry hname
    have hany : given.has name = true := List.any_eq_true.2 ⟨entry, hentry, hname⟩
    rw [h] at hany
    cases hany
  rw [all, hnone]
  rfl

end Given

/-- Whether the environment has no bad value for an option, or need not be asked. -/
def Passes (env : Environment) (given : Given) (option : OptionSpec) : Prop :=
  given.has option.name = true ∨
    ∀ value, Given.variableValue env option = some value → option.accepts value = true

theorem checkEnvironment_cases (env : Environment) (given : Given) (options : List OptionSpec) :
    ((∀ option ∈ options, Passes env given option) ∧
      given.checkEnvironment options env = .ok ()) ∨
    (¬(∀ option ∈ options, Passes env given option) ∧
      given.checkEnvironment options env = .error .valueValidation) := by
  have hgood : (options.all fun option => given.has option.name ||
      ((Given.variableValue env option).map option.accepts).getD true) = true ↔
      ∀ option ∈ options, Passes env given option := by
    rw [List.all_eq_true]
    refine forall₂_congr fun option _ => ?_
    rw [Bool.or_eq_true, Passes]
    cases Given.variableValue env option with
    | none => simp
    | some value => simp
  rw [← hgood, Given.checkEnvironment]
  by_cases hall : (options.all fun option => given.has option.name ||
      ((Given.variableValue env option).map option.accepts).getD true) = true
  · exact .inl ⟨hall, if_pos hall⟩
  · exact .inr ⟨hall, if_neg hall⟩

/-- Where none of the common options is given, the mode is all that can be wrong. -/
theorem passes_globalOptions_iff
    (hnone : ∀ option ∈ globalOptions, given.has option.name = false)
    (htimeout : env Environment.timeoutName = none) :
    (∀ option ∈ globalOptions, Passes env given option) ↔ env.HasGoodMode := by
  constructor
  · intro hall value hvalue
    have hmode : (⟨"mode", true, false, false, some Environment.modeName,
        fun s => (readMode s).isSome⟩ : OptionSpec) ∈ globalOptions := by simp [globalOptions]
    rcases hall _ hmode with hhas | haccepts
    · rw [hnone _ hmode] at hhas
      cases hhas
    · exact (isSome_readMode_iff value).1 (haccepts value hvalue)
  · intro hgood option hoption
    refine .inr fun value hvalue => ?_
    simp only [globalOptions, List.mem_cons, List.not_mem_nil, or_false] at hoption
    -- only the mode and the timeout are looked at, and there is no timeout
    rcases hoption with rfl | rfl | rfl | rfl | rfl | rfl | rfl | rfl
    case inr.inr.inr.inl => exact (isSome_readMode_iff value).2 (hgood value hvalue)
    case inr.inr.inr.inr.inr.inr.inl =>
      have hset : env Environment.timeoutName = some value := hvalue
      rw [htimeout] at hset
      cases hset
    all_goals rfl

/-- The options of a single command have no variables. -/
theorem passes_options_iff (name : CommandName)
    (hnone : ∀ option ∈ globalOptions, given.has option.name = false)
    (htimeout : env Environment.timeoutName = none) :
    (∀ option ∈ name.options, Passes env given option) ↔ env.HasGoodMode := by
  rw [← passes_globalOptions_iff hnone htimeout]
  have hsearch : ∀ option ∈ searchOptions, Passes env given option := by
    intro option hoption
    have hname : option.environmentName = none := by
      simp only [searchOptions, List.mem_cons, List.not_mem_nil, or_false] at hoption
      rcases hoption with rfl | rfl | rfl | rfl | rfl | rfl | rfl <;> rfl
    refine .inr fun value hvalue => ?_
    rw [Given.variableValue, hname] at hvalue
    cases hvalue
  cases name with
  | search =>
    rw [CommandName.options]
    simp only [List.mem_append]
    exact ⟨fun h option hoption => h option (.inr hoption),
      fun h option hoption => hoption.elim (hsearch option) (h option)⟩
  | add | update | remove => exact Iff.rfl

/-! ## What is read -/

/-- What stands behind a command is settled before the environment is asked. -/
theorem exists_settled_of_readBehind {name : CommandName} {rest : List String}
    (hread : readBehind env name rest = .ok given) :
    (Given.readAll name.options name.maxArguments .unknownArgument {} rest >>= Given.settle) =
      .ok given ∧ ¬given.arguments.length < name.minArguments := by
  rw [readBehind, ← bind_assoc] at hread
  cases hall : Given.readAll name.options name.maxArguments .unknownArgument {} rest >>=
      Given.settle with
  | error e =>
    rw [hall] at hread
    cases hread
  | ok settled =>
    rw [hall] at hread
    change (settled.checkEnvironment name.options env >>= _) = _ at hread
    rcases checkEnvironment_cases env settled name.options with ⟨-, hcheck⟩ | ⟨-, hcheck⟩
    · rw [hcheck] at hread
      change (if settled.arguments.length < name.minArguments then _ else _) = _ at hread
      split at hread
      case isTrue => cases hread
      case isFalse hcount =>
        cases hread
        exact ⟨rfl, hcount⟩
    · rw [hcheck] at hread
      cases hread

/-- A command without the common options is read in any environment whose mode can be read. -/
theorem readBehind_cases {name : CommandName} {rest : List String}
    (hread : readBehind (fun _ => none) name rest = .ok given)
    (hnone : ∀ option ∈ globalOptions, given.has option.name = false)
    (htimeout : env Environment.timeoutName = none) :
    (env.HasGoodMode ∧ readBehind env name rest = .ok given) ∨
    (¬env.HasGoodMode ∧ readBehind env name rest = .error .valueValidation) := by
  obtain ⟨hsettled, hcount⟩ := exists_settled_of_readBehind hread
  rw [← passes_options_iff name hnone htimeout, readBehind, ← bind_assoc, hsettled]
  change _ ∧ (given.checkEnvironment name.options env >>= _) = _ ∨
    _ ∧ (given.checkEnvironment name.options env >>= _) = _
  rcases checkEnvironment_cases env given name.options with
    ⟨hpasses, hcheck⟩ | ⟨hpasses, hcheck⟩
  · rw [hcheck]
    exact .inl ⟨hpasses, if_neg hcount⟩
  · rw [hcheck]
    exact .inr ⟨hpasses, rfl⟩

/-- Whether the mode can be read decides between understanding a command and misuse. -/
theorem parse_cases {args : List String} {name : CommandName} (hbare : IsBare args name given)
    (htimeout : env Environment.timeoutName = none) :
    (env.HasGoodMode ∧ parse args env = .ok (invocationOf env {} given name)) ∨
    (¬env.HasGoodMode ∧ parse args env = .error .valueValidation) := by
  obtain ⟨word, rest, hsplit, hword, hread⟩ := hbare.reads
  have hparse : parse args env = (do
      let behind ← readBehind env name rest
      ({} : Given).checkEnvironment globalOptions env
      return invocationOf env {} behind name) := by
    rw [parse, hsplit]
    dsimp only [bind, Except.bind]
    rw [hword]
    rfl
  rw [hparse]
  rcases readBehind_cases hread hbare.noGlobals htimeout with
    ⟨hgood, hbehind⟩ | ⟨hbad, hbehind⟩
  · refine .inl ⟨hgood, ?_⟩
    have hpasses : ∀ option ∈ globalOptions, Passes env {} option :=
      (passes_globalOptions_iff (fun _ _ => rfl) htimeout).2 hgood
    -- what stands before the command goes by the same variables once more
    rcases checkEnvironment_cases env {} globalOptions with ⟨-, hcheck⟩ | ⟨hnot, -⟩
    · rw [hbehind]
      change (({} : Given).checkEnvironment globalOptions env >>= _) = _
      rw [hcheck]
      rfl
    · exact absurd hpasses hnot
  · refine .inr ⟨hbad, ?_⟩
    rw [hbehind]
    rfl

/-! ## What the variables make -/

/-- The configuration that the variables make if each one that is set counts, blank or not. -/
def configOfVariables (env : Environment) : Config where
  searchDomain := env Environment.domainName
  region := (env Environment.regionName).getD Config.default.region
  apiVersion := (ApiVersion.fromEnvironment (env Environment.apiVersionName)).1
  mode := ((env Environment.modeName).bind readMode).getD .live
  endpoint := env Environment.endpointName

theorem inForce_eq_variable {behind : Given}
    (hnone : ∀ option ∈ globalOptions, behind.has option.name = false) (option : OptionSpec)
    (hoption : globalOptions.find? (·.name == option.name) = some option) :
    inForce env {} behind option.name = Given.variableValue env option := by
  rw [inForce, Given.all_eq_nil (hnone option (List.mem_of_find?_eq_some hoption)), hoption]
  rfl

/-- Without the common options, every member of the configuration comes from its variable. -/
theorem config_invocationOf {behind : Given}
    (hnone : ∀ option ∈ globalOptions, behind.has option.name = false)
    (htimeout : env Environment.timeoutName = none) (name : CommandName) :
    (invocationOf env {} behind name).config env = .ok (configOfVariables env) := by
  have hdomain : inForce env {} behind "domain" = env Environment.domainName :=
    inForce_eq_variable hnone globalOptions[0] rfl
  have hregion : inForce env {} behind "region" = env Environment.regionName :=
    inForce_eq_variable hnone globalOptions[1] rfl
  have hversion : inForce env {} behind "api-version" = none :=
    inForce_eq_variable hnone globalOptions[2] rfl
  have hmode : inForce env {} behind "mode" = env Environment.modeName :=
    inForce_eq_variable hnone globalOptions[3] rfl
  have hsandbox : behind.has "sandbox" = false := hnone globalOptions[4] (List.getElem_mem _)
  have hendpoint : inForce env {} behind "endpoint" = env Environment.endpointName :=
    inForce_eq_variable hnone globalOptions[5] rfl
  have hlimit : inForce env {} behind "timeout-ms" = none := by
    rw [← htimeout]
    exact inForce_eq_variable hnone globalOptions[6] rfl
  simp only [Invocation.config, invocationOf, hdomain, hregion, hversion, hmode, hsandbox,
    hendpoint, hlimit]
  rfl

/-- Blank variables are all that the two can disagree about where the mode can be read. -/
theorem configOfVariables_eq_iff (hgood : env.HasGoodMode) :
    configOfVariables env = (Config.fromEnvironment env).1 ↔ env.HasNoBlank := by
  have hversion :=
    congrArg Prod.fst (ApiVersion.fromEnvironment_given? env Environment.apiVersionName)
  have hmode := modeFromEnvironment_given? hgood
  rw [Environment.hasNoBlank_iff, ← Environment.getD_given?_region_eq_iff, configOfVariables,
    Config.fromEnvironment]
  simp only [Config.mk.injEq, hversion, hmode, true_and, and_true]
  exact and_congr eq_comm (and_congr Iff.rfl eq_comm)

/-! ## Agreement -/

/-- A command without the common options is understood exactly if the mode can be read, and its
configuration is then made of all variables that are set. It is the library's exactly if, on top
of that, no domain, region or endpoint is set to white space. -/
theorem parse_config_eq_fromEnvironment_iff {args : List String} {name : CommandName}
    (hbare : IsBare args name given) (htimeout : env Environment.timeoutName = none) :
    (env.HasGoodMode → ∃ invocation, parse args env = .ok invocation ∧
      invocation.config env = .ok (configOfVariables env)) ∧
    (¬env.HasGoodMode → parse args env = .error .valueValidation) ∧
    ((∃ invocation, parse args env = .ok invocation ∧
        invocation.config env = .ok (Config.fromEnvironment env).1) ↔
      env.HasGoodMode ∧ env.HasNoBlank) := by
  have hconfig := config_invocationOf hbare.noGlobals htimeout name
  rcases parse_cases hbare htimeout with ⟨hgood, hparse⟩ | ⟨hbad, hparse⟩
  · rw [hparse]
    refine ⟨fun _ => ⟨_, rfl, hconfig⟩, fun hbad => absurd hgood hbad, ?_⟩
    rw [← configOfVariables_eq_iff hgood]
    constructor
    · rintro ⟨invocation, hsame, hlibrary⟩
      cases hsame
      rw [hconfig] at hlibrary
      exact ⟨hgood, Except.ok.inj hlibrary⟩
    · rintro ⟨-, hequal⟩
      exact ⟨_, rfl, hequal ▸ hconfig⟩
  · rw [hparse]
    refine ⟨fun hgood => absurd hgood hbad, fun _ => rfl, ?_⟩
    constructor
    · rintro ⟨invocation, hnot, -⟩
      cases hnot
    · rintro ⟨hgood, -⟩
      exact absurd hgood hbad

/-- Variables with white space around their values, and a mode in mixed case. -/
def paddedVariables : Environment :=
  .ofPairs [(Environment.domainName, " books "), (Environment.regionName, "eu-west-1"),
    (Environment.apiVersionName, "\t2013-01-01 "), (Environment.modeName, " SandBox "),
    (Environment.endpointName, "http://localhost:9200/")]

theorem parse_padded_mode : Mode.parse " SandBox " = .ok .sandbox := by
  have hname : (Text.trim " SandBox ").map Char.toLower = Mode.sandbox.text := by
    rw [← String.toList_inj, String.toList_map]
    rfl
  rw [Mode.parse, hname]
  rfl

theorem parse_config_eq_fromEnvironment_of_padded :
    ∃ invocation, parse ["search", "dragon", "--page", "2"] paddedVariables = .ok invocation ∧
      invocation.config paddedVariables = .ok (Config.fromEnvironment paddedVariables).1 := by
  have hbare : IsBare ["search", "dragon", "--page", "2"] .search
      { values := [("page", ["2"])], arguments := ["dragon"] } :=
    ⟨⟨"search", ["dragon", "--page", "2"], rfl, rfl, rfl⟩, by decide⟩
  have hgood : paddedVariables.HasGoodMode := by
    intro value hvalue
    cases hvalue
    exact ⟨.sandbox, parse_padded_mode⟩
  have hset : paddedVariables.HasNoBlank := by
    intro name hname value hvalue
    simp only [List.mem_cons, List.not_mem_nil, or_false] at hname
    rcases hname with rfl | rfl | rfl <;> cases hvalue <;> decide
  exact (parse_config_eq_fromEnvironment_iff hbare rfl).2.2.2 ⟨hgood, hset⟩

/-- A region that is set to nothing, in the sandbox. -/
def blankRegion : Environment :=
  .ofPairs [(Environment.regionName, ""), (Environment.modeName, "sandbox")]

/-- The region is blank on the command line, and the usual one in the library. -/
theorem config_ne_fromEnvironment_of_blankRegion :
    IsBare ["remove", "1"] .remove { arguments := ["1"] } ∧
    blankRegion Environment.timeoutName = none ∧
    ¬∃ invocation, parse ["remove", "1"] blankRegion = .ok invocation ∧
      invocation.config blankRegion = .ok (Config.fromEnvironment blankRegion).1 := by
  have hbare : IsBare ["remove", "1"] .remove { arguments := ["1"] } :=
    ⟨⟨"remove", ["1"], rfl, rfl, rfl⟩, by decide⟩
  have htimeout : blankRegion Environment.timeoutName = none := rfl
  refine ⟨hbare, htimeout, ?_⟩
  rintro ⟨invocation, hparse, hlibrary⟩
  rcases parse_cases hbare htimeout with ⟨hgood, hread⟩ | ⟨-, hread⟩
  · rw [hread] at hparse
    cases hparse
    rw [config_invocationOf hbare.noGlobals htimeout] at hlibrary
    have hset := (configOfVariables_eq_iff hgood).1 (Except.ok.inj hlibrary)
    exact absurd (hset Environment.regionName (by decide) "" rfl) (by decide)
  · rw [hread] at hparse
    cases hparse

end CommandLine

end SearchDomain
