/-
  SearchDomain.CommandLine.Arguments

  From arguments and environment to an invocation. Options that every command
  takes may stand before the command or behind it; behind it wins, either wins
  over the environment, and the environment over the defaults. A variable of the
  environment must hold a good value on each side on which the option is not
  given.
-/
import SearchDomain.CommandLine.Usage
import SearchDomain.Text.Split

namespace SearchDomain.CommandLine

/-! ## One side of the command -/

/-- Options and arguments read so far. -/
structure Given where
  /-- The values of each option in order, none for an option that takes none. -/
  values : List (String × List String) := []
  arguments : List String := []
  /-- An option whose value is still to come, or has come and was not looked at yet. -/
  pending : Option (OptionSpec × Option String) := none
  /-- Whether everything that follows is an argument. -/
  onlyArguments : Bool := false

namespace Given

def has (given : Given) (name : String) : Bool :=
  given.values.any (·.1 == name)

/-- All values of an option. -/
def all (given : Given) (name : String) : List String :=
  (given.values.filter (·.1 == name)).flatMap (·.2)

/-- Takes in an option with its values. -/
def record (given : Given) (option : OptionSpec) (values : List String) :
    Except UsageError Given :=
  if given.has option.name ∧ ¬option.repeats then .error .argumentConflict
  else if values.all option.accepts then
    .ok { given with values := given.values ++ [(option.name, values)] }
  else .error .valueValidation

/-- Looks at the value of a pending option, which must have come. -/
def settle (given : Given) : Except UsageError Given :=
  match given.pending with
  | none => .ok given
  | some (_, none) => .error .invalidValue
  | some (option, some value) => { given with pending := none }.record option [value]

/-- The option that waits for its value. -/
def awaited (given : Given) : Option OptionSpec :=
  match given.pending with
  | some (option, none) => some option
  | _ => none

/-- An option behind two hyphens, with or without an equals sign and a value. -/
def readLong (options : List OptionSpec) (given : Given) (cs : List Char) :
    Except UsageError Given := do
  let name := String.ofList (cs.takeWhile (· ≠ '='))
  let value :=
    match cs.dropWhile (· ≠ '=') with
    | _ :: rest => some (String.ofList rest)
    | [] => none
  match options.find? (·.name == name), value with
  | some option, some value =>
    if option.takesValue then (← given.settle).record option [value] else .error .tooManyValues
  | some option, none =>
    let given ← given.settle
    if option.takesValue then return { given with pending := some (option, none) }
    else given.record option []
  | none, some _ => .error (if name = "help" then .tooManyValues else .unknownArgument)
  | none, none =>
    if name = "help" then do
      let _ ← given.settle
      .error .displayHelp
    else .error .unknownArgument

/-- Options behind one hyphen; help is the only one. -/
def readShort (given : Given) (first : Char) : Except UsageError Given :=
  if first = 'h' then do
    let _ ← given.settle
    .error .displayHelp
  else .error .unknownArgument

/-- An argument that belongs to no option. -/
def readPlain (maxArguments : Nat) (tooMany : UsageError) (given : Given) (arg : String) :
    Except UsageError Given := do
  if given.arguments.length < maxArguments then
    let given ← given.settle
    return { given with arguments := given.arguments ++ [arg] }
  else .error tooMany

/-- One argument of a command line further. -/
def read (options : List OptionSpec) (maxArguments : Nat) (tooMany : UsageError) (given : Given)
    (arg : String) : Except UsageError Given :=
  if given.onlyArguments then given.readPlain maxArguments tooMany arg
  else
    match given.awaited, arg.toList with
    | some option, cs =>
      -- what stands in the place of a missing value is looked at before the lack is reported
      let isValue := option.allowsHyphens ∨ cs.head? ≠ some '-' ∨ cs = ['-']
      if isValue then .ok { given with pending := some (option, some arg) }
      else
        match cs with
        | ['-', '-'] => .ok { given with onlyArguments := true }
        | '-' :: '-' :: name => given.readLong options name
        | _ :: first :: _ => given.readShort first
        | _ => .error .unknownArgument
    | none, ['-', '-'] => .ok { given with onlyArguments := true }
    | none, '-' :: '-' :: name => given.readLong options name
    | none, '-' :: first :: _ => given.readShort first
    | none, _ => given.readPlain maxArguments tooMany arg

/-- Everything behind a command. -/
def readAll (options : List OptionSpec) (maxArguments : Nat) (tooMany : UsageError)
    (given : Given) (args : List String) : Except UsageError Given :=
  args.foldlM (read options maxArguments tooMany) given

/-- The value that the environment has for an option. -/
def variableValue (env : Environment) (option : OptionSpec) : Option String :=
  option.environmentName.bind env

/-- Whether the environment has good values for all options that are not given. -/
def checkEnvironment (options : List OptionSpec) (env : Environment) (given : Given) :
    Except UsageError Unit :=
  let isGood (option : OptionSpec) : Bool :=
    given.has option.name || ((variableValue env option).map option.accepts).getD true
  if options.all isGood then .ok () else .error .valueValidation

end Given

/-! ## Invocations -/

/-- What a command is to do. -/
inductive Command where
  | search (term : String) (filter : Option String) (page pageSize : Option UInt32)
      (returnFields : List String) (rank cursor : Option String) (urlOnly : Bool)
  | add (id fields : String)
  | update (id fields : String)
  | remove (id : String)
deriving DecidableEq, Repr

/-- A command line, understood. -/
structure Invocation where
  domain : Option String
  region : String
  apiVersion : Option String
  mode : Mode
  sandbox : Bool
  endpoint : Option String
  timeout : Nat
  logLevel : String
  command : Command
deriving DecidableEq, Repr

/-- What stands before the command, the command, and what stands behind it. -/
def splitAtCommand (given : Given) :
    List String → Except UsageError (Given × Option (String × List String))
  | [] => .ok (given, none)
  | arg :: rest =>
    let isCommand := (CommandName.ofText? arg).isSome || arg == "help"
    if isCommand ∧ given.awaited.isNone ∧ ¬given.onlyArguments then .ok (given, some (arg, rest))
    else
      let tooMany := if isCommand then UsageError.unknownArgument else .invalidSubcommand
      match given.read globalOptions 0 tooMany arg with
      | .error e => .error e
      | .ok given => splitAtCommand given rest

/-- What asking for help comes to. -/
def helpAbout : List String → UsageError
  | [] => .displayHelp
  | [arg] =>
    if (CommandName.ofText? arg).isSome || arg == "help" then .displayHelp else .invalidSubcommand
  | _ => .invalidSubcommand

/-- What no command comes to. -/
def withoutCommand (env : Environment) (before : Given) : UsageError :=
  let isAnythingSaid :=
    !before.values.isEmpty || globalOptions.any fun o => (Given.variableValue env o).isSome
  if isAnythingSaid then .missingSubcommand else .displayHelpOnMissing

/-- The values of a list option, cut at commas. -/
def cutAtCommas (values : List String) : List String :=
  values.flatMap fun value => (Text.splitAtMark ',' value.toList).map String.ofList

/-- The command with its own options. -/
def commandOf (name : CommandName) (given : Given) : Command :=
  let argument (index : Nat) : String := (given.arguments[index]?).getD ""
  let value (option : String) : Option String := (given.all option).head?
  match name with
  | .search =>
    .search (argument 0) (value "filter") ((value "page").bind readUInt32)
      ((value "page-size").bind readUInt32) (cutAtCommas (given.all "return-fields"))
      (value "rank") (value "cursor") (given.has "url-only")
  | .add => .add (argument 0) (argument 1)
  | .update => .update (argument 0) (argument 1)
  | .remove => .remove (argument 0)

/-- The value in force for an option: behind the command, before it, from the environment. -/
def inForce (env : Environment) (before behind : Given) (name : String) : Option String :=
  ((behind.all name).head?).or <|
    ((before.all name).head?).or <|
      (globalOptions.find? (·.name == name)).bind (Given.variableValue env)

/-- The invocation that both sides of a command make. -/
def invocationOf (env : Environment) (before behind : Given) (name : CommandName) : Invocation :=
  let value := inForce env before behind
  { domain := value "domain"
    region := (value "region").getD "us-east-1"
    apiVersion := value "api-version"
    mode := ((value "mode").bind readMode).getD .live
    sandbox := before.has "sandbox" || behind.has "sandbox"
    endpoint := value "endpoint"
    timeout := ((value "timeout-ms").bind readNat64).getD 30000
    logLevel := (value "log-level").getD "warn"
    command := commandOf name behind }

/-- Reads what stands behind a command. -/
def readBehind (env : Environment) (name : CommandName) (args : List String) :
    Except UsageError Given := do
  let given ← Given.readAll name.options name.maxArguments .unknownArgument {} args
  let given ← given.settle
  given.checkEnvironment name.options env
  if given.arguments.length < name.minArguments then .error .missingRequiredArgument
  else return given

/-- Understands a command line in an environment. -/
def parse (args : List String) (env : Environment) : Except UsageError Invocation := do
  let (before, command) ← splitAtCommand {} args
  match command with
  | none =>
    let before ← before.settle
    before.checkEnvironment globalOptions env
    .error (withoutCommand env before)
  | some (word, rest) =>
    match CommandName.ofText? word with
    | none => .error (helpAbout rest)
    | some name =>
      let behind ← readBehind env name rest
      let before ← before.settle
      before.checkEnvironment globalOptions env
      return invocationOf env before behind name

end SearchDomain.CommandLine
