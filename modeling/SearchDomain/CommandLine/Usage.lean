/-
  SearchDomain.CommandLine.Usage

  The options and commands of the command line, and how it can be misused.
-/
import SearchDomain.Config.Mode

namespace SearchDomain.CommandLine

/-- Why a command line is not carried out. -/
inductive UsageError where
  /-- An option or an argument that is not known, or one too many. -/
  | unknownArgument
  /-- A command that is not known. -/
  | invalidSubcommand
  /-- An option without its value. -/
  | invalidValue
  /-- A value that the option does not take. -/
  | valueValidation
  /-- A value for an option that takes none. -/
  | tooManyValues
  /-- An option that is given twice. -/
  | argumentConflict
  /-- An argument that the command needs. -/
  | missingRequiredArgument
  /-- Options but no command. -/
  | missingSubcommand
  /-- Help was asked for. -/
  | displayHelp
  /-- Nothing was asked for. -/
  | displayHelpOnMissing
deriving DecidableEq, Repr

namespace UsageError

/-- The name under which the misuse is reported. -/
def name : UsageError → String
  | unknownArgument => "UnknownArgument"
  | invalidSubcommand => "InvalidSubcommand"
  | invalidValue => "InvalidValue"
  | valueValidation => "ValueValidation"
  | tooManyValues => "TooManyValues"
  | argumentConflict => "ArgumentConflict"
  | missingRequiredArgument => "MissingRequiredArgument"
  | missingSubcommand => "MissingSubcommand"
  | displayHelp => "DisplayHelp"
  | displayHelpOnMissing => "DisplayHelpOnMissingArgumentOrSubcommand"

end UsageError

/-! ## Values -/

/-- A decimal number with an optional plus sign. -/
def readNat (s : String) : Option Nat :=
  let digits :=
    match s.toList with
    | '+' :: rest => rest
    | cs => cs
  if digits ≠ [] ∧ digits.all Char.isDigit then some (Digits.toNat digits) else none

/-- A number of 64 bits. -/
def readNat64 (s : String) : Option Nat :=
  (readNat s).filter fun n => decide (n < 0x10000000000000000)

/-- A number of 32 bits; zero may have a minus sign. -/
def readUInt32 (s : String) : Option UInt32 :=
  match s.toList with
  | '-' :: cs => if cs ≠ [] ∧ cs.all (· == '0') then some 0 else none
  | _ => ((readNat s).filter fun n => decide (n < 0x100000000)).map UInt32.ofNat

def readMode (s : String) : Option Mode :=
  (Mode.parse s).toOption

/-! ## Options -/

/-- An option of the command line. -/
structure OptionSpec where
  name : String
  takesValue : Bool := true
  /-- Whether the next argument is the value even if it looks like an option. -/
  allowsHyphens : Bool := false
  /-- Whether it may be given more than once. -/
  repeats : Bool := false
  /-- The environment variable that stands in for the option. -/
  environmentName : Option String := none
  accepts : String → Bool := fun _ => true

/-- The options that every command takes. -/
def globalOptions : List OptionSpec :=
  [{ name := "domain", environmentName := some Environment.domainName },
    { name := "region", environmentName := some Environment.regionName },
    { name := "api-version" },
    { name := "mode", environmentName := some Environment.modeName,
      accepts := fun s => (readMode s).isSome },
    { name := "sandbox", takesValue := false },
    { name := "endpoint", environmentName := some Environment.endpointName },
    { name := "timeout-ms", environmentName := some Environment.timeoutName,
      accepts := fun s => (readNat64 s).isSome },
    { name := "log-level", environmentName := some Environment.logLevelName }]

/-- The options of a search. -/
def searchOptions : List OptionSpec :=
  [{ name := "filter" },
    { name := "page", accepts := fun s => (readUInt32 s).isSome },
    { name := "page-size", accepts := fun s => (readUInt32 s).isSome },
    { name := "return-fields", repeats := true },
    { name := "rank", allowsHyphens := true },
    { name := "cursor" },
    { name := "url-only", takesValue := false }]

/-! ## Commands -/

/-- A command by name. -/
inductive CommandName where
  | search
  | add
  | update
  | remove
deriving DecidableEq, Repr

namespace CommandName

def ofText? (s : String) : Option CommandName :=
  if s = "search" then some search
  else if s = "add" then some add
  else if s = "update" then some update
  else if s = "remove" then some remove
  else none

/-- The options that a command takes. -/
def options : CommandName → List OptionSpec
  | search => searchOptions ++ globalOptions
  | _ => globalOptions

/-- How many arguments a command takes at most. -/
def maxArguments : CommandName → Nat
  | search => 1
  | add => 2
  | update => 2
  | remove => 1

/-- How many arguments a command needs. -/
def minArguments : CommandName → Nat
  | search => 0
  | add => 2
  | update => 2
  | remove => 1

end CommandName

end SearchDomain.CommandLine
