/-
  SearchDomain.Proofs.CommandLine.Run

  What a run of the command line sends and prints. A run is all or nothing: what
  holds it back is found out before anything is sent, at most one request is
  made, and text is printed only at the end of a run that succeeds, in one piece.
-/
import SearchDomain.Proofs.CommandLine.Command

namespace SearchDomain

namespace CommandLine

variable {σ : Type} {transport : Transport σ} {state : σ}

/-! ## Whole runs -/

namespace RunResult

def requests : RunResult → List Request
  | finished _ _ report => report.requests
  | _ => []

/-- What is written to the standard output. Misuse, and what is wrong with a configuration, are
reported elsewhere. -/
def output : RunResult → String
  | finished _ _ report => report.output
  | _ => ""

/-- Whether the command was carried out without a failure. -/
def Succeeded : RunResult → Prop
  | finished _ _ report => report.failure = none
  | _ => False

end RunResult

namespace Invocation

/-- Whether the version that is asked for is none of the service's. -/
def HasBadVersion (invocation : Invocation) : Prop :=
  ∃ text, invocation.apiVersion = some text ∧ ApiVersion.ofText? text = none

def IsSandboxed (invocation : Invocation) : Prop :=
  invocation.sandbox = true ∨ invocation.mode = .sandbox

/-- Everything that keeps a run from sending a request. -/
inductive IsHeldBack (invocation : Invocation) (env : Environment) : Prop where
  | version : invocation.HasBadVersion → IsHeldBack invocation env
  | problems {config : Config} :
      invocation.config env = .ok config → config.problems ≠ [] → IsHeldBack invocation env
  | sandbox : invocation.IsSandboxed → IsHeldBack invocation env
  | urlOnly : invocation.command.isUrlOnly = true → IsHeldBack invocation env
  | input : invocation.command.HasBadInput → IsHeldBack invocation env

/-- The requests that reach the transport when an invocation is carried out. -/
def sentBy (invocation : Invocation) (transport : Transport σ) (state : σ) (now : Int64)
    (env : Environment) : List Request :=
  match invocation.config env with
  | .error _ => []
  | .ok config =>
    match config.problems with
    | [] => ((invocation.command.action ⟨config⟩ now).run transport.recorded (state, [])).2.2
    | _ => []

variable {invocation : Invocation} {env : Environment}

/-- A configuration is made unless the version is a bad one, and its mode is the one asked for. -/
theorem config_cases (invocation : Invocation) (env : Environment) :
    (invocation.HasBadVersion ∧ ∃ error, invocation.config env = .error error) ∨
    (¬invocation.HasBadVersion ∧ ∃ config, invocation.config env = .ok config ∧
      (config.mode = .sandbox ↔ invocation.IsSandboxed)) := by
  have hmode : (if invocation.sandbox then Mode.sandbox else invocation.mode) = .sandbox ↔
      invocation.IsSandboxed := by
    rw [IsSandboxed]
    cases invocation.sandbox <;> simp
  rw [config]
  cases hversion : invocation.apiVersion with
  | none =>
    refine .inr ⟨?_, _, rfl, hmode⟩
    rintro ⟨text, hsome, -⟩
    rw [hversion] at hsome
    cases hsome
  | some text =>
    rw [ApiVersion.resolve.eq_def]
    dsimp only
    rw [ApiVersion.parse]
    cases hread : ApiVersion.ofText? text with
    | none => exact .inl ⟨⟨text, hversion, hread⟩, _, rfl⟩
    | some version =>
      refine .inr ⟨?_, _, rfl, hmode⟩
      rintro ⟨other, hsome, hnone⟩
      rw [hversion, Option.some.injEq] at hsome
      rw [← hsome, hread] at hnone
      cases hnone

end Invocation

/-- What a run comes to whose command line is understood. -/
structure AllOrNothing (transport : Transport σ) (state : σ) (now : Int64) (env : Environment)
    (invocation : Invocation) (result : RunResult) : Prop where
  length_requests : result.requests.length ≤ 1
  requests_eq_nil_iff : result.requests = [] ↔ invocation.IsHeldBack env
  /-- The transport gets the requests that are reported, and no other. -/
  sentBy_eq : invocation.sentBy transport state now env = result.requests
  output_of_not_succeeded : ¬result.Succeeded → result.output = ""
  prints_of_succeeded : result.Succeeded → ∃ config, invocation.config env = .ok config ∧
    config.problems = [] ∧
    Prints transport state ⟨config⟩ invocation.command result.requests result.output
  output_eq_empty_iff : result.Succeeded →
    (result.output = "" ↔
      invocation.IsSandboxed ∧ invocation.command.changesDocuments = true)
  /-- In either mode, the URL is printed if it can be made. -/
  output_of_urlOnly : ∀ (config : Config) (term : String) (options : SearchOptions),
    invocation.config env = .ok config → config.problems = [] →
    invocation.command.isUrlOnly = true → invocation.command.Asks term options →
    result = .finished config invocation.logLevel
      (reportOfUrl ((Client.mk config).searchUrl term options))

namespace AllOrNothing

variable {invocation : Invocation} {env : Environment} {now : Int64}

/-- An invocation without a configuration that is fit for use is not carried out. -/
theorem of_unfit {result : RunResult} (hrequests : result.requests = [])
    (houtput : result.output = "") (hnot : ¬result.Succeeded) (hheld : invocation.IsHeldBack env)
    (hunfit : ∀ config, invocation.config env = .ok config → config.problems ≠ []) :
    AllOrNothing transport state now env invocation result where
  length_requests := by
    rw [hrequests]
    exact Nat.zero_le 1
  requests_eq_nil_iff := ⟨fun _ => hheld, fun _ => hrequests⟩
  sentBy_eq := by
    rw [hrequests, Invocation.sentBy]
    cases hconfig : invocation.config env with
    | error e => rfl
    | ok config =>
      cases hproblems : config.problems with
      | nil => exact absurd hproblems (hunfit config hconfig)
      | cons first rest => simp only [hproblems]
  output_of_not_succeeded := fun _ => houtput
  prints_of_succeeded := fun h => absurd h hnot
  output_eq_empty_iff := fun h => absurd h hnot
  output_of_urlOnly := fun config _ _ hconfig hfit => absurd hfit (hunfit config hconfig)

/-- An invocation whose configuration is fit for use is held back by what it asks for, or is
carried out. -/
theorem of_fit {config : Config} (hconfig : invocation.config env = .ok config)
    (hfit : config.problems = []) (hgood : ¬invocation.HasBadVersion)
    (hmode : config.mode = .sandbox ↔ invocation.IsSandboxed) :
    AllOrNothing transport state now env invocation
      (.finished config invocation.logLevel
        ((invocation.command.action ⟨config⟩ now).run transport state).1) where
  length_requests := length_requests_le_one _
  requests_eq_nil_iff := by
    have htakes := takes_action ⟨config⟩ now invocation.command
    rw [RunResult.requests, htakes.requests_eq_nil_iff hfit]
    constructor
    · rintro (hsandbox | hurlOnly | hinput)
      · exact .sandbox (hmode.1 hsandbox)
      · exact .urlOnly hurlOnly
      · exact .input hinput
    · intro hheld
      -- the version and the configuration have been found good before a command is looked at
      cases hheld with
      | version hbad => exact absurd hbad hgood
      | @problems other hother hproblems =>
        rw [hconfig, Except.ok.injEq] at hother
        exact absurd (hother ▸ hfit) hproblems
      | sandbox hsandbox => exact .inl (hmode.2 hsandbox)
      | urlOnly hurlOnly => exact .inr (.inl hurlOnly)
      | input hinput => exact .inr (.inr hinput)
  sentBy_eq := by
    rw [Invocation.sentBy, hconfig]
    dsimp only
    rw [hfit]
    dsimp only
    rw [run_recorded_of_action]
    exact List.nil_append _
  output_of_not_succeeded := fun hfailed => output_eq_empty_of_failure _ hfailed
  prints_of_succeeded := fun hdone =>
    ⟨config, hconfig, hfit, (takes_action ⟨config⟩ now invocation.command).prints hdone⟩
  output_eq_empty_iff := by
    intro hdone
    rw [← hmode]
    exact ((takes_action ⟨config⟩ now invocation.command).prints hdone).eq_empty_iff
  output_of_urlOnly := by
    intro other term options hother hfit hurlOnly hasks
    rw [hconfig, Except.ok.injEq] at hother
    rw [← hother, run_action_of_urlOnly now hurlOnly hasks]

end AllOrNothing

/-- A run is all or nothing. Whatever holds it back keeps it from sending anything, and without
that it sends one request. A run that fails prints nothing, and one that succeeds prints a single
text, which is a URL or the JSON of a page or of an answer, or none when documents are left alone in
the sandbox. -/
theorem run_allOrNothing {args : List String} {env : Environment} {invocation : Invocation}
    (hparse : parse args env = .ok invocation) (transport : Transport σ) (state : σ)
    (now : Int64) :
    AllOrNothing transport state now env invocation (run transport state now args env) := by
  rw [run, hparse]
  -- the checks are made in this order: the version, the configuration, and then the input
  rcases invocation.config_cases env with
    ⟨hbad, error, hconfig⟩ | ⟨hgood, config, hconfig, hmode⟩
  · simp only [hconfig]
    refine .of_unfit rfl rfl id (.version hbad) fun config hother => ?_
    rw [hconfig] at hother
    cases hother
  · cases hproblems : config.problems with
    | nil =>
      simp only [hconfig, hproblems]
      exact .of_fit hconfig hproblems hgood hmode
    | cons first rest =>
      have hunfit : config.problems ≠ [] := by
        rw [hproblems]
        exact List.cons_ne_nil first rest
      simp only [hconfig, hproblems]
      refine .of_unfit rfl rfl id (.problems hconfig hunfit) fun other hother => ?_
      rw [hconfig, Except.ok.injEq] at hother
      rw [← hother]
      exact hunfit

/-- The second page of a search, in an order of its own. -/
def secondPage : List String :=
  ["search", "dragon", "--page", "2", "--rank", "-year"]

/-- A domain at an endpoint of its own. -/
def localBooks : Environment :=
  .ofPairs [(Environment.domainName, "books"), (Environment.endpointName, "http://localhost:80")]

/-- A reply of success with a single hit. -/
def singleHit : Reply where
  status := 200
  body := .object [("hits", .object [("found", .whole 11), ("start", .whole 10),
    ("hit", .array [.object [("id", .string "4")]])])]

/-- The hit is printed with its place: the second page of two, as its request said. -/
theorem run_allOrNothing_of_singleHit :
    ∃ invocation, parse secondPage localBooks = .ok invocation ∧
      AllOrNothing Transport.queue [.ok singleHit] 0 localBooks invocation
        (run Transport.queue [.ok singleHit] 0 secondPage localBooks) ∧
      (run Transport.queue [.ok singleHit] 0 secondPage localBooks).Succeeded ∧
      (run Transport.queue [.ok singleHit] 0 secondPage localBooks).requests =
        [.get "http://localhost:80/2011-02-01/search?q=dragon&size=10&start=10&rank=-year"] ∧
      (run Transport.queue [.ok singleHit] 0 secondPage localBooks).output =
        "\x7b\n" ++
        "  \"total_entries\": 11,\n" ++
        "  \"current_page\": 2,\n" ++
        "  \"total_pages\": 2,\n" ++
        "  \"page_size\": 10,\n" ++
        "  \"cursor\": null,\n" ++
        "  \"hits\": [\n" ++
        "    \"4\"\n" ++
        "  ]\n" ++
        "\x7d\n" := by
  have hparse : parse secondPage localBooks =
      .ok (invocationOf localBooks {}
        { values := [("page", ["2"]), ("rank", ["-year"])], arguments := ["dragon"] }
        .search) := rfl
  exact ⟨_, hparse, run_allOrNothing hparse Transport.queue [.ok singleHit] 0, rfl, by decide,
    by decide⟩

/-- A document that is added, and the answer that is printed. -/
example :
    (run Transport.queue [.ok ⟨200, .object [("status", .string "success"), ("adds", .whole 1)]⟩] 0
      ["add", "7", "\x7b\"title\":\"x\"\x7d"] localBooks).output =
    "\x7b\n  \"status\": \"success\",\n  \"adds\": 1,\n  \"deletes\": 0,\n" ++
      "  \"errors\": [],\n  \"warnings\": []\n\x7d\n" := by
  decide +kernel

end CommandLine

end SearchDomain
