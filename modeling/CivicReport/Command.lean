import CivicReport.Address
import CivicReport.Command.Usage
import CivicReport.Configuration.Document
import CivicReport.Console
import CivicReport.Registry.Municipal
import CivicReport.Service

/-!
The program as a command: what it prints and how it ends. Questions are answered at a desk that
has no store, or else by a service elsewhere, whose address this program can compose but has no
network to reach. Files are not read here: a command says which one it needs, and goes on with
what is found there.
-/
namespace CivicReport

structure Environment where
  home : Option String := none
  /-- The directory for the configurations of programs. -/
  configurations : Option String := none
  /-- The service to send requests to, if the arguments name none. -/
  remote : Option String := none

/-- What is found at a path. -/
inductive Finding where
  | text (content : String)
  /-- A file that cannot be read. -/
  | unreadable (reason : String)
  /-- Nothing, or something that is no file. -/
  | noFile (reason : String)
  deriving Repr, DecidableEq

/-- What a command prints, and the status that it ends with. -/
structure Ending where
  printout : Printout := {}
  status : Nat := 0
  deriving Repr, DecidableEq

namespace Ending

def failure (message : String) : Ending := ⟨{ notices := ["Error: " ++ message] }, 1⟩

def ofFault (f : Fault) : Ending := failure f.message

def ofResult : Except Fault Printout → Ending
  | .ok printout => ⟨printout, 0⟩
  | .error fault => ofFault fault

end Ending

/-- A command ends, or goes on with what it finds at a path. -/
inductive Course where
  | ends (ending : Ending)
  | reads (path : String) (next : Finding → Course)

namespace Course

/-- How a command ends, given what is found at every path. -/
def ending (find : String → Finding) : Course → Ending
  | ends e => e
  | reads path next => (next (find path)).ending find

end Course

namespace Command

def version : String := Arguments.programName ++ " " ++ programVersion

/-! The configuration and the registry. -/

/-- The files that may hold the configuration when none is named. The first one counts. -/
def defaultPaths (env : Environment) : List String :=
  ["budget-query.toml", "config.toml"] ++
  (env.configurations.toList.map (· ++ "/budget-query/config.toml")) ++
  (env.home.toList.map (· ++ "/.budget-query/config.toml"))

def configurationOf : Finding → Except SetupFault Configuration
  | .text content => Configuration.read content
  | .unreadable reason => .error (.unreadable reason)
  | .noFile reason => .error (.unreadable reason)

def proceed (use : Configuration → Course) : Except SetupFault Configuration → Course
  | .ok c => use c
  | .error fault => .ends (.ofFault (.setup fault))

/-- Goes on with the configuration in the first of some files, or with the default settings if
none of them is there. -/
def withFirst (use : Configuration → Course) : List String → Course
  | [] => use {}
  | path :: rest =>
    .reads path fun
      | .noFile _ => withFirst use rest
      | finding => proceed use (configurationOf finding)

def withConfiguration (env : Environment) (path : Option String)
    (use : Configuration → Course) : Course :=
  match path with
  | some path => .reads path fun finding => proceed use (configurationOf finding)
  | none => withFirst use (defaultPaths env)

def registryOf : Finding → Option Registry
  | .text content => (Registry.read content).toOption
  | _ => none

/-- Goes on with the registry that a configuration names. -/
def withRegistry (env : Environment) (c : Configuration) (use : Registry → Ending) : Course :=
  match c.registryPath.map (expandHome env.home) with
  | none => .ends (use Registry.municipal)
  | some path =>
    .reads path fun finding =>
      .ends <| match registryOf finding with
        | some r => use r
        | none => .failure ("Failed to load schema from " ++ path)

/-! The jobs. -/

/-- Answers a question, and confirms the reading of it if that was agreed to before. -/
def answerConfirmed (desk : Desk) (now : Timestamp) (question : String) (confirmed : Bool) :
    Except Fault Outcome :=
  match desk.answer now none (.question question) none with
  | (.ok (.needsConfirmation i message), store) =>
    if confirmed then (desk.confirm now none i.toJson true store).1
    else .ok (.needsConfirmation i message)
  | (result, _) => result

def ask (desk : Desk) (now : Timestamp) (asJson : Bool) (question : String) (confirmed : Bool) :
    Ending :=
  .ofResult ((answerConfirmed desk now question confirmed).map (Printout.ofOutcome asJson))

def parse (desk : Desk) (now : Timestamp) (asJson : Bool) (question : String) : Ending :=
  .ofResult ((desk.parse question).map fun i => Printout.ofIntent asJson ⟨i, now⟩)

def sql (desk : Desk) (now : Timestamp) (asJson : Bool) (question : String) : Ending :=
  .ofResult do
    let i ← desk.parse question
    let (_, plan, _) ← desk.compile i
    pure (Printout.ofStatement asJson ⟨i, now⟩ plan.statement)

def domains (r : Registry) (asJson : Bool) : Ending :=
  ⟨Printout.ofOverview asJson (Overview.ofRegistry r), 0⟩

/-- Does a job at a desk of this program. -/
def here (env : Environment) (now : Timestamp) (i : Invocation) : Course :=
  withConfiguration env i.configPath fun c =>
    withRegistry env c fun r =>
      let desk := c.toDesk r
      match i.job with
      | .ask question confirmed => ask desk now i.asJson question confirmed
      | .parse question => parse desk now i.asJson question
      | .sql question => sql desk now i.asJson question
      | .domains => domains r i.asJson
      | .serve _ => .failure "there is no network to listen on"

/-- The address of an endpoint of a service. -/
def addressOf (base : String) (e : Endpoint) : String :=
  String.ofList (Text.stripRight (· == '/') base.toList) ++ e.path

/-- What becomes of a request that nothing answers. -/
def unreachable (base : String) (e : Endpoint) : Course :=
  .ends <| .failure <|
    match Address.read? (addressOf base e) with
    | some a =>
      (if a.takesRequests then "error sending request" else "builder error") ++
        " for url (" ++ a.write ++ ")"
    | none => "builder error"

def onlyHere (name : String) : Course :=
  .ends (.failure ("The " ++ name ++ " command runs locally only"))

/-- Has a job done by a service elsewhere. -/
def elsewhere (env : Environment) (now : Timestamp) (i : Invocation) (base : String) : Course :=
  match i.job with
  | .ask _ _ => unreachable base .query
  | .parse _ => onlyHere "parse"
  | .sql _ => onlyHere "sql"
  | .domains => unreachable base .domains
  | .serve _ => here env now i

def refuse (remote : Option String) : Refusal → Ending
  | .help task => ⟨{ lines := Arguments.usage remote task }, 0⟩
  | .version => ⟨{ lines := [version] }, 0⟩
  | .misuse reason => ⟨{ notices := ["error: " ++ reason] }, 2⟩

/-- The course of a command line. -/
def run (env : Environment) (now : Timestamp) (words : List String) : Course :=
  match Arguments.read env.remote words with
  | .error refusal => .ends (refuse env.remote refusal)
  | .ok i =>
    match i.remote with
    | some base => elsewhere env now i base
    | none => here env now i

end Command

end CivicReport
