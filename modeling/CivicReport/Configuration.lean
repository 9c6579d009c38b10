import CivicReport.Desk

/-!
The settings of the program, and the desk that they describe. Every setting has a default. Times
are given in seconds.
-/
namespace CivicReport

structure ServerSettings where
  port : Nat := 8080
  /-- The path that all routes begin with. -/
  base : String := "/api/v1"
  permitsOrigins : Bool := true
  deriving Repr, DecidableEq

structure ModelSettings where
  enabled : Bool := false
  address : String := "https://api.openai.com/v1"
  name : String := "gpt-4o-mini"
  apiKey : Option String := none
  timeout : Nat := 8
  deriving Repr, DecidableEq

structure StoreSettings where
  address : Option String := none
  timeout : Nat := 15
  retries : Nat := 1
  connections : Nat := 5
  deriving Repr, DecidableEq

structure DeskSettings where
  threshold : Float := 0.6
  rowCap : Nat := Plan.defaultRowCap
  longestQuestion : Nat := 500
  deriving Repr, DecidableEq

structure Configuration where
  server : ServerSettings := {}
  /-- The file with the registry, if it is not the municipal one. -/
  registryPath : Option String := none
  model : ModelSettings := {}
  store : StoreSettings := {}
  desk : DeskSettings := {}
  deriving Repr, DecidableEq

/-- A path with the home directory in place of a tilde that is its first part. -/
def expandHome (home : Option String) (path : String) : String :=
  match home, path.toList with
  | some home, ['~'] => home
  | some home, '~' :: '/' :: rest => home ++ String.ofList ('/' :: rest)
  | _, _ => path

namespace Configuration

/-- The first setting that the program cannot run with. -/
def fault? (c : Configuration) : Option SetupFault :=
  if c.model.enabled && c.model.address.isEmpty then some (.missingField "model.base_url")
  else if c.model.enabled && c.model.name.isEmpty then some (.missingField "model.model")
  else if c.model.timeout = 0 then some (.invalid "model.timeout_secs must be > 0")
  else if c.store.timeout = 0 then some (.invalid "datastore.timeout_secs must be > 0")
  else if !(0.0 ≤ c.desk.threshold && c.desk.threshold ≤ 1.0) then
    some (.invalid "engine.confirm_threshold must be within [0, 1]")
  else if c.desk.rowCap = 0 then some (.invalid "engine.row_cap must be > 0")
  else none

def check (c : Configuration) : Except SetupFault Configuration :=
  match c.fault? with
  | some fault => .error fault
  | none => .ok c

/-- The desk over a registry. Its model, if there is one, is asked over a network that is not
there. -/
def toDesk (c : Configuration) (r : Registry) : Desk where
  registry := r
  proposer := if c.model.enabled then some Proposer.unreachable else none
  proposerTimeout := c.model.timeout * 1000
  longestQuestion := c.desk.longestQuestion
  threshold := c.desk.threshold
  rowCap := c.desk.rowCap
  retry := { timeout := c.store.timeout * 1000, retries := c.store.retries }

end Configuration

end CivicReport
