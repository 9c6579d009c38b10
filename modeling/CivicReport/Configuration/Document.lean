import CivicReport.Configuration
import CivicReport.Toml.Reading
import CivicReport.Json

/-!
The settings as a TOML document, which is how they are read, and as a JSON document. Settings that
the program does not know are ignored. The first value of a wrong kind is the fault of a document.
-/
namespace CivicReport

namespace Toml

/-- A value and the offset at which it begins. -/
abbrev Placed := Nat × Toml

def needText : Placed → Except Nat String
  | (_, .text s) => .ok s
  | (place, _) => .error place

def needBool : Placed → Except Nat Bool
  | (_, .bool b) => .ok b
  | (place, _) => .error place

/-- An integer from zero up to a limit, which it does not reach. -/
def needNat (limit : Nat) : Placed → Except Nat Nat
  | (place, .integer n) => if 0 ≤ n ∧ n < limit then .ok n.toNat else .error place
  | (place, _) => .error place

def needFloat : Placed → Except Nat Float
  | (_, .real x) => .ok x
  | (_, .integer n) => .ok (Float.ofInt n)
  | (place, _) => .error place

/-- Changes a record by every setting that a section has, in the order of the section. A section
may also list the settings alone, in the order of the record. -/
def fill {α : Type} (names : List String) (set : String → Placed → α → Except Nat α) (initial : α) :
    Placed → Except Nat α
  | (_, .table _ entries) => entries.foldlM (fun a e => set e.1 e.2 a) initial
  | (_, .array items) => (names.zip items).foldlM (fun a e => set e.1 e.2 a) initial
  | (_, .tables items) => (names.zip items.reverse).foldlM (fun a e => set e.1 e.2 a) initial
  | (_, .time) => .ok initial
  | (place, _) => .error place

end Toml

open Toml (Placed needText needBool needNat needFloat fill)

namespace ServerSettings

def set (name : String) (v : Placed) (s : ServerSettings) : Except Nat ServerSettings :=
  match name with
  | "http_port" => do pure { s with port := ← needNat (twoTo 16) v }
  | "prefix" => do pure { s with base := ← needText v }
  | "enable_cors" => do pure { s with permitsOrigins := ← needBool v }
  | _ => .ok s

def ofToml : Placed → Except Nat ServerSettings :=
  fill ["http_port", "prefix", "enable_cors"] set {}

def toJson (s : ServerSettings) : Json :=
  .object
    [("http_port", Json.ofInt s.port), ("prefix", .text s.base),
     ("enable_cors", .bool s.permitsOrigins)]

end ServerSettings

namespace ModelSettings

def set (name : String) (v : Placed) (s : ModelSettings) : Except Nat ModelSettings :=
  match name with
  | "enabled" => do pure { s with enabled := ← needBool v }
  | "base_url" => do pure { s with address := ← needText v }
  | "model" => do pure { s with name := ← needText v }
  | "api_key" => do pure { s with apiKey := some (← needText v) }
  | "timeout_secs" => do pure { s with timeout := ← needNat (twoTo 64) v }
  | _ => .ok s

def ofToml : Placed → Except Nat ModelSettings :=
  fill ["enabled", "base_url", "model", "api_key", "timeout_secs"] set {}

def toJson (s : ModelSettings) : Json :=
  .object
    [("enabled", .bool s.enabled), ("base_url", .text s.address), ("model", .text s.name),
     ("api_key", Json.ofText? s.apiKey), ("timeout_secs", Json.ofInt s.timeout)]

end ModelSettings

namespace StoreSettings

def set (name : String) (v : Placed) (s : StoreSettings) : Except Nat StoreSettings :=
  match name with
  | "url" => do pure { s with address := some (← needText v) }
  | "timeout_secs" => do pure { s with timeout := ← needNat (twoTo 64) v }
  | "max_retries" => do pure { s with retries := ← needNat (twoTo 32) v }
  | "max_connections" => do pure { s with connections := ← needNat (twoTo 32) v }
  | _ => .ok s

def ofToml : Placed → Except Nat StoreSettings :=
  fill ["url", "timeout_secs", "max_retries", "max_connections"] set {}

def toJson (s : StoreSettings) : Json :=
  .object
    [("url", Json.ofText? s.address), ("timeout_secs", Json.ofInt s.timeout),
     ("max_retries", Json.ofInt s.retries), ("max_connections", Json.ofInt s.connections)]

end StoreSettings

namespace DeskSettings

def set (name : String) (v : Placed) (s : DeskSettings) : Except Nat DeskSettings :=
  match name with
  | "confirm_threshold" => do pure { s with threshold := ← needFloat v }
  | "row_cap" => do pure { s with rowCap := ← needNat (twoTo 64) v }
  | "max_query_chars" => do pure { s with longestQuestion := ← needNat (twoTo 64) v }
  | _ => .ok s

def ofToml : Placed → Except Nat DeskSettings :=
  fill ["confirm_threshold", "row_cap", "max_query_chars"] set {}

def toJson (s : DeskSettings) : Json :=
  .object
    [("confirm_threshold", Json.ofFloat s.threshold), ("row_cap", Json.ofInt s.rowCap),
     ("max_query_chars", Json.ofInt s.longestQuestion)]

end DeskSettings

namespace Configuration

def setRegistryPath (name : String) (v : Placed) (path : Option String) :
    Except Nat (Option String) :=
  match name with
  | "path" => do pure (some (← needText v))
  | _ => .ok path

def set (name : String) (v : Placed) (c : Configuration) : Except Nat Configuration :=
  match name with
  | "server" => do pure { c with server := ← ServerSettings.ofToml v }
  | "schema" => do pure { c with registryPath := ← fill ["path"] setRegistryPath none v }
  | "model" => do pure { c with model := ← ModelSettings.ofToml v }
  | "datastore" => do pure { c with store := ← StoreSettings.ofToml v }
  | "engine" => do pure { c with desk := ← DeskSettings.ofToml v }
  | _ => .ok c

def ofEntries (entries : List (String × Placed)) : Except Nat Configuration :=
  entries.foldlM (fun c e => set e.1 e.2 c) {}

/-- Reads the settings from the text of a document. -/
def read (content : String) : Except SetupFault Configuration :=
  match (Toml.read content.toList).bind ofEntries with
  | .ok c => c.check
  | .error offset => .error (.malformed (Toml.faultText content.toList offset))

def toJson (c : Configuration) : Json :=
  .object
    [("server", c.server.toJson), ("schema", .object [("path", Json.ofText? c.registryPath)]),
     ("model", c.model.toJson), ("datastore", c.store.toJson), ("engine", c.desk.toJson)]

end Configuration

end CivicReport
