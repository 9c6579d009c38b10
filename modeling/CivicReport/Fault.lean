import CivicReport.Decimal.Exact

/-!
Everything that can go wrong, as causes. Each fault has a message with its details, for whoever
runs the program, and one without details for whoever asked the question.
-/
namespace CivicReport

theorem bind_eq_ok {ε α β : Type} {x : Except ε α} {f : α → Except ε β} {b : β} :
    x >>= f = .ok b ↔ ∃ a, x = .ok a ∧ f a = .ok b := by
  cases x with
  | error fault => simp [bind, Except.bind]
  | ok a => simp [bind, Except.bind]

/-- A check passes something on only if it passes. -/
theorem check_bind_eq_ok {ε β : Type} {x : Except ε Unit} {f : Unit → Except ε β} {b : β} :
    x >>= f = .ok b ↔ x = .ok () ∧ f () = .ok b := by
  rw [bind_eq_ok]
  exact ⟨fun ⟨(), hx, hf⟩ => ⟨hx, hf⟩, fun ⟨hx, hf⟩ => ⟨(), hx, hf⟩⟩

/-- A request or an intent that does not fit the registry. -/
inductive RequestFault where
  | emptyQuestion
  | missingField (field : String)
  | unknownDomain (key : String)
  | unknownAction (name : String)
  | confidenceOutOfRange (shown : String)
  | badShape (field reason : String)
  deriving Repr, DecidableEq

namespace RequestFault

def message : RequestFault → String
  | emptyQuestion => "Query text is empty"
  | missingField field => "Missing required field: " ++ field
  | unknownDomain key => "Unknown domain: " ++ key
  | unknownAction name => "Unknown action: " ++ name
  | confidenceOutOfRange shown => "Confidence must be a number in [0, 1], got " ++ shown
  | badShape field reason => "Invalid shape for " ++ field ++ ": " ++ reason

/-- The part of the request that is at fault. -/
def field : RequestFault → String
  | emptyQuestion => "query"
  | missingField field => field
  | unknownDomain _ => "domain"
  | unknownAction _ => "action"
  | confidenceOutOfRange _ => "confidence"
  | badShape field _ => field

end RequestFault

/-- A failure of the store that holds the data. -/
inductive StoreFault where
  | timeout (milliseconds : Nat)
  | connection (detail : String)
  | query (detail : String)
  | notConfigured
  deriving Repr, DecidableEq

namespace StoreFault

def message : StoreFault → String
  | timeout ms => "Query timed out after " ++ natText ms ++ "ms"
  | connection detail => "Connection failed: " ++ detail
  | query detail => "Query failed: " ++ detail
  | notConfigured => "No datastore configured"

/-- Whether another attempt may succeed. -/
def isTransient : StoreFault → Bool
  | timeout _ | connection _ => true
  | query _ | notConfigured => false

end StoreFault

/-- A fault in the configuration or in the registry of domains. -/
inductive SetupFault where
  | unreadable (detail : String)
  | malformed (detail : String)
  | malformedRegistry
  | invalid (detail : String)
  | missingField (field : String)
  | unknownDomain (key : String)
  | unknownField (domain field : String)
  deriving Repr, DecidableEq

namespace SetupFault

def message : SetupFault → String
  | unreadable detail => "Failed to read config file: " ++ detail
  | malformed detail => "Failed to parse config: " ++ detail
  | malformedRegistry => "Failed to parse schema"
  | invalid detail => "Invalid configuration: " ++ detail
  | missingField field => "Missing required field: " ++ field
  | unknownDomain key => "Schema references unknown domain: " ++ key
  | unknownField domain field =>
    "Schema references unknown field " ++ field ++ " in domain " ++ domain

end SetupFault

inductive Fault where
  | request (fault : RequestFault)
  | interpretation (detail : String)
  | store (fault : StoreFault)
  | setup (fault : SetupFault)
  | cancelled
  | inputOutput (detail : String)
  | serialization
  deriving Repr, DecidableEq

namespace Fault

def message : Fault → String
  | request fault => "Validation error: " ++ fault.message
  | interpretation detail => "Parsing failed: " ++ detail
  | store fault => "Database error: " ++ fault.message
  | setup fault => "Configuration error: " ++ fault.message
  | cancelled => "Request cancelled"
  | inputOutput detail => "IO error: " ++ detail
  | serialization => "Serialization error"

/-- What the person who asked is told. -/
def userMessage : Fault → String
  | request .emptyQuestion => "יש להזין שאלה"
  | request fault => "הבקשה אינה תקינה (שדה: " ++ fault.field ++ ")"
  | interpretation _ => "לא ניתן היה לפענח את השאלה"
  | store .notConfigured => "מקור הנתונים אינו מוגדר"
  | store _ => "אירעה שגיאה בשליפת הנתונים, נסו שוב מאוחר יותר"
  | setup _ => "שגיאת תצורה במערכת הדוחות"
  | cancelled => "הבקשה בוטלה"
  | inputOutput _ | serialization => "אירעה שגיאה פנימית"

def code : Fault → String
  | request _ => "validation_error"
  | interpretation _ => "parsing_failed"
  | store (.timeout _) => "database_timeout"
  | store _ => "database_error"
  | setup _ => "configuration_error"
  | cancelled => "cancelled"
  | inputOutput _ | serialization => "internal_error"

end Fault

/-- A failure of the language model that proposes readings. -/
inductive ModelFault where
  | unreachable (detail : String)
  | timeout (milliseconds : Nat)
  | badAnswer (detail : String)
  deriving Repr, DecidableEq

namespace ModelFault

def message : ModelFault → String
  | unreachable detail => "API error: " ++ detail
  | timeout ms => "Timeout after " ++ natText ms ++ "ms"
  | badAnswer detail => "Response violates the output contract: " ++ detail

end ModelFault

end CivicReport
