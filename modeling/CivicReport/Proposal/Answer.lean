import CivicReport.Fault
import CivicReport.Json.Reading

/-!
The answer of a language model: a JSON object that may stand within other text. It is cut out
from the first opening brace to the last closing one.
-/
namespace CivicReport

namespace Answer

def opening : Char := '\x7b'

def closing : Char := '\x7d'

/-- The text from the first opening brace on. -/
def fromOpening (s : List Char) : List Char := s.dropWhile (· != opening)

/-- The text up to the last closing brace. -/
def toClosing (s : List Char) : List Char := (s.reverse.dropWhile (· != closing)).reverse

/-- The text between the outermost braces, with them. -/
def cut (content : List Char) : Except ModelFault (List Char) :=
  match fromOpening content with
  | [] => .error (.badAnswer "no JSON object in response")
  | s => match toClosing s with
    | [] => .error (.badAnswer "unterminated JSON object")
    | object => .ok object

def read (content : String) : Except ModelFault Json := do
  let object ← cut content.toList
  match Json.read? (String.ofList object) with
  | some j => pure j
  | none => .error (.badAnswer "not a JSON value")

end Answer

/-- A model that proposes readings, as far as a request sees it: how long it takes, and what
comes of it. -/
structure Proposer where
  delay : Nat
  answer : Except ModelFault Json

namespace Proposer

/-- A model at an address that nothing answers. -/
def unreachable : Proposer := ⟨0, .error (.unreachable "no connection")⟩

end Proposer

end CivicReport
