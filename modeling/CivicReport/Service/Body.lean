import CivicReport.Json.Record
import CivicReport.Json.Reading

/-!
The bodies of messages. A body is read from its start up to the first fault, or to the end of the
first value; what follows that is ignored. A value of a wrong kind is a fault at the place where
its kind shows, so that it comes before a fault of the text behind it.
-/
namespace CivicReport

inductive Rejection where
  /-- The text is not JSON. -/
  | malformed
  /-- The text is JSON so far, but not what was asked for. -/
  | unfit
  deriving Repr, DecidableEq

def Json.readBody (content : String) : Except Rejection Json :=
  match readLeading .whole content with
  | .complete j => .ok j.settled
  | .stopped _ => .error .malformed

/-- An intent that is sent back, and whether to run it. -/
structure Confirmation where
  intent : Json
  confirmed : Bool

namespace Confirmation

open Json (Reader Frame)

def names : List String := ["intent", "confirmed"]

/-- Other members are not read. -/
def scope : Json.Scope := .members (names.map fun name => (name, .whole))

/-- Whether members may be part of a confirmation. -/
def permits (members : List (String × Json)) : Bool :=
  !Json.repeats names members && members.all fun m => m.1 != "confirmed" || m.2.bool?.isSome

/-- Whether the value that is being read cannot become a truth value. -/
def isOtherKind (r : Reader) : Bool :=
  1 < r.stack.length ||
    match r.lexeme with
    | .number chars => (Numeral.read? chars.reverse).isSome
    | .word chars => "null".toList.isPrefixOf chars.reverse
    | _ => false

/-- The key whose value is awaited or being read in the outermost object. -/
def pendingKey? (r : Reader) (key : String) : Option String :=
  if 1 < r.stack.length then some key
  else match r.expected with
    | .value => some key
    | .colon key => some key
    | _ => none

def rejectionWithin (r : Reader) : Frame → Rejection
  | .object members key =>
    match permits members.reverse, pendingKey? r key with
    | false, _ => .unfit
    | true, none => .malformed
    | true, some pending =>
      if Json.repeats names ((pending, .null) :: members) then .unfit
      else if pending = "confirmed" && isOtherKind r then .unfit
      else .malformed
  | .array items =>
    match items.reverse with
    | [] => .malformed
    | [_] => if isOtherKind r then .unfit else .malformed
    | _ :: confirmed :: _ => if confirmed.bool?.isSome then .malformed else .unfit

/-- Why a text that stops short is rejected. -/
def rejection (r : Reader) : Rejection :=
  match r.stack.getLast? with
  | some frame => rejectionWithin r frame
  | none => .malformed

/-- A confirmation is an object, or an array of its two parts. -/
def ofJson : Json → Except Rejection Confirmation
  | .object members =>
    match permits members, Json.lookup "intent" members, Json.lookup "confirmed" members with
    | true, some intent, some (.bool confirmed) => .ok ⟨intent.settled, confirmed⟩
    | _, _, _ => .error .unfit
  | .array [intent, .bool confirmed] => .ok ⟨intent.settled, confirmed⟩
  | .array (_ :: .bool _ :: _) => .error .malformed
  | _ => .error .unfit

def read (content : String) : Except Rejection Confirmation :=
  match Json.readLeading scope content with
  | .complete j => ofJson j
  | .stopped r => .error (rejection r)

end Confirmation

end CivicReport
