import CivicReport.Desk
import CivicReport.Registry.Overview
import CivicReport.Report.Document
import CivicReport.Service.Body
import CivicReport.Service.MediaType

/-!
The desk as a service over HTTP: questions and confirmations are posted, the registry and the
state of the service can be asked for. What a fault says to a client leaves out its details.
-/
namespace CivicReport

/-- A message to the service. -/
structure Call where
  method : String
  target : String
  contentType : Option String := none
  body : String := ""

structure Reply where
  status : Nat
  contentType : Option String := none
  body : Option Json := none
  /-- The origins whose pages may read the reply. -/
  allowedOrigins : Option String := none

inductive Endpoint where
  | query
  | confirm
  | domains
  | health
  deriving Repr, DecidableEq

namespace Endpoint

def all : List Endpoint := [query, confirm, domains, health]

def path : Endpoint → String
  | query => "/reports/query"
  | confirm => "/reports/confirm"
  | domains => "/schema/domains"
  | health => "/health"

/-- Whether messages are posted to it; otherwise it is only read. -/
def isPosted : Endpoint → Bool
  | query | confirm => true
  | domains | health => false

/-- The path of an endpoint under the base of a service. -/
def pathUnder (base : String) (e : Endpoint) : String :=
  let base := base.toList
  if base.getLast? = some '/' then String.ofList base ++ String.ofList (e.path.toList.drop 1)
  else String.ofList base ++ e.path

end Endpoint

namespace Reply

def json (status : Nat) (j : Json) : Reply := ⟨status, some "application/json", some j, none⟩

def bare (status : Nat) : Reply := { status }

end Reply

/-- The status that tells a client about a fault. -/
def Fault.status : Fault → Nat
  | request _ | interpretation _ => 400
  | store _ => 502
  | cancelled => 503
  | setup _ | inputOutput _ | serialization => 500

def Fault.reply (f : Fault) : Reply :=
  .json f.status (.object [("error", .text f.userMessage), ("code", .text f.code)])

def Rejection.reply : Rejection → Reply
  | malformed => .bare 400
  | unfit => .bare 422

def programVersion : String := "0.1.0"

structure Service where
  desk : Desk
  /-- The path that all endpoints are under. -/
  base : String := "/api/v1"
  /-- Pages of every origin may use the service. -/
  permitsOrigins : Bool := true

namespace Service

/-- Whether a path has a form in which a colon begins a part that may be anything. -/
def matchesForm : List Char → List Char → Bool
  | [], [] => true
  | ':' :: form, path =>
    let part := path.takeWhile (· != '/')
    !part.isEmpty && matchesForm (form.dropWhile (· != '/')) (path.drop part.length)
  | c :: form, d :: path => c == d && matchesForm form path
  | _, _ => false
termination_by form => form.length
decreasing_by
  · have := (List.dropWhile_sublist (· != '/') (l := form)).length_le
    simp only [List.length_cons]
    omega
  · simp

/-- A target without the server that it may name before its path. -/
def withoutServer (target : List Char) : List Char :=
  if target.head? = some '/' then target
  else match target.dropWhile (· != ':') with
    | ':' :: '/' :: '/' :: rest => rest.dropWhile fun c => c != '/' && c != '?' && c != '#'
    | _ => target

/-- The path of a target, without what is asked of it. -/
def pathOf (target : String) : List Char :=
  (withoutServer target.toList).takeWhile fun c => c != '?' && c != '#'

def endpoint? (s : Service) (target : String) : Option Endpoint :=
  Endpoint.all.find? fun e => matchesForm (e.pathUnder s.base).toList (pathOf target)

def health (s : Service) (store : Option Store) : Json :=
  .object
    [("status", .text "ok"), ("version", .text programVersion),
     ("datastore", Json.ofText? (store.map fun _ => Store.name)),
     ("model", .bool s.desk.proposer.isSome)]

def outcomeReply : Except Fault Outcome × Option Store → Reply × Option Store
  | (.ok outcome, store) => (.json 200 outcome.toJson, store)
  | (.error fault, store) => (fault.reply, store)

def answerQuery (s : Service) (now : Timestamp) (p : Patience) (body : String)
    (store : Option Store) : Reply × Option Store :=
  match Json.readBody body with
  | .error rejection => (rejection.reply, store)
  | .ok j =>
    match Request.read s.desk.registry j with
    | .error fault => ((Fault.request fault).reply, store)
    | .ok request => outcomeReply (s.desk.answer now p request store)

def answerConfirmation (s : Service) (now : Timestamp) (p : Patience) (body : String)
    (store : Option Store) : Reply × Option Store :=
  match Confirmation.read body with
  | .error rejection => (rejection.reply, store)
  | .ok c => outcomeReply (s.desk.confirm now p c.intent c.confirmed store)

def bringsJson (call : Call) : Bool :=
  ((call.contentType.bind MediaType.read?).map MediaType.isJson).getD false

/-- The length in bytes that a body may have. -/
def longestBody : Nat := 2097152

/-- Answers a message to an endpoint. -/
def answerAt (s : Service) (now : Timestamp) (p : Patience) (call : Call) (store : Option Store)
    (e : Endpoint) : Reply × Option Store :=
  if e.isPosted then
    if call.method != "POST" then (.bare 405, store)
    else if !bringsJson call then (.bare 415, store)
    else if longestBody < call.body.utf8ByteSize then (.bare 413, store)
    else match e with
      | .query => s.answerQuery now p call.body store
      | _ => s.answerConfirmation now p call.body store
  else
    let j := match e with
      | .domains => (Overview.ofRegistry s.desk.registry).toJson
      | _ => s.health store
    if call.method = "GET" then (.json 200 j, store)
    else if call.method = "HEAD" then ({ Reply.json 200 j with body := none }, store)
    else (.bare 405, store)

/-- Answers a message. A service for pages of every origin says so in all replies, and permits
whatever it is asked for beforehand. -/
def answer (s : Service) (now : Timestamp) (p : Patience) (call : Call) (store : Option Store) :
    Reply × Option Store :=
  let (reply, store) :=
    if s.permitsOrigins && call.method == "OPTIONS" then (Reply.bare 200, store)
    else match s.endpoint? call.target with
      | some e => s.answerAt now p call store e
      | none => (.bare 404, store)
  if s.permitsOrigins then ({ reply with allowedOrigins := some "*" }, store) else (reply, store)

end Service

end CivicReport
