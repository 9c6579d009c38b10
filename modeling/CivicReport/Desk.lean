import CivicReport.Question.Interpretation
import CivicReport.Vetting
import CivicReport.Proposal.Answer
import CivicReport.Proposal.Contract
import CivicReport.Report

/-!
The desk that requests come to. A question is read, by a model if there is one and otherwise by
rules; a reading that is not certain enough goes back to be confirmed; a certain one is compiled,
run and reported.
-/
namespace CivicReport

inductive Request where
  | question (text : String)
  | structured (domain : String) (action : Action) (fields : List String) (filters : Filters)

namespace Request

/-- The members of a structured request as those of an intent: a list unless it says otherwise,
and certain whatever it says. -/
def asIntentMembers (members : List (String × Json)) : List (String × Json) :=
  let members := match Json.lookup "action" members with
    | some _ => members
    | none => Json.putMember "action" (.text Action.list.name) members
  Json.putMember "confidence" (.number (.real 1.0)) members

/-- A request is a question, or else names a domain. -/
def read (r : Registry) : Json → Except RequestFault Request
  | .object members =>
    match Json.lookup "query" members with
    | some (.text text) => .ok (.question text)
    | some _ => .error (.badShape "query" "expected a string")
    | none =>
      match Json.lookup "domain" members with
      | none => .error (.missingField "query")
      | some _ => do
        let (i, _) ← Vetting.read .lenient r .caller (.object (asIntentMembers members))
        pure (.structured i.domain i.action i.fields i.filters)
  | _ => .error (.badShape "request" "expected a JSON object")

/-- A structured request as an intent. -/
def intentOf (domain : String) (action : Action) (fields : List String) (filters : Filters) :
    Intent where
  domain := domain
  action := action
  filters := filters
  fields := fields
  confidence := 1.0
  explanation := "בקשה מובנית"
  source := .caller

end Request

structure Desk where
  registry : Registry
  proposer : Option Proposer := none
  proposerTimeout : Nat := 8000
  longestQuestion : Nat := 500
  /-- Readings below this confidence have to be confirmed. -/
  threshold : Float := 0.6
  rowCap : Nat := Plan.defaultRowCap
  retry : RetryPolicy := {}

/-- What a model is asked. -/
structure Inquiry where
  question : String
  contract : Contract

namespace Desk

/-! Reading questions. -/

def prepare (longest : Nat) (text : String) : Except Fault Question :=
  if (Text.trim text.toList).isEmpty then .error (.request .emptyQuestion)
  else if longest < text.length then
    .error (.interpretation ("query longer than " ++ natText longest ++ " characters"))
  else .ok (Question.ofText text)

/-- The reading by rules, and the fallback if there is none or it does not fit the registry. -/
def readByRules (r : Registry) (q : Question) : Intent :=
  match Interpretation.byRules? r q with
  | none => Interpretation.fallback r q
  | some i =>
    match Vetting.check .lenient r i with
    | .ok _ => i
    | .error _ => Interpretation.fallback r q

def parseByRules (r : Registry) (longest : Nat) (text : String) : Except Fault Intent := do
  let q ← prepare longest text
  pure (readByRules r q)

/-- How long a proposal is waited for. -/
def proposalWait (desk : Desk) (p : Proposer) : Nat := min p.delay desk.proposerTimeout

/-- What a model proposes, if it is in time and keeps to the contract. -/
def proposal (desk : Desk) (p : Proposer) : Except ModelFault Intent :=
  if desk.proposerTimeout < p.delay then .error (.timeout desk.proposerTimeout)
  else do
    let j ← p.answer
    match Vetting.read .strict desk.registry .model j with
    | .ok (i, _) => pure i
    | .error fault => .error (.badAnswer fault.message)

/-- A question as it is read once a model has answered. -/
def readProposed (desk : Desk) (p : Proposer) (q : Question) : Intent :=
  match desk.proposal p with
  | .ok i => i
  | .error _ => readByRules desk.registry q

def readQuestion (desk : Desk) (q : Question) : Intent :=
  match desk.proposer with
  | none => readByRules desk.registry q
  | some p => desk.readProposed p q

/-- The time that reading a question takes. -/
def readingWait (desk : Desk) : Nat :=
  match desk.proposer with
  | none => 0
  | some p => desk.proposalWait p

def inquiry (desk : Desk) (q : Question) : Inquiry := ⟨q.rawText, Contract.ofRegistry desk.registry⟩

/-- Parsing where a model, if there is one, is asked in the course of it, with whatever effects that
has. -/
def parseAsking {m : Type → Type} [Monad m] (desk : Desk) (ask : Option (Inquiry → m Proposer))
    (text : String) : m (Except Fault Intent) :=
  match prepare desk.longestQuestion text with
  | .error fault => pure (.error fault)
  | .ok q =>
    match ask with
    | none => pure (.ok (readByRules desk.registry q))
    | some ask => do
      let p ← ask (desk.inquiry q)
      pure (.ok (desk.readProposed p q))

/-- Parsing with the model of the desk, which answers without effects. -/
def parse (desk : Desk) (text : String) : Except Fault Intent :=
  (desk.parseAsking (m := Id) (desk.proposer.map fun p _ => p) text).run

theorem parse_eq (desk : Desk) (text : String) :
    desk.parse text = (prepare desk.longestQuestion text).map desk.readQuestion := by
  unfold parse parseAsking readQuestion
  cases prepare desk.longestQuestion text with
  | error fault => rfl
  | ok q => cases desk.proposer <;> rfl

/-! Running intents. -/

/-- The plan of an intent, with the warnings about it. -/
def compile (desk : Desk) (i : Intent) : Except Fault (Domain × Plan × List String) := do
  match Vetting.check .lenient desk.registry i with
  | .error fault => .error (.request fault)
  | .ok warnings =>
    match desk.registry.domain? i.domain with
    | none => .error (.request (.unknownDomain i.domain))
    | some d =>
      match d.plan desk.rowCap i with
      | .error fault => .error (.setup fault)
      | .ok plan => pure (d, plan, warnings)

/-- Runs an intent against a store, as far as the patience lasts. -/
def executeWithin (desk : Desk) (now : Timestamp) (p : Patience) (i : Intent)
    (store : Option Store) : Except Fault Report × Option Store :=
  match desk.compile i with
  | .error fault => (.error fault, store)
  | .ok (d, plan, warnings) =>
    match store with
    | none => (.error (.store .notConfigured), none)
    | some store =>
      match store.fetch desk.retry plan.statement desk.retry.retries p with
      | (.error fault, store) => (.error fault, some store)
      | (.ok rows, store) =>
        let report := Report.ofRows desk.rowCap now rows i d
        (.ok { report with warnings := report.warnings ++ warnings }, some store)

def execute (desk : Desk) (now : Timestamp) (i : Intent) (store : Option Store) :
    Except Fault Report × Option Store :=
  desk.executeWithin now none i store

def completed : Except Fault Report × Option Store → Except Fault Outcome × Option Store
  | (.ok report, store) => (.ok (.completed report), store)
  | (.error fault, store) => (.error fault, store)

def confirmationMessage (i : Intent) : String :=
  "הפענוח אינו ודאי (רמת ביטחון " ++ fixedText 0 (i.confidence * 100.0) ++ "%). " ++
    i.explanation ++ ". יש לאשר לפני הרצה."

/-- Answers a question that has been read. -/
def answerIntent (desk : Desk) (now : Timestamp) (p : Patience) (i : Intent)
    (store : Option Store) : Except Fault Outcome × Option Store :=
  if i.confidence < desk.threshold then
    (.ok (.needsConfirmation ⟨i, now⟩ (confirmationMessage i)), store)
  else completed (desk.executeWithin now p i store)

/-- Answers a request. Nothing happens if it was given up before it began. -/
def answer (desk : Desk) (now : Timestamp) (p : Patience) (request : Request)
    (store : Option Store) : Except Fault Outcome × Option Store :=
  if p.isOver then (.error .cancelled, store)
  else match request with
    | .question text =>
      match prepare desk.longestQuestion text with
      | .error fault => (.error fault, store)
      | .ok q =>
        match p.after? desk.readingWait with
        | none => (.error .cancelled, store)
        | some p => desk.answerIntent now p (desk.readQuestion q) store
    | .structured domain action fields filters =>
      completed
        (desk.executeWithin now p (Request.intentOf domain action fields filters) store)

/-- The source that a document names, and the caller if it names none. -/
def sourceOf (j : Json) : Source := ((j.get? "source").bind Source.ofJson?).getD .caller

/-- Runs an intent that was sent back, or drops it, as the caller decides. -/
def confirm (desk : Desk) (now : Timestamp) (p : Patience) (j : Json) (confirmed : Bool)
    (store : Option Store) : Except Fault Outcome × Option Store :=
  if p.isOver then (.error .cancelled, store)
  else if !confirmed then (.ok .declined, store)
  else match Vetting.read .lenient desk.registry (sourceOf j) j with
    | .error fault => (.error (.request fault), store)
    | .ok (i, _) => completed (desk.executeWithin now p i store)

end Desk

end CivicReport
