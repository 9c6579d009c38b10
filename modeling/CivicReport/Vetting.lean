import CivicReport.Intent
import CivicReport.Registry
import CivicReport.Json.Writing

/-!
Vetting of intents against a registry. What a lenient vetting only warns about, a strict one
refuses; it also wants the filters and the explanation to be there. Untrusted JSON becomes an
intent only here.
-/
namespace CivicReport

inductive Strictness where
  | lenient
  | strict
  deriving Repr, DecidableEq

namespace Vetting

def checkConfidence (x : Float) : Except RequestFault Unit :=
  if x.isFinite && 0.0 ≤ x && x ≤ 1.0 then .ok ()
  else .error (.confidenceOutOfRange (NumberStyle.shown.write x))

def filterWarning (key : String) (d : Domain) : String :=
  "unknown filter '" ++ key ++ "' for domain '" ++ d.key ++ "' ignored"

def fieldWarning (key : String) (d : Domain) : String :=
  "unknown field '" ++ key ++ "' for domain '" ++ d.key ++ "' ignored"

def unknownFilters (d : Domain) (f : Filters) : List String := f.keys.filter (!d.accepts ·)

def unknownFields (d : Domain) (fields : List String) : List String :=
  fields.filter fun key => (d.field? key).isNone

/-- The warnings about an intent, or the reason to refuse it. -/
def check (strictness : Strictness) (r : Registry) (i : Intent) :
    Except RequestFault (List String) :=
  if (Text.trim i.domain.toList).isEmpty then .error (.missingField "domain")
  else match r.domain? i.domain with
    | none => .error (.unknownDomain i.domain)
    | some d => do
      checkConfidence i.confidence
      let unknown := unknownFilters d i.filters
      match strictness, unknown with
      | .strict, key :: _ =>
        .error (.badShape "filters" ("filter " ++ key ++ " is not defined for domain " ++ d.key))
      | _, _ =>
        pure (unknown.map (filterWarning · d) ++
          (unknownFields d i.fields).map (fieldWarning · d))

/-! Reading untrusted JSON. -/

def requiredMembers : Strictness → List String
  | .lenient => ["domain", "action", "confidence"]
  | .strict => ["domain", "action", "confidence", "filters", "explanation"]

/-- A member that is there and not null. -/
def present? (members : List (String × Json)) (key : String) : Option Json :=
  match Json.lookup key members with
  | some .null => none
  | j => j

def checkPresent (members : List (String × Json)) : List String → Except RequestFault Unit
  | [] => .ok ()
  | key :: rest =>
    if (present? members key).isSome then checkPresent members rest
    else .error (.missingField key)

def readDomain (r : Registry) (j : Json) : Except RequestFault String :=
  match j with
  | .text key =>
    if (Text.trim key.toList).isEmpty then .error (.missingField "domain")
    else if (r.domain? key).isNone then .error (.unknownDomain key)
    else .ok key
  | j => .error (.unknownDomain j.compact)

def readAction (j : Json) : Except RequestFault Action :=
  match j with
  | .text name =>
    match Action.named? name with
    | some action => .ok action
    | none => .error (.unknownAction name)
  | j => .error (.unknownAction j.compact)

def readConfidence (j : Json) : Except RequestFault Float :=
  match j with
  | .number n => do
    checkConfidence n.toFloat
    pure n.toFloat
  | j => .error (.confidenceOutOfRange j.compact)

def readFilters (found : Filters) : List (String × Json) → Except RequestFault Filters
  | [] => .ok found
  | (key, j) :: rest =>
    match Scalar.ofJson? j with
    | some value => readFilters (found.insert key value) rest
    | none => .error (.badShape "filters" ("filter " ++ key ++ " must be a string or number"))

def filtersOf : Option Json → Except RequestFault Filters
  | none => .ok .empty
  | some (.object members) => readFilters .empty members
  | some _ => .error (.badShape "filters" "expected an object")

def fieldsOf : Option Json → Except RequestFault (List String)
  | none => .ok []
  | some (.array items) =>
    match items.mapM Json.text? with
    | some fields => .ok fields
    | none => .error (.badShape "fields" "expected an array of strings")
  | some _ => .error (.badShape "fields" "expected an array of strings")

def explanationOf : Option Json → Except RequestFault String
  | none => .ok ""
  | some (.text s) => .ok s
  | some _ => .error (.badShape "explanation" "expected a string")

def readMembers (strictness : Strictness) (r : Registry) (source : Source)
    (members : List (String × Json)) : Except RequestFault Intent := do
  checkPresent members (requiredMembers strictness)
  let member (key : String) : Json := (Json.lookup key members).getD .null
  let domain ← readDomain r (member "domain")
  let action ← readAction (member "action")
  let confidence ← readConfidence (member "confidence")
  let filters ← filtersOf (present? members "filters")
  let fields ← fieldsOf (present? members "fields")
  let explanation ← explanationOf (present? members "explanation")
  pure { domain, action, filters, fields, confidence, explanation, source }

/-- The intent that a JSON value describes, with the warnings about it. -/
def read (strictness : Strictness) (r : Registry) (source : Source) (j : Json) :
    Except RequestFault (Intent × List String) := do
  match j with
  | .object members =>
    let i ← readMembers strictness r source members
    let warnings ← check strictness r i
    pure (i, warnings)
  | _ => .error (.badShape "intent" "expected a JSON object")

end Vetting

end CivicReport
