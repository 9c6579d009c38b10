import CivicReport.Intent
import CivicReport.Json.Record
import CivicReport.Calendar.Timestamp

/-!
Intents as JSON documents. A document also tells when the intent was made. It is read without a
registry, by those who only pass it on. A filter value is read as the first variant that takes it;
main statement: that is the variant which its number is classed under.
-/
namespace CivicReport

open Json (required withDefault)

structure DatedIntent where
  intent : Intent
  time : Timestamp

namespace Intent

/-- The members of a document apart from the time. -/
def toMembers (i : Intent) : List (String × Json) :=
  [("domain", .text i.domain), ("action", .text i.action.name), ("filters", i.filters.toJson)] ++
  (if i.fields.isEmpty then [] else [("fields", Json.texts i.fields)]) ++
  [("confidence", Json.ofFloat i.confidence), ("explanation", .text i.explanation),
   ("source", .text i.source.name)]

end Intent

def Timestamp.toJson (t : Timestamp) : Json := .text t.write

def Timestamp.ofJson? (j : Json) : Option Timestamp := j.text?.bind read?

def Source.ofJson? (j : Json) : Option Source := j.tag?.bind named?

namespace Scalar

/-- A reader for each variant, in the order in which they are tried. -/
def variants : List (Json → Option Scalar) :=
  [fun j => j.int64?.map integer, fun j => j.float?.map decimal, fun j => j.text?.map text]

/-- The first variant that takes a value. -/
def ofVariants? (j : Json) : Option Scalar := variants.findSome? (· j)

theorem ofVariants?_eq_ofJson? (j : Json) : ofVariants? j = ofJson? j := by
  cases j with
  | number n =>
    simp only [ofVariants?, variants, List.findSome?_cons, Json.int64?, Json.float?, ofJson?,
      ofNumber]
    cases n.int64? with
    | some i => rfl
    | none => rfl
  | null | bool _ | text _ | array _ | object _ => rfl

end Scalar

def Filters.ofJson? : Json → Option Filters
  | .object members =>
    (members.mapM fun m => (Scalar.ofVariants? m.2).map fun v => (m.1, v)).map ofList
  | _ => none

namespace DatedIntent

def names : List String :=
  ["domain", "action", "filters", "fields", "confidence", "explanation", "source", "timestamp"]

def toJson (d : DatedIntent) : Json :=
  .object (d.intent.toMembers ++ [("timestamp", d.time.toJson)])

/-- Reads a document, and the names out of fixed sets in it by `tag?`. -/
def ofJsonBy? (tag? : Json → Option String) (j : Json) : Option DatedIntent := do
  match ← j.fields? names with
  | [domain, action, filters, fields, confidence, explanation, source, time] =>
    let intent : Intent := {
      domain := ← required Json.text? domain
      action := ← required (fun j => (tag? j).bind Action.named?) action
      filters := ← withDefault .empty Filters.ofJson? filters
      fields := ← withDefault [] Json.texts? fields
      confidence := ← required Json.float? confidence
      explanation := ← withDefault "" Json.text? explanation
      source := ← required (fun j => (tag? j).bind Source.named?) source }
    pure ⟨intent, ← required Timestamp.ofJson? time⟩
  | _ => none

def ofJson? (j : Json) : Option DatedIntent := ofJsonBy? Json.tag? j

end DatedIntent

end CivicReport
