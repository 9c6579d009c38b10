import CivicReport.Registry.Document

/-! What clients are told about a registry: its domains, and what their fields are for. -/
namespace CivicReport

open Json (required)

structure FieldSummary where
  key : String
  label : String
  kind : FieldKind
  filterable : Bool
  deriving Repr, DecidableEq

structure DomainSummary where
  key : String
  label : String
  description : String
  fields : List FieldSummary
  deriving Repr, DecidableEq

structure Overview where
  domains : List DomainSummary
  total : Nat
  deriving Repr, DecidableEq

namespace FieldSummary

def ofField (f : Field) : FieldSummary := ⟨f.key, f.label, f.kind, f.filterable⟩

def toJson (f : FieldSummary) : Json :=
  .object
    [("key", .text f.key), ("label", .text f.label), ("type", .text f.kind.name),
     ("filterable", .bool f.filterable)]

def ofJson? (j : Json) : Option FieldSummary := do
  match ← j.fields? ["key", "label", "type", "filterable"] with
  | [key, label, kind, filterable] =>
    pure {
      key := ← required Json.text? key
      label := ← required Json.text? label
      kind := ← required FieldKind.ofJson? kind
      filterable := ← required Json.bool? filterable }
  | _ => none

end FieldSummary

namespace DomainSummary

def ofDomain (d : Domain) : DomainSummary :=
  ⟨d.key, d.label, d.description, d.fields.map FieldSummary.ofField⟩

def toJson (d : DomainSummary) : Json :=
  .object
    [("key", .text d.key), ("label", .text d.label), ("description", .text d.description),
     ("fields", .array (d.fields.map FieldSummary.toJson))]

def ofJson? (j : Json) : Option DomainSummary := do
  match ← j.fields? ["key", "label", "description", "fields"] with
  | [key, label, description, fields] =>
    pure {
      key := ← required Json.text? key
      label := ← required Json.text? label
      description := ← required Json.text? description
      fields := ← required (Json.list? FieldSummary.ofJson?) fields }
  | _ => none

end DomainSummary

namespace Overview

def ofRegistry (r : Registry) : Overview := ⟨r.domains.map DomainSummary.ofDomain, r.domains.length⟩

def toJson (o : Overview) : Json :=
  .object [("domains", .array (o.domains.map DomainSummary.toJson)), ("total", Json.ofInt o.total)]

def ofJson? (j : Json) : Option Overview := do
  match ← j.fields? ["domains", "total"] with
  | [domains, total] =>
    pure ⟨← required (Json.list? DomainSummary.ofJson?) domains, ← required Json.count? total⟩
  | _ => none

end Overview

end CivicReport
