import CivicReport.Registry
import CivicReport.Json.Record
import CivicReport.Json.Reading

/-! The registry as a JSON document. -/
namespace CivicReport

open Json (required withDefault optional)

namespace FieldKind

def ofJson? (j : Json) : Option FieldKind := j.tag?.bind named?

end FieldKind

namespace Field

def names : List String :=
  ["key", "label", "type", "enumValues", "foreignKey", "filterable", "searchable",
   "aggregatable", "derivedFrom"]

def toJson (f : Field) : Json :=
  .object <|
    [("key", .text f.key), ("label", .text f.label), ("type", .text f.kind.name)] ++
    (f.enumValues.toList.map fun values => ("enumValues", Json.texts values)) ++
    (f.foreignKey.toList.map fun reference => ("foreignKey", .text reference)) ++
    [("filterable", .bool f.filterable), ("searchable", .bool f.searchable),
     ("aggregatable", .bool f.aggregatable)] ++
    (f.derivedFrom.toList.map fun source => ("derivedFrom", .text source))

def ofJson? (j : Json) : Option Field := do
  match ← j.fields? names with
  | [key, label, kind, enumValues, foreignKey, filterable, searchable, aggregatable, source] =>
    pure {
      key := ← required Json.text? key
      label := ← required Json.text? label
      kind := ← required FieldKind.ofJson? kind
      enumValues := ← optional Json.texts? enumValues
      foreignKey := ← optional Json.text? foreignKey
      filterable := ← withDefault false Json.bool? filterable
      searchable := ← withDefault false Json.bool? searchable
      aggregatable := ← withDefault false Json.bool? aggregatable
      derivedFrom := ← optional Json.text? source }
  | _ => none

end Field

namespace Domain

def names : List String :=
  ["key", "label", "description", "table", "primaryKey", "fields", "defaultFields", "keywords",
   "fallback"]

def toJson (d : Domain) : Json :=
  .object
    [("key", .text d.key), ("label", .text d.label), ("description", .text d.description),
     ("table", .text d.table), ("primaryKey", .text d.primaryKey),
     ("fields", .array (d.fields.map Field.toJson)),
     ("defaultFields", Json.texts d.defaultFields),
     ("keywords", .object
       [("primary", Json.texts d.primaryWords), ("secondary", Json.texts d.secondaryWords)]),
     ("fallback", .bool d.isFallback)]

/-- The words that speak for a domain, strong ones and weak ones. -/
def keywordsOfJson? (j : Json) : Option (List String × List String) := do
  match ← j.fields? ["primary", "secondary"] with
  | [strong, weak] =>
    pure (← withDefault [] Json.texts? strong, ← withDefault [] Json.texts? weak)
  | _ => none

def ofJson? (j : Json) : Option Domain := do
  match ← j.fields? names with
  | [key, label, description, table, primaryKey, fields, defaultFields, keywords, fallback] =>
    let (strong, weak) ← withDefault ([], []) keywordsOfJson? keywords
    pure {
      key := ← required Json.text? key
      label := ← required Json.text? label
      description := ← withDefault "" Json.text? description
      table := ← required Json.text? table
      primaryKey := ← required Json.text? primaryKey
      fields := ← required (Json.list? Field.ofJson?) fields
      defaultFields := ← required Json.texts? defaultFields
      primaryWords := strong
      secondaryWords := weak
      isFallback := ← withDefault false Json.bool? fallback }
  | _ => none

end Domain

namespace Registry

def toJson (r : Registry) : Json := .object [("domains", .array (r.domains.map Domain.toJson))]

def domainsOfJson? (j : Json) : Option (List Domain) := do
  match ← j.fields? ["domains"] with
  | [domains] => required (Json.list? Domain.ofJson?) domains
  | _ => none

def ofJson (j : Json) : Except SetupFault Registry :=
  match domainsOfJson? j with
  | some domains => ofDomains domains
  | none => .error .malformedRegistry

/-- What a registry consists of. Other members are not read. -/
def scope : Json.Scope :=
  let parts (names : List String) : List (String × Json.Scope) := names.map fun n => (n, .whole)
  let keywords := Json.Scope.members (parts ["primary", "secondary"])
  let field := Json.Scope.members (parts Field.names)
  let domain := Json.Scope.members <| Domain.names.map fun name =>
    (name, if name = "fields" then .items field else if name = "keywords" then keywords else .whole)
  .members [("domains", .items domain)]

/-- Reads a registry from its text. -/
def read (content : String) : Except SetupFault Registry :=
  match Json.readRaw? scope content with
  | some j => ofJson j
  | none => .error .malformedRegistry

end Registry

end CivicReport
