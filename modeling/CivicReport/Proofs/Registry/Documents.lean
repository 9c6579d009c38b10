import CivicReport.Registry.Document
import CivicReport.Proofs.Json.Texts
import CivicReport.Proofs.Registry.Acceptance

/-!
The registry as a JSON document, there and back. Every record is written under the names that its
reader looks for, and what counts of the document is all that is written. Main statement: a
registry is loaded from its document as it was.
-/
namespace CivicReport

open Json (written fields?_written texts optional_map Plain plain_texts plain_written)

namespace Field

def values (f : Field) : List (Option Json) :=
  [some (.text f.key), some (.text f.label), some (.text f.kind.name), f.enumValues.map texts,
   f.foreignKey.map .text, some (.bool f.filterable), some (.bool f.searchable),
   some (.bool f.aggregatable), f.derivedFrom.map .text]

theorem toJson_eq_written (f : Field) : f.toJson = .object (written names f.values) := by
  unfold toJson values
  cases f.enumValues <;> cases f.foreignKey <;> cases f.derivedFrom <;> rfl

theorem ofJson?_toJson (f : Field) : ofJson? f.toJson = some f := by
  have hkind : FieldKind.ofJson? (.text f.kind.name) = some f.kind := FieldKind.named?_name f.kind
  have henum : Json.optional Json.texts? (f.enumValues.map texts) = some f.enumValues :=
    optional_map texts Json.texts?_texts rfl _
  have htext (t : Option String) : Json.optional Json.text? (t.map .text) = some t :=
    optional_map .text (fun _ => rfl) rfl _
  rw [ofJson?, toJson_eq_written, fields?_written (by decide) rfl]
  simp only [values, Option.bind_eq_bind, Option.bind_some, Json.required_some,
    Json.withDefault_some, hkind, henum, htext, Json.text?, Json.bool?]
  rfl

def scope : Json.Scope := .members (names.map fun name => (name, .whole))

theorem plain_toJson (f : Field) (room : Nat) : Plain (room + 2) scope f.toJson := by
  rw [toJson_eq_written]
  have hvalues : ∀ value ∈ f.values, ∀ j, value = some j → Plain (room + 1) .whole j := by
    simp [values, Plain.text, Plain.bool, plain_texts]
  refine plain_written (fun _ => .whole) fun m hm => ?_
  exact hvalues _ (Json.some_mem_of_mem_written hm).2 m.2 rfl

end Field

namespace Domain

def keywordNames : List String := ["primary", "secondary"]

def keywordValues (d : Domain) : List (Option Json) :=
  [some (texts d.primaryWords), some (texts d.secondaryWords)]

def values (d : Domain) : List (Option Json) :=
  [some (.text d.key), some (.text d.label), some (.text d.description), some (.text d.table),
   some (.text d.primaryKey), some (.array (d.fields.map Field.toJson)),
   some (texts d.defaultFields), some (.object (written keywordNames d.keywordValues)),
   some (.bool d.isFallback)]

theorem toJson_eq_written (d : Domain) : d.toJson = .object (written names d.values) := rfl

theorem keywordsOfJson?_written (d : Domain) :
    keywordsOfJson? (.object (written keywordNames d.keywordValues)) =
      some (d.primaryWords, d.secondaryWords) := by
  have hfields : Json.fields? ["primary", "secondary"]
      (.object (written keywordNames d.keywordValues)) = some d.keywordValues :=
    fields?_written (by decide) rfl
  rw [keywordsOfJson?, hfields]
  simp only [keywordValues, Option.bind_eq_bind, Option.bind_some, Json.withDefault_some,
    Json.texts?_texts]
  rfl

theorem ofJson?_toJson (d : Domain) : ofJson? d.toJson = some d := by
  have hfields : (Json.array (d.fields.map Field.toJson)).list? Field.ofJson? = some d.fields :=
    Json.list?_array_map Field.toJson Field.ofJson?_toJson d.fields
  rw [ofJson?, toJson_eq_written, fields?_written (by decide) rfl]
  simp only [values, Option.bind_eq_bind, Option.bind_some, Json.required_some,
    Json.withDefault_some, d.keywordsOfJson?_written, hfields, Json.texts?_texts, Json.text?,
    Json.bool?]
  rfl

def keywords : Json.Scope := .members (keywordNames.map fun name => (name, .whole))

def part (name : String) : Json.Scope :=
  if name = "fields" then .items Field.scope else if name = "keywords" then keywords else .whole

def scope : Json.Scope := .members (names.map fun name => (name, part name))

theorem plain_toJson (d : Domain) (room : Nat) : Plain (room + 4) scope d.toJson := by
  have hfields : Plain (room + 3) (.items Field.scope) (.array (d.fields.map Field.toJson)) := by
    refine .array (fun _ => rfl) fun j hj => ?_
    obtain ⟨f, -, rfl⟩ := List.mem_map.1 hj
    exact f.plain_toJson room
  have hkeywords :
      Plain (room + 3) keywords (.object (written keywordNames d.keywordValues)) := by
    refine plain_written (fun _ => .whole) ?_
    simp [written, keywordNames, keywordValues, plain_texts]
  rw [toJson_eq_written]
  refine plain_written part ?_
  simp [written, names, values, part, Plain.text, Plain.bool, plain_texts, hfields, hkeywords]

end Domain

namespace Registry

variable {domains : List Domain} {r : Registry}

theorem toJson_eq_written (r : Registry) : r.toJson =
    .object (written ["domains"] [some (.array (r.domains.map Domain.toJson))]) := rfl

theorem domainsOfJson?_toJson (r : Registry) : domainsOfJson? r.toJson = some r.domains := by
  have hdomains : (Json.array (r.domains.map Domain.toJson)).list? Domain.ofJson? =
      some r.domains := Json.list?_array_map Domain.toJson Domain.ofJson?_toJson r.domains
  rw [domainsOfJson?, toJson_eq_written, fields?_written (by decide) rfl]
  exact hdomains

theorem scope_eq : scope = .members (["domains"].map fun name => (name, .items Domain.scope)) := rfl

theorem plain_toJson (r : Registry) (room : Nat) : Plain (room + 6) scope r.toJson := by
  rw [toJson_eq_written, scope_eq]
  refine plain_written (fun _ => .items Domain.scope) fun m hm => ?_
  obtain rfl := List.mem_singleton.1 hm
  refine .array (fun _ => rfl) fun j hj => ?_
  obtain ⟨d, -, rfl⟩ := List.mem_map.1 hj
  exact d.plain_toJson room

/-- A registry is loaded, as it was, from every text that stands for its document. One such text
is the document written out. -/
theorem read_toJson (h : ofDomains domains = .ok r) :
    (∀ content, Json.readRaw? scope content = some r.toJson → read content = .ok r) ∧
      Json.readRaw? scope r.toJson.compact = some r.toJson ∧ read r.toJson.compact = .ok r := by
  have hload (content : String) (hcontent : Json.readRaw? scope content = some r.toJson) :
      read content = .ok r := by
    rw [read, hcontent]
    change ofJson r.toJson = .ok r
    rw [ofJson, domainsOfJson?_toJson, domains_of_ofDomains h]
    exact h
  have hwritten : Json.readRaw? scope r.toJson.compact = some r.toJson :=
    Json.readRaw?_compact (plain_toJson r 121)
  exact ⟨hload, hwritten, hload _ hwritten⟩

/-- A domain in which each part that may be left out is there once. -/
def fines : Domain where
  key := "fines"
  label := "Fines \"by\tstate\""
  description := "Backslash \\ and bell \x07"
  table := "fines"
  primaryKey := "number"
  fields :=
    [{ key := "state", label := "State", kind := .enumeration, enumValues := some ["open", "paid"],
       filterable := true },
     { key := "payer", label := "Payer", kind := .text, foreignKey := some "people.name" },
     { key := "days", label := "Days", kind := .integer, aggregatable := true,
       derivedFrom := some "state" }]
  defaultFields := ["state", "days"]
  primaryWords := ["fine"]

theorem read_toJson_fines :
    ofDomains [fines, people] = .ok ⟨[fines, people], people⟩ ∧
      read (toJson ⟨[fines, people], people⟩).compact = .ok ⟨[fines, people], people⟩ := by
  have haccepted : ofDomains [fines, people] = .ok ⟨[fines, people], people⟩ := by rfl
  exact ⟨haccepted, (read_toJson haccepted).2.2⟩

end Registry

end CivicReport
