import CivicReport.Desk
import CivicReport.Registry.Municipal
import CivicReport.Proofs.Vetting.Grammar

/-!
Two readers of one document. One takes the members as the fields of a record and tries the variants
of a filter value in turn; the other vets them against a registry and classes numbers itself. Main
statement: a value that both accept is the same intent to both.
-/
namespace CivicReport

namespace Json

variable {α : Type} {read : Json → Option α} {found : Option Json} {a : α}

theorem required_eq_some_iff :
    required read found = some a ↔ ∃ j, found = some j ∧ read j = some a := by
  cases found with
  | none => simp [required]
  | some j => simp [required]

theorem withDefault_eq_some_iff {default : α} : withDefault default read found = some a ↔
    found = none ∧ a = default ∨ ∃ j, found = some j ∧ read j = some a := by
  cases found with
  | none => simp [withDefault, eq_comm]
  | some j => simp [withDefault]

theorem text?_eq_some_iff {j : Json} {s : String} : j.text? = some s ↔ j = .text s := by
  cases j with
  | text t => simp [text?]
  | null | bool _ | number _ | array _ | object _ => simp [text?]

theorem float?_eq_some_iff {j : Json} {x : Float} :
    j.float? = some x ↔ ∃ n, j = .number n ∧ n.toFloat = x := by
  cases j with
  | number n => simp [float?]
  | null | bool _ | text _ | array _ | object _ => simp [float?]

theorem texts?_eq_some_iff {j : Json} {items : List String} :
    j.texts? = some items ↔ j = texts items := by
  cases j with
  | array given => simpa [texts?, list?, items?, texts] using mapM_text?_eq_some_iff
  | null | bool _ | number _ | text _ | object _ => simp [texts?, list?, items?, texts]

end Json

namespace DatedIntent

variable {tag? : Json → Option String} {members : List (String × Json)} {d : DatedIntent}

/-- What the members of an object are as fields of a document, one by one. -/
structure IsRead (tag? : Json → Option String) (members : List (String × Json))
    (d : DatedIntent) : Prop where
  domain : Json.lookup "domain" members = some (.text d.intent.domain)
  action : ∃ j, Json.lookup "action" members = some j ∧
    (tag? j).bind Action.named? = some d.intent.action
  filters : Json.lookup "filters" members = none ∧ d.intent.filters = .empty ∨
    ∃ j, Json.lookup "filters" members = some j ∧ Filters.ofJson? j = some d.intent.filters
  fields : Json.lookup "fields" members = none ∧ d.intent.fields = [] ∨
    Json.lookup "fields" members = some (Json.texts d.intent.fields)
  confidence : ∃ n : Number, Json.lookup "confidence" members = some (.number n) ∧
    n.toFloat = d.intent.confidence
  explanation : Json.lookup "explanation" members = none ∧ d.intent.explanation = "" ∨
    Json.lookup "explanation" members = some (.text d.intent.explanation)
  source : ∃ j, Json.lookup "source" members = some j ∧
    (tag? j).bind Source.named? = some d.intent.source

theorem isRead_of_ofJsonBy? (h : ofJsonBy? tag? (.object members) = some d) :
    d.IsRead tag? members := by
  rw [ofJsonBy?] at h
  obtain ⟨values, hvalues, h⟩ := Option.bind_eq_some_iff.1 h
  rw [Json.fields?] at hvalues
  split at hvalues
  · contradiction
  · obtain rfl := Option.some.inj hvalues
    obtain ⟨domain, hdomain, h⟩ := Option.bind_eq_some_iff.1 h
    obtain ⟨action, haction, h⟩ := Option.bind_eq_some_iff.1 h
    obtain ⟨filters, hfilters, h⟩ := Option.bind_eq_some_iff.1 h
    obtain ⟨fields, hfields, h⟩ := Option.bind_eq_some_iff.1 h
    obtain ⟨confidence, hconfidence, h⟩ := Option.bind_eq_some_iff.1 h
    obtain ⟨explanation, hexplanation, h⟩ := Option.bind_eq_some_iff.1 h
    obtain ⟨source, hsource, h⟩ := Option.bind_eq_some_iff.1 h
    obtain ⟨time, -, h⟩ := Option.bind_eq_some_iff.1 h
    obtain rfl := Option.some.inj h
    simp only [Json.required_eq_some_iff, Json.withDefault_eq_some_iff, Json.text?_eq_some_iff,
      Json.float?_eq_some_iff, Json.texts?_eq_some_iff, exists_eq_right]
      at hdomain haction hfilters hfields hconfidence hexplanation hsource
    refine ⟨hdomain, haction, hfilters, hfields, ?_, hexplanation, hsource⟩
    obtain ⟨_, hlookup, n, rfl, hn⟩ := hconfidence
    exact ⟨n, hlookup, hn⟩

/-- The source that a document names is the one that it is confirmed with. -/
theorem IsRead.sourceOf_eq (h : d.IsRead Json.tag? members) :
    Desk.sourceOf (.object members) = d.intent.source := by
  obtain ⟨j, hlookup, hsource⟩ := h.source
  have hget : (Json.object members).get? "source" = some j := hlookup
  rw [Desk.sourceOf, hget, Option.bind_some, Source.ofJson?, hsource, Option.getD_some]

end DatedIntent

namespace Vetting

open DatedIntent (IsRead isRead_of_ofJsonBy?)

variable {r : Registry} {source : Source} {members entries : List (String × Json)} {i : Intent}
variable {tag? : Json → Option String} {d : DatedIntent} {j : Json} {warnings : List String}

/-- Both readers put the values of filters in one after another. -/
theorem readFilters_of_mapM {pairs : List (String × Scalar)}
    (h : entries.mapM (fun m => (Scalar.ofVariants? m.2).map fun v => (m.1, v)) = some pairs)
    (found : Filters) :
    readFilters found entries = .ok (pairs.foldl (fun f e => f.insert e.1 e.2) found) := by
  induction entries generalizing pairs found with
  | nil =>
    obtain rfl := Option.some.inj h
    rfl
  | cons m rest ih =>
    rw [List.mapM_cons] at h
    obtain ⟨e, he, h⟩ := Option.bind_eq_some_iff.1 h
    obtain ⟨others, hothers, h⟩ := Option.bind_eq_some_iff.1 h
    obtain rfl := Option.some.inj h
    obtain ⟨v, hv, rfl⟩ := Option.map_eq_some_iff.1 he
    rw [Scalar.ofVariants?_eq_ofJson?] at hv
    rw [readFilters, hv]
    exact ih hothers (found.insert m.1 v)

theorem filtersOf_of_ofJson? {f : Filters} (h : Filters.ofJson? j = some f) :
    filtersOf (some j) = .ok f := by
  cases j with
  | object entries =>
    obtain ⟨pairs, hpairs, rfl⟩ := Option.map_eq_some_iff.1 h
    exact readFilters_of_mapM hpairs .empty
  | null | bool _ | number _ | text _ | array _ => contradiction

theorem filtersOf_of_isRead (h : d.IsRead tag? members) :
    filtersOf (present? members "filters") = .ok d.intent.filters := by
  rcases h.filters with ⟨hlookup, hempty⟩ | ⟨j, hlookup, hj⟩
  · rw [present?_eq_none_iff.2 (.inl hlookup), hempty]
    rfl
  · have hnull : j ≠ .null := by
      rintro rfl
      contradiction
    rw [present?_eq_some_iff.2 ⟨hlookup, hnull⟩, filtersOf_of_ofJson? hj]

theorem fieldsOf_of_isRead (h : d.IsRead tag? members) :
    fieldsOf (present? members "fields") = .ok d.intent.fields := by
  rw [fieldsOf_eq_ok_iff, present?_eq_none_iff, present?_eq_some_iff]
  exact h.fields.imp (And.imp_left .inl) fun hlookup => ⟨hlookup, nofun⟩

theorem explanationOf_of_isRead (h : d.IsRead tag? members) :
    explanationOf (present? members "explanation") = .ok d.intent.explanation := by
  rw [explanationOf_eq_ok_iff, present?_eq_none_iff, present?_eq_some_iff]
  exact h.explanation.imp (And.imp_left .inl) fun hlookup => ⟨hlookup, nofun⟩

/-- Members that both readers accept are one intent, whatever source it is vetted with. -/
theorem eq_of_readMembers (htag : ∀ s, tag? (.text s) = some s) (hread : d.IsRead tag? members)
    (h : readMembers .lenient r source members = .ok i) :
    i = { d.intent with source := source } := by
  obtain ⟨-, hdomain, haction, hconfidence, hfilters, hfields, hexplanation, hsource⟩ :=
    readMembers_eq_ok_iff.1 h
  rw [readDomain_eq_ok_iff, getD_eq_text_iff, hread.domain] at hdomain
  rw [readAction_eq_ok_iff, getD_eq_text_iff] at haction
  obtain ⟨n, hn, -, hx⟩ := readConfidence_eq_ok_iff.1 hconfidence
  rw [getD_eq_number_iff] at hn
  have hsameDomain : d.intent.domain = i.domain := by simpa using hdomain.1
  have hsameAction : d.intent.action = i.action := by
    obtain ⟨j, hj, hnamed⟩ := hread.action
    obtain rfl := Option.some.inj (haction.symm.trans hj)
    rw [htag, Option.bind_some, Action.named?_name] at hnamed
    exact (Option.some.inj hnamed).symm
  have hsameConfidence : d.intent.confidence = i.confidence := by
    obtain ⟨m, hm, hvalue⟩ := hread.confidence
    obtain rfl := Json.number.inj (Option.some.inj (hn.symm.trans hm))
    rw [← hvalue, hx]
  have hsameFilters := Except.ok.inj ((filtersOf_of_isRead hread).symm.trans hfilters)
  have hsameFields := Except.ok.inj ((fieldsOf_of_isRead hread).symm.trans hfields)
  have hsameExplanation := Except.ok.inj ((explanationOf_of_isRead hread).symm.trans hexplanation)
  dsimp only
  rw [hsameDomain, hsameAction, hsameFilters, hsameFields, hsameConfidence, hsameExplanation,
    ← hsource]

/-- A value that both readers accept is the same intent to both: domain, action, every filter in
the same variant, fields, confidence and explanation. With the source that the value names, which
is the one it is confirmed with, it is the same in all; within an outcome a name may be written in
one more way, and then the source is what it is vetted with. -/
theorem intent_eq_of_read (hread : read .lenient r source j = .ok (i, warnings)) :
    (∀ d, DatedIntent.ofJson? j = some d → source = Desk.sourceOf j → i = d.intent) ∧
      ∀ d, DatedIntent.ofJsonBy? Json.innerTag? j = some d →
        i = { d.intent with source := source } := by
  obtain ⟨members, rfl, hmembers, -⟩ := read_eq_ok_iff.1 hread
  constructor
  · intro d hdoc hsource
    have hisRead := isRead_of_ofJsonBy? hdoc
    rw [eq_of_readMembers (fun _ => rfl) hisRead hmembers, hsource, hisRead.sourceOf_eq]
  · intro d hdoc
    exact eq_of_readMembers (fun _ => rfl) (isRead_of_ofJsonBy? hdoc) hmembers

/-- A count with numbers at the borders of the variants, without fields and explanation, and with a
source that is written as an object. -/
def borders : Json :=
  .object
    [("domain", .text "transactions"), ("action", .text "count"),
     ("filters", .object
       [("amount_gt", .number (.whole 9223372036854775808)),
        ("amount_lt", .number (.whole (-9223372036854775808))),
        ("colour", .number (.real (-0.0))), ("year", .number (.real 2024.0))]),
     ("confidence", .number (.whole 1)), ("source", .object [("model", .null)]),
     ("timestamp", .text "2024-05-20T00:00:00Z")]

theorem intent_eq_of_read_borders :
    ∃ i warnings d, read .lenient Registry.municipal (Desk.sourceOf borders) borders =
        .ok (i, warnings) ∧
      DatedIntent.ofJson? borders = some d ∧ i = d.intent ∧ i.source = .model ∧
        i.filters.get? "amount_gt" = some (.decimal 9223372036854775808.0) ∧
        i.filters.get? "amount_lt" = some (.integer (-9223372036854775808)) ∧
        i.filters.get? "colour" = some (.decimal (-0.0)) ∧
        i.filters.get? "year" = some (.decimal 2024.0) := by
  have hread : ∃ i warnings,
      read .lenient Registry.municipal (Desk.sourceOf borders) borders = .ok (i, warnings) ∧
        i.source = .model ∧ i.filters.get? "amount_gt" = some (.decimal 9223372036854775808.0) ∧
        i.filters.get? "amount_lt" = some (.integer (-9223372036854775808)) ∧
        i.filters.get? "colour" = some (.decimal (-0.0)) ∧
        i.filters.get? "year" = some (.decimal 2024.0) :=
    ⟨_, _, rfl, rfl, by decide, by decide, by decide, by decide⟩
  obtain ⟨i, warnings, hread, hvalues⟩ := hread
  obtain ⟨d, hdoc⟩ : ∃ d, DatedIntent.ofJson? borders = some d := ⟨_, rfl⟩
  exact ⟨i, warnings, d, hread, hdoc, (intent_eq_of_read hread).1 d hdoc rfl, hvalues⟩

end Vetting

end CivicReport
