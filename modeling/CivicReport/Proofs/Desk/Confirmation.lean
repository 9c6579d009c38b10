import CivicReport.Desk
import CivicReport.Registry.Municipal
import CivicReport.Proofs.Filters.Keys
import CivicReport.Proofs.Vetting.Grammar

/-!
Intents that are sent out for confirmation and come back. A vetted intent is read back from its
document as it was, with the same warnings, so whoever confirms it runs the very same report.
Doubles have to be finite: a JSON number cannot be anything else.
-/
namespace CivicReport

namespace Json

theorem ofFloat_of_isFinite {x : Float} (h : x.isFinite) : ofFloat x = number (.real x) := if_pos h

end Json

namespace Scalar

/-- Integers and texts are finite, and so are doubles other than infinities and NaN. -/
def IsFinite : Scalar → Prop
  | decimal x => x.isFinite
  | _ => True

instance (v : Scalar) : Decidable v.IsFinite :=
  match v with
  | integer _ => .isTrue trivial
  | decimal x => inferInstanceAs (Decidable (x.isFinite = true))
  | text _ => .isTrue trivial

/-- A value comes back in the variant it had: a whole double does not turn into an integer. -/
theorem ofJson?_toJson {v : Scalar} (h : v.IsFinite) : ofJson? v.toJson = some v := by
  cases v with
  | integer n =>
    change some (ofNumber (.whole n.toInt)) = _
    rw [ofNumber, Number.int64?, int64?_eq_some_iff.2 rfl]
  | decimal x =>
    rw [toJson, Json.ofFloat_of_isFinite h]
    rfl
  | text s => rfl

end Scalar

namespace Vetting

theorem readFilters_map_toJson {entries : List (String × Scalar)}
    (h : ∀ e ∈ entries, e.2.IsFinite) (found : Filters) :
    readFilters found (entries.map fun e => (e.1, e.2.toJson)) =
      .ok (entries.foldl (fun f e => f.insert e.1 e.2) found) := by
  induction entries generalizing found with
  | nil => rfl
  | cons head rest ih =>
    rw [List.map_cons, readFilters, Scalar.ofJson?_toJson (h head List.mem_cons_self)]
    exact ih (fun e he => h e (List.mem_cons_of_mem _ he)) _

theorem filtersOf_toJson {f : Filters} (h : ∀ e ∈ f.entries, e.2.IsFinite) :
    filtersOf (some f.toJson) = .ok f := by
  change readFilters .empty (f.entries.map fun e => (e.1, e.2.toJson)) = _
  rw [readFilters_map_toJson h]
  exact congrArg Except.ok f.ofList_entries

theorem isFinite_of_checkConfidence {x : Float} (h : checkConfidence x = .ok ()) : x.isFinite := by
  have hrange := checkConfidence_eq_ok_iff.1 h
  simp only [Bool.and_eq_true] at hrange
  exact hrange.1.1

end Vetting

namespace DatedIntent

/-- The members of a document. Fields are left out if there are none. -/
def members (d : DatedIntent) : List (String × Json) :=
  d.intent.toMembers ++ [("timestamp", d.time.toJson)]

theorem lookup_fields (d : DatedIntent) : Json.lookup "fields" d.members =
    if d.intent.fields.isEmpty then none else some (Json.texts d.intent.fields) := by
  unfold members Intent.toMembers
  cases d.intent.fields.isEmpty with
  | true => rfl
  | false => rfl

theorem lookup_members (d : DatedIntent) {key : String} (h : key ≠ "fields") :
    Json.lookup key d.members = Json.lookup key
      [("domain", .text d.intent.domain), ("action", .text d.intent.action.name),
        ("filters", d.intent.filters.toJson), ("confidence", Json.ofFloat d.intent.confidence),
        ("explanation", .text d.intent.explanation), ("source", .text d.intent.source.name),
        ("timestamp", d.time.toJson)] := by
  unfold members Intent.toMembers
  cases d.intent.fields.isEmpty with
  | true => rfl
  | false =>
    simp only [Bool.false_eq_true, if_false, List.cons_append, List.nil_append, Json.lookup,
      if_neg (Ne.symm h)]

theorem sourceOf_toJson (d : DatedIntent) : Desk.sourceOf d.toJson = d.intent.source := by
  have hlookup : Json.lookup "source" d.members = some (.text d.intent.source.name) :=
    d.lookup_members (by decide)
  have hsource : d.toJson.get? "source" = some (.text d.intent.source.name) := hlookup
  rw [Desk.sourceOf, hsource]
  change ((Source.named? d.intent.source.name).getD .caller) = _
  rw [Source.named?_name]
  rfl

theorem fieldsOf_members (d : DatedIntent) :
    Vetting.fieldsOf (Vetting.present? d.members "fields") = .ok d.intent.fields := by
  rw [Vetting.fieldsOf_eq_ok_iff, Vetting.present?, lookup_fields]
  cases hempty : d.intent.fields.isEmpty with
  | true => exact .inl ⟨rfl, List.isEmpty_iff.1 hempty⟩
  | false => exact .inr rfl

/-- The members of a document read as the intent that they were written from. -/
theorem readMembers_members {r : Registry} {d : DatedIntent} {warnings : List String}
    (hcheck : Vetting.check .lenient r d.intent = .ok warnings)
    (hfinite : ∀ e ∈ d.intent.filters.entries, e.2.IsFinite) :
    Vetting.readMembers .lenient r d.intent.source d.members = .ok d.intent := by
  obtain ⟨hnamed, found, hfound, hrange, -, -⟩ := Vetting.check_eq_ok_iff.1 hcheck
  have hknown : (r.domain? d.intent.domain).isSome := Option.isSome_of_eq_some hfound
  have hdomain : Json.lookup "domain" d.members = some (.text d.intent.domain) :=
    d.lookup_members (by decide)
  have haction : Json.lookup "action" d.members = some (.text d.intent.action.name) :=
    d.lookup_members (by decide)
  have hconfidence : Json.lookup "confidence" d.members =
      some (.number (.real d.intent.confidence)) := by
    rw [← Json.ofFloat_of_isFinite (Vetting.isFinite_of_checkConfidence hrange)]
    exact d.lookup_members (by decide)
  have hfilters : Vetting.present? d.members "filters" = some d.intent.filters.toJson :=
    Vetting.present?_eq_some_iff.2 ⟨d.lookup_members (by decide), nofun⟩
  have hexplanation : Vetting.present? d.members "explanation" =
      some (.text d.intent.explanation) :=
    Vetting.present?_eq_some_iff.2 ⟨d.lookup_members (by decide), nofun⟩
  rw [Vetting.readMembers_eq_ok_iff]
  refine ⟨?_, ?_, ?_, ?_, ?_, d.fieldsOf_members, ?_, rfl⟩
  · exact Vetting.required_lenient_iff.2 ⟨Vetting.not_absent_of_lookup hdomain nofun,
      Vetting.not_absent_of_lookup haction nofun, Vetting.not_absent_of_lookup hconfidence nofun⟩
  · rw [hdomain, Vetting.readDomain_eq_ok_iff]
    exact ⟨rfl, Vetting.trim_isEmpty_eq_false_iff.1 hnamed, Vetting.isSome_domain?_iff.1 hknown⟩
  · rw [haction]
    exact Vetting.readAction_eq_ok_iff.2 rfl
  · rw [hconfidence, Vetting.readConfidence_eq_ok_iff]
    exact ⟨_, rfl, Vetting.checkConfidence_toFloat_eq_ok_iff.1 hrange, rfl⟩
  · rw [hfilters]
    exact Vetting.filtersOf_toJson hfinite
  · exact Vetting.explanationOf_eq_ok_iff.2 (.inr hexplanation)

end DatedIntent

namespace Desk

/-- A vetted intent comes back from its document as it was sent out, with its source and the same
warnings, and confirming the document is running the intent. -/
theorem confirm_toJson {desk : Desk} {d : DatedIntent} {warnings : List String}
    (hcheck : Vetting.check .lenient desk.registry d.intent = .ok warnings)
    (hfinite : ∀ e ∈ d.intent.filters.entries, e.2.IsFinite) :
    Vetting.read .lenient desk.registry (sourceOf d.toJson) d.toJson = .ok (d.intent, warnings) ∧
      ∀ now store, desk.confirm now none d.toJson true store =
        completed (desk.execute now d.intent store) := by
  have hread : Vetting.read .lenient desk.registry (sourceOf d.toJson) d.toJson =
      .ok (d.intent, warnings) := by
    rw [d.sourceOf_toJson]
    change (Vetting.readMembers .lenient desk.registry d.intent.source d.members >>= fun i =>
      Vetting.check .lenient desk.registry i >>= fun warnings => pure (i, warnings)) = _
    rw [DatedIntent.readMembers_members hcheck hfinite]
    change (Vetting.check .lenient desk.registry d.intent >>= fun warnings =>
      pure (d.intent, warnings)) = _
    rw [hcheck]
    rfl
  refine ⟨hread, fun now store => ?_⟩
  simp only [confirm, hread]
  rfl

/-- A sum over transactions with all kinds of filter values, one of them unknown. -/
def echo : DatedIntent where
  intent := {
    domain := "transactions"
    action := .sum
    filters := (((Filters.empty.insert "amount_gt" (.decimal 5.0)).insert "amount_lt"
      (.decimal 1e19)).insert "year" (.integer 2024)).insert "colour" (.text "")
    confidence := 0.5
    source := .fallback }
  time := ⟨⟨2024, 5, 20⟩, 0, 0⟩

theorem confirm_toJson_echo :
    let desk : Desk := { registry := Registry.municipal }
    let warnings := ["unknown filter 'colour' for domain 'transactions' ignored"]
    Vetting.check .lenient desk.registry echo.intent = .ok warnings ∧
      (∀ e ∈ echo.intent.filters.entries, e.2.IsFinite) ∧
      Vetting.read .lenient desk.registry (sourceOf echo.toJson) echo.toJson =
        .ok (echo.intent, warnings) ∧
      ∀ now store, desk.confirm now none echo.toJson true store =
        completed (desk.execute now echo.intent store) := by
  intro desk warnings
  have hcheck : Vetting.check .lenient desk.registry echo.intent = .ok warnings := by
    decide
  have hfinite : ∀ e ∈ echo.intent.filters.entries, e.2.IsFinite := by decide
  exact ⟨hcheck, hfinite, confirm_toJson hcheck hfinite⟩

end Desk

end CivicReport
