import CivicReport.Proofs.Query.Names
import CivicReport.Proofs.Registry.Acceptance
import CivicReport.Proofs.Vetting.Acceptance

/-!
The fields that a list shows. Those that are asked for and that the domain has are shown, each once
and in the order in which they are first asked for; if there are none, the list shows what it shows
by default. Main statement: every field that a vetted list asks for is either shown or warned about,
and never both.
-/
namespace CivicReport

open Compilation

namespace Domain

variable {d : Domain} {f : Field} {key : String} {wanted : List String}

instance : Decidable (d.HasField key) :=
  inferInstanceAs (Decidable (∃ f ∈ d.fields, f.key = key))

theorem hasField_iff_exists_field? : d.HasField key ↔ ∃ f, d.field? key = some f := by
  rw [← isSome_field?_iff, Option.isSome_iff_exists]

theorem mem_filterMap_field?_iff :
    f ∈ wanted.filterMap d.field? ↔ f.key ∈ wanted ∧ d.field? f.key = some f := by
  rw [List.mem_filterMap]
  constructor
  · rintro ⟨key, hkey, hf⟩
    rw [key_of_field? hf]
    exact ⟨hkey, hf⟩
  · rintro ⟨hkey, hf⟩
    exact ⟨f.key, hkey, hf⟩

theorem idxOf_key_cons {rest : List String} (hf : f ∈ rest.filterMap d.field?)
    (hne : d.field? key ≠ some f) : (key :: rest).idxOf f.key = rest.idxOf f.key + 1 := by
  refine List.idxOf_cons_ne rest fun heq => hne ?_
  rw [heq]
  exact (mem_filterMap_field?_iff.1 hf).2

/-- Fields that are found stand in the order in which their keys are first asked for. -/
theorem pairwise_idxOf_eraseDups (p : Field → Bool) (wanted : List String) :
    (((wanted.filterMap d.field?).filter p).eraseDups).Pairwise
      fun f g => wanted.idxOf f.key < wanted.idxOf g.key := by
  -- A field that has been kept is filtered out of the rest, so the induction is over all filters.
  induction wanted generalizing p with
  | nil => exact .nil
  | cons key rest ih =>
    have hrest (q : Field → Bool) (hq : ∀ f, q f = true → d.field? key ≠ some f) :
        (((rest.filterMap d.field?).filter q).eraseDups).Pairwise
          fun f g => (key :: rest).idxOf f.key < (key :: rest).idxOf g.key := by
      refine (ih q).imp_of_mem fun {f g} hf hg hlt => ?_
      obtain ⟨hf, hqf⟩ := List.mem_filter.1 (List.mem_eraseDups.1 hf)
      obtain ⟨hg, hqg⟩ := List.mem_filter.1 (List.mem_eraseDups.1 hg)
      rw [idxOf_key_cons hf (hq f hqf), idxOf_key_cons hg (hq g hqg)]
      exact Nat.succ_lt_succ hlt
    cases hfield : d.field? key with
    | none =>
      rw [List.filterMap_cons_none hfield]
      exact hrest p fun f _ => by simp [hfield]
    | some first =>
      rw [List.filterMap_cons_some hfield]
      cases hp : p first with
      | false =>
        rw [List.filter_cons_of_neg (by simp [hp])]
        refine hrest p fun f hf heq => ?_
        obtain rfl : first = f := Option.some.inj (hfield.symm.trans heq)
        exact absurd (hp.symm.trans hf) nofun
      | true =>
        rw [List.filter_cons_of_pos hp, List.eraseDups_cons, List.filter_filter,
          List.pairwise_cons]
        refine ⟨fun f hf => ?_, hrest _ fun f hf heq => ?_⟩
        · obtain ⟨hf, hother⟩ := List.mem_filter.1 (List.mem_eraseDups.1 hf)
          have hne : d.field? key ≠ some f := by
            intro heq
            obtain rfl : first = f := Option.some.inj (hfield.symm.trans heq)
            simp at hother
          rw [key_of_field? hfield, List.idxOf_cons_self, idxOf_key_cons hf hne]
          exact Nat.succ_pos _
        · obtain rfl : first = f := Option.some.inj (hfield.symm.trans heq)
          simp at hf

/-- What a list shows of the fields that it is asked for. -/
structure Shows (d : Domain) (wanted : List String) (shown : List Projection) : Prop where
  columns : ∀ x ∈ shown, ∃ f, d.field? x.name = some f ∧ x.expr = d.column f
  known : (∃ key ∈ wanted, d.HasField key) →
    (∀ key, key ∈ shown.map (·.name) ↔ key ∈ wanted ∧ d.HasField key) ∧
      (shown.map (·.name)).Pairwise fun a b => wanted.idxOf a < wanted.idxOf b
  /-- None of the fields is there, or none is asked for. -/
  unknown : (∀ key ∈ wanted, ¬ d.HasField key) → shown.map (·.name) = d.defaultFields

theorem listFields_of_known (h : ∃ key ∈ wanted, d.HasField key) :
    listFields d wanted = (wanted.filterMap d.field?).eraseDups := by
  obtain ⟨key, hkey, hhas⟩ := h
  obtain ⟨f, hf⟩ := hasField_iff_exists_field?.1 hhas
  have hmem : f ∈ (wanted.filterMap d.field?).eraseDups :=
    List.mem_eraseDups.2 (List.mem_filterMap.2 ⟨key, hkey, hf⟩)
  have hsome : (wanted.filterMap d.field?).eraseDups.isEmpty = false := by
    rw [List.isEmpty_eq_false_iff]
    exact List.ne_nil_of_mem hmem
  simp [listFields, hsome]

theorem listFields_of_unknown (h : ∀ key ∈ wanted, ¬ d.HasField key) :
    listFields d wanted = d.defaultFields.filterMap d.field? := by
  have hnone : wanted.filterMap d.field? = [] := by
    refine List.filterMap_eq_nil_iff.2 fun key hkey => ?_
    rw [Option.eq_none_iff_forall_ne_some]
    exact fun f hf => h key hkey (hasField_iff_exists_field?.2 ⟨f, hf⟩)
  simp [listFields, hnone]

theorem field?_key_of_mem_listFields (h : f ∈ listFields d wanted) :
    d.field? f.key = some f := by
  unfold listFields at h
  dsimp only at h
  split at h
  · exact field?_key_of_mem h
  · exact field?_key_of_mem (List.mem_eraseDups.1 h)

theorem shows_listFields (hdefaults : ∀ key ∈ d.defaultFields, d.HasField key)
    (wanted : List String) :
    d.Shows wanted ((listFields d wanted).map fun f => ⟨d.column f, f.key⟩) := by
  have hnames : ((listFields d wanted).map fun f => (⟨d.column f, f.key⟩ : Projection)).map
      (·.name) = (listFields d wanted).map (·.key) := List.map_map
  refine ⟨fun x hx => ?_, fun hknown => ?_, fun hunknown => ?_⟩
  · obtain ⟨f, hf, rfl⟩ := List.mem_map.1 hx
    exact ⟨f, field?_key_of_mem_listFields hf, rfl⟩
  · rw [hnames, listFields_of_known hknown]
    refine ⟨fun key => ?_, List.pairwise_map.2 ?_⟩
    · simp only [List.mem_map, List.mem_eraseDups, mem_filterMap_field?_iff,
        hasField_iff_exists_field?]
      constructor
      · rintro ⟨f, ⟨hkey, hf⟩, rfl⟩
        exact ⟨hkey, f, hf⟩
      · rintro ⟨hkey, f, hf⟩
        obtain rfl := key_of_field? hf
        exact ⟨f, ⟨hkey, hf⟩, rfl⟩
    · simpa using pairwise_idxOf_eraseDups (fun _ => true) wanted
  · rw [hnames, listFields_of_unknown hunknown]
    have hall := map_key_filter_filterMap (d := d) (fun _ => true) d.defaultFields
    rw [List.filter_eq_self.2 fun _ _ => rfl] at hall
    rw [hall, List.filter_eq_self]
    intro key hkey
    obtain ⟨f, hf⟩ := hasField_iff_exists_field?.1 (hdefaults key hkey)
    simp [hf]

theorem exists_plan_list {i : Intent} (hdomain : i.domain = d.key) (hlist : i.action = .list)
    (rowCap : Nat) : ∃ p, d.plan rowCap i = .ok p ∧
      p.projection = (listFields d i.fields).map fun f => ⟨d.column f, f.key⟩ := by
  rw [plan_eq_map hdomain, projection, hlist]
  exact ⟨_, rfl, rfl⟩

end Domain

namespace Vetting

variable {d : Domain} {i : Intent} {key : String}

theorem unknownFields_eq (d : Domain) (fields : List String) :
    unknownFields d fields = fields.filter (¬ d.HasField ·) := by
  refine List.filter_congr fun key _ => ?_
  rw [Bool.eq_iff_iff]
  simp [← Domain.isSome_field?_iff]

/-- The warnings about fields come after those about filters, of which none is about a field. -/
theorem exists_remarks_eq (d : Domain) (i : Intent) : ∃ others,
    remarks d i = others ++ (i.fields.filter (¬ d.HasField ·)).map (fieldWarning · d) ∧
      ∀ w ∈ others, ∀ key, w ≠ fieldWarning key d := by
  refine ⟨_, congrArg _ (congrArg _ (unknownFields_eq d i.fields)), fun w hw key => ?_⟩
  obtain ⟨other, -, rfl⟩ := List.mem_map.1 hw
  exact filterWarning_ne_fieldWarning other key d

theorem fieldWarning_mem_remarks_iff (h : key ∈ i.fields) :
    fieldWarning key d ∈ remarks d i ↔ ¬ d.HasField key := by
  obtain ⟨others, hremarks, hothers⟩ := exists_remarks_eq d i
  have hnone : fieldWarning key d ∉ others := fun hmem => hothers _ hmem key rfl
  rw [hremarks, List.mem_append, or_iff_right hnone,
    List.mem_map_of_injective (fieldWarning_injective d)]
  simp [h]

/-- A vetted list shows the fields that it asks for and that are there, and warns about the others
in the order and as often as they are asked for. -/
theorem shows_of_check {domains : List Domain} {r : Registry} {warnings : List String}
    (hr : Registry.ofDomains domains = .ok r) (hlist : i.action = .list)
    (h : check .lenient r i = .ok warnings) :
    ∃ d, r.domain? i.domain = some d ∧
      (∃ others, warnings = others ++ (i.fields.filter (¬ d.HasField ·)).map (fieldWarning · d) ∧
        ∀ w ∈ others, ∀ key, w ≠ fieldWarning key d) ∧
      ∀ rowCap, ∃ p, d.plan rowCap i = .ok p ∧ d.Shows i.fields p.projection ∧
        ∀ key ∈ i.fields, key ∈ p.projection.map (·.name) ↔ fieldWarning key d ∉ warnings := by
  obtain ⟨-, d, hd, -, -, rfl⟩ := check_eq_ok_iff.1 h
  refine ⟨d, hd, exists_remarks_eq d i, fun rowCap => ?_⟩
  have hmem : d ∈ r.domains := List.mem_of_find?_eq_some hd
  have hkey : d.key = i.domain := by simpa using List.find?_some hd
  obtain ⟨p, hp, hprojection⟩ := Domain.exists_plan_list hkey.symm hlist rowCap
  have hshows : d.Shows i.fields p.projection := by
    rw [hprojection]
    exact Domain.shows_listFields (Registry.isSound_of_mem hr hmem).shown i.fields
  refine ⟨p, hp, hshows, fun key hasked => ?_⟩
  rw [fieldWarning_mem_remarks_iff hasked, not_not]
  constructor
  · intro hshown
    obtain ⟨x, hx, rfl⟩ := List.mem_map.1 hshown
    obtain ⟨f, hf, -⟩ := hshows.columns x hx
    exact Domain.hasField_iff_exists_field?.2 ⟨f, hf⟩
  · intro hhas
    exact ((hshows.known ⟨key, hasked, hhas⟩).1 key).2 ⟨hasked, hhas⟩

/-- A list that asks twice for a field that is there and for one that is not. -/
def repetitive : Intent where
  domain := "transactions"
  action := .list
  fields := ["amount", "colour", "supplier", "amount", "colour"]
  confidence := 1.0
  source := .caller

theorem shows_of_check_repetitive :
    let warning := "unknown field 'colour' for domain 'transactions' ignored"
    Registry.ofDomains Registry.municipal.domains = .ok Registry.municipal ∧
      repetitive.action = .list ∧
      check .lenient Registry.municipal repetitive = .ok [warning, warning] ∧
      ∃ d p, Registry.municipal.domain? "transactions" = some d ∧
        d.plan 100 repetitive = .ok p ∧ d.Shows repetitive.fields p.projection := by
  intro warning
  have hr : Registry.ofDomains Registry.municipal.domains = .ok Registry.municipal := by rfl
  have hcheck : check .lenient Registry.municipal repetitive = .ok [warning, warning] := by decide
  obtain ⟨d, hd, -, hplan⟩ := shows_of_check hr rfl hcheck
  obtain ⟨p, hp, hshows, -⟩ := hplan 100
  exact ⟨hr, rfl, hcheck, d, p, hd, hp, hshows⟩

end Vetting

end CivicReport
