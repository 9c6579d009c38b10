import CivicReport.Registry
import CivicReport.Proofs.Filters.Keys
import Mathlib.Data.Fin.Tuple.Basic
import Mathlib.Logic.ExistsUnique

/-!
Which lists of domains make a registry. Each pass of the checks decides a condition that says
nothing of the order in which they are made. Main statements: the well-formed lists are accepted and
no others; the registry then has these domains, each is found by its own key, as is each of its
fields, and the fallback is the one domain that is marked.
-/
namespace CivicReport

/-- One item is kept exactly if it is at the one place where an item is marked. -/
theorem filter_eq_singleton_iff {α : Type} {p : α → Bool} {items : List α} {a : α} :
    items.filter p = [a] ↔ ∃ i : Fin items.length, items[i] = a ∧
      ∀ j : Fin items.length, p items[j] = true ↔ j = i := by
  induction items with
  | nil => simp
  | cons first rest ih =>
    have hlater (i : Fin rest.length) : (first :: rest)[i.succ] = rest[i] := rfl
    have hzero (i : Fin rest.length) : (0 : Fin (rest.length + 1)) ≠ i.succ :=
      (Fin.succ_ne_zero i).symm
    simp only [List.length_cons, Fin.exists_fin_succ, Fin.forall_fin_succ, hlater, Fin.succ_inj,
      hzero, Fin.succ_ne_zero]
    cases hp : p first with
    | true =>
      have hnone : rest.filter p = [] ↔ ∀ j : Fin rest.length, ¬ p rest[j] = true := by
        rw [List.filter_eq_nil_iff, List.forall_mem_iff_getElem, Fin.forall_iff]
        rfl
      rw [List.filter_cons_of_pos hp, List.cons.injEq, hnone]
      simp [hp]
    | false =>
      rw [List.filter_cons_of_neg (by simp [hp]), ih]
      simp [hp]

/-! Well-formed domains. -/

/-- A field is there under a key. -/
def Domain.HasField (d : Domain) (key : String) : Prop := ∃ f ∈ d.fields, f.key = key

theorem Domain.isSome_field?_iff {d : Domain} {key : String} :
    (d.field? key).isSome ↔ d.HasField key := by
  simp [field?, HasField, List.find?_isSome]

/-- An enumeration lists its values. -/
def Field.IsListed (f : Field) : Prop :=
  f.kind = .enumeration → ∃ values, f.enumValues = some values ∧ values ≠ []

/-- What a domain has to be on its own. -/
structure Domain.IsSound (d : Domain) : Prop where
  key : d.key ≠ ""
  table : d.table ≠ ""
  distinct : (d.fields.map (·.key)).Nodup
  listed : ∀ f ∈ d.fields, f.IsListed
  derived : ∀ f ∈ d.fields, ∀ source, f.derivedFrom = some source → d.HasField source
  shown : ∀ key ∈ d.defaultFields, d.HasField key

namespace Registry

/-- Before the first dot of a reference stands a domain, and after it a field of that domain. -/
def Leads (domains : List Domain) (reference : String) : Prop :=
  ∃ target field : String, reference = target ++ "." ++ field ∧ '.' ∉ target.toList ∧
    ∃ t ∈ domains, t.key = target ∧ t.HasField field

/-- What the domains of a registry have to be together. -/
structure WellFormed (domains : List Domain) : Prop where
  sound : ∀ d ∈ domains, d.IsSound
  distinct : (domains.map (·.key)).Nodup
  linked : ∀ d ∈ domains, ∀ f ∈ d.fields, ∀ reference, f.foreignKey = some reference →
    Leads domains reference
  fallback : ∃! i : Fin domains.length, domains[i].isFallback = true

variable {domains : List Domain} {r : Registry} {d : Domain}

/-! Checks of one domain after the other. -/

/-- A scan that remembers each key passes exactly if the keys are distinct, none of them was seen
before, and every item is sound. -/
theorem scan_iff {α : Type} {key : α → String} {Sound : α → Prop}
    (Passes : List String → List α → Prop) (hnil : ∀ seen, Passes seen [])
    (hcons : ∀ seen a rest, Passes seen (a :: rest) ↔
      key a ∉ seen ∧ Sound a ∧ Passes (key a :: seen) rest)
    (seen : List String) (items : List α) : Passes seen items ↔
      (items.map key).Nodup ∧ (∀ a ∈ items, key a ∉ seen) ∧ ∀ a ∈ items, Sound a := by
  induction items generalizing seen with
  | nil => simp [hnil]
  | cons first rest ih =>
    have hfirst : key first ∉ rest.map key ↔ ∀ a ∈ rest, key a ≠ key first := by simp
    have hlater : (∀ a ∈ rest, key a ∉ key first :: seen) ↔
        (∀ a ∈ rest, key a ≠ key first) ∧ ∀ a ∈ rest, key a ∉ seen := by
      simp only [List.mem_cons, not_or]
      exact forall₂_and
    rw [hcons, ih, List.map_cons, List.nodup_cons, hfirst, hlater, List.forall_mem_cons,
      List.forall_mem_cons]
    constructor
    · rintro ⟨hnew, hsound, hnodup, ⟨hother, hlater⟩, hrest⟩
      exact ⟨⟨hother, hnodup⟩, ⟨hnew, hlater⟩, hsound, hrest⟩
    · rintro ⟨⟨hother, hnodup⟩, ⟨hnew, hlater⟩, hsound, hrest⟩
      exact ⟨hnew, hsound, hnodup, ⟨hother, hlater⟩, hrest⟩

theorem checkFields_cons {name : String} {seen : List String} {f : Field} {rest : List Field} :
    checkFields name seen (f :: rest) = .ok () ↔
      f.key ∉ seen ∧ f.IsListed ∧ checkFields name (f.key :: seen) rest = .ok () := by
  have hlisted : f.IsListed ↔ ¬ (f.kind = .enumeration ∧ (f.enumValues.getD []).isEmpty) := by
    cases hvalues : f.enumValues with
    | none => simp [Field.IsListed, hvalues]
    | some values => simp [Field.IsListed, hvalues]
  rw [checkFields, hlisted]
  by_cases hseen : f.key ∈ seen
  · simp [hseen]
  by_cases hempty : f.kind = .enumeration ∧ (f.enumValues.getD []).isEmpty
  · simp [hseen, hempty]
  · simp only [List.contains_eq_mem, hseen, hempty]
    simp

theorem checkFields_eq_ok_iff {name : String} {fields : List Field} :
    checkFields name [] fields = .ok () ↔
      (fields.map (·.key)).Nodup ∧ ∀ f ∈ fields, f.IsListed := by
  have hscan := scan_iff (fun seen fields => checkFields name seen fields = .ok ())
    (fun _ => rfl) (fun _ _ _ => checkFields_cons) [] fields
  simpa using hscan

theorem checkReferences_eq_ok_iff {keys : List String} :
    checkReferences d keys = .ok () ↔ ∀ key ∈ keys, d.HasField key := by
  induction keys with
  | nil => simp [checkReferences]
  | cons key rest ih =>
    rw [checkReferences, List.forall_mem_cons, ← ih, ← Domain.isSome_field?_iff]
    cases (d.field? key).isSome with
    | true => simp
    | false => simp

theorem isSound_iff : d.IsSound ↔ d.key ≠ "" ∧ d.table ≠ "" ∧
    checkFields d.key [] d.fields = .ok () ∧
    checkReferences d (d.fields.filterMap (·.derivedFrom)) = .ok () ∧
    checkReferences d d.defaultFields = .ok () := by
  simp only [checkFields_eq_ok_iff, checkReferences_eq_ok_iff, List.mem_filterMap]
  constructor
  · rintro ⟨hkey, htable, hdistinct, hlisted, hderived, hshown⟩
    refine ⟨hkey, htable, ⟨hdistinct, hlisted⟩, ?_, hshown⟩
    rintro source ⟨f, hf, hsource⟩
    exact hderived f hf source hsource
  · rintro ⟨hkey, htable, ⟨hdistinct, hlisted⟩, hderived, hshown⟩
    exact ⟨hkey, htable, hdistinct, hlisted,
      fun f hf source hsource => hderived source ⟨f, hf, hsource⟩, hshown⟩

/-- One domain passes if it is new and sound. -/
theorem checkDomains_cons {seen : List String} {rest : List Domain} :
    checkDomains seen (d :: rest) = .ok () ↔
      d.key ∉ seen ∧ d.IsSound ∧ checkDomains (d.key :: seen) rest = .ok () := by
  rw [checkDomains, isSound_iff]
  by_cases hkey : d.key = ""
  · simp [hkey]
  by_cases htable : d.table = ""
  · simp [hkey, htable]
  by_cases hseen : d.key ∈ seen
  · simp [hkey, htable, hseen]
  simp [hkey, htable, hseen, check_bind_eq_ok, and_assoc]

theorem checkDomains_eq_ok_iff : checkDomains [] domains = .ok () ↔
    (domains.map (·.key)).Nodup ∧ ∀ d ∈ domains, d.IsSound := by
  have hscan := scan_iff (fun seen domains => checkDomains seen domains = .ok ())
    (fun _ => rfl) (fun _ _ _ => checkDomains_cons) [] domains
  simpa using hscan

/-! Checks of all domains together. -/

/-- Where keys are distinct, the domain that is found is the only one of its name. -/
theorem checkForeignKey_eq_ok_iff (hdistinct : (domains.map (·.key)).Nodup) {f : Field}
    {reference : String} :
    checkForeignKey domains d f reference = .ok () ↔ Leads domains reference := by
  constructor
  · intro h
    unfold checkForeignKey at h
    split at h
    · contradiction
    · next target field hcut =>
      obtain ⟨hreference, hdot⟩ := Text.cutAt?_eq_some_iff.1 hcut
      dsimp only at h
      split at h
      · contradiction
      · next t ht =>
        split at h
        · next hfield =>
          refine ⟨String.ofList target, String.ofList field, ?_, by simpa using hdot, t,
            List.mem_of_find?_eq_some ht, by simpa using List.find?_some ht,
            Domain.isSome_field?_iff.1 hfield⟩
          exact String.toList_inj.1 (by simpa using hreference)
        · contradiction
  · rintro ⟨target, field, rfl, hdot, t, ht, rfl, hfield⟩
    have hcut : Text.cutAt? '.' (t.key ++ "." ++ field).toList =
        some (t.key.toList, field.toList) := Text.cutAt?_eq_some_iff.2 ⟨by simp, hdot⟩
    have hfound : domains.find? (·.key == t.key) = some t := find?_eq_some_of_nodup hdistinct ht
    simp only [checkForeignKey, hcut, String.ofList_toList, hfound,
      Domain.isSome_field?_iff.2 hfield, if_true]

theorem checkForeignKeys_eq_ok_iff {fields : List Field} :
    checkForeignKeys domains d fields = .ok () ↔ ∀ f ∈ fields, ∀ reference,
      f.foreignKey = some reference → checkForeignKey domains d f reference = .ok () := by
  induction fields with
  | nil => simp [checkForeignKeys]
  | cons f rest ih =>
    rw [checkForeignKeys, List.forall_mem_cons, ← ih]
    cases f.foreignKey with
    | none => simp
    | some reference => simp [check_bind_eq_ok]

theorem checkLinks_eq_ok_iff {checked : List Domain} : checkLinks domains checked = .ok () ↔
    ∀ d ∈ checked, checkForeignKeys domains d d.fields = .ok () := by
  induction checked with
  | nil => simp [checkLinks]
  | cons d rest ih => rw [checkLinks, check_bind_eq_ok, List.forall_mem_cons, ih]

theorem soleFallback_eq_ok_iff : soleFallback domains = .ok d ↔
    ∃ i : Fin domains.length, domains[i] = d ∧
      ∀ j : Fin domains.length, domains[j].isFallback = true ↔ j = i := by
  rw [← filter_eq_singleton_iff (p := Domain.isFallback)]
  unfold soleFallback
  split
  · next h => simp [h]
  · next other h => simp [h]
  · next hmany =>
    simp only [reduceCtorEq, false_iff]
    exact hmany d

/-! Registries. -/

theorem ofDomains_eq_ok_iff : ofDomains domains = .ok r ↔ checkDomains [] domains = .ok () ∧
    checkLinks domains domains = .ok () ∧ ∃ d, soleFallback domains = .ok d ∧ ⟨domains, d⟩ = r := by
  rw [ofDomains, check_bind_eq_ok, check_bind_eq_ok, bind_eq_ok]
  simp [pure, Except.pure]

theorem domains_of_ofDomains (h : ofDomains domains = .ok r) : r.domains = domains := by
  obtain ⟨-, -, d, -, rfl⟩ := ofDomains_eq_ok_iff.1 h
  rfl

theorem isSound_of_mem (h : ofDomains domains = .ok r) (hd : d ∈ r.domains) : d.IsSound := by
  obtain ⟨hdomains, -, fallback, -, rfl⟩ := ofDomains_eq_ok_iff.1 h
  exact (checkDomains_eq_ok_iff.1 hdomains).2 d hd

theorem exists_fallback_of_ofDomains (h : ofDomains domains = .ok r) :
    ∃ i : Fin domains.length, domains[i] = r.fallback ∧
      ∀ j : Fin domains.length, domains[j].isFallback = true ↔ j = i := by
  obtain ⟨-, -, fallback, hfallback, rfl⟩ := ofDomains_eq_ok_iff.1 h
  exact soleFallback_eq_ok_iff.1 hfallback

theorem fallback_mem_of_ofDomains (h : ofDomains domains = .ok r) : r.fallback ∈ r.domains := by
  obtain ⟨i, hi, -⟩ := exists_fallback_of_ofDomains h
  rw [domains_of_ofDomains h, ← hi]
  exact List.getElem_mem i.isLt

theorem domain?_of_mem (h : ofDomains domains = .ok r) (hd : d ∈ r.domains) :
    r.domain? d.key = some d := by
  obtain ⟨hdomains, -, fallback, -, rfl⟩ := ofDomains_eq_ok_iff.1 h
  exact find?_eq_some_of_nodup (checkDomains_eq_ok_iff.1 hdomains).1 hd

theorem field?_of_mem (h : ofDomains domains = .ok r) (hd : d ∈ r.domains) {f : Field}
    (hf : f ∈ d.fields) : d.field? f.key = some f :=
  find?_eq_some_of_nodup (isSound_of_mem h hd).distinct hf

theorem wellFormed_iff : WellFormed domains ↔ checkDomains [] domains = .ok () ∧
    checkLinks domains domains = .ok () ∧ ∃ d, soleFallback domains = .ok d := by
  have hlinks (hdistinct : (domains.map (·.key)).Nodup) :
      checkLinks domains domains = .ok () ↔ ∀ d ∈ domains, ∀ f ∈ d.fields, ∀ reference,
        f.foreignKey = some reference → Leads domains reference := by
    simp only [checkLinks_eq_ok_iff, checkForeignKeys_eq_ok_iff,
      checkForeignKey_eq_ok_iff hdistinct]
  have hfallback : (∃ d, soleFallback domains = .ok d) ↔
      ∃! i : Fin domains.length, domains[i].isFallback = true := by
    simp only [soleFallback_eq_ok_iff]
    constructor
    · rintro ⟨_, i, -, hsole⟩
      exact ⟨i, (hsole i).2 rfl, fun j hj => (hsole j).1 hj⟩
    · rintro ⟨i, hi, hsole⟩
      exact ⟨domains[i], i, rfl, fun j => ⟨hsole j, fun hj => hj ▸ hi⟩⟩
  rw [checkDomains_eq_ok_iff, hfallback]
  constructor
  · rintro ⟨hsound, hdistinct, hlinked, hfallback⟩
    exact ⟨⟨hdistinct, hsound⟩, (hlinks hdistinct).2 hlinked, hfallback⟩
  · rintro ⟨⟨hdistinct, hsound⟩, hlinked, hfallback⟩
    exact ⟨hsound, hdistinct, (hlinks hdistinct).1 hlinked, hfallback⟩

/-- The well-formed lists of domains make a registry, and no others do. It has these domains, its
fallback is the one that is marked, and each of them is found by its key. -/
theorem exists_ofDomains_iff (domains : List Domain) :
    ((∃ r, ofDomains domains = .ok r) ↔ WellFormed domains) ∧
    ∀ r, ofDomains domains = .ok r → r.domains = domains ∧
      (∃ i : Fin domains.length, domains[i] = r.fallback ∧
        ∀ j : Fin domains.length, domains[j].isFallback = true ↔ j = i) ∧
      ∀ d ∈ domains, r.domain? d.key = some d := by
  refine ⟨?_, fun r h => ⟨domains_of_ofDomains h, exists_fallback_of_ofDomains h, fun d hd => ?_⟩⟩
  · rw [wellFormed_iff]
    constructor
    · rintro ⟨r, h⟩
      obtain ⟨hdomains, hlinks, d, hd, -⟩ := ofDomains_eq_ok_iff.1 h
      exact ⟨hdomains, hlinks, d, hd⟩
    · rintro ⟨hdomains, hlinks, d, hd⟩
      exact ⟨⟨domains, d⟩, ofDomains_eq_ok_iff.2 ⟨hdomains, hlinks, d, hd, rfl⟩⟩
  · exact domain?_of_mem h (domains_of_ofDomains h ▸ hd)

/-- A domain whose field refers to a domain that comes after it. -/
def orders : Domain where
  key := "orders"
  label := "Orders"
  table := "orders"
  primaryKey := "number"
  fields := [{ key := "buyer", label := "Buyer", kind := .text, foreignKey := some "people.name" }]
  defaultFields := ["buyer"]

def people : Domain where
  key := "people"
  label := "People"
  table := "people"
  primaryKey := "name"
  fields := [{ key := "name", label := "Name", kind := .text, searchable := true }]
  defaultFields := ["name"]
  isFallback := true

theorem exists_ofDomains_iff_orders :
    ofDomains [orders, people] = .ok ⟨[orders, people], people⟩ ∧ WellFormed [orders, people] ∧
      ¬ WellFormed [orders] ∧ ¬ WellFormed [orders, people, people] := by
  have haccepted : ofDomains [orders, people] = .ok ⟨[orders, people], people⟩ := by rfl
  refine ⟨haccepted, (exists_ofDomains_iff _).1.1 ⟨_, haccepted⟩, fun h => ?_, fun h => ?_⟩
  · obtain ⟨r, hr⟩ := (exists_ofDomains_iff _).1.2 h
    have hrefused : ofDomains [orders] = .error (.unknownDomain "people") := by rfl
    simp [hrefused] at hr
  · obtain ⟨r, hr⟩ := (exists_ofDomains_iff _).1.2 h
    have hrefused : ofDomains [orders, people, people] =
        .error (.invalid "duplicate domain key: people") := by rfl
    simp [hrefused] at hr

end Registry

end CivicReport
