import CivicReport.Desk
import CivicReport.Registry.Municipal
import CivicReport.Proofs.Vetting.Grammar

/-!
The order of members. Filters are put in one after another, and the first that is not a text or a
number is blamed, so an order could matter twice. Main statement: objects that list the same members
and filters in different orders are accepted alike, as the same intent with the same warnings, and
refused alike but for the filter that is blamed.
-/
namespace CivicReport

namespace Vetting

variable {s : Strictness} {r : Registry} {source : Source} {key : String}
variable {members others entries reordered : List (String × Json)}

/-- The same object with its members, or those of its filters as well, in another order. -/
inductive Reorders (members others : List (String × Json)) : Prop where
  | members (hdistinct : Json.Distinct members) (hperm : others.Perm members)
  | filters {entries reordered : List (String × Json)} (hdistinct : Json.Distinct members)
      (hfilters : Json.lookup "filters" members = some (.object entries))
      (hentries : Json.Distinct entries) (hreordered : reordered.Perm entries)
      (hperm : others.Perm (Json.putMember "filters" (.object reordered) members))

theorem Reorders.lookup_eq (h : Reorders members others) (hkey : key ≠ "filters") :
    Json.lookup key others = Json.lookup key members := by
  cases h with
  | members hdistinct hperm => exact Json.lookup_perm hdistinct hperm key
  | filters hdistinct hfilters hentries hreordered hperm =>
    rw [Json.lookup_perm (hdistinct.putMember ..) hperm, Json.lookup_putMember,
      if_neg hkey.symm]

theorem Reorders.present?_eq (h : Reorders members others) (hkey : key ≠ "filters") :
    present? others key = present? members key := by
  rw [present?, h.lookup_eq hkey, present?]

/-- The filters are the same, or both are objects with the same members. -/
theorem Reorders.present?_filters (h : Reorders members others) :
    present? others "filters" = present? members "filters" ∨
      ∃ entries reordered, present? members "filters" = some (.object entries) ∧
        present? others "filters" = some (.object reordered) ∧ Json.Distinct entries ∧
          reordered.Perm entries := by
  cases h with
  | members hdistinct hperm =>
    left
    rw [present?, Json.lookup_perm hdistinct hperm, present?]
  | @filters entries reordered hdistinct hfilters hentries hreordered hperm =>
    have hothers : Json.lookup "filters" others = some (.object reordered) := by
      rw [Json.lookup_perm (hdistinct.putMember ..) hperm, Json.lookup_putMember, if_pos rfl]
    exact .inr ⟨entries, reordered, present?_eq_some_iff.2 ⟨hfilters, nofun⟩,
      present?_eq_some_iff.2 ⟨hothers, nofun⟩, hentries, hreordered⟩

theorem Reorders.isSome_present? (h : Reorders members others) (key : String) :
    (present? others key).isSome = (present? members key).isSome := by
  by_cases hkey : key = "filters"
  · subst hkey
    rcases h.present?_filters with heq | ⟨_, _, hmembers, hothers, -, -⟩
    · rw [heq]
    · rw [hmembers, hothers]
      rfl
  · rw [h.present?_eq hkey]

theorem Reorders.checkPresent_eq (h : Reorders members others) (keys : List String) :
    checkPresent others keys = checkPresent members keys := by
  induction keys with
  | nil => rfl
  | cons key rest ih => rw [checkPresent, checkPresent, h.isSome_present?, ih]

/-! Faults. -/

/-- A filter that is not a text or a number is blamed. -/
def BlamesFilter (entries : List (String × Json)) (fault : RequestFault) : Prop :=
  ∃ m ∈ entries, ¬ IsComparable m.2 ∧
    fault = .badShape "filters" ("filter " ++ m.1 ++ " must be a string or number")

theorem blamesFilter_of_readFilters {found : Filters} {fault : RequestFault}
    (h : readFilters found entries = .error fault) : BlamesFilter entries fault := by
  induction entries generalizing found with
  | nil => contradiction
  | cons head rest ih =>
    rw [readFilters] at h
    split at h
    · obtain ⟨m, hm, hblamed⟩ := ih h
      exact ⟨m, List.mem_cons_of_mem _ hm, hblamed⟩
    · next hnone =>
      refine ⟨head, List.mem_cons_self, ?_, (Except.error.inj h).symm⟩
      rw [isComparable_iff]
      rintro ⟨v, hv⟩
      rw [Scalar.ofJson?_eq_some_iff.2 hv] at hnone
      contradiction

/-- The same outcome, or two faults that each blame a filter. -/
inductive SameRuling {α : Type} (members : List (String × Json)) :
    Except RequestFault α → Except RequestFault α → Prop where
  | same (x : Except RequestFault α) : SameRuling members x x
  | blamed {entries : List (String × Json)} {f g : RequestFault}
      (hfilters : present? members "filters" = some (.object entries))
      (hf : BlamesFilter entries f) (hg : BlamesFilter entries g) :
      SameRuling members (.error f) (.error g)

theorem SameRuling.bind {α β : Type} {x y : Except RequestFault α}
    {f g : α → Except RequestFault β} (h : SameRuling members x y)
    (hnext : ∀ a, SameRuling members (f a) (g a)) :
    SameRuling members (x >>= f) (y >>= g) := by
  cases h with
  | blamed hfilters hf hg => exact .blamed hfilters hf hg
  | same x =>
    cases x with
    | error fault => exact .same _
    | ok a => exact hnext a

theorem SameRuling.eq_ok_iff {α : Type} {x y : Except RequestFault α} {a : α}
    (h : SameRuling members x y) : x = .ok a ↔ y = .ok a := by
  cases h with
  | same x => rfl
  | blamed hfilters hf hg => simp

/-! Reading. -/

theorem readFilters_eq_ok_of_perm {f : Filters} (hdistinct : Json.Distinct entries)
    (hperm : reordered.Perm entries) (h : readFilters .empty entries = .ok f) :
    readFilters .empty reordered = .ok f := by
  have hcomparable : ∀ m ∈ reordered, IsComparable m.2 := fun m hm =>
    (exists_readFilters_iff .empty).1 ⟨f, h⟩ m (hperm.mem_iff.1 hm)
  obtain ⟨g, hg⟩ := (exists_readFilters_iff .empty).2 hcomparable
  have hreverse : reordered.reverse.Perm entries.reverse :=
    (reordered.reverse_perm.trans hperm).trans entries.reverse_perm.symm
  have hlast : Json.Distinct entries.reverse := hdistinct.perm entries.reverse_perm
  obtain rfl : g = f := Filters.ext_get? fun key v => by
    rw [get?_of_readFilters hg, get?_of_readFilters h, Json.lookup_perm hlast hreverse]
  exact hg

theorem Reorders.filtersOf (h : Reorders members others) : SameRuling members
    (filtersOf (present? others "filters")) (filtersOf (present? members "filters")) := by
  rcases h.present?_filters with heq | ⟨entries, reordered, hmembers, hothers, hdistinct, hperm⟩
  · rw [heq]
    exact .same _
  rw [hmembers, hothers]
  change SameRuling members (readFilters .empty reordered) (readFilters .empty entries)
  cases hread : readFilters .empty entries with
  | ok f =>
    rw [readFilters_eq_ok_of_perm hdistinct hperm hread]
    exact .same _
  | error fault =>
    cases hother : readFilters .empty reordered with
    | ok f =>
      rw [readFilters_eq_ok_of_perm (hdistinct.perm hperm) hperm.symm hother] at hread
      contradiction
    | error found =>
      obtain ⟨m, hm, hblamed⟩ := blamesFilter_of_readFilters hother
      exact .blamed hmembers ⟨m, hperm.mem_iff.1 hm, hblamed⟩ (blamesFilter_of_readFilters hread)

theorem Reorders.readMembers (h : Reorders members others) (s : Strictness) (r : Registry)
    (source : Source) :
    SameRuling members (readMembers s r source others) (readMembers s r source members) := by
  rw [Vetting.readMembers, Vetting.readMembers, h.checkPresent_eq]
  have hdomain := h.lookup_eq (show "domain" ≠ "filters" by decide)
  have haction := h.lookup_eq (show "action" ≠ "filters" by decide)
  have hconfidence := h.lookup_eq (show "confidence" ≠ "filters" by decide)
  have hfields := h.present?_eq (show "fields" ≠ "filters" by decide)
  have hexplanation := h.present?_eq (show "explanation" ≠ "filters" by decide)
  simp only [hdomain, haction, hconfidence, hfields, hexplanation]
  refine .bind (.same _) fun _ => .bind (.same _) fun domain => .bind (.same _) fun action =>
    .bind (.same _) fun confidence => ?_
  exact .bind h.filtersOf fun filters => .same _

theorem Reorders.read (h : Reorders members others) (s : Strictness) (r : Registry)
    (source : Source) :
    SameRuling members (read s r source (.object others)) (read s r source (.object members)) :=
  .bind (h.readMembers s r source) fun _ => .same _

/-- Objects with their members, and those of their filters, in different orders are accepted or
refused alike. They are the same intent with the same warnings, so they compile alike. Refused ones
have the same fault, unless more than one filter is to blame. -/
theorem read_reordered (h : Reorders members others) (s : Strictness) (r : Registry)
    (source : Source) :
    ((∃ x, read s r source (.object others) = .ok x) ↔
      ∃ x, read s r source (.object members) = .ok x) ∧
    (∀ i j warnings remarks, read s r source (.object others) = .ok (i, warnings) →
      read s r source (.object members) = .ok (j, remarks) →
        i = j ∧ warnings = remarks ∧ ∀ desk : Desk, desk.compile i = desk.compile j) ∧
    ∀ f g, read s r source (.object others) = .error f →
      read s r source (.object members) = .error g → f = g ∨
        ∃ entries, present? members "filters" = some (.object entries) ∧
          BlamesFilter entries f ∧ BlamesFilter entries g := by
  have hsame := h.read s r source
  refine ⟨exists_congr fun x => hsame.eq_ok_iff, fun i j warnings remarks hi hj => ?_,
    fun f g hf hg => ?_⟩
  · obtain ⟨rfl, rfl⟩ := Prod.mk.inj (Except.ok.inj ((hsame.eq_ok_iff.1 hi).symm.trans hj))
    exact ⟨rfl, rfl, fun _ => rfl⟩
  · rw [hf, hg] at hsame
    cases hsame with
    | same x => exact .inl rfl
    | blamed hfilters hf hg => exact .inr ⟨_, hfilters, hf, hg⟩

/-- A list of transactions with two filters, one of which is not there. -/
def colourful (filters : List (String × Json)) : List (String × Json) :=
  [("domain", .text "transactions"), ("action", .text "list"), ("filters", .object filters),
    ("confidence", .number (.real 1.0))]

theorem read_reordered_colourful :
    let filters : List (String × Json) :=
      [("colour", .text "red"), ("amount_gt", .number (.whole 5000))]
    let members := colourful filters
    let others := (colourful filters.reverse).reverse
    Reorders members others ∧ ∃ x,
      read .lenient Registry.municipal .caller (.object members) = .ok x ∧
        read .lenient Registry.municipal .caller (.object others) = .ok x := by
  intro filters members others
  have hreorders : Reorders members others :=
    .filters (by decide) rfl (by decide) filters.reverse_perm
      (colourful filters.reverse).reverse_perm
  obtain ⟨haccepted, hsame, -⟩ := read_reordered hreorders .lenient Registry.municipal .caller
  obtain ⟨⟨i, warnings⟩, hmembers⟩ :
      ∃ x, read .lenient Registry.municipal .caller (.object members) = .ok x := ⟨_, rfl⟩
  obtain ⟨⟨j, remarks⟩, hothers⟩ := haccepted.2 ⟨_, hmembers⟩
  obtain ⟨rfl, rfl, -⟩ := hsame _ _ _ _ hothers hmembers
  exact ⟨hreorders, _, hmembers, hothers⟩

/-- The first of the filters that cannot be read is blamed. -/
example :
    let blaming (key : String) : Except RequestFault (Intent × List String) :=
      .error (.badShape "filters" ("filter " ++ key ++ " must be a string or number"))
    let reading (filters : List (String × Json)) :=
      read .lenient Registry.municipal .caller (.object (colourful filters))
    reading [("year", .null), ("colour", .null)] = blaming "year" ∧
      reading [("colour", .null), ("year", .null)] = blaming "colour" :=
  ⟨rfl, rfl⟩

end Vetting

end CivicReport
