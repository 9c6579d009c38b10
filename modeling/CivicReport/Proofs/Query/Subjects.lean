import CivicReport.Proofs.Filters.Reading
import CivicReport.Proofs.Query.Conditions
import CivicReport.Proofs.Query.Names
import CivicReport.Proofs.Question.Directions
import Mathlib.Data.List.Forall2

/-!
What conditions are about: a search, or a field and how it is compared. The key of a filter tells
its subject, and the subject tells the key. Main statement: keys are read without ambiguity, so no
two conditions have the same subject, and the key of an amount that is found in a question is read
as its field and the direction that the question has in words.
-/
namespace CivicReport

namespace Compilation

variable {d : Domain} {f : Filters} {key : String} {v : Scalar} {c : Condition}

/-- What a condition is about. A text that is matched in parts counts as compared for equality. -/
inductive Subject where
  | words
  | compared (field : Field) (op : Comparison)
  deriving Repr, DecidableEq

namespace Subject

/-- The form of the keys for a subject: the name of the field and how it is compared. -/
def form : Subject → FilterKey
  | words => .search
  | compared field .equal => .equals field.key
  | compared field .greater => .above field.key
  | compared field .less => .below field.key

/-- The shape of the conditions about a subject. -/
def shape (d : Domain) : Subject → ConditionShape
  | words => searchShape d
  | compared field .equal => equalsShape d field
  | compared field op => compareShape d op field

end Subject

/-- The subject that a key has in a domain. -/
def subject? (d : Domain) (key : String) : Option Subject :=
  match FilterKey.read key with
  | .search => some .words
  | .equals base => (d.field? base).map (.compared · .equal)
  | .above base => (d.field? base).map (.compared · .greater)
  | .below base => (d.field? base).map (.compared · .less)

theorem read_of_subject? {s : Subject} (h : subject? d key = some s) :
    FilterKey.read key = s.form := by
  unfold subject? at h
  split at h
  · next hread =>
    obtain rfl := Option.some.inj h
    exact hread
  all_goals
    next hread =>
    obtain ⟨field, hfield, rfl⟩ := Option.map_eq_some_iff.1 h
    rw [hread, Subject.form, Domain.key_of_field? hfield]

theorem shapeOf?_eq_map_subject? (d : Domain) (key : String) :
    shapeOf? d key = (subject? d key).map (·.shape d) := by
  unfold shapeOf? subject?
  cases FilterKey.read key with
  | search => rfl
  | equals base | above base | below base =>
    rw [Option.map_map]
    rfl

/-- A condition that filters have for a subject: it is made from what they hold under the key for
the subject, and has the shape of the subject. -/
structure Yields (d : Domain) (f : Filters) (s : Subject) (c : Condition) : Prop where
  source : ∃ v, f.get? s.form.write = some v ∧ condition? d s.form.write v = some c
  shape : c.shape = s.shape d

theorem exists_yields (hv : f.get? key = some v) (hc : condition? d key v = some c) :
    ∃ s, subject? d key = some s ∧ Yields d f s c := by
  have hshape := shape_of_condition? hc
  rw [shapeOf?_eq_map_subject?] at hshape
  obtain ⟨s, hs, hshape⟩ := Option.map_eq_some_iff.1 hshape
  have hkey : s.form.write = key := by rw [← read_of_subject? hs, FilterKey.write_read]
  refine ⟨s, hs, ⟨v, ?_, ?_⟩, hshape.symm⟩
  · rw [hkey, hv]
  · rw [hkey, hc]

/-- The subjects of the filters that become conditions, in the order of the keys. -/
def subjects (d : Domain) (f : Filters) : List Subject :=
  (f.keys.filter (keeps d f)).filterMap (subject? d)

/-- No field is compared twice in one way, and there is at most one search. -/
theorem nodup_forms (d : Domain) (f : Filters) : ((subjects d f).map (·.form)).Nodup := by
  rw [subjects, List.map_filterMap]
  refine List.Nodup.filterMap (fun a b form ha hb => ?_) (f.nodup_keys.filter _)
  obtain ⟨s, hs, hform⟩ := Option.map_eq_some_iff.1 ha
  obtain ⟨t, ht, rfl⟩ := Option.map_eq_some_iff.1 hb
  rw [← FilterKey.read_inj, read_of_subject? hs, hform, read_of_subject? ht]

theorem conditions_eq_filterMap_keys (d : Domain) (f : Filters) :
    conditions d f = f.keys.filterMap fun key => (f.get? key).bind (condition? d key) := by
  rw [conditions, Filters.keys, List.filterMap_map]
  apply List.filterMap_congr
  rintro ⟨key, v⟩ he
  simp [Filters.get?_of_mem he]

/-- The conditions are about the subjects, one for each and in the same order. -/
theorem forall₂_subjects (d : Domain) (f : Filters) :
    List.Forall₂ (Yields d f) (subjects d f) (conditions d f) := by
  -- Both lists are made from the keys, so they are compared one key at a time.
  rw [conditions_eq_filterMap_keys, subjects, List.filterMap_filter]
  have hkeys : List.Forall₂ Eq f.keys f.keys := List.forall₂_refl _
  refine List.rel_filterMap ?_ hkeys
  rintro key _ rfl
  cases hc : (f.get? key).bind (condition? d key) with
  | none =>
    simp only [keeps, hc, Option.isSome_none, Bool.false_eq_true, if_false]
    exact .none
  | some c =>
    obtain ⟨v, hv, hcondition⟩ := Option.bind_eq_some_iff.1 hc
    obtain ⟨s, hs, hyields⟩ := exists_yields hv hcondition
    simp only [keeps, hc, Option.isSome_some, if_true, hs]
    exact .some hyields

end Compilation

namespace FilterKey

open Compilation Extraction

/-- Keys are read without ambiguity. Different keys are read differently, since a key can be written
back from what it is read as, and a comparison is read back unless its field has no name. So the
conditions that filters give are about different subjects, and the key of an amount in a question
is read as the amount field with the direction that the first comparison has in words. -/
theorem read_unambiguous :
    (∀ a b, read a = read b ↔ a = b) ∧ (∀ key, (read key).write = key) ∧
      (∀ base, (read (base ++ aboveSuffix) = .above base ↔ base ≠ "") ∧
        (read (base ++ belowSuffix) = .below base ↔ base ≠ "")) ∧
      (∀ d f, ((subjects d f).map (·.form)).Nodup ∧
        List.Forall₂ (Yields d f) (subjects d f) (conditions d f)) ∧
      ∀ q d field key v, d.amountField? = some field → field.key ≠ "" →
        amount? q d = some (key, v) →
          (∃ op, ComparesFirst (without Vocabulary.dateBounds q.folded) op) ∧
            ∀ op, ComparesFirst (without Vocabulary.dateBounds q.folded) op →
              read key = (Subject.compared field op).form := by
  refine ⟨fun a b => read_inj, write_read,
    fun base => ⟨read_append_aboveSuffix_iff, read_append_belowSuffix_iff⟩,
    fun d f => ⟨nodup_forms d f, forall₂_subjects d f⟩, ?_⟩
  intro q d field key v hfield hnamed h
  obtain ⟨found, hfound, hdirection⟩ := key_of_amount? h
  obtain rfl : field = found := Option.some.inj (hfield.symm.trans hfound)
  rcases hdirection with ⟨hcompares, rfl⟩ | ⟨hcompares, rfl⟩
  · refine ⟨⟨_, hcompares⟩, fun op hop => ?_⟩
    rw [hop.eq hcompares]
    exact read_append_aboveSuffix_iff.2 hnamed
  · refine ⟨⟨_, hcompares⟩, fun op hop => ?_⟩
    rw [hop.eq hcompares]
    exact read_append_belowSuffix_iff.2 hnamed

/-- One field compared in all three ways. -/
def bounds : Filters :=
  ((Filters.empty.insert "amount" (.integer 5000)).insert "amount_gt" (.integer 100)).insert
    "amount_lt" (.integer 9000)

theorem read_unambiguous_bounds :
    let q := Question.ofText "הוצאות מעל 5000"
    (read ("x_gt" ++ belowSuffix) = .below "x_gt" ∧ read ("" ++ belowSuffix) ≠ .below "") ∧
      ((conditions Registry.transactions bounds).length = 3 ∧
        ((subjects Registry.transactions bounds).map (·.form)).Nodup) ∧
      ∃ field v, Registry.transactions.amountField? = some field ∧ field.key ≠ "" ∧
        amount? q Registry.transactions = some ("amount_gt", v) ∧
        ComparesFirst (without Vocabulary.dateBounds q.folded) .greater ∧
        read "amount_gt" = .above field.key := by
  intro q
  obtain ⟨-, -, hbase, hsubjects, hamount⟩ := read_unambiguous
  refine ⟨⟨(hbase "x_gt").2.2 (by decide), fun h => (hbase "").2.1 h rfl⟩,
    ⟨by decide, (hsubjects _ _).1⟩, ?_⟩
  have hkey : (amount? q Registry.transactions).map (·.1) = some "amount_gt" := by decide +kernel
  obtain ⟨⟨_, v⟩, hv, rfl⟩ := Option.map_eq_some_iff.1 hkey
  obtain ⟨field, hfield, hnamed⟩ :
      ∃ field, Registry.transactions.amountField? = some field ∧ field.key ≠ "" :=
    ⟨_, rfl, by decide⟩
  obtain ⟨⟨op, hop⟩, hread⟩ := hamount q _ field _ v hfield hnamed hv
  cases op with
  | equal => exact absurd (hread _ hop) nofun
  | less => exact absurd (hread _ hop) nofun
  | greater => exact ⟨field, v, hfield, hnamed, hv, hop, hread _ hop⟩

end FilterKey

end CivicReport
