import CivicReport.Intent.Filters
import Mathlib.Data.List.Sort

/-!
Filters as finite maps. Their keys stand in strict order, so filters with the same keys list them
alike. An entry is what its key holds, and inserting the entries one after another gives the
filters back.
-/
namespace CivicReport

/-- Where keys are distinct, an item is found by its own key. -/
theorem find?_eq_some_of_nodup {α : Type} {key : α → String} {items : List α} {a : α}
    (hnodup : (items.map key).Nodup) (h : a ∈ items) : items.find? (key · == key a) = some a := by
  induction items with
  | nil => contradiction
  | cons first rest ih =>
    obtain ⟨hfirst, hrest⟩ := List.nodup_cons.1 hnodup
    rcases List.mem_cons.1 h with rfl | h
    · simp
    · have hne : key first ≠ key a := fun heq => hfirst (heq ▸ List.mem_map_of_mem h)
      simp [hne, ih hrest h]

namespace Filters

theorem keys_ordered (f : Filters) : f.keys.Pairwise (· < ·) := List.pairwise_map.2 f.ordered

theorem nodup_keys (f : Filters) : f.keys.Nodup := by
  apply f.keys_ordered.imp
  rintro a b hlt rfl
  exact String.lt_irrefl a hlt

/-- Two filters with the same set of keys have the same list of keys. -/
theorem keys_eq_of_mem_iff {f g : Filters} (h : ∀ key, key ∈ f.keys ↔ key ∈ g.keys) :
    f.keys = g.keys :=
  f.keys_ordered.eq_of_mem_iff g.keys_ordered h

theorem ext_entries {f g : Filters} (h : f.entries = g.entries) : f = g := by
  cases f
  cases g
  cases h
  rfl

theorem get?_of_mem {f : Filters} {key : String} {v : Scalar} (h : (key, v) ∈ f.entries) :
    f.get? key = some v := by
  rw [get?, find?_eq_some_of_nodup f.nodup_keys h]
  rfl

theorem mem_entries_iff {f : Filters} {e : String × Scalar} :
    e ∈ f.entries ↔ f.get? e.1 = some e.2 := by
  refine ⟨get?_of_mem, fun h => ?_⟩
  obtain ⟨found, hfound, hvalue⟩ := Option.map_eq_some_iff.1 h
  have hkey : found.1 = e.1 := by simpa using List.find?_some hfound
  obtain rfl : found = e := Prod.ext hkey hvalue
  exact List.mem_of_find?_eq_some hfound

theorem ext_get? {f g : Filters} (h : ∀ key v, f.get? key = some v ↔ g.get? key = some v) :
    f = g := by
  have hmem (e : String × Scalar) : e ∈ f.entries ↔ e ∈ g.entries := by
    rw [mem_entries_iff, mem_entries_iff, h]
  exact ext_entries (f.ordered.eq_of_mem_iff g.ordered hmem)

theorem mem_keys_iff {f : Filters} {key : String} : key ∈ f.keys ↔ ∃ v, f.get? key = some v := by
  simp [keys, ← mem_entries_iff (e := (key, _))]

theorem contains_eq_isSome (f : Filters) (key : String) :
    f.contains key = (f.get? key).isSome := by
  rw [Bool.eq_iff_iff]
  simp [contains, get?]

/-- A key after all others goes to the end. -/
theorem insertEntry_of_forall_lt {key : String} {v : Scalar} {entries : List (String × Scalar)}
    (h : ∀ e ∈ entries, e.1 < key) : insertEntry key v entries = entries ++ [(key, v)] := by
  induction entries with
  | nil => rfl
  | cons head rest ih =>
    have hlt : head.1 < key := h head List.mem_cons_self
    have hne : key ≠ head.1 := by
      rintro rfl
      exact String.lt_irrefl _ hlt
    simp only [insertEntry, if_neg (String.lt_asymm hlt), if_neg hne, List.cons_append]
    rw [ih fun e he => h e (List.mem_cons_of_mem _ he)]

/-- Entries that come after those which are there already are appended. -/
theorem entries_foldl_insert (f : Filters) (entries : List (String × Scalar))
    (h : (f.entries ++ entries).Pairwise fun a b => a.1 < b.1) :
    (entries.foldl (fun f e => f.insert e.1 e.2) f).entries = f.entries ++ entries := by
  induction entries generalizing f with
  | nil => simp
  | cons head rest ih =>
    have hlast : (f.insert head.1 head.2).entries = f.entries ++ [head] :=
      insertEntry_of_forall_lt fun e he =>
        (List.pairwise_append.1 h).2.2 e he head List.mem_cons_self
    rw [List.foldl_cons, ih, hlast, List.append_assoc]
    · rfl
    · rw [hlast, List.append_assoc]
      exact h

theorem ofList_entries (f : Filters) : ofList f.entries = f :=
  ext_entries (entries_foldl_insert empty f.entries f.ordered)

end Filters

end CivicReport
