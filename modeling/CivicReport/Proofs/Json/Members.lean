import CivicReport.Json
import Mathlib.Data.List.Nodup

/-!
The members of JSON objects, as finite maps. Where their keys are distinct, looking one up is the
same as finding it among them. Main statement: the order of distinct members does not matter.
-/
namespace CivicReport.Json

variable {members others : List (String × Json)} {key : String} {j : Json}

/-! Looking up. -/

theorem lookup_eq_none (h : key ∉ members.map (·.1)) : lookup key members = none := by
  induction members with
  | nil => rfl
  | cons head rest ih =>
    have hne : head.1 ≠ key := fun heq => h (heq ▸ List.mem_cons_self)
    rw [lookup, if_neg hne]
    exact ih fun hmem => h (List.mem_cons_of_mem _ hmem)

theorem lookup_putMember (key k : String) (value : Json) (members : List (String × Json)) :
    lookup k (putMember key value members) = if key = k then some value else lookup k members := by
  induction members with
  | nil => rfl
  | cons head rest ih =>
    obtain ⟨first, j⟩ := head
    rw [putMember]
    split
    · next hfirst =>
      subst hfirst
      simp only [lookup]
      split
      · rfl
      · rfl
    · next hfirst =>
      rw [lookup, lookup, ih]
      by_cases hkey : key = k
      · have hne : first ≠ k := fun h => hfirst (h.trans hkey.symm)
        rw [if_pos hkey, if_neg hne, if_pos hkey]
      · rw [if_neg hkey, if_neg hkey]

theorem lookup_append (key : String) (front back : List (String × Json)) :
    lookup key (front ++ back) = (lookup key front).or (lookup key back) := by
  induction front with
  | nil => rfl
  | cons head rest ih =>
    rw [List.cons_append, lookup, lookup, ih]
    split
    · rfl
    · rfl

theorem mem_of_lookup (h : lookup key members = some j) : (key, j) ∈ members := by
  induction members with
  | nil => contradiction
  | cons head rest ih =>
    rw [lookup] at h
    split at h
    · next hkey =>
      obtain rfl := Option.some.inj h
      exact hkey ▸ List.mem_cons_self
    · exact List.mem_cons_of_mem _ (ih h)

theorem exists_lookup_of_mem {members : List (String × Json)} {m : String × Json}
    (h : m ∈ members) : ∃ j, lookup m.1 members = some j := by
  induction members with
  | nil => contradiction
  | cons head rest ih =>
    rw [lookup]
    split
    · exact ⟨_, rfl⟩
    · next hkey =>
      rcases List.mem_cons.1 h with rfl | hrest
      · exact absurd rfl hkey
      · exact ih hrest

/-! Keys. -/

/-- No key has two members. -/
def Distinct (members : List (String × Json)) : Prop := (members.map (·.1)).Nodup

instance (members : List (String × Json)) : Decidable (Distinct members) :=
  inferInstanceAs (Decidable (members.map (·.1)).Nodup)

theorem lookup_eq_some_iff (h : Distinct members) :
    lookup key members = some j ↔ (key, j) ∈ members := by
  refine ⟨mem_of_lookup, fun hmem => ?_⟩
  obtain ⟨found, hfound⟩ := exists_lookup_of_mem hmem
  have hsame : (key, found) = (key, j) :=
    List.inj_on_of_nodup_map h (mem_of_lookup hfound) hmem rfl
  rw [hfound, (Prod.mk.inj hsame).2]

theorem Distinct.perm (h : Distinct members) (hperm : others.Perm members) : Distinct others :=
  (hperm.map _).nodup_iff.2 h

/-- The order of distinct members does not matter. -/
theorem lookup_perm (h : Distinct members) (hperm : others.Perm members) (key : String) :
    lookup key others = lookup key members := by
  ext j
  rw [lookup_eq_some_iff h, lookup_eq_some_iff (h.perm hperm), hperm.mem_iff]

theorem keys_putMember (key : String) (value : Json) (members : List (String × Json)) :
    (putMember key value members).map (·.1) =
      if key ∈ members.map (·.1) then members.map (·.1) else members.map (·.1) ++ [key] := by
  induction members with
  | nil => rfl
  | cons head rest ih =>
    obtain ⟨first, _⟩ := head
    rw [putMember]
    split
    · next hfirst => simp [hfirst]
    · next hfirst =>
      rw [List.map_cons, ih, List.map_cons]
      simp only [List.mem_cons, Ne.symm hfirst, false_or]
      split
      · rfl
      · rfl

theorem Distinct.putMember (h : Distinct members) (key : String) (value : Json) :
    Distinct (putMember key value members) := by
  rw [Distinct, keys_putMember]
  split
  · exact h
  · next hnew =>
    exact List.Nodup.append h (List.nodup_singleton key) (List.disjoint_singleton.2 hnew)

end CivicReport.Json
