import CivicReport.Json.Record
import CivicReport.Proofs.Json.Members

/-!
Records in JSON objects. A writer gives the fields in their order and leaves out those that are
absent. Main statement: a reader of the record then finds each field again, and finds those absent
that were left out.
-/
namespace CivicReport.Json

/-- The fields of a record that are there, under their names. -/
def written : List String → List (Option Json) → List (String × Json)
  | name :: names, some j :: values => (name, j) :: written names values
  | _ :: names, none :: values => written names values
  | _, _ => []

theorem keys_written_sublist (names : List String) (values : List (Option Json)) :
    ((written names values).map (·.1)).Sublist names := by
  induction names generalizing values with
  | nil => simp [written]
  | cons name names ih =>
    cases values with
    | nil => simp [written]
    | cons value values =>
      cases value with
      | none => exact (ih values).cons name
      | some j => exact (ih values).cons_cons name

/-- A name occurs once at most where names are distinct. -/
theorem repeats_eq_false {members : List (String × Json)} (h : (members.map (·.1)).Nodup)
    (names : List String) : repeats names members = false := by
  have hcount (name : String) : (members.filter (·.1 == name)).length ≤ 1 := by
    have hlength := List.nodup_iff_count_le_one.1 h name
    rwa [List.count, List.countP_map, List.countP_eq_length_filter] at hlength
  simpa [repeats] using fun name _ => hcount name

theorem map_lookup_written {names : List String} (hnodup : names.Nodup)
    {values : List (Option Json)} (hlength : values.length = names.length) :
    names.map (fun name => lookup name (written names values)) = values := by
  -- A name that comes later is another one, so what is in front does not hide it.
  induction names generalizing values with
  | nil =>
    obtain rfl := List.length_eq_zero_iff.1 hlength
    rfl
  | cons name names ih =>
    obtain ⟨hnew, hnodup⟩ := List.nodup_cons.1 hnodup
    cases values with
    | nil => contradiction
    | cons value values =>
      have hrest := ih hnodup (Nat.succ.inj hlength)
      cases value with
      | none =>
        have hnone : lookup name (written names values) = none :=
          lookup_eq_none fun hmem => hnew ((keys_written_sublist names values).subset hmem)
        rw [List.map_cons, written, hnone, hrest]
      | some j =>
        have hlater : names.map (fun other => lookup other ((name, j) :: written names values)) =
            names.map fun other => lookup other (written names values) := by
          apply List.map_congr_left
          intro other hother
          have hne : name ≠ other := fun heq => hnew (heq ▸ hother)
          exact if_neg hne
        rw [List.map_cons, written, hlater, hrest, lookup, if_pos rfl]

theorem fields?_written {names : List String} (hnodup : names.Nodup)
    {values : List (Option Json)} (hlength : values.length = names.length) :
    fields? names (.object (written names values)) = some values := by
  have hkeys : ((written names values).map (·.1)).Nodup :=
    hnodup.sublist (keys_written_sublist names values)
  simp [fields?, repeats_eq_false hkeys, map_lookup_written hnodup hlength]

theorem some_mem_of_mem_written {names : List String} {values : List (Option Json)}
    {m : String × Json} (h : m ∈ written names values) : m.1 ∈ names ∧ some m.2 ∈ values := by
  induction names generalizing values with
  | nil => simp [written] at h
  | cons name names ih =>
    cases values with
    | nil => simp [written] at h
    | cons value values =>
      cases value with
      | none =>
        have hrest := ih h
        exact ⟨List.mem_cons_of_mem _ hrest.1, List.mem_cons_of_mem _ hrest.2⟩
      | some j =>
        obtain rfl | h := List.mem_cons.1 h
        · exact ⟨List.mem_cons_self, List.mem_cons_self⟩
        · exact ⟨List.mem_cons_of_mem _ (ih h).1, List.mem_cons_of_mem _ (ih h).2⟩

theorem required_some {α : Type} (read : Json → Option α) (j : Json) :
    required read (some j) = read j := rfl

theorem withDefault_some {α : Type} (default : α) (read : Json → Option α) (j : Json) :
    withDefault default read (some j) = read j := rfl

/-- A field that is left out where it is absent is read back, whether it is there or not. -/
theorem optional_map {α : Type} {read : Json → Option α} (write : α → Json)
    (h : ∀ a, read (write a) = some a) (hnull : read .null = none) (a : Option α) :
    optional read (a.map write) = some a := by
  cases a with
  | none => rfl
  | some a =>
    have hne : write a ≠ .null := by
      intro heq
      have hread := h a
      rw [heq, hnull] at hread
      contradiction
    rw [Option.map_some, optional, h]
    · rfl
    · exact hne

end CivicReport.Json
