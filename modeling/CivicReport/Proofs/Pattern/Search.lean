import CivicReport.Proofs.Pattern.Readings

/-!
The matches that a search finds in a text. Main statements: a search finds only matches, in their
order and without overlaps, and where a pattern matches at a place, the search finds this match or
one that begins before and reaches beyond the place.
-/
namespace CivicReport.Pattern

variable {Label : Type} {p : Pattern Label} {s a rest : List Char} {free : Nat}
  {m : PatternMatch Label}

/-- What a match says: where in a text the pattern has taken which part of it. -/
def IsMatch (p : Pattern Label) (s : List Char) (m : PatternMatch Label) : Prop :=
  ∃ a w b, s = a ++ (w ++ b) ∧ p.Takes a w b m.captures ∧ m.start = a.length ∧
    m.stop = (a ++ w).length

theorem isMatch_of_matchAt? (h : p.matchAt? (.between a rest) = some m) :
    p.IsMatch (a ++ rest) m := by
  obtain ⟨w, caps, hhead, rfl⟩ := matchAt?_eq_some_iff.1 h
  obtain ⟨b, rfl, htakes⟩ := mem_readings_iff.1 (List.mem_of_head? hhead)
  exact ⟨a, w, b, rfl, htakes, rfl, rfl⟩

theorem start_of_matchAt? (h : p.matchAt? (.between a rest) = some m) : m.start = a.length := by
  obtain ⟨w, caps, -, rfl⟩ := matchAt?_eq_some_iff.1 h
  rfl

theorem matchesFrom_nil : p.matchesFrom free a.getLast? a.length [] =
    if free ≤ a.length then (p.matchAt? (.between a [])).toList else [] := rfl

/-- The search at one place: on if the place belongs to a match before, and otherwise what the
pattern matches here and then the matches after it. -/
theorem matchesFrom_cons {x : Char} : p.matchesFrom free a.getLast? a.length (x :: rest) =
    if a.length < free then p.matchesFrom free (a ++ [x]).getLast? (a ++ [x]).length rest
    else match p.matchAt? (.between a (x :: rest)) with
      | some m =>
        m :: p.matchesFrom (max m.stop (a.length + 1)) (a ++ [x]).getLast? (a ++ [x]).length rest
      | none => p.matchesFrom free (a ++ [x]).getLast? (a ++ [x]).length rest := by
  simp only [matchesFrom, List.getLast?_concat, List.length_append, List.length_singleton]
  rfl

/-- A search finds only what the pattern matches at some place, and nothing before the first free
place. -/
theorem exists_place_of_mem_matchesFrom
    (h : m ∈ p.matchesFrom free a.getLast? a.length rest) :
    free ≤ m.start ∧
      ∃ a' rest', a' ++ rest' = a ++ rest ∧ p.matchAt? (.between a' rest') = some m := by
  induction rest generalizing a free with
  | nil =>
    rw [matchesFrom_nil] at h
    split at h
    · next hfree =>
      have hmatch := Option.mem_toList.1 h
      exact ⟨start_of_matchAt? hmatch ▸ hfree, a, [], rfl, hmatch⟩
    · exact absurd h List.not_mem_nil
  | cons x rest ih =>
    rw [matchesFrom_cons] at h
    have hnext {free' : Nat} (hfree : free ≤ free')
        (h : m ∈ p.matchesFrom free' (a ++ [x]).getLast? (a ++ [x]).length rest) :
        free ≤ m.start ∧
          ∃ a' rest', a' ++ rest' = a ++ x :: rest ∧ p.matchAt? (.between a' rest') = some m := by
      obtain ⟨hstart, hplace⟩ := ih h
      rw [List.append_assoc] at hplace
      exact ⟨Nat.le_trans hfree hstart, hplace⟩
    split at h
    · exact hnext (Nat.le_refl _) h
    · next hplace =>
      split at h
      · next m' hm' =>
        rcases List.mem_cons.1 h with rfl | h
        · exact ⟨start_of_matchAt? hm' ▸ Nat.not_lt.1 hplace, a, x :: rest, rfl, hm'⟩
        · exact hnext (by omega) h
      · exact hnext (Nat.le_refl _) h

theorem exists_place_of_mem_allMatches (h : m ∈ p.allMatches s) :
    ∃ a rest, a ++ rest = s ∧ p.matchAt? (.between a rest) = some m :=
  (exists_place_of_mem_matchesFrom (a := []) h).2

theorem isMatch_of_mem_allMatches (h : m ∈ p.allMatches s) : p.IsMatch s m := by
  obtain ⟨a, rest, rfl, hmatch⟩ := exists_place_of_mem_allMatches h
  exact isMatch_of_matchAt? hmatch

/-- Where the pattern matches, a search finds the match or one that covers the place. -/
theorem mem_matchesFrom_or_covered {a' rest' : List Char} (hsplit : a ++ rest = a' ++ rest')
    (hpassed : a.length ≤ a'.length) (hfree : free ≤ a'.length)
    (hmatch : p.matchAt? (.between a' rest') = some m) :
    m ∈ p.matchesFrom free a.getLast? a.length rest ∨
      ∃ m' ∈ p.matchesFrom free a.getLast? a.length rest,
        m'.start < a'.length ∧ a'.length < m'.stop := by
  induction rest generalizing a free with
  | nil =>
    have hlength := congrArg List.length hsplit
    simp only [List.length_append, List.length_nil] at hlength
    obtain ⟨rfl, rfl⟩ := List.append_inj hsplit (by omega)
    left
    rw [matchesFrom_nil, if_pos hfree]
    exact Option.mem_toList.2 hmatch
  | cons x rest ih =>
    rw [matchesFrom_cons]
    have hnext {free' : Nat} (hlt : a.length < a'.length) (hfree' : free' ≤ a'.length) :=
      @ih (a ++ [x]) free' (by rw [List.append_assoc]; exact hsplit)
        (by simpa using Nat.succ_le_of_lt hlt) hfree'
    split
    · next hplace => exact hnext (by omega) hfree
    · -- The place is this one, or one in the rest of the text.
      rcases Nat.eq_or_lt_of_le hpassed with heq | hlt
      · obtain ⟨rfl, rfl⟩ := List.append_inj hsplit heq
        rw [hmatch]
        exact .inl List.mem_cons_self
      · split
        · next m₀ hm₀ =>
          by_cases hstop : a'.length < m₀.stop
          · exact .inr ⟨m₀, List.mem_cons_self, start_of_matchAt? hm₀ ▸ hlt, hstop⟩
          · rcases hnext hlt (Nat.max_le.2 ⟨Nat.not_lt.1 hstop, hlt⟩) with
              hmem | ⟨m', hmem, hcovers⟩
            · exact .inl (List.mem_cons_of_mem _ hmem)
            · exact .inr ⟨m', List.mem_cons_of_mem _ hmem, hcovers⟩
        · exact hnext hlt hfree

theorem mem_allMatches_or_covered (hmatch : p.matchAt? (.between a rest) = some m) :
    m ∈ p.allMatches (a ++ rest) ∨
      ∃ m' ∈ p.allMatches (a ++ rest), m'.start < a.length ∧ a.length < m'.stop :=
  mem_matchesFrom_or_covered (a := []) rfl (Nat.zero_le _) (Nat.zero_le _) hmatch

/-- A search goes from left to right, and its matches do not overlap. -/
theorem pairwise_matchesFrom : (p.matchesFrom free a.getLast? a.length rest).Pairwise
    fun m m' => m.start < m'.start ∧ m.stop ≤ m'.start := by
  induction rest generalizing a free with
  | nil =>
    rw [matchesFrom_nil]
    split
    · cases p.matchAt? (.between a []) <;> simp
    · exact .nil
  | cons x rest ih =>
    rw [matchesFrom_cons]
    split
    · exact ih
    · split
      · next m hm =>
        refine List.pairwise_cons.2 ⟨fun m' hm' => ?_, ih⟩
        have hfree := (exists_place_of_mem_matchesFrom hm').1
        have hstart := start_of_matchAt? hm
        omega
      · exact ih

theorem pairwise_allMatches :
    (p.allMatches s).Pairwise fun m m' => m.start < m'.start ∧ m.stop ≤ m'.start :=
  pairwise_matchesFrom (a := [])

theorem head?_matchesFrom (hfree : free ≤ a.length) :
    (p.matchesFrom free a.getLast? a.length rest).head? =
      p.findFrom? a.getLast? a.length rest := by
  induction rest generalizing a free with
  | nil =>
    rw [matchesFrom_nil, if_pos hfree]
    exact Option.head?_toList
  | cons x rest ih =>
    have hnext := @ih (a ++ [x]) free (by rw [List.length_append]; omega)
    rw [List.getLast?_concat, List.length_append, List.length_singleton] at hnext
    rw [matchesFrom_cons, if_neg (Nat.not_lt.2 hfree), findFrom?, ← hnext]
    change _ = (p.matchAt? (.between a (x :: rest))).or _
    cases p.matchAt? (.between a (x :: rest)) with
    | none => simp
    | some m => rfl

/-- The leftmost match is the first of all matches. -/
theorem head?_allMatches : (p.allMatches s).head? = p.find? s :=
  head?_matchesFrom (a := []) (Nat.zero_le _)

theorem mem_allMatches_of_find? (h : p.find? s = some m) : m ∈ p.allMatches s := by
  rw [← head?_allMatches] at h
  exact List.mem_of_head? h

theorem isMatch_of_find? (h : p.find? s = some m) : p.IsMatch s m :=
  isMatch_of_mem_allMatches (mem_allMatches_of_find? h)

end CivicReport.Pattern
