import CivicReport.Proofs.Pattern.Following

/-!
Which reading of a pattern comes first. A run would rather take more characters than fewer, so it
leaves to what follows as little as that can be read from. Main statements: the first reading of a
sequence goes on from the longest run from which it can, and a run at the end of a pattern takes all
that it can.
-/
namespace CivicReport.Pattern

variable {Label : Type} {p k : Pattern Label} {a r w : List Char} {caps : List (Capture Label)}
  {test : Char → Bool} {least : Nat} {most : Option Nat}

theorem Takes.readings_ne_nil {b : List Char} (h : p.Takes a w b caps) :
    p.readings a (w ++ b) ≠ [] :=
  List.ne_nil_of_mem (mem_readings_iff.2 ⟨b, rfl, h⟩)

/-- The first reading of a sequence goes on from a reading of its first part, and no reading before
that one can be gone on from. -/
theorem exists_split_readings_seq (h : ((seq p k).readings a r).head? = some (w, caps)) :
    ∃ earlier o later o', p.readings a r = earlier ++ o :: later ∧
      (∀ e ∈ earlier, k.readings (a ++ e.1) (r.drop e.1.length) = []) ∧
      (k.readings (a ++ o.1) (r.drop o.1.length)).head? = some o' ∧
      w = o.1 ++ o'.1 ∧ caps = o.2 ++ o'.2 := by
  rw [readings, List.head?_flatMap, List.findSome?_eq_some_iff] at h
  obtain ⟨earlier, o, later, hsplit, hfirst, hearlier⟩ := h
  rw [List.head?_map, Option.map_eq_some_iff] at hfirst
  obtain ⟨o', ho', heq⟩ := hfirst
  obtain ⟨hw, hcaps⟩ := Prod.mk.inj heq
  refine ⟨earlier, o, later, o', hsplit, ?_, ho', hw.symm, hcaps.symm⟩
  intro e he
  simpa using hearlier e he

theorem exists_takes_of_head?_readings_seq
    (h : ((seq p k).readings a r).head? = some (w, caps)) :
    ∃ w₁ w₂ r' caps₁ caps₂, r = w₁ ++ r' ∧ w = w₁ ++ w₂ ∧ caps = caps₁ ++ caps₂ ∧
      p.Takes a w₁ r' caps₁ ∧ (k.readings (a ++ w₁) r').head? = some (w₂, caps₂) := by
  obtain ⟨earlier, ⟨w₁, caps₁⟩, later, ⟨w₂, caps₂⟩, hsplit, -, hlast, rfl, rfl⟩ :=
    exists_split_readings_seq h
  have hmem : (w₁, caps₁) ∈ p.readings a r := by
    rw [hsplit]
    simp
  obtain ⟨r', rfl, htakes⟩ := mem_readings_iff.1 hmem
  rw [List.drop_left] at hlast
  exact ⟨w₁, w₂, r', caps₁, caps₂, rfl, rfl, rfl, htakes, hlast⟩

theorem pairwise_runReadings :
    (runReadings test least most r).Pairwise fun longer shorter =>
      shorter.length < longer.length := by
  induction r generalizing least most with
  | nil =>
    rw [runReadings]
    split <;> simp
  | cons x r ih =>
    rw [runReadings, List.pairwise_append]
    refine ⟨?_, ?_, ?_⟩
    · split
      · simpa [List.pairwise_map] using ih
      · exact .nil
    · split <;> simp
    · intro longer hlonger shorter hshorter
      simp only [List.mem_ite_nil_right, List.mem_map, List.mem_singleton] at hlonger hshorter
      obtain ⟨-, rest, -, rfl⟩ := hlonger
      obtain ⟨-, rfl⟩ := hshorter
      simp

/-- A run leaves to what follows as little as that can be read from: after any longer run it cannot
be read. -/
theorem exists_longest_run
    (h : ((seq (run test least most) k).readings a r).head? = some (w, caps)) :
    ∃ x r' w', r = x ++ r' ∧ w = x ++ w' ∧ (∀ c ∈ x, test c = true) ∧
      (k.readings (a ++ x) r').head? = some (w', caps) ∧
      ∀ u r'', r' = u ++ r'' → u ≠ [] → (∀ c ∈ u, test c = true) →
        Within least most (x ++ u).length → k.readings (a ++ (x ++ u)) r'' = [] := by
  obtain ⟨earlier, ⟨x, capsx⟩, later, ⟨w', caps'⟩, hsplit, hearlier, hfirst, rfl, rfl⟩ :=
    exists_split_readings_seq h
  have hmem : (x, capsx) ∈ (run test least most : Pattern Label).readings a r := by
    rw [hsplit]
    simp
  obtain ⟨r', rfl, hx, -, rfl⟩ := mem_readings_iff.1 hmem
  rw [List.drop_left] at hfirst
  refine ⟨x, r', w', rfl, rfl, hx, hfirst, ?_⟩
  rintro u r'' rfl hne hu hwithin
  -- The longer run is a reading as well, and the readings of a run get shorter.
  have hlonger : (x ++ u, []) ∈ (run test least most : Pattern Label).readings a (x ++ (u ++ r'')) := by
    refine mem_readings_iff.2 ⟨r'', by simp, ?_, hwithin, rfl⟩
    exact List.forall_mem_append.2 ⟨hx, hu⟩
  have hsorted : ((run test least most : Pattern Label).readings a (x ++ (u ++ r''))).Pairwise
      fun o o' => o'.1.length < o.1.length := by
    rw [readings, List.pairwise_map]
    exact pairwise_runReadings
  have hpos := List.length_pos_of_ne_nil hne
  rw [hsplit] at hlonger hsorted
  rcases List.mem_append.1 hlonger with hmem | hmem
  · have hdead := hearlier _ hmem
    rwa [← List.append_assoc x, List.drop_left] at hdead
  · exfalso
    rcases List.mem_cons.1 hmem with heq | hmem
    · have hsame := congrArg (fun o => o.1.length) heq
      simp only [List.length_append] at hsame
      omega
    · have hshorter := (List.pairwise_cons.1 (List.pairwise_append.1 hsorted).2.1).1 _ hmem
      simp only [List.length_append] at hshorter
      omega

/-- No character of a class follows what the pattern takes first. -/
def Exhausts (test : Char → Bool) (p : Pattern Label) : Prop :=
  ∀ a w b caps, (p.readings a (w ++ b)).head? = some (w, caps) → ∀ c ∈ b.head?, test c = false

theorem exhausts_run : Exhausts test (run test 0 none : Pattern Label) := by
  intro a w b caps h c hc
  rw [readings, List.head?_map, head?_runReadings, Option.map_some, Option.some.injEq,
    Prod.mk.injEq] at h
  have hrest : (w ++ b).dropWhile test = b := by
    have hwhole := List.takeWhile_append_dropWhile (p := test) (l := w ++ b)
    rw [h.1] at hwhole
    exact List.append_cancel_left hwhole
  have hhead := List.head?_dropWhile_not test (w ++ b)
  rw [hrest, hc] at hhead
  exact hhead

theorem Exhausts.seq (hk : Exhausts test k) : Exhausts test (.seq p k) := by
  intro a w b caps h c hc
  obtain ⟨w₁, w₂, r', caps₁, caps₂, hr, rfl, -, -, hlast⟩ := exists_takes_of_head?_readings_seq h
  rw [List.append_assoc] at hr
  obtain rfl := List.append_cancel_left hr
  exact hk _ _ _ _ hlast c hc

theorem Exhausts.group {label : Label} (hp : Exhausts test p) : Exhausts test (.group label p) := by
  intro a w b caps h c hc
  rw [readings, List.head?_map, Option.map_eq_some_iff] at h
  obtain ⟨⟨w', inner⟩, hfirst, heq⟩ := h
  obtain ⟨rfl, -⟩ := Prod.mk.inj heq
  exact hp _ _ _ _ hfirst c hc

end CivicReport.Pattern
