import CivicReport.Question
import CivicReport.Registry

/-!
How well the domains of a registry fit a question. Scores are kept in tenths, so that they are
exact. Main statement: the best domain is the first of those with the highest score.
-/
namespace CivicReport

namespace Ranking

def present (q : Question) (terms : List String) : Nat :=
  (terms.filter fun term => q.contains (Folding.foldText term)).length

/-- Five tenths for a strong word, three for a weak one, two for the label of a field. -/
def score (q : Question) (d : Domain) : Nat :=
  5 * present q d.primaryWords + 3 * present q d.secondaryWords +
    2 * present q (d.fields.map (·.label))

def scores (r : Registry) (q : Question) : List (Domain × Nat) :=
  r.domains.map fun d => (d, score q d)

/-- The first entry with the highest score, starting from the best one so far. -/
def bestFrom (best : Domain × Nat) : List (Domain × Nat) → Domain × Nat
  | [] => best
  | e :: rest => bestFrom (if best.2 < e.2 then e else best) rest

theorem exists_split_bestFrom (best : Domain × Nat) (entries : List (Domain × Nat)) :
    ∃ before after, best :: entries = before ++ bestFrom best entries :: after ∧
      (∀ e ∈ before, e.2 < (bestFrom best entries).2) ∧
      ∀ e ∈ after, e.2 ≤ (bestFrom best entries).2 := by
  induction entries generalizing best with
  | nil => exact ⟨[], [], rfl, by simp, by simp⟩
  | cons e rest ih =>
    simp only [bestFrom]
    split
    · next h =>
      obtain ⟨before, after, heq, hb, ha⟩ := ih e
      have he : e.2 ≤ (bestFrom e rest).2 := by
        have hm : e ∈ before ++ bestFrom e rest :: after := heq ▸ List.mem_cons_self
        rcases List.mem_append.1 hm with hm | hm
        · exact Nat.le_of_lt (hb e hm)
        · rcases List.mem_cons.1 hm with hm | hm
          · exact Nat.le_of_eq (congrArg Prod.snd hm)
          · exact ha e hm
      refine ⟨best :: before, after, by rw [heq]; rfl, fun x hx => ?_, ha⟩
      rcases List.mem_cons.1 hx with rfl | hx
      · exact Nat.lt_of_lt_of_le h he
      · exact hb x hx
    · next h =>
      obtain ⟨before, after, heq, hb, ha⟩ := ih best
      cases before with
      | nil =>
        obtain ⟨hbest, hrest⟩ := List.cons.inj heq
        rw [← hbest] at hb ha ⊢
        refine ⟨[], e :: after, by rw [hrest]; rfl, by simp, fun x hx => ?_⟩
        rcases List.mem_cons.1 hx with rfl | hx
        · exact Nat.le_of_not_lt h
        · exact ha x hx
      | cons first before =>
        obtain ⟨rfl, hrest⟩ := List.cons.inj heq
        have hfirst := hb best List.mem_cons_self
        refine ⟨best :: e :: before, after, congrArg (best :: e :: ·) hrest, fun x hx => ?_, ha⟩
        rcases List.mem_cons.1 hx with rfl | hx
        · exact hfirst
        · rcases List.mem_cons.1 hx with rfl | hx
          · exact Nat.lt_of_le_of_lt (Nat.le_of_not_lt h) hfirst
          · exact hb x (List.mem_cons_of_mem _ hx)

def best? : List (Domain × Nat) → Option (Domain × Nat)
  | [] => none
  | e :: rest => some (bestFrom e rest)

/-- Scores before the best one are lower, and scores behind it are not higher. -/
theorem exists_split_of_best? {entries : List (Domain × Nat)} {best : Domain × Nat}
    (h : best? entries = some best) :
    ∃ before after, entries = before ++ best :: after ∧ (∀ e ∈ before, e.2 < best.2) ∧
      ∀ e ∈ after, e.2 ≤ best.2 := by
  cases entries with
  | nil => simp [best?] at h
  | cons e rest =>
    obtain rfl := Option.some.inj h
    exact exists_split_bestFrom e rest

/-- Below this score a question belongs to no domain. -/
def least : Nat := 3

/-- A score as a number. -/
def inUnits (tenths : Nat) : Float := Float.ofScientific tenths true 1

end Ranking

namespace Confidence

/-- Rules are never more confident than this. -/
def cap : Float := 0.95

/-- A tenth for each filter is added to the score. -/
def ofScore (score : Float) (filters : Nat) : Float :=
  let raised := score + 0.1 * Float.ofNat filters
  roundHundredths (if raised < cap then raised else cap)

/-- From ten tenths on, filters included, the cap is reached. -/
def ofTenths (score filters : Nat) : Float :=
  if 10 ≤ score + filters then cap else ofScore (Ranking.inUnits score) filters

/-- The confidence in a reading that no rule supports. -/
def fallback : Float := 0.5

end Confidence

end CivicReport
