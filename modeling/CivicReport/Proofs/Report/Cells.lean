import CivicReport.Proofs.Decimal.Values
import CivicReport.Report

/-!
The cell of an aggregate, said of the number that came back. A count is its whole part, a sum is a
number with its value, and an average is rounded to hundredths. Main statement: for each aggregate
and each member that a row may have there is exactly one such cell, which is the one that is shown.
-/
namespace CivicReport.Report

open Float.Model Float.Model.UnpackedFloat

/-- A member of a row holds a double. Text counts as the number that it is written as. -/
inductive Denotes : Option Json → Float → Prop
  | whole (n : Int) : Denotes (some (.number (.whole n))) (Float.ofInt n)
  | real (x : Float) : Denotes (some (.number (.real x))) x
  | text {s : String} {x : Float} (h : readFloat? (Text.trim s.toList) = some x) :
      Denotes (some (.text s)) x

/-- A double is counted as the whole part of its value, or as the end of the 64 bits that it lies
beyond. -/
inductive IsCount (x : Float) : Int → Prop
  | within {q : ℚ} (h : floatValue? x = some q) : IsCount x (nearestInt64 (wholePart q))
  | above (h : floatValue? x = none) (hpos : 0.0 < x) : IsCount x mostInt64
  | below (h : floatValue? x = none) (hneg : x < 0.0) : IsCount x leastInt64
  | undefined (h : x.isNaN = true) : IsCount x 0

/-- A double is shown as the integer that it is, if that has fewer than 64 bits, and as itself
otherwise. What has no value is shown as null. -/
inductive Shows (x : Float) : Json → Prop
  | whole {n : Int} (h : floatValue? x = some (n : ℚ)) (hsmall : n.natAbs < 2 ^ 63) :
      Shows x (.number (.whole n))
  | real {q : ℚ} (h : floatValue? x = some q) (hlarge : ∀ n : Int, q = n → 2 ^ 63 ≤ n.natAbs) :
      Shows x (.number (.real x))
  | undefined (h : floatValue? x = none) : Shows x .null

/-- The cell of an aggregate over one member of a row. Without a number nothing was counted and
nothing summed up, and there is no average. -/
inductive IsCell (member : Option Json) : Action → Json → Prop
  | count {x : Float} {n : Int} (hx : Denotes member x) (hn : IsCount x n) :
      IsCell member .count (.number (.whole n))
  | sum {x : Float} {cell : Json} (hx : Denotes member x) (hcell : Shows x cell) :
      IsCell member .sum cell
  | average {x : Float} {q : ℚ} {cell : Json} (hx : Denotes member x)
      (hq : floatValue? (x * 100.0) = some q)
      (hcell : Shows (Float.ofInt (nearestAway q) / 100.0) cell) : IsCell member .average cell
  | averageBeyond {x : Float} (hx : Denotes member x) (h : floatValue? (x * 100.0) = none) :
      IsCell member .average .null
  | noCount (h : ∀ x, ¬ Denotes member x) : IsCell member .count (.number (.whole 0))
  | noSum (h : ∀ x, ¬ Denotes member x) : IsCell member .sum (.number (.whole 0))
  | noAverage (h : ∀ x, ¬ Denotes member x) : IsCell member .average .null

variable {member : Option Json} {x : Float} {n : Int} {q : ℚ} {cell : Json}

theorem denotes_iff : Denotes member x ↔ member.bind number? = some x := by
  constructor
  · rintro (_ | _ | h)
    · rfl
    · rfl
    · rw [Option.bind_some, number?, h]
  · intro h
    obtain ⟨j, rfl, hj⟩ := Option.bind_eq_some_iff.1 h
    cases j with
    | number n =>
      obtain rfl : n.toFloat = x := Option.some.inj hj
      cases n with
      | whole n => exact .whole n
      | real y => exact .real y
    | text s =>
      rw [number?] at hj
      exact .text hj
    | null | bool | array | object => contradiction

/-- What has no value is not a number, or it is infinite with a sign. -/
theorem sign_of_floatValue?_eq_none (h : floatValue? x = none) :
    x.isNaN = true ∧ ¬ x < 0.0 ∧ ¬ 0.0 < x ∨ ¬ x.isNaN = true ∧ x < 0.0 ∧ ¬ 0.0 < x ∨
      ¬ x.isNaN = true ∧ ¬ x < 0.0 ∧ 0.0 < x := by
  change x.toModel.unpack.isNaN = true ∧ _ ∨ ¬ x.toModel.unpack.isNaN = true ∧ _ ∨
    ¬ x.toModel.unpack.isNaN = true ∧ _
  rw [lt_iff_compare, lt_iff_compare, unpack_zero]
  obtain hnan | ⟨s, hinfinite⟩ := unpack_of_floatValue?_eq_none h
  · rw [hnan]
    decide
  · rw [hinfinite]
    cases s with
    | positive | negative => decide

theorem floatValue?_eq_none_of_isNaN (h : x.isNaN = true) : floatValue? x = none := by
  change x.toModel.unpack.isNaN = true at h
  rw [floatValue?]
  cases hunpack : x.toModel.unpack with
  | notANumber | infinity => rfl
  | zero | finite =>
    rw [hunpack] at h
    contradiction

/-! The integer of a count. -/

theorem toInt_wholeInt64_of_none (h : floatValue? x = none) : (wholeInt64 x).toInt =
    if x.isNaN = true then 0 else if x < 0.0 then leastInt64 else mostInt64 := by
  rw [toInt_wholeInt64_eq, wholeWithin, Dyad.ofFloat?_eq_none h]

theorem isCount_wholeInt64 (x : Float) : IsCount x (wholeInt64 x).toInt := by
  cases h : floatValue? x with
  | some q =>
    rw [toInt_wholeInt64_of_value h]
    exact .within h
  | none =>
    rw [toInt_wholeInt64_of_none h]
    obtain ⟨hnan, -⟩ | ⟨hnan, hneg, -⟩ | ⟨hnan, hneg, hpos⟩ := sign_of_floatValue?_eq_none h
    · rw [if_pos hnan]
      exact .undefined hnan
    · rw [if_neg hnan, if_pos hneg]
      exact .below h hneg
    · rw [if_neg hnan, if_neg hneg]
      exact .above h hpos

theorem isCount_iff : IsCount x n ↔ n = (wholeInt64 x).toInt := by
  refine ⟨?_, fun h => h ▸ isCount_wholeInt64 x⟩
  rintro (h | ⟨h, hpos⟩ | ⟨h, hneg⟩ | hnan)
  · rw [toInt_wholeInt64_of_value h]
  · have hsign := sign_of_floatValue?_eq_none h
    rw [toInt_wholeInt64_of_none h, if_neg (by grind), if_neg (by grind)]
  · have hsign := sign_of_floatValue?_eq_none h
    rw [toInt_wholeInt64_of_none h, if_neg (by grind), if_pos hneg]
  · rw [toInt_wholeInt64_of_none (floatValue?_eq_none_of_isNaN hnan), if_pos hnan]

/-! The JSON number of a double. -/

theorem numberCell_of_whole (h : floatValue? x = some (n : ℚ)) (hsmall : n.natAbs < 2 ^ 63) :
    numberCell x = .number (.whole n) := by
  rw [numberCell, wholeNumber?_eq_some_iff.2 h]
  exact if_pos hsmall

theorem numberCell_of_real (h : floatValue? x = some q)
    (hlarge : ∀ n : Int, q = n → 2 ^ 63 ≤ n.natAbs) : numberCell x = .number (.real x) := by
  rw [numberCell]
  cases hwhole : wholeNumber? x with
  | none =>
    have hfinite : x.isFinite = true := by rw [← isSome_floatValue?, h, Option.isSome_some]
    exact if_pos hfinite
  | some n =>
    have hvalue : q = n := Option.some.inj (h.symm.trans (wholeNumber?_eq_some_iff.1 hwhole))
    exact if_neg (Nat.not_lt.2 (hlarge n hvalue))

theorem numberCell_of_none (h : floatValue? x = none) : numberCell x = .null := by
  have hwhole : wholeNumber? x = none := by
    rw [Option.eq_none_iff_forall_ne_some]
    intro n hn
    rw [wholeNumber?_eq_some_iff, h] at hn
    contradiction
  have hinfinite : ¬ x.isFinite = true := by
    rw [← isSome_floatValue?, h]
    decide
  rw [numberCell, hwhole]
  exact if_neg hinfinite

theorem shows_numberCell (x : Float) : Shows x (numberCell x) := by
  cases h : floatValue? x with
  | none =>
    rw [numberCell_of_none h]
    exact .undefined h
  | some q =>
    by_cases hsmall : ∃ n : Int, q = n ∧ n.natAbs < 2 ^ 63
    · obtain ⟨n, rfl, hsmall⟩ := hsmall
      rw [numberCell_of_whole h hsmall]
      exact .whole h hsmall
    · have hlarge : ∀ n : Int, q = n → 2 ^ 63 ≤ n.natAbs := fun n hn =>
        Nat.not_lt.1 fun hlt => hsmall ⟨n, hn, hlt⟩
      rw [numberCell_of_real h hlarge]
      exact .real h hlarge

theorem shows_iff : Shows x cell ↔ cell = numberCell x := by
  refine ⟨?_, fun h => h ▸ shows_numberCell x⟩
  rintro (⟨h, hsmall⟩ | ⟨h, hlarge⟩ | h)
  · exact (numberCell_of_whole h hsmall).symm
  · exact (numberCell_of_real h hlarge).symm
  · exact (numberCell_of_none h).symm

theorem shows_real (hwhole : wholeNumber? x = none) (hfinite : x.isFinite = true) :
    Shows x (.number (.real x)) := by
  obtain ⟨q, hq⟩ := Option.isSome_iff_exists.1 ((isSome_floatValue? x).trans hfinite)
  refine .real hq fun n hn => ?_
  rw [hn, ← wholeNumber?_eq_some_iff, hwhole] at hq
  contradiction

/-! Rounding to hundredths. -/

theorem floatValue?_div_hundred (h : floatValue? x = none) : floatValue? (x / 100.0) = none := by
  suffices hquotient : unpackedValue? (UnpackedFloat.unpack Format.binary64
      (UnpackedFloat.pack Format.binary64 (UnpackedFloat.div Format.binary64 x.toModel.unpack
        (100.0 : Float).toModel.unpack))) = none from hquotient
  rw [unpack_hundred]
  obtain hnan | ⟨s, hinfinite⟩ := unpack_of_floatValue?_eq_none h
  · rw [hnan]
    rfl
  · rw [hinfinite]
    cases s with
    | positive | negative => rfl

theorem roundWhole_of_parts {d : Dyad} (h : Dyad.ofFloat? x = some d) : roundWhole x =
    if d.negative = true then -(Float.ofNat d.rounded) else Float.ofNat d.rounded := by
  rw [roundWhole, h]

/-- The two zeros differ in their signs, but are shown alike. -/
theorem numberCell_neg_zero :
    numberCell (-(Float.ofNat 0) / 100.0) = numberCell (Float.ofInt 0 / 100.0) := by
  have hnegative : wholeNumber? (-(Float.ofNat 0) / 100.0) = some 0 := by decide +kernel
  have hpositive : wholeNumber? (Float.ofInt 0 / 100.0) = some 0 := by decide +kernel
  rw [numberCell, numberCell, hnegative, hpositive]
  rfl

theorem numberCell_roundHundredths (h : floatValue? (x * 100.0) = some q) :
    numberCell (roundHundredths x) = numberCell (Float.ofInt (nearestAway q) / 100.0) := by
  obtain ⟨d, hd, rfl⟩ := Dyad.exists_parts h
  rw [Dyad.nearestAway_value, roundHundredths, roundWhole_of_parts hd, Dyad.signed]
  cases d.negative with
  | false => rfl
  | true =>
    cases d.rounded with
    | zero => exact numberCell_neg_zero
    | succ k => rfl

theorem numberCell_roundHundredths_of_none (h : floatValue? (x * 100.0) = none) :
    numberCell (roundHundredths x) = .null := by
  rw [roundHundredths, roundWhole, Dyad.ofFloat?_eq_none h]
  exact numberCell_of_none (floatValue?_div_hundred h)

/-! The cell. -/

/-- The cell as it is computed from a number that may be missing. -/
def cellOf : Action → Option Float → Json
  | .count, x => Json.ofInt (wholeInt64 (x.getD 0.0)).toInt
  | .average, none => .null
  | .average, some x => numberCell (roundHundredths x)
  | _, x => numberCell (x.getD 0.0)

theorem eq_none_of_not_denotes (h : ∀ x, ¬ Denotes member x) : member.bind number? = none :=
  Option.eq_none_iff_forall_ne_some.2 fun x hx => h x (denotes_iff.2 hx)

theorem floatValue?_zero : floatValue? 0.0 = some 0 := by
  rw [floatValue?, unpack_zero]
  rfl

theorem cellOf_count_none : cellOf .count none = .number (.whole 0) := by
  have hcount : (wholeInt64 0.0).toInt = 0 := by
    rw [toInt_wholeInt64_of_value floatValue?_zero]
    rfl
  rw [cellOf, Option.getD_none, hcount]
  rfl

theorem cellOf_sum_none : cellOf .sum none = .number (.whole 0) := by
  have hvalue : floatValue? 0.0 = some ((0 : Int) : ℚ) := floatValue?_zero
  change numberCell 0.0 = _
  exact numberCell_of_whole hvalue (by decide)

theorem eq_cellOf_of_isCell {a : Action} (h : IsCell member a cell) :
    cell = cellOf a (member.bind number?) := by
  cases h with
  | count hx hn =>
    rw [denotes_iff.1 hx, isCount_iff.1 hn]
    rfl
  | sum hx hcell =>
    rw [denotes_iff.1 hx, shows_iff.1 hcell]
    rfl
  | average hx hq hcell =>
    rw [denotes_iff.1 hx, shows_iff.1 hcell, ← numberCell_roundHundredths hq]
    rfl
  | averageBeyond hx h =>
    rw [denotes_iff.1 hx, ← numberCell_roundHundredths_of_none h]
    rfl
  | noCount h => rw [eq_none_of_not_denotes h, cellOf_count_none]
  | noSum h => rw [eq_none_of_not_denotes h, cellOf_sum_none]
  | noAverage h =>
    rw [eq_none_of_not_denotes h]
    rfl

theorem isCell_cellOf {a : Action} (h : a.isAggregate = true) (member : Option Json) :
    IsCell member a (cellOf a (member.bind number?)) := by
  cases hnumber : member.bind number? with
  | none =>
    have hnone : ∀ x, ¬ Denotes member x := by
      intro x hx
      rw [denotes_iff, hnumber] at hx
      contradiction
    cases a with
    | count => exact cellOf_count_none ▸ .noCount hnone
    | sum => exact cellOf_sum_none ▸ .noSum hnone
    | average => exact .noAverage hnone
    | list | group => contradiction
  | some x =>
    have hx : Denotes member x := denotes_iff.2 hnumber
    cases a with
    | count => exact .count hx (isCount_wholeInt64 x)
    | sum => exact .sum hx (shows_numberCell x)
    | average =>
      change IsCell member .average (numberCell (roundHundredths x))
      cases hq : floatValue? (x * 100.0) with
      | none =>
        rw [numberCell_roundHundredths_of_none hq]
        exact .averageBeyond hx hq
      | some q =>
        rw [numberCell_roundHundredths hq]
        exact .average hx hq (shows_numberCell _)
    | list | group => contradiction

theorem isCell_iff {a : Action} (h : a.isAggregate = true) :
    IsCell member a cell ↔ cell = cellOf a (member.bind number?) :=
  ⟨eq_cellOf_of_isCell, fun heq => heq ▸ isCell_cellOf h member⟩

end CivicReport.Report
