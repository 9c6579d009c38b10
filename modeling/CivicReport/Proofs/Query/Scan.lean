import CivicReport.Proofs.Decimal.Digits
import CivicReport.Query.Plan
import Mathlib.Data.List.TakeWhile

/-!
Placeholders of a text, as a scanner finds them: each dollar sign with all the digits behind it. A
scan of two texts is the two scans one after the other unless digits meet digits, and a text
without dollar signs adds nothing. Main statement: what is found in parts that are joined by words
is what is found in each part.
-/
namespace CivicReport

/-- The numbers of the placeholders in a text, from left to right. A dollar sign without a digit
behind it is none. -/
def placeholders : List Char → List Nat
  | [] => []
  | c :: rest =>
    if c = '$' then (readNat? (rest.takeWhile isAsciiDigit)).toList ++ placeholders rest
    else placeholders rest

theorem placeholders_append_of_not_mem {a : List Char} (h : '$' ∉ a) (b : List Char) :
    placeholders (a ++ b) = placeholders b := by
  induction a with
  | nil => rfl
  | cons c rest ih =>
    obtain ⟨hc, hrest⟩ := not_or.1 (mt List.mem_cons.2 h)
    rw [List.cons_append, placeholders, if_neg (Ne.symm hc), ih hrest]

theorem placeholders_eq_nil {s : List Char} (h : '$' ∉ s) : placeholders s = [] := by
  rw [← List.append_nil s, placeholders_append_of_not_mem h]
  rfl

/-- No digit comes first. -/
def EndsNumber (s : List Char) : Prop := ∀ c ∈ s.head?, isAsciiDigit c = false

theorem endsNumber_nil : EndsNumber [] := by
  rintro c ⟨⟩

theorem endsNumber_cons {c : Char} (h : isAsciiDigit c = false) (rest : List Char) :
    EndsNumber (c :: rest) := by
  intro x hx
  cases hx
  exact h

theorem endsNumber_append {a b : List Char} (ha : EndsNumber a) (hb : EndsNumber b) :
    EndsNumber (a ++ b) := by
  cases a with
  | nil => exact hb
  | cons c rest => exact ha

theorem takeWhile_append_of_endsNumber (a : List Char) {b : List Char} (h : EndsNumber b) :
    (a ++ b).takeWhile isAsciiDigit = a.takeWhile isAsciiDigit := by
  induction a with
  | nil =>
    cases b with
    | nil => rfl
    | cons c rest => simp [h c rfl]
  | cons c rest ih => simp only [List.cons_append, List.takeWhile_cons, ih]

/-- A number cannot go on beyond the point where two texts meet. -/
theorem placeholders_append (a : List Char) {b : List Char} (h : EndsNumber b) :
    placeholders (a ++ b) = placeholders a ++ placeholders b := by
  induction a with
  | nil => rfl
  | cons c rest ih =>
    simp only [List.cons_append, placeholders, takeWhile_append_of_endsNumber rest h, ih]
    split
    · rw [List.append_assoc]
    · rfl

example : placeholders "d = $1::date AND a = $12 OR b = $12".toList = [1, 12, 12] := by
  decide

/-! Texts without dollar signs. -/

def Dollarless (s : String) : Prop := '$' ∉ s.toList

instance (s : String) : Decidable (Dollarless s) := inferInstanceAs (Decidable ('$' ∉ s.toList))

theorem dollarless_ofList {s : List Char} (h : '$' ∉ s) : Dollarless (String.ofList s) := by
  simpa [Dollarless] using h

@[simp] theorem dollarless_append {a b : String} :
    Dollarless (a ++ b) ↔ Dollarless a ∧ Dollarless b := by
  simp [Dollarless]

theorem dollarless_joinWith {separator : String} {parts : List String} (h : Dollarless separator)
    (hparts : ∀ s ∈ parts, Dollarless s) : Dollarless (Text.joinWith separator parts) := by
  induction parts with
  | nil => exact (by decide : Dollarless "")
  | cons first rest ih =>
    have hfirst : Dollarless first := hparts first List.mem_cons_self
    have hrest := ih fun s hs => hparts s (List.mem_cons_of_mem _ hs)
    cases rest with
    | nil => exact hfirst
    | cons second rest => exact dollarless_append.2 ⟨dollarless_append.2 ⟨hfirst, h⟩, hrest⟩

theorem dollarless_clause {keyword separator : String} {parts : List String}
    (hkeyword : Dollarless keyword) (h : Dollarless separator)
    (hparts : ∀ s ∈ parts, Dollarless s) : Dollarless (Plan.clause keyword separator parts) := by
  unfold Plan.clause
  split
  · exact (by decide : Dollarless "")
  · simp only [dollarless_append]
    exact ⟨⟨⟨by decide, hkeyword⟩, by decide⟩, dollarless_joinWith h hparts⟩

theorem dollarless_natText (n : Nat) : Dollarless (natText n) := by
  intro h
  rw [natText, String.toList_ofList] at h
  exact absurd (isAsciiDigit_of_mem_toDigits h) (by decide)

/-! Texts made of parts. -/

theorem Text.joinWith_cons_cons (separator first second : String) (rest : List String) :
    joinWith separator (first :: second :: rest) =
      first ++ separator ++ joinWith separator (second :: rest) := rfl

/-- A separator that begins with a space keeps the numbers of two parts apart. -/
theorem placeholders_joinWith {separator : String} {word : List Char}
    (hseparator : separator.toList = ' ' :: word) (hword : '$' ∉ word) (parts : List String) :
    placeholders (Text.joinWith separator parts).toList =
      parts.flatMap fun s => placeholders s.toList := by
  induction parts with
  | nil => rfl
  | cons first rest ih =>
    cases rest with
    | nil => simp [Text.joinWith]
    | cons second rest =>
      have hends : EndsNumber (separator.toList ++
          (Text.joinWith separator (second :: rest)).toList) := by
        rw [hseparator]
        exact endsNumber_cons (by decide) _
      have hnone : '$' ∉ separator.toList := by
        rw [hseparator]
        simp [hword]
      rw [Text.joinWith_cons_cons, String.toList_append, String.toList_append, List.append_assoc,
        placeholders_append _ hends, placeholders_append_of_not_mem hnone, ih]
      rfl

theorem placeholders_placeholder (n : Nat) : placeholders (Plan.placeholder n).toList = [n] := by
  have hdigits : (Nat.toDigits 10 n).takeWhile isAsciiDigit = Nat.toDigits 10 n :=
    List.takeWhile_eq_self_iff.2 fun c h => isAsciiDigit_of_mem_toDigits h
  have hnone : placeholders (Nat.toDigits 10 n) = [] := by
    apply placeholders_eq_nil
    simpa [Dollarless, natText] using dollarless_natText n
  have htext : (Plan.placeholder n).toList = '$' :: Nat.toDigits 10 n := by
    simp [Plan.placeholder, natText]
  rw [htext, placeholders, if_pos rfl, hdigits, readNat?_toDigits, hnone]
  rfl

end CivicReport
