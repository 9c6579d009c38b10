import CivicReport.Text.Lowercase

/-!
What lower-casing makes of a text. The letters that runs of code points are moved to are not moved
themselves, so a letter in lower case stays as it is in any surroundings. Main statements: this
holds of every character of a lower-cased text, and a character that no letter is moved to was
there before.
-/
namespace CivicReport.Text

variable {c x : Char} {s before : List Char} {n m : Nat} {e : Nat × Nat}

namespace CaseRun

variable {r r' : CaseRun}

/-- Where a code point is moved to. -/
def target (r : CaseRun) (n : Nat) : Nat := (n + r.shift).toNat

/-- No letter of the run is moved to a code point of the range. -/
def avoids (r : CaseRun) (e : Nat × Nat) : Bool :=
  (r.target r.last).blt e.1 || e.2.blt (r.target r.first)

/-- No letter of the first run is moved to one of the second. Runs of every other code point may lie
between each other. -/
def apart (r r' : CaseRun) : Bool :=
  r.avoids (r'.first, r'.last) ||
    r'.step == 2 && (r.step == 2 || r.first == r.last) && (r.target r.first + r'.first) % 2 == 1

/-- Letters are moved to code points of characters. -/
def IsSound (r : CaseRun) : Prop :=
  (0 : Int) ≤ r.first + r.shift ∧
    (r.target r.last < 0xD800 ∨ 0xDFFF < r.target r.first ∧ r.target r.last < 0x110000)

instance : Decidable r.IsSound := inferInstanceAs (Decidable (_ ∧ _))

theorem lower?_eq_some_iff : r.lower? n = some m ↔
    (r.first ≤ n ∧ n ≤ r.last ∧ (n - r.first) % r.step = 0) ∧ r.target n = m := by
  rw [target, lower?, Option.ite_none_right_eq_some, Option.some.injEq]

theorem IsSound.isValidChar (hr : r.IsSound) (h : r.lower? n = some m) : m.isValidChar := by
  obtain ⟨⟨hfirst, hlast, -⟩, hm⟩ := lower?_eq_some_iff.1 h
  obtain ⟨hpos, hvalid⟩ := hr
  unfold target at hvalid hm
  unfold Nat.isValidChar
  omega

theorem not_mem_of_avoids (h : r.avoids e = true) (hr : r.IsSound) (hm : r.lower? n = some m) :
    ¬ (e.1 ≤ m ∧ m ≤ e.2) := by
  obtain ⟨⟨hfirst, hlast, -⟩, hm⟩ := lower?_eq_some_iff.1 hm
  obtain ⟨hpos, -⟩ := hr
  simp only [avoids, Bool.or_eq_true, Nat.blt_eq] at h
  unfold target at h hm
  omega

theorem lower?_eq_none_of_apart (h : r.apart r' = true) (hr : r.IsSound)
    (hm : r.lower? n = some m) : r'.lower? m = none := by
  rw [lower?, if_neg]
  rintro ⟨hfirst', hlast', hstep'⟩
  rcases Bool.or_eq_true_iff.1 h with havoids | hodd
  · exact not_mem_of_avoids havoids hr hm ⟨hfirst', hlast'⟩
  · obtain ⟨⟨hfirst, hlast, hstep⟩, hm⟩ := lower?_eq_some_iff.1 hm
    obtain ⟨hpos, -⟩ := hr
    simp only [Bool.and_eq_true, Bool.or_eq_true, beq_iff_eq] at hodd
    obtain ⟨⟨htwo, hparity⟩, hodd⟩ := hodd
    unfold target at hm hodd
    rw [htwo] at hstep'
    rcases hparity with htwo | hsingle
    · rw [htwo] at hstep
      omega
    · omega

end CaseRun

open CaseRun

theorem isSound_of_mem_caseRuns : ∀ r ∈ caseRuns, r.IsSound := by decide +kernel

theorem apart_caseRuns : (caseRuns.all fun r => caseRuns.all r.apart) = true := by decide +kernel

theorem apart_of_mem_caseRuns {r r' : CaseRun} (h : r ∈ caseRuns) (h' : r' ∈ caseRuns) :
    r.apart r' = true :=
  List.all_eq_true.1 (List.all_eq_true.1 apart_caseRuns r h) r' h'

/-- A letter stays as it is or is moved by a run. -/
theorem lowerChar_cases (c : Char) : lowerChar c = c ∨
    ∃ r ∈ caseRuns, r.lower? c.toNat = some (lowerChar c).toNat := by
  unfold lowerChar
  cases hfound : caseRuns.findSome? (·.lower? c.toNat) with
  | none => exact .inl rfl
  | some m =>
    obtain ⟨r, hr, hm⟩ := List.exists_of_findSome?_eq_some hfound
    refine .inr ⟨r, hr, ?_⟩
    have hvalid : m.isValidChar := (isSound_of_mem_caseRuns r hr).isValidChar hm
    rw [hm, Option.map_some, Option.getD_some, Char.ofNat, dif_pos hvalid]
    rfl

theorem lowerChar_lowerChar (c : Char) : lowerChar (lowerChar c) = lowerChar c := by
  rcases lowerChar_cases c with hsame | ⟨r, hr, hmoved⟩
  · rw [hsame, hsame]
  · have hnone : caseRuns.findSome? (·.lower? (lowerChar c).toNat) = none := by
      rw [List.findSome?_eq_none_iff]
      intro r' hr'
      exact lower?_eq_none_of_apart (apart_of_mem_caseRuns hr hr') (isSound_of_mem_caseRuns r hr) hmoved
    rw [lowerChar.eq_def (lowerChar c), hnone]
    rfl

/-- A character that lower-casing leaves alone wherever it stands. -/
def IsLower (c : Char) : Prop := c ≠ 'Σ' ∧ c ≠ 'İ' ∧ lowerChar c = c

instance : Decidable (IsLower c) := inferInstanceAs (Decidable (_ ∧ _))

/-- What the capital sigma and the capital dotted I become. -/
def exceptional : List Char := ['σ', 'ς', 'i', '\u0307']

/-- No other character becomes one of a range of code points. -/
def unreached (e : Nat × Nat) : Bool :=
  caseRuns.all (·.avoids e) && exceptional.all fun c => !(e.1 ≤ c.toNat && c.toNat ≤ e.2)

theorem lowerChar_eq_of_unreached (h : unreached e = true)
    (hc : e.1 ≤ (lowerChar c).toNat ∧ (lowerChar c).toNat ≤ e.2) : lowerChar c = c := by
  rcases lowerChar_cases c with hsame | ⟨r, hr, hmoved⟩
  · exact hsame
  · have havoids : r.avoids e = true := List.all_eq_true.1 (Bool.and_eq_true_iff.1 h).1 r hr
    exact absurd hc (not_mem_of_avoids havoids (isSound_of_mem_caseRuns r hr) hmoved)

theorem isLower_lowerChar (hdotted : c ≠ 'İ') : IsLower (lowerChar c) := by
  refine ⟨fun hsigma => ?_, fun hcapital => ?_, lowerChar_lowerChar c⟩
  · have hmoved : lowerChar 'Σ' = 'Σ' := by
      rw [← hsigma, lowerChar_lowerChar]
    exact absurd hmoved (by decide)
  · have hunreached : unreached (0x130, 0x130) = true := by decide +kernel
    have hsame : lowerChar c = c :=
      lowerChar_eq_of_unreached hunreached (by rw [hcapital]; decide)
    exact hdotted (hsame ▸ hcapital)

/-- The characters of a lower-cased text come from single letters, but for the exceptions. -/
theorem of_mem_lowerFrom (h : x ∈ lowerFrom before s) :
    (∃ c ∈ s, c ≠ 'İ' ∧ lowerChar c = x) ∨ x ∈ exceptional := by
  induction s generalizing before with
  | nil => contradiction
  | cons c s ih =>
    rw [lowerFrom, List.mem_append] at h
    rcases h with h | h
    · split at h
      · refine .inr ?_
        obtain rfl := List.mem_singleton.1 h
        split <;> decide
      · split at h
        · exact .inr (List.mem_of_mem_drop (i := 2) h)
        · next hdotted =>
          exact .inl ⟨c, List.mem_cons_self, hdotted, (List.mem_singleton.1 h).symm⟩
    · rcases ih h with ⟨c', hc', hx⟩ | hx
      · exact .inl ⟨c', List.mem_cons_of_mem c hc', hx⟩
      · exact .inr hx

theorem isLower_of_mem_lowercase (h : x ∈ lowercase s) : IsLower x := by
  rcases of_mem_lowerFrom h with ⟨c, -, hdotted, rfl⟩ | hx
  · exact isLower_lowerChar hdotted
  · have hall : ∀ c ∈ exceptional, IsLower c := by decide
    exact hall x hx

theorem mem_of_mem_lowercase (h : unreached e = true) (hx : x ∈ lowercase s)
    (hrange : e.1 ≤ x.toNat ∧ x.toNat ≤ e.2) : x ∈ s := by
  rcases of_mem_lowerFrom hx with ⟨c, hc, -, rfl⟩ | hx
  · rwa [lowerChar_eq_of_unreached h hrange]
  · have hout := List.all_eq_true.1 (Bool.and_eq_true_iff.1 h).2 x hx
    simp [hrange.1, hrange.2] at hout

end CivicReport.Text
