import CivicReport.Query.Plan

/-!
What the pattern of a text search matches. Main statement: a text matches the pattern made of
another text exactly when it contains it, wildcards and escapes of that text included.
-/
namespace CivicReport

/-- The characters that do not stand for themselves in a pattern. -/
def likeSpecials : List Char := ['%', '_', '\\']

/-- A text matches a pattern, character for character and without folding the case. An escape at
the end of a pattern escapes nothing, and such a pattern matches nothing. -/
inductive Like : (pattern text : List Char) → Prop where
  | nil : Like [] []
  | many {p t : List Char} (skipped : List Char) (rest : Like p t) : Like ('%' :: p) (skipped ++ t)
  | one {p t : List Char} (c : Char) (rest : Like p t) : Like ('_' :: p) (c :: t)
  | escaped {p t : List Char} (c : Char) (rest : Like p t) : Like ('\\' :: c :: p) (c :: t)
  | plain {p t : List Char} {c : Char} (hc : c ∉ likeSpecials) (rest : Like p t) :
      Like (c :: p) (c :: t)

variable {p t : List Char} {c : Char}

theorem like_many_iff : Like ('%' :: p) t ↔ ∃ rest, rest <:+ t ∧ Like p rest := by
  constructor
  · intro h
    cases h with
    | many skipped h => exact ⟨_, List.suffix_append _ _, h⟩
    | plain hc => exact absurd (by decide) hc
  · rintro ⟨rest, ⟨skipped, rfl⟩, h⟩
    exact .many skipped h

theorem like_escaped_iff : Like ('\\' :: c :: p) t ↔ ∃ rest, t = c :: rest ∧ Like p rest := by
  constructor
  · intro h
    cases h with
    | escaped _ h => exact ⟨_, rfl, h⟩
    | plain hc => exact absurd (by decide) hc
  · rintro ⟨rest, rfl, h⟩
    exact .escaped c h

theorem like_plain_iff (hc : c ∉ likeSpecials) :
    Like (c :: p) t ↔ ∃ rest, t = c :: rest ∧ Like p rest := by
  constructor
  · intro h
    cases h with
    | plain _ h => exact ⟨_, rfl, h⟩
    | many | one | escaped => exact absurd (by decide) hc
  · rintro ⟨rest, rfl, h⟩
    exact .plain hc h

/-- A character as a pattern that matches just this character. -/
def likeEscape (c : Char) : List Char := if c ∈ likeSpecials then ['\\', c] else [c]

theorem like_likeEscape_append_iff :
    Like (likeEscape c ++ p) t ↔ ∃ rest, t = c :: rest ∧ Like p rest := by
  rw [likeEscape]
  split
  · exact like_escaped_iff
  · next hc => exact like_plain_iff hc

/-- An escaped text matches itself, whatever follows it in the pattern. -/
theorem like_escapedText_append_iff {s : List Char} :
    Like (s.flatMap likeEscape ++ p) t ↔ ∃ rest, t = s ++ rest ∧ Like p rest := by
  induction s generalizing t with
  | nil => simp
  | cons c s ih =>
    rw [List.flatMap_cons, List.append_assoc, like_likeEscape_append_iff]
    constructor
    · rintro ⟨_, rfl, h⟩
      obtain ⟨rest, rfl, hrest⟩ := ih.1 h
      exact ⟨rest, rfl, hrest⟩
    · rintro ⟨rest, rfl, hrest⟩
      exact ⟨s ++ rest, rfl, ih.2 ⟨rest, rfl, hrest⟩⟩

theorem toList_containsPattern (s : String) :
    (containsPattern s).toList = '%' :: (s.toList.flatMap likeEscape ++ ['%']) := by
  have hescape : (fun c => if c = '%' ∨ c = '_' ∨ c = '\\' then ['\\', c] else [c]) = likeEscape := by
    funext c
    simp [likeEscape, likeSpecials]
  rw [containsPattern, hescape]
  simp

/-- The pattern of a text search means that the text is contained. -/
theorem like_containsPattern_iff (s t : String) :
    Like (containsPattern s).toList t.toList ↔ s.toList <:+: t.toList := by
  rw [toList_containsPattern, like_many_iff, List.infix_iff_prefix_suffix]
  constructor
  · rintro ⟨found, hfound, h⟩
    obtain ⟨after, rfl, -⟩ := like_escapedText_append_iff.1 h
    exact ⟨_, List.prefix_append _ _, hfound⟩
  · rintro ⟨found, ⟨after, rfl⟩, hfound⟩
    have hafter : Like ['%'] after := by simpa using Like.many after .nil
    exact ⟨_, hfound, like_escapedText_append_iff.2 ⟨after, rfl, hafter⟩⟩

end CivicReport
