/-!
Terms inside a text: whether one occurs, and what is left when its occurrences are replaced.
Main statements: a term occurs in a text exactly when it is a contiguous part of it, and a text is
cut at the first occurrence of a character.
-/
namespace CivicReport.Text

def occursIn (term : List Char) : List Char → Bool
  | [] => term.isEmpty
  | c :: rest => term.isPrefixOf (c :: rest) || occursIn term rest

theorem occursIn_iff {term s : List Char} : occursIn term s = true ↔ term <:+: s := by
  induction s with
  | nil => simp [occursIn]
  | cons c rest ih => simp [occursIn, ih, List.infix_cons_iff]

/-- `skip` characters belong to an occurrence that has been replaced already. -/
def replaceFrom (term by_ : List Char) (skip : Nat) : List Char → List Char
  | [] => []
  | c :: rest =>
    match skip with
    | n + 1 => replaceFrom term by_ n rest
    | 0 =>
      if term.isPrefixOf (c :: rest) then by_ ++ replaceFrom term by_ (term.length - 1) rest
      else c :: replaceFrom term by_ 0 rest

/-- Replaces the occurrences of a term that is not empty, from left to right and never
overlapping. -/
def replaceAll (term by_ s : List Char) : List Char := replaceFrom term by_ 0 s

example : replaceAll "aa".toList "b".toList "aaaca".toList = "baca".toList := by decide

/-- The pieces of a text between the occurrences of one character. -/
def splitAt (mark : Char) : List Char → List (List Char)
  | [] => [[]]
  | c :: rest =>
    if c = mark then [] :: splitAt mark rest
    else match splitAt mark rest with
      | [] => [[c]]
      | piece :: pieces => (c :: piece) :: pieces

/-- The text up to the first occurrence of a character, and the text after it. -/
def cutAt? (mark : Char) : List Char → Option (List Char × List Char)
  | [] => none
  | c :: rest =>
    if c = mark then some ([], rest) else (cutAt? mark rest).map fun p => (c :: p.1, p.2)

theorem cutAt?_eq_some_iff {mark : Char} {s before after : List Char} :
    cutAt? mark s = some (before, after) ↔ s = before ++ mark :: after ∧ mark ∉ before := by
  induction s generalizing before with
  | nil => simp [cutAt?]
  | cons c rest ih =>
    rw [cutAt?]
    by_cases hc : c = mark
    · cases before with
      | nil => simp [hc]
      | cons first before =>
        simp only [hc, if_true, Option.some.injEq, Prod.mk.injEq, reduceCtorEq, false_and,
          List.cons_append, List.cons.injEq, List.mem_cons, not_or, false_iff]
        rintro ⟨⟨hfirst, -⟩, hne, -⟩
        exact hne hfirst
    · cases before with
      | nil => simp [hc]
      | cons first before =>
        have hrest : (∃ p, cutAt? mark rest = some p ∧ (c :: p.1, p.2) = (first :: before, after)) ↔
            c = first ∧ cutAt? mark rest = some (before, after) := by
          simp only [Prod.exists, Prod.mk.injEq, List.cons.injEq]
          grind
        rw [if_neg hc, Option.map_eq_some_iff, hrest, ih]
        simp only [List.cons_append, List.cons.injEq, List.mem_cons]
        grind

/-- Drops the characters in a set from both ends. -/
def strip (drop : Char → Bool) (s : List Char) : List Char :=
  ((s.dropWhile drop).reverse.dropWhile drop).reverse

def stripRight (drop : Char → Bool) (s : List Char) : List Char :=
  (s.reverse.dropWhile drop).reverse

/-- Pieces with a separator between each two. -/
def joined (separator : List Char) : List (List Char) → List Char
  | [] => []
  | [piece] => piece
  | piece :: pieces => piece ++ separator ++ joined separator pieces

/-- Strings with a separator between each two. -/
def joinWith (separator : String) : List String → String
  | [] => ""
  | [piece] => piece
  | piece :: pieces => piece ++ separator ++ joinWith separator pieces

example : joinWith ", " ["a", "b", "c"] = "a, b, c" := by decide

/-- The length of a text in the UTF-8 encoding. -/
def utf8Length (s : List Char) : Nat := s.foldl (fun n c => n + c.utf8Size) 0

end CivicReport.Text
