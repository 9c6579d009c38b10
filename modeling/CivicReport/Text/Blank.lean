import CivicReport.Text.Ranges

/-!
White space in any script, and the two things done with it: trimming a text and splitting it
into words. Zero-width characters are not white space.
-/
namespace CivicReport.Text

def blankRanges : List (Nat × Nat) :=
  [(0x9, 0xD), (0x20, 0x20), (0x85, 0x85), (0xA0, 0xA0), (0x1680, 0x1680), (0x2000, 0x200A),
   (0x2028, 0x2029), (0x202F, 0x202F), (0x205F, 0x205F), (0x3000, 0x3000)]

def isBlank (c : Char) : Bool := inRanges blankRanges c.toNat

def trimLeft (s : List Char) : List Char := s.dropWhile isBlank

def trimRight (s : List Char) : List Char := (s.reverse.dropWhile isBlank).reverse

def trim (s : List Char) : List Char := trimRight (trimLeft s)

/-- `word` holds the letters of the word being read, the last one first. -/
def wordsFrom (word : List Char) : List Char → List (List Char)
  | [] => if word.isEmpty then [] else [word.reverse]
  | c :: rest =>
    if isBlank c then
      if word.isEmpty then wordsFrom [] rest else word.reverse :: wordsFrom [] rest
    else wordsFrom (c :: word) rest

/-- The maximal runs of characters that are not white space. -/
def words (s : List Char) : List (List Char) := wordsFrom [] s

/-- The text without white space at either end. -/
def trimmed (s : String) : String := String.ofList (trim s.toList)

example : words " סך  הכל\n".toList = ["סך".toList, "הכל".toList] := by decide
example : trimmed "\u00a0 a b\u2003" = "a b" := by decide

end CivicReport.Text
