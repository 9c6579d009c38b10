import CivicReport.Text.Blank
import CivicReport.Text.Lowercase
import CivicReport.Text.Search

/-!
Questions and their folded form, in which spellings that mean the same are equal: no quote marks,
no final letters, no upper case, and single spaces for punctuation and white space. Commas and
full stops stay, because amounts are written with them.
-/
namespace CivicReport

namespace Folding

/-- Quote marks and the Hebrew hyphen. -/
def dropped : List Char :=
  ['״', '׳', '"', '\x27', '\x60', '’', '‘', '”', '“', '\u05be']

def separators : List Char :=
  ['?', '!', ';', ':', '(', ')', '[', ']', '-', '–', '—', '/', '\\']

/-- Hebrew letters that end a word are written like those within it. -/
def regular (c : Char) : Char :=
  if c = 'ך' then 'כ'
  else if c = 'ם' then 'מ'
  else if c = 'ן' then 'נ'
  else if c = 'ף' then 'פ'
  else if c = 'ץ' then 'צ'
  else c

def plain (s : List Char) : List Char :=
  (s.filter (!dropped.contains ·)).map fun c => if separators.contains c then ' ' else regular c

def fold (s : List Char) : List Char :=
  Text.joined [' '] (Text.words (Text.lowercase (plain s)))

def foldText (s : String) : List Char := fold s.toList

example : foldText "תב״ר  2211?" = "תבר 2211".toList := by decide
example : foldText "Show ALL-ממתין" = "show all ממתינ".toList := by decide

end Folding

structure Question where
  /-- The text as asked, without white space at the ends. -/
  raw : List Char
  folded : List Char
  deriving Repr, DecidableEq

namespace Question

def ofText (s : String) : Question :=
  let raw := Text.trim s.toList
  ⟨raw, Folding.fold raw⟩

def rawText (q : Question) : String := String.ofList q.raw

/-- Whether a term that is folded already occurs in the question. -/
def contains (q : Question) (term : List Char) : Bool :=
  !term.isEmpty && Text.occursIn term q.folded

def isDigitSeparator (c : Char) : Bool := c == ',' || c == '.'

/-- The words of the question without commas and full stops at their ends. -/
def tokens (q : Question) : List (List Char) :=
  ((Text.splitAt ' ' q.folded).map (Text.strip isDigitSeparator)).filter (!·.isEmpty)

end Question

end CivicReport
