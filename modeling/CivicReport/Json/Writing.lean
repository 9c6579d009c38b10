import CivicReport.Json
import CivicReport.Decimal.Shortest
import CivicReport.Text.Search

/-! JSON texts, on one line or indented by two spaces a level. -/
namespace CivicReport

def Number.write : Number → String
  | whole n => intText n
  | real x => if x.isFinite then NumberStyle.json.write x else "null"

namespace Json

def hexDigits (n : Nat) : List Char := (Nat.toDigits 16 (n / 16)) ++ Nat.toDigits 16 (n % 16)

/-- Quotes, backslashes and control characters are escaped, nothing else is. -/
def escapeChar (c : Char) : List Char :=
  if c = '"' then ['\\', '"']
  else if c = '\\' then ['\\', '\\']
  else if c = '\n' then ['\\', 'n']
  else if c = '\r' then ['\\', 'r']
  else if c = '\t' then ['\\', 't']
  else if c = '\x08' then ['\\', 'b']
  else if c = '\x0c' then ['\\', 'f']
  else if c.toNat < 0x20 then '\\' :: 'u' :: '0' :: '0' :: hexDigits c.toNat
  else [c]

def quote (s : String) : String :=
  String.ofList ('"' :: s.toList.flatMap escapeChar ++ ['"'])

mutual

/-- The text of a value without any spaces. -/
def compact : Json → String
  | null => "null"
  | bool b => if b then "true" else "false"
  | number n => n.write
  | text s => quote s
  | array items => "[" ++ Text.joinWith "," (compactItems items) ++ "]"
  | object members => "\x7b" ++ Text.joinWith "," (compactMembers members) ++ "\x7d"

def compactItems : List Json → List String
  | [] => []
  | j :: rest => j.compact :: compactItems rest

def compactMembers : List (String × Json) → List String
  | [] => []
  | (k, v) :: rest => (quote k ++ ":" ++ v.compact) :: compactMembers rest

end

def indentation (depth : Nat) : String := String.ofList (List.replicate (2 * depth) ' ')

/-- Lines between two brackets; empty brackets stay together. -/
def bracketed (opening closing : String) (depth : Nat) (lines : List String) : String :=
  if lines.isEmpty then opening ++ closing
  else
    opening ++ "\n" ++ Text.joinWith ",\n" (lines.map (indentation (depth + 1) ++ ·)) ++ "\n" ++
      indentation depth ++ closing

mutual

def prettyAt (depth : Nat) : Json → String
  | array items => bracketed "[" "]" depth (prettyItems (depth + 1) items)
  | object members => bracketed "\x7b" "\x7d" depth (prettyMembers (depth + 1) members)
  | null => "null"
  | bool b => if b then "true" else "false"
  | number n => n.write
  | text s => quote s

def prettyItems (depth : Nat) : List Json → List String
  | [] => []
  | j :: rest => j.prettyAt depth :: prettyItems depth rest

def prettyMembers (depth : Nat) : List (String × Json) → List String
  | [] => []
  | (k, v) :: rest => (quote k ++ ": " ++ v.prettyAt depth) :: prettyMembers depth rest

end

/-- The text of a value with one item or member on a line. -/
def pretty (j : Json) : String := j.prettyAt 0

end Json

end CivicReport
