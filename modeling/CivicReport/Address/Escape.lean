import CivicReport.Decimal.Reading

/-!
Characters that have no place in an address: their bytes are written as percent signs with two
hexadecimal digits each. Which characters these are depends on the part of the address.
-/
namespace CivicReport.Address

def hexDigits (n : Nat) : List Char := Nat.toDigits 16 n

/-- The value of digits to a base of at most 16. No digits are zero. -/
def valueIn? (base : Nat) (s : List Char) : Option Nat :=
  s.foldl (fun acc c => acc.bind fun n =>
    ((hexValue? c).filter (· < base)).map (base * n + ·)) (some 0)

def escapeByte (b : UInt8) : List Char :=
  '%' :: (hexDigits (b.toNat / 16) ++ hexDigits (b.toNat % 16)).map Char.toUpper

def escape (set : Char → Bool) (s : List Char) : List Char :=
  s.flatMap fun c => if set c then (String.utf8EncodeChar c).flatMap escapeByte else [c]

/-- The bytes of a text. A percent sign without two digits behind it stands for itself. -/
def unescaped : List Char → List UInt8
  | [] => []
  | '%' :: a :: b :: rest =>
    match valueIn? 16 [a, b] with
    | some n => UInt8.ofNat n :: unescaped rest
    | none => String.utf8EncodeChar '%' ++ unescaped (a :: b :: rest)
  | c :: rest => String.utf8EncodeChar c ++ unescaped rest

/-- Controls, and all that is not ASCII. -/
def isOutside (c : Char) : Bool := c.toNat < 0x20 || 0x7F ≤ c.toNat

def escapedInFragment (c : Char) : Bool := isOutside c || " \"<>\x60".toList.contains c

def escapedInPath (c : Char) : Bool := escapedInFragment c || "#?\x7b\x7d".toList.contains c

def escapedInQuery (c : Char) : Bool := isOutside c || " \"#<>".toList.contains c

example : escape escapedInPath "a b%c".toList = "a%20b%c".toList := by decide
example : unescaped "%41%4".toList = [65, 37, 52] := by decide

end CivicReport.Address
