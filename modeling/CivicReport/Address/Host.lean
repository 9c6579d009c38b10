import CivicReport.Address.Escape
import CivicReport.Address.Letters
import CivicReport.Decimal.Reading
import CivicReport.Text.Lowercase
import CivicReport.Text.Search

/-!
Hosts: names, addresses of four bytes, and addresses of eight groups in brackets. Each is written
in one form only, whichever form it is read from.
-/
namespace CivicReport.Address

/-! Addresses of four bytes. -/

/-- A number whose start says whether it is hexadecimal, octal or decimal. -/
def hostNumber? (s : List Char) : Option Nat :=
  match s with
  | [] => none
  | '0' :: 'x' :: digits => valueIn? 16 digits
  | '0' :: 'X' :: digits => valueIn? 16 digits
  | '0' :: digits => valueIn? 8 digits
  | digits => valueIn? 10 digits

/-- The parts between the points, without an empty one at the end. -/
def hostParts (s : List Char) : List (List Char) :=
  let parts := Text.splitAt '.' s
  if 1 < parts.length ∧ parts.getLast? = some [] then parts.dropLast else parts

/-- Whether a host has to be an address of four bytes. -/
def endsInNumber (s : List Char) : Bool :=
  (hostParts s).getLast?.any fun part =>
    !part.isEmpty && (part.all isAsciiDigit || (hostNumber? part).isSome)

/-- At most four numbers, of which the last one fills the bytes that are left. -/
def fourBytes? (numbers : List Nat) : Option Nat :=
  match numbers.reverse with
  | [] => none
  | last :: others =>
    let room := Nat.pow 256 (4 - others.length)
    if 3 < others.length ∨ others.any (255 < ·) ∨ room ≤ last then none
    else some (others.foldr (fun n acc => 256 * acc + n) 0 * room + last)

def readFourBytes? (s : List Char) : Option Nat := ((hostParts s).mapM hostNumber?).bind fourBytes?

def writeFourBytes (n : Nat) : List Char :=
  Text.joined ['.'] ([16777216, 65536, 256, 1].map fun unit => Nat.toDigits 10 (n / unit % 256))

/-! Addresses of eight groups. -/

def group? (s : List Char) : Option Nat :=
  if s.isEmpty || 4 < s.length then none else valueIn? 16 s

/-- Two groups from four bytes, as they may stand at the end. -/
def lastGroups? (s : List Char) : Option (List Nat) := do
  let bytes ← (Text.splitAt '.' s).mapM fun n =>
    if n.head? = some '0' ∧ 1 < n.length then none else (readNat? n).filter (· < 256)
  match bytes with
  | [a, b, c, d] => some [256 * a + b, 256 * c + d]
  | _ => none

def groups? (s : List Char) : Option (List Nat) :=
  if s.isEmpty then some []
  else
    let parts := Text.splitAt ':' s
    let last := parts.getLast?.getD []
    if last.contains '.' then do pure ((← parts.dropLast.mapM group?) ++ (← lastGroups? last))
    else parts.mapM group?

/-- The text before the first two colons side by side, and the text after them. -/
def cutAtGap? : List Char → Option (List Char × List Char)
  | [] => none
  | ':' :: ':' :: rest => some ([], rest)
  | c :: rest => (cutAtGap? rest).map fun p => (c :: p.1, p.2)

/-- Eight groups. Two colons side by side stand for as many zeros as are missing, at least one. -/
def readGroups? (s : List Char) : Option (List Nat) :=
  match cutAtGap? s with
  | none => (groups? s).filter (·.length = 8)
  | some (left, right) => do
    let left ← if left.contains '.' then none else groups? left
    let right ← groups? right
    let n := left.length + right.length
    if n < 8 then some (left ++ List.replicate (8 - n) 0 ++ right) else none

/-- Start and length of the first longest run of zeros. -/
def longestGap (groups : List Nat) : Nat × Nat :=
  (List.range groups.length).foldl (fun best i =>
    let n := ((groups.drop i).takeWhile (· = 0)).length
    if best.2 < n then (i, n) else best) (0, 0)

def joinGroups (groups : List Nat) : List Char := Text.joined [':'] (groups.map hexDigits)

def writeGroups (groups : List Nat) : List Char :=
  let (start, n) := longestGap groups
  if n < 2 then joinGroups groups
  else joinGroups (groups.take start) ++ "::".toList ++ joinGroups (groups.drop (start + n))

def bracketed? (s : List Char) : Option (List Char) :=
  if s.getLast? = some ']' then
    (readGroups? s.dropLast).map fun groups => '[' :: writeGroups groups ++ [']']
  else none

/-! Hosts. -/

def isForbidden (c : Char) : Bool := c == '\x00' || " #/:<>?@[\\]^|".toList.contains c

def isForbiddenInName (c : Char) : Bool :=
  isForbidden c || c.toNat < 0x20 || c.toNat = 0x7F || c == '%'

def hostName? (s : List Char) : Option (List Char) := do
  let name ← String.fromUTF8? ⟨(unescaped s).toArray⟩
  let name := Text.joined ['.'] ((Text.splitAt '.' (Text.lowercase name.toList)).map Letters.encode)
  if name.isEmpty || name.any isForbiddenInName then none
  else if endsInNumber name then (readFourBytes? name).map writeFourBytes
  else some name

/-- A host of the web. -/
def webHost? : List Char → Option (List Char)
  | '[' :: rest => bracketed? rest
  | s => hostName? s

/-- Any other host, of which nothing more is known. -/
def plainHost? : List Char → Option (List Char)
  | '[' :: rest => bracketed? rest
  | s => if s.any isForbidden then none else some (escape isOutside s)

example : webHost? "0x7F.1".toList = some "127.0.0.1".toList := by decide
example : webHost? "[0:0:0::1]".toList = some "[::1]".toList := by decide

end CivicReport.Address
