import CivicReport.Toml
import CivicReport.Decimal.Reading
import CivicReport.Text.Search

/-!
Reading TOML texts. A text that does not read has a fault at one place, which is told by line and
column, counted from one.
-/
namespace CivicReport.Toml

/-- The rest of a text and the count of characters before it. -/
structure Place where
  rest : List Char
  offset : Nat

/-- Reads from a place on; a fault is the offset at which it is noticed. -/
abbrev Reading := StateT Place (Except Nat)

def peek : Reading (Option Char) := do pure (← get).rest.head?

def skip (n : Nat) : Reading Unit := modify fun p => ⟨p.rest.drop n, p.offset + n⟩

def offset : Reading Nat := do pure (← get).offset

def faultAt {α : Type} (n : Nat) : Reading α := throw n

def fault {α : Type} : Reading α := do faultAt (← offset)

/-- The longest run of characters of a class. -/
def takeRun (test : Char → Bool) : Reading (List Char) := do
  let run := (← get).rest.takeWhile test
  skip run.length
  pure run

def startsWith (s : String) : Reading Bool := do
  pure (s.toList.isPrefixOf (← get).rest)

def expect (c : Char) : Reading Unit := do
  if (← peek) = some c then skip 1 else fault

def isSpace (c : Char) : Bool := c == ' ' || c == '\t'

def spaces : Reading Unit := do let _ ← takeRun isSpace

/-- Tabs and everything that is not a control character. -/
def isVisible (c : Char) : Bool := c == '\t' || (0x20 ≤ c.toNat && c.toNat ≠ 0x7F)

def comment : Reading Unit := do
  if (← peek) = some '#' then
    let _ ← takeRun isVisible

/-- A line end, if there is one here. -/
def lineEnd : Reading Bool := do
  if (← startsWith "\n") then
    skip 1
    pure true
  else if (← startsWith "\r\n") then
    skip 2
    pure true
  else pure false

/-- Spaces and a comment up to the end of the line or the text. -/
def restOfLine : Reading Unit := do
  spaces
  comment
  if (← peek).isSome then
    if !(← lineEnd) then fault

/-! Strings. -/

def readHex? (s : List Char) : Option Nat :=
  s.foldl (fun acc c => acc.bind fun n => (hexValue? c).map (16 * n + ·)) (some 0)

def codePoint (width : Nat) : Reading Char := do
  let digits := (← get).rest.take width
  match readHex? digits with
  | some n =>
    if digits.length = width ∧ (n < 0xD800 ∨ 0xDFFF < n ∧ n < 0x110000) then
      skip width
      pure (Char.ofNat n)
    else fault
  | none => fault

/-- The character that an escape stands for, after its backslash. -/
def escape : Reading Char := do
  match ← peek with
  | some 'b' => skip 1; pure '\x08'
  | some 't' => skip 1; pure '\t'
  | some 'n' => skip 1; pure '\n'
  | some 'f' => skip 1; pure '\x0c'
  | some 'r' => skip 1; pure '\r'
  | some '"' => skip 1; pure '"'
  | some '\\' => skip 1; pure '\\'
  | some 'u' => skip 1; codePoint 4
  | some 'U' => skip 1; codePoint 8
  | _ => fault

/-- The rest of a string between double quotes; `done` holds its characters last first. -/
def basicRest (fuel : Nat) (done : List Char) : Reading String :=
  match fuel with
  | 0 => fault
  | fuel + 1 => do
    match ← peek with
    | some '"' =>
      skip 1
      pure (String.ofList done.reverse)
    | some '\\' =>
      skip 1
      basicRest fuel ((← escape) :: done)
    | some c =>
      if isVisible c then
        skip 1
        basicRest fuel (c :: done)
      else fault
    | none => fault

def literalRest : Reading String := do
  let s ← takeRun fun c => isVisible c && c != '\x27'
  expect '\x27'
  pure (String.ofList s)

/-- Quotes at the end of a string over several lines: up to two of them belong to it. -/
def closingQuotes (quote : Char) : Reading (Option Nat) := do
  let run := (← get).rest.takeWhile (· == quote)
  if 3 ≤ run.length then
    let inner := min (run.length - 3) 2
    skip (inner + 3)
    pure (some inner)
  else pure none

def isTrimmed (c : Char) : Bool := isSpace c || c == '\n' || c == '\r'

/-- The rest of a string over several lines. -/
def manyLinesRest (quote : Char) (fuel : Nat) (done : List Char) : Reading String :=
  match fuel with
  | 0 => fault
  | fuel + 1 => do
    match ← peek with
    | none => fault
    | some c =>
      if c = quote then
        match ← closingQuotes quote with
        | some n => pure (String.ofList (List.replicate n quote ++ done).reverse)
        | none =>
          skip 1
          manyLinesRest quote fuel (c :: done)
      else if c = '\\' ∧ quote = '"' then
        skip 1
        let gap := (← get).rest.takeWhile isSpace
        match (← get).rest.drop gap.length with
        | '\n' :: _ =>
          let _ ← takeRun isTrimmed
          manyLinesRest quote fuel done
        | '\r' :: '\n' :: _ =>
          let _ ← takeRun isTrimmed
          manyLinesRest quote fuel done
        | _ => manyLinesRest quote fuel ((← escape) :: done)
      else if ← lineEnd then manyLinesRest quote fuel ('\n' :: done)
      else if isVisible c then
        skip 1
        manyLinesRest quote fuel (c :: done)
      else fault

def remaining : Reading Nat := do pure ((← get).rest.length + 1)

/-- A string of several lines starts after a line end that follows its quotes at once. -/
def manyLines (quote : Char) : Reading String := do
  skip 3
  let _ ← lineEnd
  manyLinesRest quote (← remaining) []

def string (quote : Char) (isKey : Bool) : Reading String := do
  if !isKey && (← startsWith (String.ofList [quote, quote, quote])) then manyLines quote
  else
    skip 1
    if quote = '"' then basicRest (← remaining) [] else literalRest

/-! Numbers and times. -/

def takeDigits (test : Char → Bool) (s : List Char) : Except Nat (List Char × List Char) :=
  let rec go (fuel used : Nat) (digits : List Char) (s : List Char) :
      Except Nat (List Char × List Char) :=
    match fuel, s with
    | 0, s => .ok (digits.reverse, s)
    | _, [] => .ok (digits.reverse, [])
    | fuel + 1, c :: rest =>
      if test c then go fuel (used + 1) (c :: digits) rest
      else if c = '_' ∧ digits ≠ [] then
        match rest with
        | d :: rest' =>
          if test d then go fuel (used + 2) (d :: digits) rest' else .error (used + 1)
        | [] => .error (used + 1)
      else .ok (digits.reverse, c :: rest)
  go (s.length + 1) 0 [] s

/-- A number of the date and time formats: its digits are fixed in number. -/
def fixedDigits? (width most : Nat) (s : List Char) : Option (Nat × List Char) :=
  let digits := s.take width
  if digits.length = width ∧ digits.all isAsciiDigit then
    (readNat? digits).bind fun n => if n ≤ most then some (n, s.drop width) else none
  else none

def afterChar? (c : Char) : List Char → Option (List Char)
  | x :: rest => if x = c then some rest else none
  | [] => none

def clock? (s : List Char) : Option (List Char) := do
  let (_, s) ← fixedDigits? 2 23 s
  let s ← afterChar? ':' s
  let (_, s) ← fixedDigits? 2 59 s
  let s ← afterChar? ':' s
  let (_, s) ← fixedDigits? 2 60 s
  match s with
  | '.' :: c :: rest => if isAsciiDigit c then some (rest.dropWhile isAsciiDigit) else some s
  | s => some s

def zone (s : List Char) : List Char :=
  match s with
  | 'Z' :: rest => rest
  | 'z' :: rest => rest
  | c :: rest =>
    if c = '+' ∨ c = '-' then
      match (do
        let (_, r) ← fixedDigits? 2 23 rest
        let r ← afterChar? ':' r
        let (_, r) ← fixedDigits? 2 59 r
        pure r : Option (List Char)) with
      | some r => r
      | none => s
    else s
  | [] => []

def daysIn (year month : Nat) : Nat :=
  if month = 2 then
    if year % 4 = 0 ∧ (year % 100 ≠ 0 ∨ year % 400 = 0) then 29 else 28
  else if month = 4 ∨ month = 6 ∨ month = 9 ∨ month = 11 then 30
  else 31

/-- The text after a date, a time, or both. -/
def afterTime? (s : List Char) : Option (List Char) :=
  match (do
    let (year, s) ← fixedDigits? 4 9999 s
    let s ← afterChar? '-' s
    let (month, s) ← fixedDigits? 2 12 s
    let s ← afterChar? '-' s
    let (day, s) ← fixedDigits? 2 31 s
    if month = 0 ∨ day = 0 ∨ daysIn year month < day then none
    else some s : Option (List Char)) with
  | some rest =>
    match rest with
    | c :: after =>
      if c = 'T' ∨ c = 't' ∨ c = ' ' then ((clock? after).map zone).or (some rest) else some rest
    | [] => some []
  | none => clock? s

def isHexDigit (c : Char) : Bool := (hexValue? c).isSome

/-- The value of digits in a base, with underscores between them. -/
def basedInteger (base : Nat) (test : Char → Bool) (s : List Char) :
    Except Nat (Int × List Char) :=
  match s with
  | c :: _ =>
    if test c then do
      let (digits, rest) ← takeDigits test s
      pure ((digits.foldl (fun n d => base * n + (hexValue? d).getD 0) 0 : Nat), rest)
    else .error 0
  | [] => .error 0

def infinity : Float := 1.0 / 0.0

/-- Digits without a zero in front, unless zero is the only one. -/
def wholeDigits (s : List Char) : Except Nat (List Char × List Char) :=
  match s with
  | '0' :: rest => .ok (['0'], rest)
  | c :: _ => if isAsciiDigit c then takeDigits isAsciiDigit s else .error 0
  | [] => .error 0

/-- An exponent with its mark, if one is here: its value and the text after it. -/
def exponent? (s : List Char) : Except Nat (Option (Int × List Char)) :=
  match s with
  | c :: rest =>
    if c = 'e' ∨ c = 'E' then
      let (negative, digits) := readSign rest
      match digits with
      | d :: _ =>
        if isAsciiDigit d then do
          let (ds, rest) ← takeDigits isAsciiDigit digits
          let n := (readNat? ds).getD 0
          pure (some (if negative then -(n : Int) else n, rest))
        else .error 1
      | [] => .error 1
    else .ok none
  | [] => .ok none

/-- The number at the start of a text and the text after it; a fault is an offset into it. -/
def number (s : List Char) : Except Nat (Toml × List Char) := do
  let (negative, body) := readSign s
  let signed := body.length < s.length
  let sign (x : Float) : Float := if negative then -x else x
  if "inf".toList.isPrefixOf body then .ok (.real (sign infinity), body.drop 3)
  else if "nan".toList.isPrefixOf body then .ok (.real (sign (0.0 / 0.0)), body.drop 3)
  else
    let based (base : Nat) (test : Char → Bool) : Except Nat (Toml × List Char) :=
      match basedInteger base test (s.drop 2) with
      | .ok (n, rest) => if n ≤ 9223372036854775807 then .ok (.integer n, rest) else .error 0
      | .error k => .error (k + 2)
    if !signed && "0x".toList.isPrefixOf s then based 16 isHexDigit
    else if !signed && "0o".toList.isPrefixOf s then based 8 fun c => '0' ≤ c && c ≤ '7'
    else if !signed && "0b".toList.isPrefixOf s then based 2 fun c => c == '0' || c == '1'
    else
      let shift := s.length - body.length
      let shifted {α : Type} (k : Nat) : Except Nat α → Except Nat α
        | .ok a => .ok a
        | .error n => .error (n + k)
      let (whole, rest) ← shifted shift (wholeDigits body)
      let wholeEnd := s.length - rest.length
      let (places, rest') ← match rest with
        | '.' :: c :: more =>
          if isAsciiDigit c then shifted (wholeEnd + 1) (takeDigits isAsciiDigit (c :: more))
          else .error (wholeEnd + 1)
        | ['.'] => .error (wholeEnd + 1)
        | r => .ok ([], r)
      let power ← shifted (s.length - rest'.length) (exponent? rest')
      match places, power with
      | [], none =>
        let n : Int := (readNat? whole).getD 0
        let n := if negative then -n else n
        if -9223372036854775808 ≤ n ∧ n ≤ 9223372036854775807 then .ok (.integer n, rest)
        else .error 0
      | _, _ =>
        let e := (power.map (·.1)).getD 0
        let x := sign (nearestFloat ((readNat? (whole ++ places)).getD 0) (e - places.length))
        if x.isInf then .error 0 else .ok (.real x, (power.map (·.2)).getD rest')

def numberOrTime : Reading Toml := do
  let s := (← get).rest
  match afterTime? s with
  | some rest =>
    skip (s.length - rest.length)
    pure .time
  | none =>
    match number s with
    | .ok (v, rest) =>
      skip (s.length - rest.length)
      pure v
    | .error n => faultAt ((← offset) + n)

/-! Keys and values. -/

def isBareKeyChar (c : Char) : Bool :=
  isAsciiDigit c || ('a' ≤ c && c ≤ 'z') || ('A' ≤ c && c ≤ 'Z') || c == '-' || c == '_'

def simpleKey : Reading String := do
  match ← peek with
  | some '"' => string '"' true
  | some '\x27' => string '\x27' true
  | _ =>
    let s ← takeRun isBareKeyChar
    if s.isEmpty then fault else pure (String.ofList s)

/-- Whether a key follows, perhaps after spaces. -/
def startsKey (s : List Char) : Bool :=
  match s.dropWhile isSpace with
  | c :: _ => isBareKeyChar c || c == '"' || c == '\x27'
  | [] => false

/-- Keys with dots between them, and spaces around the dots. -/
def dottedKey (fuel : Nat) : Reading (List Key) :=
  match fuel with
  | 0 => fault
  | fuel + 1 => do
    spaces
    let place ← offset
    let key : Key := ⟨← simpleKey, place⟩
    spaces
    if (← peek) = some '.' && startsKey ((← get).rest.drop 1) then
      skip 1
      pure (key :: (← dottedKey fuel))
    else pure [key]

/-- All keys but the last, and the last. -/
def lastOf : List Key → List Key × Key
  | [] => ([], ⟨"", 0⟩)
  | [key] => ([], key)
  | key :: rest => let (path, last) := lastOf rest; (key :: path, last)

def word (s : String) (v : Toml) : Reading Toml := do
  if ← startsWith s then
    skip s.length
    pure v
  else fault

/-- Spaces, comments and line ends, which may stand anywhere between the items of an array. -/
def gap (fuel : Nat) : Reading Unit :=
  match fuel with
  | 0 => pure ()
  | fuel + 1 => do
    spaces
    comment
    if ← lineEnd then gap fuel

/-- The entries of a table within braces, put together. -/
def inlineTable (pairs : List (Nat × List Key × Nat × Toml)) : Except Nat Toml :=
  let step (entries : List (String × Nat × Toml)) (p : Nat × List Key × Nat × Toml) :
      Except Nat (List (String × Nat × Toml)) :=
    let (place, keys, at_, v) := p
    let (path, key) := lastOf keys
    match editAt .dotted (addPair path.isEmpty key.name at_ v) path entries .header with
    | some t => .ok t.1
    | none => .error place
  (pairs.foldlM step []).map (table .inline)

/-- Arrays and tables may be nested this deep. -/
def mostNested : Nat := 80

mutual

def value (fuel depth : Nat) : Reading (Nat × Toml) :=
  match fuel with
  | 0 => fault
  | fuel + 1 => do
    let start ← offset
    let v ← match ← peek with
      | none => fault
      | some c =>
        if c = '"' ∨ c = '\x27' then do pure (Toml.text (← string c false))
        else if c = '[' then
          if mostNested ≤ depth then fault
          else do
            skip 1
            arrayRest fuel (depth + 1) []
        else if c = '\x7b' then
          if mostNested ≤ depth then fault
          else do
            skip 1
            tableRest fuel (depth + 1) start []
        else if isAsciiDigit c || c == '+' || c == '-' then numberOrTime
        else if c = 't' then word "true" (.bool true)
        else if c = 'f' then word "false" (.bool false)
        else if c = 'i' then word "inf" (.real infinity)
        else if c = 'n' then word "nan" (.real (0.0 / 0.0))
        else fault
    pure (start, v)

def arrayRest (fuel depth : Nat) (done : List (Nat × Toml)) : Reading Toml :=
  match fuel with
  | 0 => fault
  | fuel + 1 => do
    gap (← remaining)
    if (← peek) = some ']' then
      skip 1
      pure (.array done.reverse)
    else
      let item ← value fuel depth
      gap (← remaining)
      match ← peek with
      | some ',' =>
        skip 1
        arrayRest fuel depth (item :: done)
      | some ']' =>
        skip 1
        pure (.array (item :: done).reverse)
      | _ => fault

def tableRest (fuel depth start : Nat) (done : List (Nat × List Key × Nat × Toml)) :
    Reading Toml :=
  match fuel with
  | 0 => fault
  | fuel + 1 => do
    spaces
    if (← peek) = some '\x7d' && done.isEmpty then
      skip 1
      pure (.table .inline [])
    else
      let place ← offset
      let keys ← dottedKey (← remaining)
      expect '='
      spaces
      let (at_, v) ← value fuel depth
      spaces
      let done := (place, keys, at_, v) :: done
      if (← peek) = some ',' && startsKey ((← get).rest.drop 1) then
        skip 1
        tableRest fuel depth start done
      else
        match inlineTable done.reverse with
        | .ok t =>
          expect '\x7d'
          pure t
        | .error _ => faultAt (start + 1)

end

/-! Lines and documents. -/

def pairLine : Reading Line := do
  let keys ← dottedKey (← remaining)
  let (path, key) := lastOf keys
  expect '='
  spaces
  let (at_, v) ← value (2 * (← remaining)) 0
  restOfLine
  pure (.pair path key at_ v)

def headerLine : Reading Line := do
  if (← get).rest.length < 2 then fault
  else
    let repeated ← startsWith "[["
    skip (if repeated then 2 else 1)
    let keys ← dottedKey (← remaining)
    let (path, key) := lastOf keys
    expect ']'
    if repeated then expect ']'
    restOfLine
    pure (if repeated then .repeatedHeader path key else .header path key)

/-- Adds the lines of a text to a draft. -/
def lines (fuel : Nat) (d : Draft) : Reading Draft :=
  match fuel with
  | 0 => pure d
  | fuel + 1 => do
    spaces
    let start ← offset
    match ← peek with
    | none => pure d
    | some c =>
      if c = '\n' ∨ c = '\r' then
        if ← lineEnd then lines fuel d else fault
      else if c = '#' then
        restOfLine
        lines fuel d
      else
        let line ← if c = '[' then headerLine else pairLine
        match d.add? start line with
        | some d => lines fuel d
        | none => faultAt start

/-- Line and column of an offset. The end of the text belongs to its last character. A column is
a count of characters, or of bytes if the character at the offset is not an ASCII one. -/
def position (s : List Char) (offset : Nat) : Nat × Nat :=
  let index := min offset (s.length - 1)
  let before := s.take index
  let line := (before.reverse.takeWhile (· != '\n')).reverse
  let inBytes := offset < s.length && (s.drop index).head?.any (0x7F < ·.toNat)
  let column := if inBytes then Text.utf8Length line else line.length
  (before.count '\n' + 1, column + (offset - index) + 1)

/-- What is said about a fault at an offset. -/
def faultText (s : List Char) (offset : Nat) : String :=
  let (line, column) := position s offset
  "TOML parse error at line " ++ natText line ++ ", column " ++ natText column

/-- The entries of a document, or the offset of its fault. -/
def read (s : List Char) : Except Nat (List (String × Nat × Toml)) :=
  let body := match s with
    | '\ufeff' :: rest => rest
    | s => s
  match (lines (s.length + 1) ⟨[], []⟩).run ⟨body, s.length - body.length⟩ with
  | .ok (d, _) => .ok d.entries
  | .error n => .error n

end CivicReport.Toml
