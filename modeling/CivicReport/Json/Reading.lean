import CivicReport.Json.Numeral

/-!
Reading JSON texts, one character at a time: a lexical state for the token being read, and a
stack of the arrays and objects that are open. At most 127 may be open at once. A reader may be told
which parts of a text count; it skims the others, and then only their grammar matters.
-/
namespace CivicReport.Json

/-- An array or object that is open, with what it holds so far, the last first. -/
inductive Frame where
  | array (items : List Json)
  | object (members : List (String × Json)) (key : String)

/-- What may come next. -/
inductive Expected where
  | value
  | valueOrEnd
  | key
  | keyOrEnd
  | colon (key : String)
  | separator
  | nothing (result : Json)

/-- The token being read. Strings hold their characters last first. -/
inductive Lexeme where
  | none
  | number (chars : List Char)
  | word (chars : List Char)
  | string (chars : List Char)
  | escape (chars : List Char)
  /-- Hexadecimal digits of a character, or of the second half of one. -/
  | hex (chars : List Char) (high : Option Nat) (left value : Nat)
  | lowMark (chars : List Char) (high : Nat)
  | lowLetter (chars : List Char) (high : Nat)

structure Reader where
  lexeme : Lexeme
  expected : Expected
  stack : List Frame

namespace Reader

def initial : Reader := ⟨.none, .value, []⟩

def mostOpen : Nat := 127

/-- A value is complete: it goes into the innermost open array or object. -/
def accept (r : Reader) (j : Json) : Option Reader :=
  match r.expected with
  | .value | .valueOrEnd =>
    match r.stack with
    | [] => some ⟨.none, .nothing j, []⟩
    | .array items :: rest => some ⟨.none, .separator, .array (j :: items) :: rest⟩
    | .object members key :: rest =>
      some ⟨.none, .separator, .object ((key, j) :: members) key :: rest⟩
  | _ => none

def acceptText (r : Reader) (s : String) : Option Reader :=
  match r.expected with
  | .key | .keyOrEnd => some ⟨.none, .colon s, r.stack⟩
  | _ => r.accept (.text s)

def push (skims : Bool) (r : Reader) (frame : Frame) (expected : Expected) : Option Reader :=
  match r.expected with
  | .value | .valueOrEnd =>
    if skims || r.stack.length < mostOpen then some ⟨.none, expected, frame :: r.stack⟩ else none
  | _ => none

def close (j : Json) (rest : List Frame) : Option Reader :=
  accept ⟨.none, .value, rest⟩ j

def closeArray (r : Reader) : Option Reader :=
  match r.expected, r.stack with
  | .separator, .array items :: rest => close (.array items.reverse) rest
  | .valueOrEnd, .array items :: rest => close (.array items.reverse) rest
  | _, _ => none

def closeObject (r : Reader) : Option Reader :=
  match r.expected, r.stack with
  | .separator, .object members _ :: rest => close (.object members.reverse) rest
  | .keyOrEnd, .object members _ :: rest => close (.object members.reverse) rest
  | _, _ => none

def comma (r : Reader) : Option Reader :=
  match r.expected, r.stack with
  | .separator, .array items :: rest => some ⟨.none, .value, .array items :: rest⟩
  | .separator, .object members key :: rest => some ⟨.none, .key, .object members key :: rest⟩
  | _, _ => none

def colon (r : Reader) : Option Reader :=
  match r.expected, r.stack with
  | .colon key, .object members _ :: rest => some ⟨.none, .value, .object members key :: rest⟩
  | _, _ => none

def isSpace (c : Char) : Bool := c == ' ' || c == '\n' || c == '\t' || c == '\r'

/-- Whether a character goes on with a number, whose last character so far comes first. A number
has one point at most, before the mark of its exponent, and a sign only at its start and right
after that mark. -/
def extendsNumber (chars : List Char) (c : Char) : Bool :=
  let isMark := fun x => x == 'e' || x == 'E'
  if c == '.' then !chars.any fun x => x == '.' || isMark x
  else if isMark c then !chars.any isMark
  else if c == '-' || c == '+' then chars.head?.any isMark
  else isAsciiDigit c

def isWordLetter (c : Char) : Bool := 'a' ≤ c && c ≤ 'z'

/-- The value that a word stands for. -/
def wordValue? (w : List Char) : Option Json :=
  if w = "true".toList then some (.bool true)
  else if w = "false".toList then some (.bool false)
  else if w = "null".toList then some .null
  else none

/-- Whether a character goes on with a word, whose last character so far comes first. -/
def extendsWord (chars : List Char) (c : Char) : Bool :=
  isWordLetter c && (wordValue? chars.reverse).isNone

/-- A character outside of any token. -/
def begin (skims : Bool) (r : Reader) (c : Char) : Option Reader :=
  if isSpace c then some r
  else if c = '"' then
    match r.expected with
    | .value | .valueOrEnd | .key | .keyOrEnd => some { r with lexeme := .string [] }
    | _ => none
  else if c = '[' then r.push skims (.array []) .valueOrEnd
  else if c = '{' then r.push skims (.object [] "") .keyOrEnd
  else if c = ']' then r.closeArray
  else if c = '}' then r.closeObject
  else if c = ',' then r.comma
  else if c = ':' then r.colon
  else
    match r.expected with
    | .value | .valueOrEnd =>
      if c = '-' || isAsciiDigit c then some { r with lexeme := .number [c] }
      else if isWordLetter c then some { r with lexeme := .word [c] }
      else none
    | _ => none

/-- The end of a number or a word, which only the next character shows. -/
def flush (skims : Bool) (r : Reader) : Option Reader :=
  match r.lexeme with
  | .number chars =>
    if skims then if Numeral.isLiteral chars.reverse then r.accept .null else none
    else (Numeral.read? chars.reverse).bind fun n => r.accept (.number n)
  | .word chars => (wordValue? chars.reverse).bind r.accept
  | .none => some r
  | _ => none

def escaped? (c : Char) : Option Char :=
  if c = '"' || c = '\\' || c = '/' then some c
  else if c = 'b' then some '\x08'
  else if c = 'f' then some '\x0c'
  else if c = 'n' then some '\n'
  else if c = 'r' then some '\r'
  else if c = 't' then some '\t'
  else none

/-- Four hexadecimal digits are complete. The halves of a pair stand only side by side. -/
def unit? (skims : Bool) (chars : List Char) (high : Option Nat) (value : Nat) : Option Lexeme :=
  if skims then some (.string chars)
  else match high with
  | none =>
    if 0xD800 ≤ value ∧ value < 0xDC00 then some (.lowMark chars value)
    else if 0xDC00 ≤ value ∧ value < 0xE000 then none
    else some (.string (Char.ofNat value :: chars))
  | some high =>
    if 0xDC00 ≤ value ∧ value < 0xE000 then
      some (.string (Char.ofNat (0x10000 + (high - 0xD800) * 0x400 + (value - 0xDC00)) :: chars))
    else none

def step (skims : Bool) (r : Reader) (c : Char) : Option Reader :=
  match r.lexeme with
  | .none => r.begin skims c
  | .number chars =>
    if extendsNumber chars c then some { r with lexeme := .number (c :: chars) }
    else (r.flush skims).bind (·.begin skims c)
  | .word chars =>
    if extendsWord chars c then some { r with lexeme := .word (c :: chars) }
    else (r.flush skims).bind (·.begin skims c)
  | .string chars =>
    if c = '"' then r.acceptText (String.ofList chars.reverse)
    else if c = '\\' then some { r with lexeme := .escape chars }
    else if c.toNat < 0x20 then none
    else some { r with lexeme := .string (c :: chars) }
  | .escape chars =>
    if c = 'u' then some { r with lexeme := .hex chars none 4 0 }
    else (escaped? c).map fun x => { r with lexeme := .string (x :: chars) }
  | .hex chars high left value =>
    (hexValue? c).bind fun d =>
      let value := 16 * value + d
      if left ≤ 1 then (unit? skims chars high value).map fun l => { r with lexeme := l }
      else some { r with lexeme := .hex chars high (left - 1) value }
  | .lowMark chars high =>
    if c = '\\' then some { r with lexeme := .lowLetter chars high } else none
  | .lowLetter chars high =>
    if c = 'u' then some { r with lexeme := .hex chars (some high) 4 0 } else none

def result? (r : Reader) : Option Json :=
  match r.flush false with
  | some ⟨_, .nothing j, _⟩ => some j
  | _ => none

end Reader

/-- The parts of a text that count. -/
inductive Scope where
  | whole
  /-- All items of an array. -/
  | items (each : Scope)
  /-- Members of an object by name, or items of an array by position. -/
  | members (parts : List (String × Scope))

namespace Scope

/-- The scope of the value that is being read in an array or object. -/
def within? (s : Scope) (frame : Frame) : Option Scope :=
  match s, frame with
  | .items each, .array _ => some each
  | .members parts, .object _ key => (parts.find? (·.1 == key)).map (·.2)
  | .members parts, .array done => parts[done.length]?.map (·.2)
  | _, _ => some .whole

/-- Whether a reader is at a part that counts. The key of a member belongs to the whole object. -/
def covers (s : Scope) (r : Reader) : Bool :=
  let frames := match r.expected with
    | .value | .valueOrEnd => r.stack
    | _ => r.stack.drop 1
  (frames.foldr (fun frame s => s.bind (·.within? frame)) (some s)).isSome

end Scope

/-- Reads on with the next character. -/
def Reader.next (scope : Scope) (r : Reader) (c : Char) : Option Reader :=
  r.step (!scope.covers r) c

def readFrom (scope : Scope) (r : Reader) : List Char → Option Json
  | [] => r.result?
  | c :: rest => (r.next scope c).bind fun r' => readFrom scope r' rest

/-- A whole text as one value, in which a key may occur several times. -/
def readRaw? (scope : Scope) (s : String) : Option Json := readFrom scope .initial s.toList

/-- A whole text as one value. -/
def read? (s : String) : Option Json := (readRaw? .whole s).map settled

/-- How far a text goes: to a complete value, or to a fault, with the reader before it. -/
inductive Progress where
  | complete (j : Json)
  | stopped (r : Reader)

/-- Whether a number or word that is being read ends before this character. -/
def Reader.ends (r : Reader) (c : Char) : Bool :=
  match r.lexeme with
  | .number chars => !Reader.extendsNumber chars c
  | .word chars => !Reader.extendsWord chars c
  | _ => false

/-- Reads the value at the start of a text and ignores what follows it. -/
def readLeadingFrom (scope : Scope) (r : Reader) : List Char → Progress
  | [] => match r.result? with
    | some j => .complete j
    | none => .stopped r
  | c :: rest =>
    match r.expected with
    | .nothing j => .complete j
    | _ =>
      match (if r.ends c then r.result? else none) with
      | some j => .complete j
      | none =>
        match r.next scope c with
        | some r' => readLeadingFrom scope r' rest
        | none => .stopped r

def readLeading (scope : Scope) (s : String) : Progress := readLeadingFrom scope .initial s.toList

end CivicReport.Json
