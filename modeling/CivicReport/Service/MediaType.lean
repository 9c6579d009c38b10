import CivicReport.Text.Search

/-!
Media types, as the header of a message with a body gives them: a type and a subtype, and perhaps
parameters. Letter case does not matter.
-/
namespace CivicReport

structure MediaType where
  type : String
  subtype : String
  deriving Repr, DecidableEq

namespace MediaType

/-- The characters of names and plain values. -/
def isTokenChar (c : Char) : Bool := c.isAlphanum || "!#$%&+-.^_|~\x27\x60".toList.contains c

/-- The characters that may stand between quotes. -/
def isQuotable (c : Char) : Bool := 0x20 ≤ c.toNat && c.toNat < 0x7F

/-- The text after the end of a quoted value, where spaces may stand before a semicolon. -/
def afterQuoted : List Char → Option (List Char)
  | [] => some []
  | ';' :: rest => some rest
  | ' ' :: rest => afterQuoted rest
  | _ => none

/-- The text after a value: what the next semicolon or the end leaves. A quoted value has at least
one character, and the first may be a quote. -/
def afterValue (s : List Char) : Option (List Char) :=
  match s with
  | '"' :: first :: rest =>
    match rest.dropWhile fun c => c != '"' && isQuotable c with
    | '"' :: rest' => if isQuotable first then afterQuoted rest' else none
    | _ => none
  | s =>
    match s.dropWhile isTokenChar with
    | [] => some []
    | ';' :: rest => if s.head? = some ';' then none else some rest
    | _ => none

/-- Whether a text lists parameters, each a name and a value. -/
def areParameters (fuel : Nat) (s : List Char) : Bool :=
  match fuel with
  | 0 => s.isEmpty
  | fuel + 1 =>
    match s with
    | [] => true
    | ' ' :: rest => areParameters fuel rest
    | s =>
      match s.dropWhile isTokenChar with
      | '=' :: rest =>
        s.head? != some '=' && match afterValue rest with
          | some rest' => areParameters fuel rest'
          | none => false
      | _ => false

/-- Reads the value of a header. No space stands around the type or the subtype, only before
parameters. -/
def read? (header : String) : Option MediaType :=
  let s := header.toList
  let type := s.takeWhile isTokenChar
  match s.drop type.length with
  | '/' :: rest =>
    let subtype := rest.takeWhile isTokenChar
    let whole : MediaType :=
      ⟨(String.ofList type).toLower, (String.ofList subtype).toLower⟩
    if type.isEmpty then none
    else match rest.drop subtype.length with
      | [] => some whole
      | ';' :: parameters =>
        if !subtype.isEmpty && areParameters (parameters.length + 1) parameters then some whole
        else none
      | _ => none
  | _ => none

/-- The subtype before its last plus, and what stands behind it. A plus in the first place belongs
to the name. -/
def parts (m : MediaType) : List Char × List Char :=
  let s := m.subtype.toList
  let suffix := s.reverse.takeWhile (· != '+')
  if s.length ≤ suffix.length + 1 then (s, [])
  else (s.take (s.length - suffix.length - 1), suffix.reverse)

def isJson (m : MediaType) : Bool :=
  m.type == "application" &&
    let (name, suffix) := m.parts
    name == "json".toList || suffix == "json".toList

example : ((read? "Application/Problem+JSON; a=\"b;c\" ; d=e").map isJson) = some true := by
  decide +kernel
example : read? "application/json " = none ∧ read? "application/json a=b" = none := by
  decide
example : (read? "application/+json").map isJson = some false := by decide +kernel

end MediaType

end CivicReport
