import CivicReport.Address.Host

/-!
Addresses on a network, in the one form in which requests name them: scheme and host in lower case,
no port that is the usual one, no steps to a parent in the path, and nothing that has no place in
an address. A name and a password in front of the host are left out.
-/
namespace CivicReport

structure Address where
  scheme : String
  /-- The host, and its port if it is not the usual one. -/
  server : Option (List Char)
  /-- The path, and what is asked of it. -/
  place : List Char
  deriving Repr, DecidableEq

namespace Address

/-! Servers. -/

/-- A port with its colon, or nothing for the usual port. -/
def port? (usual : Option Nat) : List Char → Option (List Char)
  | [] => some []
  | ':' :: digits =>
    if digits.isEmpty then some []
    else (readNat? digits).bind fun n =>
      if 65535 < n then none
      else if usual = some n then some []
      else some (':' :: Nat.toDigits 10 n)
  | _ => none

/-- The length of a host, which goes up to a colon that is not in brackets. -/
def hostLength (inBrackets : Bool) : List Char → Nat
  | [] => 0
  | c :: rest =>
    if c = ':' ∧ !inBrackets then 0
    else hostLength (c == '[' || (inBrackets && c != ']')) rest + 1

/-- A host and a port, behind a name and a password. -/
def server? (host? : List Char → Option (List Char)) (usual : Option Nat) (s : List Char) :
    Option (List Char) := do
  let s := (s.reverse.takeWhile (· != '@')).reverse
  let n := hostLength false s
  pure ((← host? (s.take n)) ++ (← port? usual (s.drop n)))

/-! Paths. -/

/-- A segment in which points are not written as percent signs. -/
def plainSegment (segment : List Char) : String :=
  String.ofList (Text.replaceAll "%2e".toList ['.'] (segment.map Char.toLower))

/-- The segments of a path, without those that stay where they are or step to the parent. At the
end of a path such a segment leaves an empty one. -/
def resolved (done : List (List Char)) : List (List Char) → List (List Char)
  | [] => done.reverse
  | segment :: rest =>
    let left (done : List (List Char)) := if rest.isEmpty then [] :: done else done
    match plainSegment segment with
    | ".." => resolved (left (done.drop 1)) rest
    | "." => resolved (left done) rest
    | _ => resolved (escape escapedInPath segment :: done) rest

/-- The path whose text behind the first slash is given. -/
def path (s : List Char) : List Char := (resolved [] (Text.splitAt '/' s)).flatMap ('/' :: ·)

/-- What stands behind a path: a query and a fragment. -/
def behindPath (escapedInQuery : Char → Bool) (s : List Char) : List Char :=
  let query := match s.takeWhile (· != '#') with
    | [] => []
    | mark :: query => mark :: escape escapedInQuery query
  let fragment := match s.dropWhile (· != '#') with
    | [] => []
    | mark :: fragment => mark :: escape escapedInFragment fragment
  query ++ fragment

/-! Addresses. -/

/-- The schemes of the web, with their usual ports. -/
def usualPorts : List (String × Nat) :=
  [("http", 80), ("https", 443), ("ws", 80), ("wss", 443), ("ftp", 21)]

def endsPath (c : Char) : Bool := c == '?' || c == '#'

/-- An address of the web, behind its scheme. It always has a host, and a backslash is a slash. -/
def readWeb? (scheme : String) (usual : Nat) (s : List Char) : Option Address := do
  let isSlash (c : Char) := c == '/' || c == '\\'
  let inServer (c : Char) := !isSlash c && !endsPath c
  let s := s.dropWhile isSlash
  let rest := s.dropWhile inServer
  let steps := (rest.takeWhile (!endsPath ·)).map fun c => if isSlash c then '/' else c
  pure {
    scheme
    server := some (← server? webHost? (some usual) (s.takeWhile inServer))
    place := path (steps.drop 1) ++
      behindPath (fun c => escapedInQuery c || c == '\x27') (rest.dropWhile (!endsPath ·)) }

/-- Any other address, behind its scheme. A path that does not begin with a slash is opaque. -/
def readOther? (scheme : String) (s : List Char) : Option Address := do
  let inServer (c : Char) := c != '/' && !endsPath c
  let (server, rest) ← match s with
    | '/' :: '/' :: s =>
      (server? plainHost? none (s.takeWhile inServer)).map fun host =>
        (some host, s.dropWhile inServer)
    | s => some (none, s)
  let steps := match rest.takeWhile (!endsPath ·) with
    | '/' :: steps => path steps
    | steps => escape isOutside steps
  pure { scheme, server, place := steps ++ behindPath escapedInQuery (rest.dropWhile (!endsPath ·)) }

/-- Reads an address. Space around it does not count, nor do tabs and line ends inside it. -/
def read? (s : String) : Option Address :=
  let s := (Text.strip (·.toNat ≤ 0x20) s.toList).filter (!"\t\n\r".toList.contains ·)
  let inScheme (c : Char) := c.isAlphanum || "+-.".toList.contains c
  match s.head?.any Char.isAlpha, s.dropWhile inScheme with
  | true, ':' :: rest =>
    let scheme := String.ofList ((s.takeWhile inScheme).map Char.toLower)
    match usualPorts.find? (·.1 == scheme) with
    | some (_, usual) => readWeb? scheme usual rest
    | none => readOther? scheme rest
  | _, _ => none

def write (a : Address) : String :=
  a.scheme ++ ":" ++ String.ofList (a.server.elim [] ("//".toList ++ ·) ++ a.place)

/-- Whether requests can be sent to it. -/
def takesRequests (a : Address) : Bool := a.scheme == "http" || a.scheme == "https"

end Address

end CivicReport
