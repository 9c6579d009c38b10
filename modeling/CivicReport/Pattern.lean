import CivicReport.Text.Blank
import CivicReport.Text.Letter

/-!
Patterns over text. A repetition is always of one class of characters, so matching is recursion
on the pattern. Alternatives are tried in order and repetitions longest first, so that the first
way to match is the one taken.
-/
namespace CivicReport

/-- A place in a text: the character before it, the text after it, and its index. -/
structure Cursor where
  before : Option Char
  rest : List Char
  index : Nat
  deriving Repr, DecidableEq

namespace Cursor

def ofText (s : List Char) : Cursor := ⟨none, s, 0⟩

def next? (c : Cursor) : Option (Char × Cursor) :=
  match c.rest with
  | [] => none
  | x :: rest => some (x, ⟨some x, rest, c.index + 1⟩)

/-- One of the two neighbours is a word character and the other is not. -/
def atWordEdge (c : Cursor) : Bool :=
  c.before.any Text.isWordChar != c.rest.head?.any Text.isWordChar

end Cursor

inductive Pattern (Label : Type) where
  | empty
  | class (test : Char → Bool)
  | seq (first second : Pattern Label)
  | either (preferred other : Pattern Label)
  | maybe (p : Pattern Label)
  /-- At least `least` characters of a class, and at most `most` if there is such a bound. -/
  | run (test : Char → Bool) (least : Nat) (most : Option Nat)
  | group (label : Label) (p : Pattern Label)
  | start
  | finish
  | wordEdge

/-- The part of a text that a labelled group matched. -/
structure Capture (Label : Type) where
  label : Label
  start : Nat
  text : List Char
  deriving Repr, DecidableEq

structure PatternMatch (Label : Type) where
  start : Nat
  stop : Nat
  captures : List (Capture Label)
  deriving Repr, DecidableEq

namespace Pattern

variable {Label : Type}

/-- Tries `k` after the longest permitted run first, then after shorter ones. -/
def matchRun {β : Type} (test : Char → Bool) (least : Nat) (most : Option Nat)
    (before : Option Char) (index : Nat) (k : Cursor → Option β) : List Char → Option β
  | [] => if least = 0 then k ⟨before, [], index⟩ else none
  | x :: rest =>
    (if most != some 0 && test x then
      matchRun test (least - 1) (most.map (· - 1)) (some x) (index + 1) k rest
    else none).or
    (if least = 0 then k ⟨before, x :: rest, index⟩ else none)

/-- Matches at a place and goes on with `k`; captures are collected last one first. -/
def matchThen {β : Type} : Pattern Label → Cursor → List (Capture Label) →
    (Cursor → List (Capture Label) → Option β) → Option β
  | empty, c, caps, k => k c caps
  | .class test, c, caps, k =>
    match c.next? with
    | some (x, c') => if test x then k c' caps else none
    | none => none
  | seq p q, c, caps, k => p.matchThen c caps fun c' caps' => q.matchThen c' caps' k
  | either p q, c, caps, k => (p.matchThen c caps k).or (q.matchThen c caps k)
  | maybe p, c, caps, k => (p.matchThen c caps k).or (k c caps)
  | run test least most, c, caps, k =>
    matchRun test least most c.before c.index (fun c' => k c' caps) c.rest
  | group label p, c, caps, k =>
    p.matchThen c caps fun c' caps' =>
      k c' (⟨label, c.index, c.rest.take (c'.index - c.index)⟩ :: caps')
  | start, c, caps, k => if c.index = 0 then k c caps else none
  | finish, c, caps, k => if c.rest.isEmpty then k c caps else none
  | wordEdge, c, caps, k => if c.atWordEdge then k c caps else none

/-- The match of a pattern that begins at one place, if there is one. -/
def matchAt? (p : Pattern Label) (c : Cursor) : Option (PatternMatch Label) :=
  p.matchThen c [] fun c' caps => some ⟨c.index, c'.index, caps.reverse⟩

/-- The matches that begin at `free` or later, each after the end of the one before. -/
def matchesFrom (p : Pattern Label) (free : Nat) (before : Option Char) (index : Nat) :
    List Char → List (PatternMatch Label)
  | [] => if free ≤ index then (p.matchAt? ⟨before, [], index⟩).toList else []
  | x :: rest =>
    if index < free then matchesFrom p free (some x) (index + 1) rest
    else match p.matchAt? ⟨before, x :: rest, index⟩ with
      | some m => m :: matchesFrom p (max m.stop (index + 1)) (some x) (index + 1) rest
      | none => matchesFrom p free (some x) (index + 1) rest

/-- All matches in a text, leftmost first and never overlapping. -/
def allMatches (p : Pattern Label) (s : List Char) : List (PatternMatch Label) :=
  p.matchesFrom 0 none 0 s

/-- The leftmost match from a place on. -/
def findFrom? (p : Pattern Label) (before : Option Char) (index : Nat) :
    List Char → Option (PatternMatch Label)
  | [] => p.matchAt? ⟨before, [], index⟩
  | x :: rest =>
    (p.matchAt? ⟨before, x :: rest, index⟩).or (p.findFrom? (some x) (index + 1) rest)

def find? (p : Pattern Label) (s : List Char) : Option (PatternMatch Label) :=
  p.findFrom? none 0 s

def occurs (p : Pattern Label) (s : List Char) : Bool := (p.find? s).isSome

/-! Building blocks. -/

def chain : List (Pattern Label) → Pattern Label
  | [] => empty
  | [p] => p
  | p :: ps => seq p (chain ps)

/-- The alternatives in order of preference. Without any, nothing matches. -/
def oneOf : List (Pattern Label) → Pattern Label
  | [] => .class fun _ => false
  | [p] => p
  | p :: q :: ps => either p (oneOf (q :: ps))

def letters : List Char → Pattern Label
  | [] => empty
  | [x] => .class (· == x)
  | x :: xs => seq (.class (· == x)) (letters xs)

def text (s : String) : Pattern Label := letters s.toList

def anyText (words : List String) : Pattern Label := oneOf (words.map text)

def blanks : Pattern Label := run Text.isBlank 0 none

def someBlanks : Pattern Label := run Text.isBlank 1 none

def nonBlanks : Pattern Label := run (fun c => !Text.isBlank c) 0 none

def digits (least : Nat) (most : Option Nat) : Pattern Label := run Text.isDigit least most

/-- The start of the text or one white-space character. -/
def afterBlank : Pattern Label := either start (.class Text.isBlank)

/-- One white-space character or the end of the text. -/
def beforeBlank : Pattern Label := either (.class Text.isBlank) finish

/-- A text with word edges on both sides. -/
def word (s : String) : Pattern Label := chain [wordEdge, text s, wordEdge]

end Pattern

namespace PatternMatch

variable {Label : Type} [DecidableEq Label]

def capture? (m : PatternMatch Label) (label : Label) : Option (Capture Label) :=
  m.captures.find? (·.label == label)

end PatternMatch

end CivicReport
