/-!
Parts of a host whose letters are not ASCII, written with ASCII letters and digits: first the ASCII
ones, then for each other letter the distance to it, through all places and all letters in order.
A distance is written in digits to the base 36 with weights that follow the distances before it.
-/
namespace CivicReport.Address.Letters

structure Progress where
  /-- How many places and letters were passed since the last one that was written. -/
  distance : Nat := 0
  bias : Nat := 72
  /-- How many letters of the part are in place. -/
  placed : Nat
  isFirst : Bool := true
  written : List Char := []

def halved (distance bias : Nat) : Nat :=
  if 455 < distance then halved (distance / 35) (bias + 36)
  else bias + 36 * distance / (distance + 38)
termination_by distance
decreasing_by exact Nat.div_lt_self (by omega) (by omega)

/-- The bias after a distance. -/
def biasAfter (distance count : Nat) (isFirst : Bool) : Nat :=
  let d := if isFirst then distance / 700 else distance / 2
  let d := d + d / count
  halved d 0

def digit (n : Nat) : Char := Char.ofNat (if n < 26 then 'a'.toNat + n else '0'.toNat + n - 26)

/-- The digits of a distance, the lowest first; the last one is below its threshold. -/
def digits (bias distance position : Nat) : List Char :=
  let threshold := max 1 (min 26 (position - bias))
  if distance < threshold then [digit distance]
  else
    let excess := distance - threshold
    digit (threshold + excess % (36 - threshold)) ::
      digits bias (excess / (36 - threshold)) (position + 36)
termination_by distance
decreasing_by exact Nat.lt_of_le_of_lt (Nat.div_le_self ..) (by omega)

def place (p : Progress) : Progress where
  distance := 0
  bias := biasAfter p.distance (p.placed + 1) p.isFirst
  placed := p.placed + 1
  isFirst := false
  written := p.written ++ digits p.bias p.distance 36

/-- Goes through a part once and places one letter wherever it occurs. -/
def placeAll (letter : Nat) (part : List Char) (p : Progress) : Progress :=
  part.foldl (fun p c =>
    if c.toNat < letter then { p with distance := p.distance + 1 }
    else if c.toNat = letter then place p
    else p) p

/-- Places letters, given in order. `next` follows the last letter that was placed. -/
def placeEach (part : List Char) (next : Nat) (p : Progress) : List Nat → Progress
  | [] => p
  | letter :: letters =>
    let p := { p with distance := p.distance + (letter - next) * (p.placed + 1) }
    let p := placeAll letter part p
    placeEach part (letter + 1) { p with distance := p.distance + 1 } letters

def isPlain (c : Char) : Bool := c.toNat < 0x80

def encode (part : List Char) : List Char :=
  if part.all isPlain then part
  else
    let plain := part.filter isPlain
    let others := ((part.filter (!isPlain ·)).map Char.toNat).mergeSort
    let p := placeEach part 0x80 { placed := plain.length } others.eraseDups
    "xn--".toList ++ plain ++ (if plain.isEmpty then [] else ['-']) ++ p.written

end CivicReport.Address.Letters
