import CivicReport.Text.Search

/-!
Offsets into a text, counted in bytes of its UTF-8 encoding. Most of them fall inside a character,
where a text cannot be cut. Main statements: the first and the last occurrence of a character are at
the lengths of what stands before them, and a text is cut there.
-/
namespace CivicReport.Text

/-- The offset of the first occurrence of a character. -/
def firstOffset? (mark : Char) : List Char → Option Nat
  | [] => none
  | c :: rest => if c = mark then some 0 else (firstOffset? mark rest).map (c.utf8Size + ·)

/-- The offset of the last occurrence of a character. -/
def lastOffset? (mark : Char) : List Char → Option Nat
  | [] => none
  | c :: rest =>
    match lastOffset? mark rest with
    | some n => some (c.utf8Size + n)
    | none => if c = mark then some 0 else none

/-- What follows an offset. There is nothing to follow one that lies inside a character or beyond
the end. -/
def fromOffset? (n : Nat) : List Char → Option (List Char)
  | [] => if n = 0 then some [] else none
  | c :: rest =>
    if n = 0 then some (c :: rest)
    else if n < c.utf8Size then none
    else fromOffset? (n - c.utf8Size) rest

/-- What stands before an offset, under the same condition. -/
def untilOffset? (n : Nat) : List Char → Option (List Char)
  | [] => if n = 0 then some [] else none
  | c :: rest =>
    if n = 0 then some []
    else if n < c.utf8Size then none
    else (untilOffset? (n - c.utf8Size) rest).map (c :: ·)

/-- The part of a text between two offsets. -/
def slice? (start stop : Nat) (s : List Char) : Option (List Char) :=
  if start ≤ stop then (fromOffset? start s).bind (untilOffset? (stop - start)) else none

example : slice? 2 5 "אbאc".toList = some "bא".toList ∧ slice? 1 5 "אbאc".toList = none := by decide

variable {mark : Char} {s before after : List Char}

theorem utf8Length_cons (c : Char) (s : List Char) :
    utf8Length (c :: s) = c.utf8Size + utf8Length s := by
  have hstart (n : Nat) (s : List Char) :
      s.foldl (fun n c => n + c.utf8Size) n = n + utf8Length s := by
    induction s generalizing n with
    | nil => rfl
    | cons c rest ih =>
      rw [utf8Length, List.foldl_cons, List.foldl_cons, ih, ih]
      omega
  rw [utf8Length, List.foldl_cons, hstart, Nat.zero_add]

theorem utf8Length_append (s t : List Char) :
    utf8Length (s ++ t) = utf8Length s + utf8Length t := by
  induction s with
  | nil => exact (Nat.zero_add _).symm
  | cons c rest ih => rw [List.cons_append, utf8Length_cons, utf8Length_cons, ih, Nat.add_assoc]

/-! Occurrences. -/

theorem firstOffset?_of_notMem (h : mark ∉ s) : firstOffset? mark s = none := by
  induction s with
  | nil => rfl
  | cons c rest ih =>
    obtain ⟨hc, hrest⟩ := not_or.1 (mt List.mem_cons.2 h)
    rw [firstOffset?, if_neg (Ne.symm hc), ih hrest, Option.map_none]

theorem firstOffset?_append (h : mark ∉ before) (after : List Char) :
    firstOffset? mark (before ++ mark :: after) = some (utf8Length before) := by
  induction before with
  | nil => exact if_pos rfl
  | cons c rest ih =>
    obtain ⟨hc, hrest⟩ := not_or.1 (mt List.mem_cons.2 h)
    rw [List.cons_append, firstOffset?, if_neg (Ne.symm hc), ih hrest, Option.map_some,
      utf8Length_cons]

theorem lastOffset?_of_notMem (h : mark ∉ s) : lastOffset? mark s = none := by
  induction s with
  | nil => rfl
  | cons c rest ih =>
    obtain ⟨hc, hrest⟩ := not_or.1 (mt List.mem_cons.2 h)
    simp only [lastOffset?, ih hrest, if_neg (Ne.symm hc)]

theorem lastOffset?_lt {n : Nat} (h : lastOffset? mark s = some n) : n < utf8Length s := by
  induction s generalizing n with
  | nil => contradiction
  | cons c rest ih =>
    have hc : 0 < c.utf8Size := c.utf8Size_pos
    rw [utf8Length_cons]
    rw [lastOffset?] at h
    split at h
    · next m hm =>
      obtain rfl := Option.some.inj h
      exact Nat.add_lt_add_left (ih hm) _
    · obtain ⟨-, hzero⟩ := Option.ite_none_right_eq_some.1 h
      obtain rfl := Option.some.inj hzero
      omega

/-- What is behind the last occurrence does not move it. -/
theorem lastOffset?_append_of_notMem (h : mark ∉ after) (before : List Char) :
    lastOffset? mark (before ++ after) = lastOffset? mark before := by
  induction before with
  | nil => exact lastOffset?_of_notMem h
  | cons c rest ih => rw [List.cons_append, lastOffset?, lastOffset?, ih]

theorem lastOffset?_append (h : mark ∉ after) (before : List Char) :
    lastOffset? mark (before ++ mark :: after) = some (utf8Length before) := by
  induction before with
  | nil => simp [lastOffset?, lastOffset?_of_notMem h, utf8Length]
  | cons c rest ih => rw [List.cons_append, lastOffset?, ih, utf8Length_cons]

/-! Cuts. -/

theorem fromOffset?_append (before after : List Char) :
    fromOffset? (utf8Length before) (before ++ after) = some after := by
  induction before with
  | nil => cases after <;> rfl
  | cons c rest ih =>
    have hc : 0 < c.utf8Size := c.utf8Size_pos
    rw [List.cons_append, fromOffset?, utf8Length_cons, if_neg (by omega), if_neg (by omega),
      Nat.add_sub_cancel_left, ih]

theorem untilOffset?_append (before after : List Char) :
    untilOffset? (utf8Length before) (before ++ after) = some before := by
  induction before with
  | nil => cases after <;> rfl
  | cons c rest ih =>
    have hc : 0 < c.utf8Size := c.utf8Size_pos
    rw [List.cons_append, untilOffset?, utf8Length_cons, if_neg (by omega), if_neg (by omega),
      Nat.add_sub_cancel_left, ih, Option.map_some]

theorem slice?_append (before middle after : List Char) :
    slice? (utf8Length before) (utf8Length (before ++ middle)) (before ++ (middle ++ after)) =
      some middle := by
  rw [slice?, utf8Length_append, if_pos (Nat.le_add_right _ _), fromOffset?_append,
    Option.bind_some, Nat.add_sub_cancel_left, untilOffset?_append]

end CivicReport.Text
