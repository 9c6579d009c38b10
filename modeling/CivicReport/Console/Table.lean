import CivicReport.Text.Search

/-!
Tables of text with columns of equal width. A cell is filled up with spaces at its right end, and
widths are counts of characters. Main statement: a filled cell is as wide as its column.
-/
namespace CivicReport.Table

def widest : Nat := 40

/-- Shortens a cell that is too wide, and marks its end by dots. -/
def clip (cell : String) : String :=
  if widest < cell.length then String.ofList (cell.toList.take (widest - 3)) ++ "..." else cell

def pad (width : Nat) (cell : String) : String :=
  cell ++ String.ofList (List.replicate (width - cell.length) ' ')

theorem length_pad (width : Nat) (cell : String) :
    (pad width cell).length = max cell.length width := by
  simp only [pad, String.length_append, String.length_ofList, List.length_replicate]
  omega

/-- The width of the widest cell of each column; all rows have as many cells. -/
def widths : List (List String) → List Nat
  | [] => []
  | [row] => row.map String.length
  | row :: rest => List.zipWith max (row.map String.length) (widths rest)

def line (widths : List Nat) (row : List String) : String :=
  Text.joinWith "  " (List.zipWith pad widths row)

/-- The line under the header, as long as the lines of the table. -/
def rule (widths : List Nat) : String :=
  Text.joinWith "--" (widths.map fun w => String.ofList (List.replicate w '-'))

def lines (header : List String) (rows : List (List String)) : List String :=
  let w := widths (header :: rows)
  line w header :: rule w :: rows.map (line w)

example : lines ["a", "bcd"] [["xy", ""], ["", "z"]] =
    ["a   bcd", "-------", "xy     ", "    z  "] := by decide

end CivicReport.Table
