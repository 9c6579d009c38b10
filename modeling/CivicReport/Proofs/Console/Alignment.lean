import CivicReport.Console
import CivicReport.Proofs.Query.Scan
import Mathlib

/-!
The lines of a printed table. A column is as wide as the widest of its texts, and each of them is
filled up to that width. Main statement: all lines of a table are equally long, and no cell is wider
than the widest that is printed.
-/
namespace CivicReport

theorem Text.length_joinWith (separator : String) (pieces : List String) :
    (joinWith separator pieces).length =
      (pieces.map String.length).sum + separator.length * (pieces.length - 1) := by
  induction pieces with
  | nil => rfl
  | cons first rest ih =>
    cases rest with
    | nil => simp [joinWith]
    | cons second rest =>
      rw [joinWith_cons_cons, String.length_append, String.length_append, ih]
      simp only [List.map_cons, List.sum_cons, List.length_cons, Nat.add_sub_cancel]
      rw [Nat.mul_succ]
      omega

namespace Table

theorem length_clip_le (text : String) : (clip text).length ≤ widest := by
  rw [clip]
  split
  · next hwide =>
    have hmarked : (String.ofList (text.toList.take (widest - 3)) ++ "...").length =
        min (widest - 3) text.length + 3 := by
      rw [String.length_append, String.length_ofList, List.length_take, String.length_toList]
      rfl
    rw [hmarked, widest]
    omega
  · next hwide => exact Nat.not_lt.1 hwide

/-- The greatest length among some texts. -/
def maxLength (texts : List String) : Nat := (texts.map String.length).foldr max 0

theorem length_le_maxLength {texts : List String} {text : String} (h : text ∈ texts) :
    text.length ≤ maxLength texts :=
  List.le_max_of_le' 0 (List.mem_map_of_mem h) (Nat.le_refl _)

theorem isGreatest_maxLength {texts : List String} (h : texts ≠ []) :
    IsGreatest {n | ∃ text ∈ texts, text.length = n} (maxLength texts) := by
  have hlengths : texts.map String.length ≠ [] := mt List.map_eq_nil_iff.1 h
  have hmaximum : (texts.map String.length).maximum = maxLength texts :=
    (List.foldr_max_of_ne_nil hlengths).symm
  refine ⟨List.mem_map.1 (List.maximum_mem hmaximum), ?_⟩
  rintro n ⟨text, hmem, rfl⟩
  exact length_le_maxLength hmem

section Columns

variable {α : Type} (columns : List α)

/-- The width of a column is the greatest length in it. -/
theorem widths_map (first : α → String) (rows : List (α → String)) :
    widths ((first :: rows).map columns.map) =
      columns.map fun c => maxLength ((first :: rows).map (· c)) := by
  induction rows generalizing first with
  | nil => simp [widths, maxLength, Function.comp_def]
  | cons second rows ih =>
    have hstep : widths ((first :: second :: rows).map columns.map) =
        List.zipWith max ((columns.map first).map String.length)
          (widths ((second :: rows).map columns.map)) := rfl
    rw [hstep, ih second, List.map_map, List.zipWith_map, List.zipWith_self]
    rfl

theorem line_map (width : α → Nat) (text : α → String) :
    line (columns.map width) (columns.map text) =
      Text.joinWith "  " (columns.map fun c => pad (width c) (text c)) := by
  rw [line, List.zipWith_map, List.zipWith_self]

/-- How long a line over some columns is: their widths, and a gap between each two. -/
def across (width : α → Nat) : Nat := (columns.map width).sum + 2 * (columns.length - 1)

theorem length_pad_of_le {width : Nat} {text : String} (h : text.length ≤ width) :
    (pad width text).length = width := by
  rw [length_pad, Nat.max_eq_right h]

theorem length_line_map {width : α → Nat} {text : α → String}
    (h : ∀ c ∈ columns, (text c).length ≤ width c) :
    (line (columns.map width) (columns.map text)).length = across columns width := by
  have hpieces : (columns.map fun c => pad (width c) (text c)).map String.length =
      columns.map width := by
    rw [List.map_map]
    exact List.map_congr_left fun c hc => length_pad_of_le (h c hc)
  rw [line_map, Text.length_joinWith, hpieces, List.length_map]
  rfl

/-- The line under the header is as long as the others, and has no gaps. -/
theorem rule_map (width : α → Nat) :
    rule (columns.map width) = String.ofList (List.replicate (across columns width) '-') := by
  induction columns with
  | nil => rfl
  | cons first rest ih =>
    cases rest with
    | nil => simp [rule, across, Text.joinWith]
    | cons second rest =>
      have hacross : across (first :: second :: rest) width =
          width first + (2 + across (second :: rest) width) := by
        simp only [across, List.map_cons, List.sum_cons, List.length_cons]
        omega
      have hstep : rule ((first :: second :: rest).map width) =
          String.ofList (List.replicate (width first) '-') ++ "--" ++
            rule ((second :: rest).map width) := rfl
      rw [hstep, ih, hacross, ← List.replicate_append_replicate, ← List.replicate_append_replicate,
        String.ofList_append, String.ofList_append, String.append_assoc]
      rfl

end Columns

end Table

namespace Printout

/-- The texts that stand in a column of a report: its label and its cells. -/
def columnTexts (r : Report) (c : Column) : List String :=
  c.label :: r.rows.map fun row => cell row c

def columnWidth (r : Report) (c : Column) : Nat := Table.maxLength (columnTexts r c)

variable {r : Report}

theorem length_label_le (r : Report) (c : Column) : c.label.length ≤ columnWidth r c :=
  Table.length_le_maxLength List.mem_cons_self

theorem length_cell_le {row : Row} (h : row ∈ r.rows) (c : Column) :
    (cell row c).length ≤ columnWidth r c :=
  Table.length_le_maxLength (List.mem_cons_of_mem _ (List.mem_map_of_mem h))

theorem widths_report (r : Report) :
    Table.widths (r.columns.map (·.label) :: r.rows.map fun row => r.columns.map (cell row)) =
      r.columns.map (columnWidth r) := by
  have hrows : r.columns.map (·.label) :: (r.rows.map fun row => r.columns.map (cell row)) =
      ((·.label) :: r.rows.map cell).map r.columns.map := by
    rw [List.map_cons, List.map_map]
    rfl
  rw [hrows, Table.widths_map]
  refine List.map_congr_left fun c _ => ?_
  rw [columnWidth, columnTexts, List.map_cons, List.map_map]
  rfl

/-- A report with columns is printed as a table between its message and its footer. The header, the
rule and the rows are equally long, and each column is as wide as the widest text in it. -/
theorem reportLines_aligned (h : r.columns ≠ []) :
    let widths := r.columns.map (columnWidth r)
    let across := widths.sum + 2 * (r.columns.length - 1)
    let header := Table.line widths (r.columns.map (·.label))
    let rule := String.ofList (List.replicate across '-')
    let rows := r.rows.map fun row => Table.line widths (r.columns.map (cell row))
    reportLines r = [r.message, ""] ++ header :: rule :: rows ++ ["", footer r] ∧
      (∀ line ∈ header :: rule :: rows, line.length = across) ∧
      (∀ c ∈ r.columns, IsGreatest {n | ∃ text ∈ columnTexts r c, text.length = n}
        (columnWidth r c)) ∧
      ∀ row ∈ r.rows, ∀ c ∈ r.columns, (cell row c).length ≤ Table.widest := by
  intro widths across header rule rows
  refine ⟨?_, ?_, ?_, ?_⟩
  · have htable : Table.lines (r.columns.map (·.label))
        (r.rows.map fun row => r.columns.map (cell row)) = header :: rule :: rows := by
      rw [Table.lines, widths_report, Table.rule_map, List.map_map]
      rfl
    rw [reportLines, if_neg (by simpa using h), htable]
  · have hheader : header.length = across :=
      Table.length_line_map r.columns fun c _ => length_label_le r c
    have hrule : rule.length = across := by simp [rule]
    have hrows : ∀ line ∈ rows, line.length = across := by
      intro line hline
      obtain ⟨row, hrow, rfl⟩ := List.mem_map.1 hline
      exact Table.length_line_map r.columns fun c _ => length_cell_le hrow c
    exact List.forall_mem_cons.2 ⟨hheader, List.forall_mem_cons.2 ⟨hrule, hrows⟩⟩
  · exact fun c _ => Table.isGreatest_maxLength (List.cons_ne_nil _ _)
  · exact fun row _ c _ => Table.length_clip_le _

/-- Two columns, one of which holds a cell that is clipped and lacks another. -/
def ledger : Report where
  columns := [⟨"supplier", "ספק", .text⟩, ⟨"amount", "סכום", .currency⟩]
  rows :=
    [[("supplier", .text "Municipal Water and Sewage Works of the Eastern Coast")],
     [("supplier", .null), ("amount", .number (.whole 1234567))]]
  totalRows := 2
  message := "נמצאו 2 תוצאות"
  executedAt := ⟨⟨2024, 5, 20⟩, 0, 0⟩
  source := .rules
  confidence := 0.7
  domain := "transactions"
  action := .list

theorem reportLines_aligned_ledger :
    ledger.columns ≠ [] ∧ ledger.columns.map (columnWidth ledger) = [40, 9] ∧
      ((reportLines ledger).drop 2).length = 6 ∧
      ∀ line ∈ ((reportLines ledger).drop 2).take 4, line.length = 51 := by
  have hcolumns : ledger.columns ≠ [] := List.cons_ne_nil _ _
  have hwidths : ledger.columns.map (columnWidth ledger) = [40, 9] := by decide +kernel
  obtain ⟨hlines, hlengths, -⟩ := reportLines_aligned hcolumns
  rw [hwidths] at hlines hlengths
  rw [hlines]
  exact ⟨hcolumns, hwidths, rfl, hlengths⟩

end Printout

end CivicReport
