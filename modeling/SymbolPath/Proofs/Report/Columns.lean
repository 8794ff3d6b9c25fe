import Mathlib.Algebra.Ring.Nat
import Mathlib.Data.List.Forall2
import SymbolPath.Proofs.Text.Trimming
import SymbolPath.Report.Table

/-!
Tables are read by column. A table has a line for its header and one for each row, and a column of
it stands at one place in all lines, as wide as its widest cell. What is cut out there is the cell,
but for blanks at its end.
-/

namespace SymbolPath

namespace Text

theorem joinWith_cons_cons (between part next : Text) (parts : List Text) :
    joinWith between (part :: next :: parts) =
      part ++ between ++ joinWith between (next :: parts) := rfl

theorem mem_joinWith {between : Text} {parts : List Text} {c : Char}
    (member : c ∈ joinWith between parts) : c ∈ between ∨ ∃ part ∈ parts, c ∈ part := by
  induction parts with
  | nil => cases member
  | cons part rest ih =>
      cases rest with
      | nil => exact .inr ⟨part, List.mem_cons_self, member⟩
      | cons next rest =>
          rw [joinWith_cons_cons, List.mem_append, List.mem_append] at member
          rcases member with (inPart | inBetween) | later
          · exact .inr ⟨part, List.mem_cons_self, inPart⟩
          · exact .inl inBetween
          · rcases ih later with inBetween | ⟨other, isPart, inPart⟩
            · exact .inl inBetween
            · exact .inr ⟨other, List.mem_cons_of_mem part isPart, inPart⟩

theorem exists_joinWith_cons (between part : Text) (parts : List Text) :
    ∃ behind, joinWith between (part :: parts) = part ++ behind := by
  cases parts with
  | nil => exact ⟨[], (List.append_nil part).symm⟩
  | cons next parts => exact ⟨_, List.append_assoc _ _ _⟩

theorem length_padEnd {width : Nat} {t : Text} (fits : t.length ≤ width) :
    (padEnd width t).length = width := by
  rw [padEnd, List.length_append, List.length_replicate]
  omega

theorem trimEnd_padEnd (width : Nat) (t : Text) : trimEnd (padEnd width t) = trimEnd t := by
  apply trimEnd_append
  intro c member
  rw [List.eq_of_mem_replicate member]
  rfl

end Text

namespace Table

open Text

def columnWidth (lines : List (List Text)) (i : Nat) : Nat :=
  (lines.map fun texts => (texts[i]?.getD []).length).foldr max 0

/-- Where a column stands: behind those before it, each with two spaces after it. -/
def columnStart (lines : List (List Text)) (i : Nat) : Nat :=
  ((List.range i).map fun j => columnWidth lines j + 2).sum

def columnOf (lines : List (List Text)) (i : Nat) (t : Text) : Text :=
  (t.drop (columnStart lines i)).take (columnWidth lines i)

theorem columnWidth_cons (texts : List Text) (rest : List (List Text)) (i : Nat) :
    columnWidth (texts :: rest) i = max (texts[i]?.getD []).length (columnWidth rest i) := rfl

theorem le_columnWidth {lines : List (List Text)} {texts : List Text} (isLine : texts ∈ lines)
    (i : Nat) : (texts[i]?.getD []).length ≤ columnWidth lines i := by
  induction lines with
  | nil => cases isLine
  | cons first rest ih =>
      rw [columnWidth_cons]
      rcases List.mem_cons.mp isLine with rfl | later
      · exact Nat.le_max_left _ _
      · exact Nat.le_trans (ih later) (Nat.le_max_right _ _)

theorem widths_eq {n : Nat} {lines : List (List Text)} (nonempty : lines ≠ [])
    (even : ∀ line ∈ lines, line.length = n) :
    widths lines = (List.range n).map (columnWidth lines) := by
  fun_induction widths lines with
  | case1 => exact absurd rfl nonempty
  | case2 line =>
      obtain rfl := even line List.mem_cons_self
      apply List.ext_getElem
      · simp
      · intro i inLine inRange
        simp only [List.length_map] at inLine
        simp [columnWidth, inLine]
  | case3 line rest more ih =>
      obtain rfl := even line List.mem_cons_self
      rw [ih more fun other isLine => even other (List.mem_cons_of_mem line isLine)]
      apply List.ext_getElem
      · simp
      · intro i inLine inRange
        simp only [List.length_zipWith, List.length_map, List.length_range, Nat.min_self] at inLine
        simp [columnWidth_cons, inLine]

theorem slice_padded {ws : List Nat} {texts : List Text}
    (fits : List.Forall₂ (fun w t => t.length ≤ w) ws texts) {i w : Nat} {t : Text}
    (hasWidth : ws[i]? = some w) (hasText : texts[i]? = some t) :
    ((joinWith "  " (List.zipWith padEnd ws texts)).drop ((ws.take i).map (· + 2)).sum).take w =
      padEnd w t := by
  -- on the columns: what comes after the first begins behind its two spaces
  induction fits generalizing i with
  | nil => cases hasWidth
  | @cons first text ws texts fit fits ih =>
      have long : (padEnd first text).length = first := length_padEnd fit
      cases i with
      | zero =>
          obtain rfl : first = w := Option.some.inj hasWidth
          obtain rfl : text = t := Option.some.inj hasText
          obtain ⟨behind, starts⟩ :=
            exists_joinWith_cons "  " (padEnd first text) (List.zipWith padEnd ws texts)
          rw [List.zipWith_cons_cons, starts]
          exact List.take_left' long
      | succ i =>
          have later := ih hasWidth hasText
          cases fits with
          | nil => cases hasText
          | cons nextFit nextFits =>
              have between : (padEnd first text ++ ("  " : Text)).length = first + 2 := by
                rw [List.length_append, long]
                rfl
              rw [List.zipWith_cons_cons, List.zipWith_cons_cons, joinWith_cons_cons,
                List.take_succ_cons, List.map_cons, List.sum_cons, ← List.drop_drop,
                List.drop_left' between]
              exact later

theorem not_mem_renderLine {line : List Text} {c : Char} (visible : c ≠ ' ')
    (absent : ∀ t ∈ line, c ∉ t) (ws : List Nat) : c ∉ renderLine ws line := by
  intro member
  rcases mem_joinWith (mem_of_mem_trimEnd member) with inBetween | ⟨part, isPart, inPart⟩
  · simp [visible] at inBetween
  · rw [← List.map_uncurry_zip_eq_zipWith] at isPart
    obtain ⟨⟨w, t⟩, isPair, rfl⟩ := List.mem_map.mp isPart
    have isText := (List.of_mem_zip isPair).2
    rcases List.mem_append.mp inPart with inText | inPadding
    · exact absent t isText inText
    · exact visible (List.eq_of_mem_replicate inPadding)

section Lines

variable {n : Nat} {lines : List (List Text)}

theorem columnStart_eq {i : Nat} (inside : i ≤ n) :
    columnStart lines i =
      ((((List.range n).map (columnWidth lines)).take i).map (· + 2)).sum := by
  rw [← List.map_take, List.take_range, Nat.min_eq_left inside, List.map_map]
  rfl

theorem fits_columns (even : ∀ line ∈ lines, line.length = n) {line : List Text}
    (isLine : line ∈ lines) :
    List.Forall₂ (fun w t => t.length ≤ w) ((List.range n).map (columnWidth lines)) line := by
  rw [List.forall₂_iff_get]
  refine ⟨by simp [even line isLine], ?_⟩
  intro i inRange inLine
  have fits := le_columnWidth isLine i
  simpa [inLine] using fits

theorem trimEnd_columnOf (even : ∀ line ∈ lines, line.length = n) {texts : List Text}
    (isLine : texts ∈ lines) {i : Nat} {t : Text} (hasText : texts[i]? = some t) :
    trimEnd (columnOf lines i (renderLine (widths lines) texts)) = trimEnd t := by
  have inside : i < n := by
    rw [← even texts isLine]
    exact (List.getElem?_eq_some_iff.mp hasText).1
  have hasWidth : ((List.range n).map (columnWidth lines))[i]? = some (columnWidth lines i) := by
    simp [inside]
  -- neither the trimming of the line nor the padding of the text shows once the slice is trimmed
  rw [columnOf, renderLine, trimEnd_slice, widths_eq (List.ne_nil_of_mem isLine) even,
    columnStart_eq (Nat.le_of_lt inside), slice_padded (fits_columns even isLine) hasWidth hasText,
    trimEnd_padEnd]

end Lines

theorem length_of_mem_cells {columns : List Text} {rows : List Row} {line : List Text}
    (isLine : line ∈ cells columns rows) : line.length = columns.length := by
  rcases List.mem_cons.mp isLine with rfl | isRow
  · exact List.length_map _
  · obtain ⟨row, _, rfl⟩ := List.mem_map.mp isRow
    exact List.length_map _

theorem lines_render {columns : List Text} {rows : List Row} (filled : rows ≠ [])
    (oneLine : ∀ line ∈ cells columns rows, ∀ t ∈ line, '\n' ∉ t) :
    splitOn '\n' (render columns rows) =
      (cells columns rows).map (renderLine (widths (cells columns rows))) := by
  have listed : rows.isEmpty = false := by simp [filled]
  rw [render, listed, if_neg Bool.false_ne_true]
  apply splitOn_joinWith (by simp [cells])
  intro part isPart
  obtain ⟨line, isLine, rfl⟩ := List.mem_map.mp isPart
  exact not_mem_renderLine (by decide) (oneLine line isLine) _

/-! What a cell shows. -/

def valueAt (row : Row) (column : Text) : Option Value :=
  (row.find? fun entry => entry.1 == column).map Prod.snd

inductive Shows (row : Row) (column : Text) : Text → Prop where
  | missing (absent : valueAt row column = none) : Shows row column ['-']
  | blank {value : Value} (has : valueAt row column = some value) (blank : value.isBlank = true) :
      Shows row column ['-']
  | whole {value : Value} {t : Text} (has : valueAt row column = some value)
      (filled : value.isBlank = false) (written : value.display = some t) (short : t.length ≤ 60) :
      Shows row column t
  | cut {value : Value} {t : Text} (has : valueAt row column = some value)
      (filled : value.isBlank = false) (written : value.display = some t) (long : 60 < t.length) :
      Shows row column (t.take 57 ++ "...")

theorem truncate_widest (t : Text) :
    truncate widestCell t = if t.length ≤ 60 then t else t.take 57 ++ "..." := by
  have fits : (t.length : Int) ≤ widestCell ↔ t.length ≤ 60 := Int.ofNat_le
  unfold truncate
  by_cases short : t.length ≤ 60
  · rw [if_pos short, if_pos (fits.mpr short)]
  · rw [if_neg short, if_neg (mt fits.mp short)]
    rfl

theorem length_truncate_le (t : Text) : (truncate widestCell t).length ≤ 60 := by
  rw [truncate_widest]
  split
  · assumption
  · have dots : ("..." : Text).length = 3 := rfl
    rw [List.length_append, List.length_take, dots]
    omega

theorem cell_eq (row : Row) (column : Text) :
    cell row column =
      let value := (valueAt row column).getD .null
      truncate widestCell (if value.isBlank then ['-'] else value.display.getD []) := rfl

theorem cell_of_shows {row : Row} {column t : Text} (shows : Shows row column t) :
    cell row column = t := by
  rw [cell_eq]
  cases shows with
  | missing absent =>
      rw [absent]
      rfl
  | blank has blank =>
      simp only [has, Option.getD_some, blank, if_true]
      rfl
  | whole has filled written short =>
      simp [has, filled, written, truncate_widest, short]
  | cut has filled written long =>
      simp [has, filled, written, truncate_widest, Nat.not_le.mpr long]

/-- What is cut out of a line at the place of a column is the cell of its row, blanks at its end
apart, and the first line has the headers. -/
theorem columns_read_back (columns : List Text) (rows : List Row) (filled : rows ≠ [])
    (oneLine : ∀ line ∈ cells columns rows, ∀ t ∈ line, '\n' ∉ t) :
    let lines := splitOn '\n' (render columns rows)
    lines.length = rows.length + 1 ∧
      ∀ i column, columns[i]? = some column →
        (∀ line, lines[0]? = some line →
          trimEnd (columnOf (cells columns rows) i line) = trimEnd (upper column)) ∧
        ∀ k row line, rows[k]? = some row → lines[k + 1]? = some line →
          trimEnd (columnOf (cells columns rows) i line) = trimEnd (cell row column) ∧
            (cell row column).length ≤ 60 ∧ ∀ t, Shows row column t → cell row column = t := by
  intro lines
  have split : lines = _ := lines_render filled oneLine
  have even : ∀ line ∈ cells columns rows, line.length = columns.length :=
    fun _ => length_of_mem_cells
  refine ⟨by simp [split, cells], ?_⟩
  intro i column isColumn
  constructor
  · intro line isLine
    have header : columns.map upper ∈ cells columns rows := List.mem_cons_self
    obtain rfl : renderLine _ (columns.map upper) = line := by simpa [split, cells] using isLine
    exact trimEnd_columnOf even header (by simp [isColumn])
  · intro k row line isRow isLine
    have listed : columns.map (cell row) ∈ cells columns rows :=
      List.mem_cons_of_mem _ (List.mem_map_of_mem (List.mem_of_getElem? isRow))
    obtain rfl : renderLine _ (columns.map (cell row)) = line := by
      simpa [split, cells, isRow] using isLine
    exact ⟨trimEnd_columnOf even listed (by simp [isColumn]), length_truncate_le _,
      fun _ => cell_of_shows⟩

/-- The name that the first row lacks reads back as a hyphen. -/
theorem columns_read_back_small :
    let columns : List Text := ["id", "name"]
    let rows : List Row := [[("id", .text "7")], [("id", .text "12"), ("name", .text "a b ")]]
    rows ≠ [] ∧ (∀ line ∈ cells columns rows, ∀ t ∈ line, '\n' ∉ t) ∧
      splitOn '\n' (render columns rows) = ["ID  NAME", "7   -", "12  a b"] ∧
      trimEnd (columnOf (cells columns rows) 1 "7   -") = ['-'] := by
  intro columns rows
  have filled : rows ≠ [] := by decide
  have oneLine : ∀ line ∈ cells columns rows, ∀ t ∈ line, '\n' ∉ t := by decide
  have lines : splitOn '\n' (render columns rows) = ["ID  NAME", "7   -", "12  a b"] := by decide
  obtain ⟨_, reads⟩ := columns_read_back columns rows filled oneLine
  obtain ⟨back, _, shown⟩ :=
    (reads 1 "name" rfl).2 0 [("id", .text "7")] "7   -" rfl (by rw [lines]; rfl)
  have hyphen := shown ['-'] (.missing (by decide))
  rw [hyphen] at back
  exact ⟨filled, oneLine, lines, back⟩

end Table
end SymbolPath
