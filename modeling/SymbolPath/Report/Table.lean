import SymbolPath.Text.Blank
import SymbolPath.Text.Case
import SymbolPath.Value

/-!
Tables of text. Columns are padded to their widest cell and stand two spaces apart; blanks at the
end of a line are dropped. Empty cells show a hyphen, so that columns stay readable.
-/

namespace SymbolPath.Table

abbrev Row := List (Text × Value)

def widestCell : Int := 60

/-- Cuts a text to `limit` characters, the last three of them dots. Where `limit` leaves no room for
the dots, that many characters are dropped from the end instead. -/
def truncate (limit : Int) (t : Text) : Text :=
  if (t.length : Int) ≤ limit then t
  else
    let keep := limit - 3
    t.take (if keep < 0 then t.length - keep.natAbs else keep.natAbs) ++ "..."

def cell (row : Row) (column : Text) : Text :=
  let value := ((row.find? fun entry => entry.1 == column).map Prod.snd).getD .null
  truncate widestCell (if value.isBlank then ['-'] else value.display.getD [])

def widths : List (List Text) → List Nat
  | [] => []
  | [line] => line.map List.length
  | line :: rest => List.zipWith (fun cell width => max cell.length width) line (widths rest)

def renderLine (widths : List Nat) (line : List Text) : Text :=
  Text.trimEnd (Text.joinWith "  " (List.zipWith Text.padEnd widths line))

/-- The lines of a table before layout: the header in capitals, and a line for each row. -/
def cells (columns : List Text) (rows : List Row) : List (List Text) :=
  columns.map Text.upper :: rows.map fun row => columns.map (cell row)

def render (columns : List Text) (rows : List Row) : Text :=
  if rows.isEmpty then []
  else
    let all := cells columns rows
    Text.joinWith ['\n'] (all.map (renderLine (widths all)))

end SymbolPath.Table
