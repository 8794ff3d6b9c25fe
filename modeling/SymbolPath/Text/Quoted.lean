import SymbolPath.Text.Hex
import SymbolPath.Text.Points
import SymbolPath.Text.Printable

/-!
A text as messages show it: between quotes, with escapes for what has no visible form. Single
quotes are used unless the text holds a single quote and no double quote.
-/

namespace SymbolPath.Text

/-- The escape that names a code point by its number, in the shortest of the three widths. -/
def pointEscape (n : Nat) : Text :=
  if n ≤ 0xFF then '\\' :: 'x' :: hex 2 n
  else if n ≤ 0xFFFF then '\\' :: 'u' :: hex 4 n
  else '\\' :: 'U' :: hex 8 n

def numericEscape (c : Char) : Text :=
  pointEscape c.toNat

def quotedChar (quote c : Char) : Text :=
  if c == quote || c == '\\' then ['\\', c]
  else if c == '\t' then ['\\', 't']
  else if c == '\n' then ['\\', 'n']
  else if c == '\r' then ['\\', 'r']
  else if isPrintable c then [c]
  else numericEscape c

def quoteFor (t : Text) : Char :=
  if t.contains '\'' && !t.contains '"' then '"' else '\''

def quoted (t : Text) : Text :=
  let quote := quoteFor t
  quote :: t.flatMap (quotedChar quote) ++ [quote]

/-- Code points between quotes; those without a character by their numbers. -/
def quotedPoints (points : List Nat) : Text :=
  let quote := quoteFor (points.filterMap charOfPoint?)
  let shown (n : Nat) : Text := match charOfPoint? n with
    | some c => quotedChar quote c
    | none => pointEscape n
  quote :: points.flatMap shown ++ [quote]

/-- Bytes between quotes behind a letter; those beyond ASCII by their numbers. -/
def quotedBytes (bytes : List UInt8) : Text :=
  let points := bytes.map UInt8.toNat
  let quote := quoteFor (points.filterMap charOfPoint?)
  let shown (n : Nat) : Text :=
    if n < 0x80 then quotedChar quote (Char.ofNat n) else pointEscape n
  'b' :: quote :: points.flatMap shown ++ [quote]

/-- Code points without quotes; those without a character by their numbers. -/
def shownPoints (points : List Nat) : Text :=
  points.flatMap fun n => match charOfPoint? n with
    | some c => [c]
    | none => pointEscape n

end SymbolPath.Text
