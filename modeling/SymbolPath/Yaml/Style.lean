import SymbolPath.Text.Hex
import SymbolPath.Yaml.Scalar
import SymbolPath.Yaml.Scan

/-!
Writing the text of a scalar. A text is written plain where it reads back as itself, in single quotes
where its spelling or its marks forbid that, and in double quotes with escapes where it holds
characters beyond printable ASCII. Lines longer than 80 characters are broken at single spaces.
-/

namespace SymbolPath.Yaml

def lineWidth : Nat := 80

inductive Style where
  | plain
  | single
  | double
  /-- A block of lines that are kept as they are. -/
  | literal
deriving DecidableEq, Repr

def isPlainPoint (n : Nat) : Bool := 0x20 ≤ n && n ≤ 0x7E

def needsEscapes (points : List Nat) : Bool :=
  points.any fun n => !(n == 0x0A || isPlainPoint n)

def hasLineEnd (points : List Nat) : Bool :=
  points.any fun n => n == 0x0A || n == 0x85 || n == 0x2028 || n == 0x2029

def hasPair (first second : Char) : Text → Bool
  | [] => false
  | c :: rest => (c == first && rest.head? == some second) || hasPair first second rest

/-- Does a mark in the text mean something to a reader? A colon does before a blank or the end, a
number sign after a blank. -/
def hasInnerMark (afterBlank : Bool) : Text → Bool
  | [] => false
  | c :: rest =>
    (c == ':' && endsOrGaps rest) || (c == '#' && afterBlank) || hasInnerMark (isGap c) rest

def hasLeadingMark (t : Text) : Bool :=
  match t with
  | [] => false
  | c :: rest =>
    "#,[]\x7b\x7d&*!|>'\"%@\x60".toList.contains c ||
    ((c == '?' || c == ':' || c == '-') && endsOrGaps rest) ||
    Text.startsWith "---" t || Text.startsWith "..." t

def hasOuterBlank (t : Text) : Bool :=
  let isBlankEnd (c : Option Char) : Bool := c == some ' ' || c == some '\n'
  isBlankEnd t.head? || isBlankEnd t.getLast?

def admitsPlain (t : Text) : Bool :=
  !(t.isEmpty || hasOuterBlank t || t.contains '\n' || hasLeadingMark t ||
    hasInnerMark false (t.drop 1))

/-- May the text stand in single quotes? Spaces next to a line end would be lost there. -/
def admitsSingle (t : Text) : Bool :=
  !(hasPair '\n' ' ' t || hasPair ' ' '\n' t)

/-- The style of a text without escapes. Keys that stand on one line with their values are on one
line themselves. -/
def styleOfText (tag : Tag) (isKey : Bool) (t : Text) : Style :=
  if Tag.ofPlain t == tag && admitsPlain t then .plain
  else if admitsSingle t && !(isKey && t.contains '\n') then .single
  else .double

/-- The style of a scalar. Bytes stand in a literal block. -/
def styleOf (tag : Tag) (isKey : Bool) (points : List Nat) : Style :=
  if tag == .binary then
    if points.isEmpty then .double else .literal
  else if needsEscapes points then .double
  else styleOfText tag isKey (points.map Char.ofNat)

/-- Does the style alone tell the tag? A plain scalar is known by its spelling, quotes make texts. -/
def Style.tellsTag (style : Style) (tag : Tag) : Bool :=
  style == .plain || tag == .text

def pad (indent : Nat) : Text := List.replicate indent ' '

def plainFrom (breaks : Bool) (indent column : Nat) (afterSpace : Bool) : Text → Text
  | [] => []
  | c :: rest =>
    if c == ' ' && !afterSpace && rest.head? != some ' ' && column > lineWidth && breaks then
      '\n' :: pad indent ++ plainFrom breaks indent indent false rest
    else c :: plainFrom breaks indent (column + 1) (c == ' ') rest

/-- A text in single quotes, of which `first` tells that nothing is written yet. A run of line ends
is written with one line end more, and quotes are doubled. -/
def singleFrom (breaks : Bool) (indent column : Nat) (isFirst : Bool) (previous : Option Char) :
    Text → Text
  | [] => if previous == some '\n' then pad indent else []
  | c :: rest =>
    let margin := if previous == some '\n' && c != '\n' then pad indent else []
    let column := if margin.isEmpty then column else indent
    if c == '\n' then
      (if previous == some '\n' then ['\n'] else ['\n', '\n']) ++
        singleFrom breaks indent 0 false (some c) rest
    else if c == '\'' then
      margin ++ ['\'', '\''] ++ singleFrom breaks indent (column + 2) false (some c) rest
    else if c == ' ' && previous != some ' ' && rest.head? != some ' ' && !rest.isEmpty &&
        !isFirst && column > lineWidth && breaks then
      '\n' :: pad indent ++ singleFrom breaks indent indent false (some c) rest
    else margin ++ c :: singleFrom breaks indent (column + 1) false (some c) rest

def escapeLetter? (point : Nat) : Option Char :=
  match point with
  | 0x00 => some '0'
  | 0x07 => some 'a'
  | 0x08 => some 'b'
  | 0x09 => some 't'
  | 0x0A => some 'n'
  | 0x0B => some 'v'
  | 0x0C => some 'f'
  | 0x0D => some 'r'
  | 0x1B => some 'e'
  | 0x22 => some '"'
  | 0x5C => some '\\'
  | 0x85 => some 'N'
  | 0xA0 => some '_'
  | 0x2028 => some 'L'
  | 0x2029 => some 'P'
  | _ => none

def escape (point : Nat) : Text :=
  match escapeLetter? point with
  | some letter => ['\\', letter]
  | none =>
    if point ≤ 0xFF then '\\' :: 'x' :: Text.hexCapital 2 point
    else if point ≤ 0xFFFF then '\\' :: 'u' :: Text.hexCapital 4 point
    else '\\' :: 'U' :: Text.hexCapital 8 point

def spacePoint : Nat := 0x20

/-- A line break inside double quotes; a space at the start of the new line is kept by a
backslash. -/
def doubleBreak (indent : Nat) (next : Option Nat) : Text × Nat :=
  if next == some spacePoint then ('\\' :: '\n' :: pad indent ++ ['\\'], indent + 1)
  else ('\\' :: '\n' :: pad indent, indent)

def standsAlone (point : Nat) : Bool :=
  isPlainPoint point && (escapeLetter? point).isNone

/-- Code points in double quotes. `run` counts those since the last escape or line break. -/
def doubleFrom (breaks : Bool) (indent column run : Nat) (isFirst : Bool) : List Nat → Text
  | [] => []
  | n :: rest =>
    let mayBreak := breaks && !isFirst && !rest.isEmpty
    if standsAlone n then
      let c := Char.ofNat n
      if mayBreak && (n == spacePoint || run == 0) && column > lineWidth then
        let (lineEnd, column) := doubleBreak indent (some n)
        lineEnd ++ c :: doubleFrom breaks indent (column + 1) 1 false rest
      else c :: doubleFrom breaks indent (column + 1) (run + 1) false rest
    else
      let written := escape n
      let column := column + written.length
      if mayBreak && column > lineWidth + 1 then
        let (lineEnd, column) := doubleBreak indent rest.head?
        written ++ lineEnd ++ doubleFrom breaks indent column 0 false rest
      else written ++ doubleFrom breaks indent column 0 false rest

def literalLines (indent : Nat) (t : Text) : Text :=
  ((Text.splitOn '\n' t).filter fun line => !line.isEmpty).flatMap fun line =>
    pad indent ++ line ++ ['\n']

/-- A scalar that begins at `column`, broken to lines at `indent` unless it is a key. -/
def scalarText (style : Style) (isKey : Bool) (indent column : Nat) (points : List Nat) : Text :=
  let t := points.map Char.ofNat
  match style with
  | .plain => plainFrom (!isKey) indent column false t
  | .single => '\'' :: singleFrom (!isKey) indent (column + 1) true none t ++ ['\'']
  | .double => '"' :: doubleFrom (!isKey) indent (column + 1) 0 true points ++ ['"']
  | .literal => '|' :: '\n' :: literalLines indent t

end SymbolPath.Yaml
