import SymbolPath.Text.Hex
import SymbolPath.Yaml.Scan

/-!
Scanning the text of a scalar in each of its styles: plain, in single or double quotes, and as a
literal or folded block. A line end inside a scalar folds to a space, unless empty lines follow,
which stay; a literal block keeps its lines. Escapes may name surrogates, so quotes hold code points.
-/

namespace SymbolPath.Yaml

/-- Passes spaces and line ends, and returns the line ends; `none` at a document marker. -/
def takeEmptyLines : Nat → Scanner (Option Text)
  | 0 => pure (some [])
  | steps + 1 => do
    match ← rest with
    | ' ' :: _ => skip 1; takeEmptyLines steps
    | t =>
      if endsLine t && !t.isEmpty then
        let lineEnd ← takeBreak
        if isAnyMarker (← rest) then pure none
        else return (← takeEmptyLines steps).map (lineEnd ++ ·)
      else pure (some [])

def fold (lineEnd emptyLines : Text) : Text :=
  if lineEnd != ['\n'] then lineEnd ++ emptyLines
  else if emptyLines.isEmpty then [' ']
  else emptyLines

/-- The blanks after a piece of a plain scalar, folded; `none` if the scalar cannot go on. -/
def takePlainGap : Scanner (Option Text) := do
  let spaces ← takeAll isSpace
  let t ← rest
  if endsLine t && !t.isEmpty then
    let lineEnd ← takeBreak
    allowKey true
    if isAnyMarker (← rest) then pure none
    else return (← takeEmptyLines (← enoughSteps)).map (fold lineEnd)
  else pure (if spaces.isEmpty then none else some spaces)

def endsPlain (inBrackets : Bool) : Text → Bool
  | [] => true
  | c :: after =>
    isGap c ||
    (c == ':' && (endsOrGaps after ||
      (inBrackets && (after.head?.any fun d => ",[]\x7b\x7d".toList.contains d)))) ||
    (inBrackets && ",?[]\x7b\x7d".toList.contains c)

def plainPiece (inBrackets : Bool) : Text → Text
  | [] => []
  | c :: after => if endsPlain inBrackets (c :: after) then [] else c :: plainPiece inBrackets after

def takePlainFrom (indent : Int) (gap : Text) : Nat → Scanner Text
  | 0 => pure []
  | steps + 1 => do
    let s ← get
    let inBrackets := s.depth != 0
    let piece := plainPiece inBrackets s.rest
    if piece.isEmpty || s.rest.head? == some '#' then pure []
    else
      allowKey false
      skip piece.length
      match ← takePlainGap with
      | none => pure (gap ++ piece)
      | some nextGap =>
        let s ← get
        if s.rest.head? == some '#' || (!inBrackets && s.column < indent) then pure (gap ++ piece)
        else return gap ++ piece ++ (← takePlainFrom indent nextGap steps)

def takePlain : Scanner Text := do
  let s ← get
  takePlainFrom (s.indent + 1) [] (← enoughSteps)

def escaped? (c : Char) : Option Char :=
  match c with
  | '0' => some '\x00'
  | 'a' => some '\x07'
  | 'b' => some '\x08'
  | 't' => some '\t'
  | '\t' => some '\t'
  | 'n' => some '\n'
  | 'v' => some '\x0B'
  | 'f' => some '\x0C'
  | 'r' => some '\r'
  | 'e' => some '\x1B'
  | ' ' => some ' '
  | '"' => some '"'
  | '\\' => some '\\'
  | '/' => some '/'
  | 'N' => some '\x85'
  | '_' => some '\xA0'
  | 'L' => some '\u2028'
  | 'P' => some '\u2029'
  | _ => none

def escapeWidth? (c : Char) : Option Nat :=
  match c with
  | 'x' => some 2
  | 'u' => some 4
  | 'U' => some 8
  | _ => none

def takeHexEscape (width : Nat) : Scanner (List Nat) := do
  let digits := (← rest).take width
  require (digits.length == width && digits.all fun c => (Text.hexValue? c).isSome)
  let point := digits.foldl (fun value c => value * 16 + (Text.hexValue? c).getD 0) 0
  if point ≥ 0x80000000 then throw .escapeTooLarge
  if point > 0x10FFFF then throw .noCharacter
  skip width
  pure [point]

def takeQuotedLines : Nat → Scanner Text
  | 0 => pure []
  | steps + 1 => do
    require (!isAnyMarker (← rest))
    discard (takeAll fun c => c == ' ' || c == '\t')
    let t ← rest
    if endsLine t && !t.isEmpty then
      let lineEnd ← takeBreak
      return lineEnd ++ (← takeQuotedLines steps)
    else pure []

def takeEscape : Scanner (List Nat) := do
  skip 1
  match ← rest with
  | [] => fail
  | c :: _ =>
    match escaped? c, escapeWidth? c with
    | some d, _ => skip 1; pure [d.toNat]
    | none, some width => skip 1; takeHexEscape width
    | none, none =>
      require (isBreak c)
      discard takeBreak
      return (← takeQuotedLines (← enoughSteps)).points

def takeQuotedRun (isDouble : Bool) : Nat → Scanner (List Nat)
  | 0 => pure []
  | steps + 1 => do
    match ← rest with
    | [] => pure []
    | '\'' :: '\'' :: _ =>
      skip (if isDouble then 1 else 2)
      return '\''.toNat :: (← takeQuotedRun isDouble steps)
    | c :: _ =>
      if isGap c then pure []
      else if c == '\'' && !isDouble then pure []
      else if c == '"' && isDouble then pure []
      else if c == '\\' && isDouble then
        let points ← takeEscape
        return points ++ (← takeQuotedRun isDouble steps)
      else
        skip 1
        return c.toNat :: (← takeQuotedRun isDouble steps)

def takeQuotedGap : Scanner Text := do
  let spaces ← takeAll fun c => c == ' ' || c == '\t'
  let t ← rest
  require (!t.isEmpty)
  if endsLine t then
    let lineEnd ← takeBreak
    let emptyLines ← takeQuotedLines (← enoughSteps)
    pure (fold lineEnd emptyLines)
  else pure spaces

def takeQuotedFrom (isDouble : Bool) : Nat → Scanner (List Nat)
  | 0 => fail
  | steps + 1 => do
    let run ← takeQuotedRun isDouble (← enoughSteps)
    if (← rest).head? == some (if isDouble then '"' else '\'') then
      skip 1
      pure run
    else
      let gap ← takeQuotedGap
      return run ++ gap.points ++ (← takeQuotedFrom isDouble steps)

def takeQuoted (isDouble : Bool) : Scanner (List Nat) := do
  skip 1
  takeQuotedFrom isDouble (← enoughSteps)

/-- What is kept of the line ends after a block: none, one or all. -/
inductive Chomping where
  | strip
  | clip
  | keep
deriving DecidableEq, Repr

def takeChomping : Scanner (Option Chomping) := do
  match ← rest with
  | '+' :: _ => skip 1; pure (some .keep)
  | '-' :: _ => skip 1; pure (some .strip)
  | _ => pure none

def takeIncrement : Scanner (Option Nat) := do
  match ← rest with
  | c :: _ =>
    if '0' ≤ c && c ≤ '9' then
      require (c != '0')
      skip 1
      pure (some (c.toNat - '0'.toNat))
    else pure none
  | [] => pure none

def takeBlockHeader : Scanner (Chomping × Option Nat) := do
  let first ← takeChomping
  let increment ← takeIncrement
  let last ← match first, increment with
    | none, some _ => takeChomping
    | _, _ => pure none
  require (endsOrSpaces (← rest))
  discard (takeAll isSpace)
  if (← rest).head? == some '#' then discard (takeAll fun c => !isBreak c)
  require (endsLine (← rest))
  discard takeBreak
  pure ((first <|> last).getD .clip, increment)

/-- The empty lines before a block whose indentation is still unknown, and the widest of them. -/
def takeLeadingLines (widest : Nat) : Nat → Scanner (Text × Nat)
  | 0 => pure ([], widest)
  | steps + 1 => do
    match ← rest with
    | ' ' :: _ =>
      skip 1
      takeLeadingLines (max widest (← get).column) steps
    | t =>
      if endsLine t && !t.isEmpty then
        let lineEnd ← takeBreak
        let (lineEnds, widest) ← takeLeadingLines widest steps
        pure (lineEnd ++ lineEnds, widest)
      else pure ([], widest)

def takeBlockLines (indent : Nat) : Nat → Scanner Text
  | 0 => pure []
  | steps + 1 => do
    let s ← get
    skip ((s.rest.take (indent - s.column)).takeWhile isSpace).length
    let t ← rest
    if endsLine t && !t.isEmpty then
      let lineEnd ← takeBreak
      return lineEnd ++ (← takeBlockLines indent steps)
    else pure []

def takeBlockFrom (isFolded : Bool) (chomping : Chomping) (indent : Nat) (before : Text) :
    Nat → Scanner Text
  | 0 => fail
  | steps + 1 => do
    let t ← rest
    let isIndentedMore (t : Text) : Bool := t.head?.any fun c => c == ' ' || c == '\t'
    let line ← takeAll fun c => !isBreak c
    let lineEnd ← takeBreak
    let emptyLines ← takeBlockLines indent (← enoughSteps)
    let s ← get
    if s.column == indent && !s.rest.isEmpty then
      let between :=
        if isFolded && lineEnd == ['\n'] && !isIndentedMore t && !isIndentedMore s.rest then
          if emptyLines.isEmpty then [' '] else []
        else lineEnd
      return before ++ line ++ between ++ (← takeBlockFrom isFolded chomping indent emptyLines steps)
    else
      pure (before ++ line ++ match chomping with
        | .strip => []
        | .clip => lineEnd
        | .keep => lineEnd ++ emptyLines)

def takeBlock (isFolded : Bool) : Scanner Text := do
  skip 1
  let (chomping, increment) ← takeBlockHeader
  let s ← get
  let least := (max (s.indent + 1) 1).toNat
  let steps ← enoughSteps
  let (before, indent) ← match increment with
    | some increment => do
      let indent := least + increment - 1
      pure ((← takeBlockLines indent steps), indent)
    | none => do
      let (lineEnds, widest) ← takeLeadingLines 0 steps
      pure (lineEnds, max least widest)
  let s ← get
  if s.column == indent && !s.rest.isEmpty then
    takeBlockFrom isFolded chomping indent before steps
  else
    pure (if chomping == .keep then before else [])

end SymbolPath.Yaml
