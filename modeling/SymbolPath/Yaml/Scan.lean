import SymbolPath.Text.Points
import SymbolPath.Yaml.Supply

/-!
The state of scanning a YAML text. Besides the place it holds what the layout has opened: the columns
of the open blocks, the depth of brackets, and for each depth the place where a key may have begun,
which only a later colon can tell. Scanning stops where the supply of characters does.
-/

namespace SymbolPath.Yaml

inductive Token where
  | directive (name : Text) (arguments : List Text)
  | documentStart
  | documentEnd
  | blockSequenceStart
  | blockMappingStart
  | blockEnd
  | flowSequenceStart
  | flowSequenceEnd
  | flowMappingStart
  | flowMappingEnd
  | blockEntry
  | flowEntry
  | key
  | value
  | reference (name : Text)
  | anchor (name : Text)
  | tag (handle : Option Text) (suffix : Text)
  | scalar (isPlain : Bool) (points : List Nat)
deriving DecidableEq, Repr

/-- A place where a key may have begun. It is required where the layout admits nothing else. -/
structure KeySpot where
  depth : Nat
  token : Nat
  isRequired : Bool
  index : Nat
  line : Nat
  column : Nat
deriving DecidableEq, Repr

structure Scan where
  total : Nat
  rest : Text
  /-- What is wrong behind `rest`, if anything. -/
  fault : Option Refusal
  index : Nat
  line : Nat
  column : Nat
  depth : Nat
  /-- The column of the innermost open block, -1 outside of all, and those around it. -/
  indent : Int
  outer : List Int
  keyAllowed : Bool
  keySpots : List KeySpot
  /-- The tokens so far, the last first, and their number. -/
  tokens : List Token
  count : Nat
deriving Repr

abbrev Scanner := StateT Scan (Except Refusal)

def Scan.start (supply : Supply) : Scan :=
  ⟨supply.text.length, supply.text, supply.fault, 0, 0, 0, 0, -1, [], true, [], [], 0⟩

def isBreak (c : Char) : Bool :=
  c == '\n' || c == '\r' || c == '\x85' || c == '\u2028' || c == '\u2029'

def isSpace (c : Char) : Bool := c == ' '

def isGap (c : Char) : Bool := c == ' ' || c == '\t' || isBreak c

def endsOrGaps : Text → Bool
  | [] => true
  | c :: _ => isGap c

def endsOrSpaces : Text → Bool
  | [] => true
  | c :: _ => c == ' ' || isBreak c

def endsLine : Text → Bool
  | [] => true
  | c :: _ => isBreak c

/-- A document marker: three like characters followed by a blank or the end. -/
def isMarker (c : Char) (t : Text) : Bool :=
  match t with
  | a :: b :: d :: rest => a == c && b == c && d == c && endsOrGaps rest
  | _ => false

def isAnyMarker (t : Text) : Bool := isMarker '-' t || isMarker '.' t

namespace Scan

def next (s : Scan) : Scan :=
  match s.rest with
  | [] => s
  | c :: rest =>
    if isBreak c && !(c == '\r' && rest.head? == some '\n') then
      { s with rest, index := s.index + 1, line := s.line + 1, column := 0 }
    else
      { s with rest, index := s.index + 1,
               column := if c == '\uFEFF' then s.column else s.column + 1 }

def skip : Nat → Scan → Scan
  | 0, s => s
  | count + 1, s => skip count s.next

end Scan

def fail {α : Type} : Scanner α := throw .malformed

def require (holds : Bool) : Scanner Unit := if holds then pure () else fail

def meetFault : Scanner Unit := do
  let s ← get
  match s.rest, s.fault with
  | [], some reason => throw reason
  | _, _ => pure ()

def skip (count : Nat) : Scanner Unit := do
  modify (Scan.skip count)
  meetFault

def rest : Scanner Text := return (← get).rest

/-- More steps than there are characters left. -/
def enoughSteps : Scanner Nat := do
  let s ← get
  return s.total - s.index + 1

def takeAll (accept : Char → Bool) : Scanner Text := do
  let taken := (← rest).takeWhile accept
  skip taken.length
  pure taken

/-- Passes a line end, if one is here, and returns it; the common ones are one and the same. -/
def takeBreak : Scanner Text := do
  match ← rest with
  | '\r' :: '\n' :: _ => skip 2; pure ['\n']
  | c :: _ =>
    if isBreak c then
      skip 1
      pure [if c == '\u2028' || c == '\u2029' then c else '\n']
    else pure []
  | [] => pure []

def put (token : Token) : Scanner Unit :=
  modify fun s => { s with tokens := token :: s.tokens, count := s.count + 1 }

def putAt (number : Nat) (tokens : List Token) : Scanner Unit :=
  modify fun s =>
    let after := s.count - number
    { s with tokens := s.tokens.take after ++ tokens.reverse ++ s.tokens.drop after,
             count := s.count + tokens.length }

def allowKey (allowed : Bool) : Scanner Unit :=
  modify fun s => { s with keyAllowed := allowed }

/-- Gives up the key that may have begun at this depth; a required one must not be given up. -/
def dropKeySpot : Scanner Unit := do
  let s ← get
  require (s.keySpots.all fun spot => spot.depth != s.depth || !spot.isRequired)
  set { s with keySpots := s.keySpots.filter fun spot => spot.depth != s.depth }

/-- A key fits on one line and into 1024 characters. -/
def Scan.isStale (s : Scan) (spot : KeySpot) : Bool :=
  spot.line != s.line || s.index - spot.index > 1024

def dropStaleKeySpots : Scanner Unit := do
  let s ← get
  require (s.keySpots.all fun spot => !s.isStale spot || !spot.isRequired)
  set { s with keySpots := s.keySpots.filter fun spot => !s.isStale spot }

/-- The tokens that no key can be put in before any more, in order. -/
def Scan.settled (s : Scan) : List Token :=
  let bound := (s.keySpots.filter fun spot => !s.isStale spot).foldl
    (fun bound spot => min bound spot.token) s.count
  s.tokens.reverse.take bound

def noteKeySpot : Scanner Unit := do
  if (← get).keyAllowed then
    dropKeySpot
    modify fun s =>
      { s with keySpots := ⟨s.depth, s.count, s.depth == 0 && s.indent == s.column,
          s.index, s.line, s.column⟩ :: s.keySpots }

/-- The open columns after closing those beyond `column`, and the number closed. -/
def closeColumns (column : Int) (indent : Int) : List Int → Int × List Int × Nat
  | [] => (indent, [], 0)
  | outer :: more =>
    if indent > column then
      let (indent, left, count) := closeColumns column outer more
      (indent, left, count + 1)
    else (indent, outer :: more, 0)

/-- Closes the blocks that a column to their left ends. Brackets suspend the layout. -/
def closeBlocks (column : Int) : Scanner Unit :=
  modify fun s =>
    if s.depth != 0 then s
    else
      let (indent, outer, count) := closeColumns column s.indent s.outer
      { s with indent, outer, tokens := List.replicate count .blockEnd ++ s.tokens,
               count := s.count + count }

def openBlock (column : Int) : Scanner Bool := do
  let s ← get
  if s.indent < column then
    set { s with indent := column, outer := s.indent :: s.outer }
    pure true
  else pure false

end SymbolPath.Yaml
