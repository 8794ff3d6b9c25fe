import SymbolPath.CommandLine.Misuse
import SymbolPath.Text.Digit

/-!
Arguments, each told apart before any is acted on: words, switches, the divider after which all
are words, and switches that the command does not have.

A long switch may be cut short where that is not ambiguous, and may have a value joined to it by an
equals sign. A short switch may have a value, or more short switches, joined to it directly or by an
equals sign.
-/

namespace SymbolPath.CommandLine

inductive Piece where
  | word (t : Text)
  | divider
  | known (written : Text) (switch : Switch) (isShort : Bool) (joined : Option Text)
  | unknown (written : Text)
deriving DecidableEq, Repr

namespace Piece

def dividerText : Text := "--"

def text : Piece → Text
  | .word t => t
  | .divider => dividerText
  | .known written _ _ _ => written
  | .unknown written => written

def isWord : Piece → Bool
  | .word _ => true
  | _ => false

def isWordOrDivider (piece : Piece) : Bool :=
  piece.isWord || piece == .divider

/-- A negative number is a word, not a switch. A line end behind it does not matter. -/
def isNegativeNumber : Text → Bool
  | '-' :: rest =>
    let number := if rest.getLast? == some '\n' then rest.dropLast else rest
    match number.dropWhile Text.isDecimal with
    | [] => !number.isEmpty
    | '.' :: places => !places.isEmpty && places.all Text.isDecimal
    | _ => false
  | _ => false

def splitEquals? (t : Text) : Option (Text × Text) :=
  match t.dropWhile (· != '=') with
  | [] => none
  | _ :: value => some (t.takeWhile (· != '='), value)

def isShortSpelling (spelling : Text) : Bool :=
  (spelling.drop 1).head? != some '-'

structure Meaning where
  spelling : Text
  switch : Switch
  joined : Option Text
deriving DecidableEq, Repr

def meanings (command : Command) (written : Text) : List Meaning :=
  match written with
  | '-' :: '-' :: _ =>
    let (start, joined) : Text × Option Text := match splitEquals? written with
      | some (start, value) => (start, some value)
      | none => (written, none)
    (command.spellings.filter fun entry => Text.startsWith start entry.1).map fun entry =>
      ⟨entry.1, entry.2, joined⟩
  | '-' :: letter :: value =>
    command.spellings.filterMap fun entry =>
      if entry.1 == ['-', letter] then some ⟨entry.1, entry.2, some value⟩
      else if Text.startsWith written entry.1 then some ⟨entry.1, entry.2, none⟩
      else none
  | _ => []

def ofMeaning (written : Text) (meaning : Meaning) : Piece :=
  .known written meaning.switch (isShortSpelling meaning.spelling) meaning.joined

/-- The meaning of an argument as a spelling in full, perhaps with a value behind an equals sign. -/
def exactMeaning? (command : Command) (written : Text) : Option Meaning :=
  match command.switch? written with
  | some switch => some ⟨written, switch, none⟩
  | none => do
    let (spelling, value) ← splitEquals? written
    let switch ← command.switch? spelling
    pure ⟨spelling, switch, some value⟩

def ofHyphened (command : Command) (written : Text) : Except Misuse Piece :=
  match exactMeaning? command written with
  | some meaning => .ok (ofMeaning written meaning)
  | none =>
    match meanings command written with
    | [meaning] => .ok (ofMeaning written meaning)
    | [] =>
      if isNegativeNumber written || written.contains ' ' then .ok (.word written)
      else .ok (.unknown written)
    | several => .error (.ambiguous written (several.map Meaning.spelling))

def ofText (command : Command) (written : Text) : Except Misuse Piece :=
  match written with
  | '-' :: _ :: _ => ofHyphened command written
  | _ => .ok (.word written)

def ofTexts (command : Command) : List Text → Except Misuse (List Piece)
  | [] => .ok []
  | written :: rest =>
    if written == dividerText then .ok (.divider :: rest.map .word)
    else do
      let piece ← ofText command written
      return piece :: (← ofTexts command rest)

end Piece
end SymbolPath.CommandLine
