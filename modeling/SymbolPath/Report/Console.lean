import SymbolPath.Text.Encoding

/-!
Printing to a console that may lack characters. What the encoding lacks is tried again with arrows,
dots and dashes spelled out, and at last with question marks for what is still lacking. The text
and what ends it are written one after the other, so what was written before a failure stays.
-/

namespace SymbolPath.Console

/-- The spellings of common characters, in the order in which they are put in. -/
def spellings : List (Char × Text) :=
  [('→', "->"), ('…', "..."), ('–', "-"), ('—', "--")]

def respell (points : List Nat) (entry : Char × Text) : List Nat :=
  points.flatMap fun n => if n = entry.1.toNat then Text.points entry.2 else [n]

-- one pass over the whole text for each spelling, whether the encoding lacks the character or not
def spellOut (points : List Nat) : List Nat :=
  spellings.foldl respell points

structure Printed where
  bytes : Bytes
  failure : Option Encoding.Unencodable
deriving DecidableEq, Repr

/-- Writes each text in turn, up to the first that the encoding lacks. -/
def write (encoding : Encoding) : List (List Nat) → Printed
  | [] => ⟨[], none⟩
  | points :: rest =>
    match encoding.encode points with
    | .error failure => ⟨[], some failure⟩
    | .ok bytes =>
      let printed := write encoding rest
      ⟨bytes ++ printed.bytes, printed.failure⟩

def Printed.orElse (printed next : Printed) : Printed :=
  match printed.failure with
  | none => printed
  | some _ => ⟨printed.bytes ++ next.bytes, next.failure⟩

/-- A question mark for every code point that the encoding lacks. -/
def replaceLacking (encoding : Encoding) (points : List Nat) : List Nat :=
  points.map fun n => if encoding.represents n then n else '?'.toNat

def print (encoding : Encoding) (points ending : List Nat) : Printed :=
  let spelled := spellOut points
  (write encoding [points, ending]).orElse
    ((write encoding [spelled, ending]).orElse
      (write encoding [replaceLacking encoding spelled, ending]))

end SymbolPath.Console
