import SymbolPath.Yaml.Refusal

/-!
How the text of a file comes in. Bytes are decoded in large parts, and characters are handed on in
pieces of 4096, two of them at the start; a piece with characters that a text must not hold is
refused as a whole. A scanner meets what is wrong only when it gets there, so a fault further down
does not hide one further up.
-/

namespace SymbolPath.Yaml

/-- The characters that can be handed on, and the fault behind them; without one, the text ends. -/
structure Supply where
  text : Text
  fault : Option Refusal
deriving Repr

def isAdmitted (c : Char) : Bool :=
  let n := c.toNat
  n == 0x09 || n == 0x0A || n == 0x0D || (0x20 ≤ n && n ≤ 0x7E) || n == 0x85 ||
  (0xA0 ≤ n && n ≤ 0xD7FF) || (0xE000 ≤ n && n ≤ 0xFFFD) || 0x10000 ≤ n

namespace Supply

def pieceSize : Nat := 4096

def partSize : Nat := 8192

/-- The number of characters handed on before the piece that holds the character at `place`. -/
def handedOnBefore (place : Nat) : Nat :=
  if place < 2 * pieceSize then 0 else place / pieceSize * pieceSize

/-- Decoding so far: the number of characters, a carriage return that is held back until it is known
whether a line feed follows, the bytes of a cut character, and the sizes of the last part, in bytes
and in characters. -/
structure Progress where
  count : Nat
  holdsReturn : Bool
  cut : Bytes
  partBytes : Nat
  partChars : Nat

def Progress.start : Progress := ⟨0, false, [], 0, 0⟩

/-- The size of the next part. It grows with the number of bytes that characters took. -/
def Progress.nextSize (p : Progress) : Nat :=
  let wanted := pieceSize - p.count % pieceSize
  max partSize (if p.partChars = 0 then 0 else p.partBytes * wanted / p.partChars)

def Progress.add (p : Progress) (size : Nat) (t : Text) (cut : Bytes) : Progress :=
  let t := if p.holdsReturn then '\r' :: t else t
  let holds := t.getLast? == some '\r'
  let arrived := (Text.unifyLineEnds (if holds then t.dropLast else t)).length
  ⟨p.count + arrived, holds, cut, size, arrived⟩

def firstFault (p : Progress) (bytes : Bytes) : Nat → Option (Nat × Utf8.Undecodable)
  | 0 => none
  | steps + 1 =>
    let size := p.nextSize
    let part := bytes.take size
    if part.isEmpty then
      if p.cut.isEmpty then none else some (p.count, ⟨.unexpectedEnd, 0, p.cut⟩)
    else
      match Utf8.decodePart 0 (Utf8.pieces (p.cut ++ part)) with
      | .error reason => some (p.count, reason)
      | .ok (t, cut) => firstFault (p.add part.length t cut) (bytes.drop size) steps

/-- The supply of a text that is cut short at the first character that must not occur. -/
def ofText (t : Text) : Supply :=
  let good := (t.takeWhile isAdmitted).length
  if good = t.length then ⟨t, none⟩
  else ⟨t.take (handedOnBefore good), some .malformed⟩

def ofBytes (bytes : Bytes) : Supply :=
  let supply := ofText (Text.unifyLineEnds (Utf8.decodeLenient bytes))
  match firstFault Progress.start bytes (bytes.length + 1) with
  | none => supply
  | some (count, reason) =>
    let before := handedOnBefore count
    if supply.text.length < before then supply
    else ⟨supply.text.take before, some (.undecodable reason)⟩

end Supply
end SymbolPath.Yaml
