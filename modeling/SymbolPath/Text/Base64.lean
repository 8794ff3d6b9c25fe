import SymbolPath.Text.Utf8

/-!
Bytes as text in base 64: three bytes are four digits of six bits, and signs fill up a group that has
fewer bytes. On reading, characters that are no digits do not count.
-/

namespace SymbolPath.Text.Base64

def padding : Char := '='

def digits : Text :=
  "ABCDEFGHIJKLMNOPQRSTUVWXYZabcdefghijklmnopqrstuvwxyz0123456789+/"

def digit (value : Nat) : Char :=
  (digits[value % 64]?).getD padding

def value? (c : Char) : Option Nat :=
  if 'A' ≤ c && c ≤ 'Z' then some (c.toNat - 'A'.toNat)
  else if 'a' ≤ c && c ≤ 'z' then some (c.toNat - 'a'.toNat + 26)
  else if '0' ≤ c && c ≤ '9' then some (c.toNat - '0'.toNat + 52)
  else if c == '+' then some 62
  else if c == '/' then some 63
  else none

def encode : Bytes → Text
  | [] => []
  | [a] =>
    let n := a.toNat * 16
    [digit (n / 64), digit n, padding, padding]
  | [a, b] =>
    let n := (a.toNat * 256 + b.toNat) * 4
    [digit (n / 4096), digit (n / 64), digit n, padding]
  | a :: b :: c :: rest =>
    let n := (a.toNat * 256 + b.toNat) * 256 + c.toNat
    digit (n / 262144) :: digit (n / 4096) :: digit (n / 64) :: digit n :: encode rest

def lineBytes : Nat := 57

def encodeLines : Nat → Bytes → List Text
  | 0, _ => []
  | steps + 1, bytes =>
    if bytes.isEmpty then []
    else (encode (bytes.take lineBytes) ++ ['\n']) :: encodeLines steps (bytes.drop lineBytes)

def encodeInLines (bytes : Bytes) : Text :=
  (encodeLines bytes.length bytes).flatten

/-- Decodes on from the middle of a group: `filled` digits of it are read, of which the bits `left`
are not yet in a byte, and after them `pads` signs that fill it up. A group that is filled up ends
the bytes; one that is not is refused. -/
def decodeFrom (filled left pads : Nat) : Text → Option Bytes
  | [] => if filled = 0 then some [] else none
  | c :: rest =>
    if c == padding then
      if filled ≥ 2 && filled + pads + 1 ≥ 4 then some []
      else decodeFrom filled left (if filled ≥ 2 then pads + 1 else pads) rest
    else
      match value? c with
      | none => decodeFrom filled left pads rest
      | some d =>
        match filled with
        | 0 => decodeFrom 1 d 0 rest
        | 1 => ((left * 4 + d / 16).toUInt8 :: ·) <$> decodeFrom 2 (d % 16) 0 rest
        | 2 => ((left * 16 + d / 4).toUInt8 :: ·) <$> decodeFrom 3 (d % 4) 0 rest
        | _ => ((left * 64 + d).toUInt8 :: ·) <$> decodeFrom 0 0 0 rest

def decode? (t : Text) : Option Bytes :=
  decodeFrom 0 0 0 t

end SymbolPath.Text.Base64
