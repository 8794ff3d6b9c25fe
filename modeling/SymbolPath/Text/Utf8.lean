import SymbolPath.Text.Hex

/-!
UTF-8. Reading cuts a byte sequence into characters and faults, where a fault is a longest start of
a character that the next byte, or the end, does not continue. A lenient reader puts U+FFFD for
each fault; a strict one stops at the first and says where it stands.
-/

namespace SymbolPath

abbrev Bytes := List UInt8

namespace Utf8

inductive Fault where
  | invalidStart
  | invalidContinuation
  | unexpectedEnd
deriving DecidableEq, Repr

inductive Piece where
  | char (c : Char)
  | fault (reason : Fault) (bytes : Bytes)
deriving DecidableEq, Repr

/-- A character begun: its bytes so far (last first), their value, the number of bytes still owed
and the range that the next one must lie in. -/
structure Begun where
  taken : Bytes
  value : Nat
  owed : Nat
  low : UInt8
  high : UInt8
deriving DecidableEq, Repr

inductive Start where
  | char (c : Char)
  | begun (b : Begun)
  | fault
deriving DecidableEq, Repr

/-- What a first byte may begin. The narrowed ranges keep out overlong forms, surrogates and
numbers beyond the last code point. -/
def Start.ofByte (b : UInt8) : Start :=
  if b < 0x80 then .char (Char.ofNat b.toNat)
  else if b < 0xC2 then .fault
  else if b < 0xE0 then .begun ⟨[b], b.toNat - 0xC0, 1, 0x80, 0xBF⟩
  else if b < 0xF0 then
    .begun ⟨[b], b.toNat - 0xE0, 2, if b == 0xE0 then 0xA0 else 0x80,
      if b == 0xED then 0x9F else 0xBF⟩
  else if b < 0xF5 then
    .begun ⟨[b], b.toNat - 0xF0, 3, if b == 0xF0 then 0x90 else 0x80,
      if b == 0xF4 then 0x8F else 0xBF⟩
  else .fault

/-- Reads a byte that starts afresh: the pieces it completes, and the character it begins, if any. -/
def startPiece (b : UInt8) : List Piece × Option Begun :=
  match Start.ofByte b with
  | .char c => ([.char c], none)
  | .begun begun => ([], some begun)
  | .fault => ([.fault .invalidStart [b]], none)

def nextPiece (begun? : Option Begun) (b : UInt8) : List Piece × Option Begun :=
  match begun? with
  | none => startPiece b
  | some begun =>
    if begun.low ≤ b && b ≤ begun.high then
      let value := begun.value * 64 + (b.toNat - 0x80)
      if begun.owed == 1 then ([.char (Char.ofNat value)], none)
      else ([], some ⟨b :: begun.taken, value, begun.owed - 1, 0x80, 0xBF⟩)
    else
      let (pieces, next) := startPiece b
      (.fault .invalidContinuation begun.taken.reverse :: pieces, next)

def piecesFrom : Option Begun → Bytes → List Piece
  | none, [] => []
  | some begun, [] => [.fault .unexpectedEnd begun.taken.reverse]
  | begun?, b :: rest =>
    let (pieces, next) := nextPiece begun? b
    pieces ++ piecesFrom next rest

def pieces (bytes : Bytes) : List Piece :=
  piecesFrom none bytes

def encodeChar (c : Char) : Bytes :=
  String.utf8EncodeChar c

def encode (t : Text) : Bytes :=
  t.flatMap encodeChar

/-- Every fault reads as U+FFFD. -/
def decodeLenient (bytes : Bytes) : Text :=
  (pieces bytes).map fun
    | .char c => c
    | .fault _ _ => '\uFFFD'

/-- Where strict reading stopped: the offset of the faulty bytes, and the bytes. -/
structure Undecodable where
  reason : Fault
  offset : Nat
  bytes : Bytes
deriving DecidableEq, Repr

def decodeFrom (offset : Nat) : List Piece → Except Undecodable Text
  | [] => .ok []
  | .char c :: rest => (c :: ·) <$> decodeFrom (offset + (encodeChar c).length) rest
  | .fault reason bytes :: _ => .error ⟨reason, offset, bytes⟩

def decode (bytes : Bytes) : Except Undecodable Text :=
  decodeFrom 0 (pieces bytes)

/-- Reads a part of a file, of which more may follow: a character that the end of the part cuts off
is left over. -/
def decodePart (offset : Nat) : List Piece → Except Undecodable (Text × Bytes)
  | [] => .ok ([], [])
  | .char c :: rest =>
    (fun part => (c :: part.1, part.2)) <$> decodePart (offset + (encodeChar c).length) rest
  | [.fault .unexpectedEnd bytes] => .ok ([], bytes)
  | .fault reason bytes :: _ => .error ⟨reason, offset, bytes⟩

def Fault.describe : Fault → Text
  | .invalidStart => "invalid start byte"
  | .invalidContinuation => "invalid continuation byte"
  | .unexpectedEnd => "unexpected end of data"

def Undecodable.message (u : Undecodable) : Text :=
  let place : Text := match u.bytes with
    | [b] => "byte 0x" ++ Text.hex 2 b.toNat ++ " in position " ++ Text.ofNat u.offset
    | _ => "bytes in position " ++ Text.ofNat u.offset ++ "-" ++
        Text.ofNat (u.offset + u.bytes.length - 1)
  "'utf-8' codec can't decode " ++ place ++ ": " ++ u.reason.describe

end Utf8
end SymbolPath
