import SymbolPath.Text.Quoted
import SymbolPath.Text.Utf8

/-!
The encodings that output may be written in. What is written is a list of code points and may hold
surrogates, which no encoding has. Writing it is all or nothing: if some code point has no form, the
first run of such code points is reported and nothing is written.
-/

namespace SymbolPath

inductive Encoding where
  | ascii
  | latin1
  | utf8
deriving DecidableEq, Repr

namespace Encoding

def encodePoint? : Encoding → Nat → Option Bytes
  | .ascii, n => if n < 0x80 then some [n.toUInt8] else none
  | .latin1, n => if n < 0x100 then some [n.toUInt8] else none
  | .utf8, n => (Text.charOfPoint? n).map Utf8.encodeChar

def represents (e : Encoding) (n : Nat) : Bool :=
  (e.encodePoint? n).isSome

/-- The first run of code points that the encoding lacks. -/
structure Unencodable where
  encoding : Encoding
  offset : Nat
  run : List Nat
deriving DecidableEq, Repr

def encodeFrom (e : Encoding) (offset : Nat) : List Nat → Except Unencodable Bytes
  | [] => .ok []
  | n :: rest =>
    match e.encodePoint? n with
    | some bytes => (bytes ++ ·) <$> encodeFrom e (offset + 1) rest
    | none => .error ⟨e, offset, n :: rest.takeWhile fun m => !e.represents m⟩

def encode (e : Encoding) (points : List Nat) : Except Unencodable Bytes :=
  encodeFrom e 0 points

def label : Encoding → Text
  | .ascii => "ascii"
  | .latin1 => "latin-1"
  | .utf8 => "utf-8"

def reason : Encoding → Text
  | .ascii => "ordinal not in range(128)"
  | .latin1 => "ordinal not in range(256)"
  | .utf8 => "surrogates not allowed"

def Unencodable.message (u : Unencodable) : Text :=
  let place : Text := match u.run with
    | [n] => "character '" ++ Text.pointEscape n ++ "' in position " ++ Text.ofNat u.offset
    | run => "characters in position " ++ Text.ofNat u.offset ++ "-" ++
        Text.ofNat (u.offset + run.length - 1)
  "'" ++ u.encoding.label ++ "' codec can't encode " ++ place ++ ": " ++ u.encoding.reason

end Encoding
end SymbolPath
