import SymbolPath.Number.Double
import SymbolPath.Number.Whole

/-!
Floating-point numbers as people write them: blanks around, a sign, digits of any script with a
point and an exponent, or the words for infinity and for what is not a number.
-/

namespace SymbolPath.Double

/-- The value of digits after `value`, their number, and the rest. -/
def readPlaces (value count : Nat) : Text → Nat × Nat × Text
  | [] => (value, count, [])
  | c :: rest =>
    match Text.decimalValue? c with
    | some d => readPlaces (value * 10 + d) (count + 1) rest
    | none => (value, count, c :: rest)

def readExponent? : Text → Option Int
  | [] => some 0
  | e :: t =>
    if e == 'e' || e == 'E' then
      let (negative, digits) := Whole.readSign t
      match readPlaces 0 0 digits with
      | (size, count, []) =>
        if count = 0 then none else some (if negative then -(size : Int) else size)
      | _ => none
    else none

/-- A number without sign: digits, at least one of them before or behind the point. -/
def readUnsigned? (negative : Bool) (t : Text) : Option Double :=
  let (whole, before, rest) := readPlaces 0 0 t
  let (digits, behind, rest) := match rest with
    | '.' :: places => readPlaces whole 0 places
    | rest => (whole, 0, rest)
  if before + behind = 0 then none
  else (readExponent? rest).map fun power => ofDecimal negative digits (power - behind)

def read? (written : Text) : Option Double :=
  let trimmed := ((written.dropWhile Whole.isMargin).reverse.dropWhile Whole.isMargin).reverse
  let (negative, t) := Whole.readSign trimmed
  let word := t.map Char.toLower
  if word == ("inf" : Text) || word == ("infinity" : Text) then some (.infinity negative)
  else if word == ("nan" : Text) then some .nan
  else readUnsigned? negative t

end SymbolPath.Double
