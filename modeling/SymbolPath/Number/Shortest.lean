import SymbolPath.Number.Double
import SymbolPath.Text

/-!
The shortest decimal that reads back as a given double, and its text.

For 1, 2, up to 17 digits the two neighbours of the number on that decimal grid are tried; the
first grid with a neighbour that still rounds to the number wins, and of two such neighbours the
nearer, a tie going to the even digit. The text is positional from `0.0001` to below `10 ^ 16`, and
has an exponent of at least two digits otherwise.
-/

namespace SymbolPath.Double

structure Ratio where
  num : Nat
  den : Nat
deriving DecidableEq, Repr

def Ratio.le (a b : Ratio) : Bool := a.num * b.den ≤ b.num * a.den

def Ratio.lt (a b : Ratio) : Bool := a.num * b.den < b.num * a.den

def Ratio.ofPower (base count : Nat) (power : Int) : Ratio :=
  if power < 0 then ⟨count, Nat.pow base power.natAbs⟩ else ⟨count * Nat.pow base power.natAbs, 1⟩

structure Decimal where
  digits : Nat
  power : Int
deriving DecidableEq, Repr

def Decimal.ratio (d : Decimal) : Ratio :=
  Ratio.ofPower 10 d.digits d.power

/-- Does the decimal round to `m * 2 ^ e`? The ends of the interval count when `m` is even. Below a
power of two the doubles lie twice as close, so the ends are counted in quarters of a unit. -/
def roundsTo (decimal : Decimal) (m : Nat) (e : Int) : Bool :=
  let below := if m = significandBound / 2 && e > leastExponent then 1 else 2
  let low := Ratio.ofPower 2 (4 * m - below) (e - 2)
  let high := Ratio.ofPower 2 (4 * m + 2) (e - 2)
  if m % 2 = 0 then low.le decimal.ratio && decimal.ratio.le high
  else low.lt decimal.ratio && decimal.ratio.lt high

/-- Is the decimal at least as near to `m * 2 ^ e` as the next one on its grid? A tie goes to the
even one. -/
def nearerBelow (below : Decimal) (m : Nat) (e : Int) : Bool :=
  let middle := Ratio.ofPower 10 (2 * below.digits + 1) below.power
  let value := Ratio.ofPower 2 (2 * m) e
  value.lt middle || (value.le middle && below.digits % 2 == 0)

/-- The place of the point: the least `k` with `m * 2 ^ e < 10 ^ k`. -/
def pointPlace (m : Nat) (e : Int) : Int :=
  let value := Ratio.ofPower 2 m e
  let guess : Int := ((Nat.log2 m : Int) + e) * 30103 / 100000
  let reaches (k : Int) : Bool := (Ratio.ofPower 10 1 k).le value
  if reaches (guess + 1) then guess + 2 else if reaches guess then guess + 1 else guess

def shortestFrom (m : Nat) (e place : Int) (count : Nat) : Nat → Decimal
  | 0 => ⟨0, 0⟩
  | tries + 1 =>
    let power := place - count
    let value := Ratio.ofPower 2 m e
    let unit := Ratio.ofPower 10 1 power
    let floor := value.num * unit.den / (value.den * unit.num)
    let below : Decimal := ⟨floor, power⟩
    let above : Decimal := ⟨floor + 1, power⟩
    match roundsTo below m e, roundsTo above m e with
    | true, true => if nearerBelow below m e then below else above
    | true, false => below
    | false, true => above
    | false, false => shortestFrom m e place (count + 1) tries

def shortest (m : Nat) (e : Int) : Decimal :=
  shortestFrom m e (pointPlace m e) 1 17

def Decimal.text (d : Decimal) : Text :=
  let digits := Text.ofNat d.digits
  -- the point stands after this many digits
  let place : Int := d.power + digits.length
  let bare := (digits.reverse.dropWhile (· == '0')).reverse
  if place ≤ -4 || place > 16 then
    let mantissa := match bare with
      | [] => []
      | [c] => [c]
      | c :: rest => c :: '.' :: rest
    let exponent := place - 1
    let size := Text.ofNat exponent.natAbs
    let padded := if size.length < 2 then '0' :: size else size
    mantissa ++ 'e' :: (if exponent < 0 then '-' else '+') :: padded
  else if place ≤ 0 then
    "0." ++ List.replicate place.natAbs '0' ++ bare
  else
    let whole := bare.take place.natAbs
    let fraction := bare.drop place.natAbs
    whole ++ List.replicate (place.natAbs - whole.length) '0' ++
      '.' :: (if fraction.isEmpty then ['0'] else fraction)

def text : Double → Text
  | .nan => "nan"
  | .infinity negative => if negative then "-inf" else "inf"
  | .finite negative 0 _ => if negative then "-0.0" else "0.0"
  | .finite negative m e => (if negative then ['-'] else []) ++ (shortest m e).text

end SymbolPath.Double
