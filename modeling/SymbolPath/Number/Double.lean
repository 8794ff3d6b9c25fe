/-!
Binary floating-point numbers of double precision, held exactly: a finite number is
`± significand * 2 ^ exponent`. A decimal is rounded to the nearest one, a tie to the even
significand.
-/

namespace SymbolPath

inductive Double where
  | nan
  | infinity (negative : Bool)
  | finite (negative : Bool) (significand : Nat) (exponent : Int)
deriving DecidableEq, Repr

namespace Double

def significandBound : Nat := Nat.pow 2 53

def leastExponent : Int := -1074

def greatestExponent : Int := 971

def zero (negative : Bool) : Double :=
  .finite negative 0 leastExponent

def isZero : Double → Bool
  | .finite _ 0 _ => true
  | _ => false

/-- `num / den` over `2 ^ e`, as a numerator and a denominator. -/
def scaled (num den : Nat) (e : Int) : Nat × Nat :=
  if e < 0 then (num * Nat.pow 2 e.natAbs, den) else (num, den * Nat.pow 2 e.natAbs)

/-- The quotient rounded to the nearest whole number, a tie to the even one. -/
def roundQuotient (num den : Nat) : Nat :=
  let q := num / den
  let twice := 2 * (num % den)
  if twice < den then q
  else if twice > den then q + 1
  else if q % 2 = 0 then q else q + 1

def ofRatio (negative : Bool) (num den : Nat) : Double :=
  if num = 0 then zero negative
  else
    let guess : Int := (Nat.log2 num : Int) - Nat.log2 den - 52
    let (n, d) := scaled num den guess
    let exact := if n / d < significandBound / 2 then guess - 1 else guess
    let e := max exact leastExponent
    let (n, d) := scaled num den e
    let m := roundQuotient n d
    let (m, e) := if m = significandBound then (m / 2, e + 1) else (m, e)
    if e > greatestExponent then .infinity negative else .finite negative m e

/-- The double nearest to `± digits * 10 ^ power`. Powers beyond the reach of every double are not
computed. -/
def ofDecimal (negative : Bool) (digits : Nat) (power : Int) : Double :=
  let size : Int := power + (Nat.log2 digits : Int) * 30103 / 100000
  if digits = 0 then zero negative
  else if size > 400 then .infinity negative
  else if size < -400 then zero negative
  else if power < 0 then ofRatio negative digits (Nat.pow 10 power.natAbs)
  else ofRatio negative (digits * Nat.pow 10 power.natAbs) 1

def negate : Double → Double
  | .nan => .nan
  | .infinity negative => .infinity !negative
  | .finite negative m e => .finite (!negative) m e

def ofWhole (n : Int) : Double :=
  ofRatio (decide (n < 0)) n.natAbs 1

def isInfinite : Double → Bool
  | .infinity _ => true
  | _ => false

def truncate? : Double → Option Int
  | .finite negative m e =>
    let size : Nat := if e < 0 then m / Nat.pow 2 e.natAbs else m * Nat.pow 2 e.natAbs
    some (if negative then -size else size)
  | _ => none

def fraction (negative : Bool) (m : Nat) (e : Int) : Int × Nat :=
  let (num, den) := if e < 0 then (m, Nat.pow 2 e.natAbs) else (m * Nat.pow 2 e.natAbs, 1)
  (if negative then -(num : Int) else num, den)

def mul (a b : Double) : Double :=
  match a, b with
  | .nan, _ => .nan
  | _, .nan => .nan
  | .infinity s, .infinity s' => .infinity (s != s')
  | .infinity s, .finite s' m _ => if m = 0 then .nan else .infinity (s != s')
  | .finite s m _, .infinity s' => if m = 0 then .nan else .infinity (s != s')
  | .finite s m e, .finite s' m' e' =>
    let (num, den) := fraction false m e
    let (num', den') := fraction false m' e'
    ofRatio (s != s') (num * num').natAbs (den * den')

/-- The sum, rounded. Opposite numbers make a positive zero. -/
def add (a b : Double) : Double :=
  match a, b with
  | .nan, _ => .nan
  | _, .nan => .nan
  | .infinity s, .infinity s' => if s = s' then .infinity s else .nan
  | .infinity s, .finite .. => .infinity s
  | .finite .., .infinity s' => .infinity s'
  | .finite s m e, .finite s' m' e' =>
    let (num, den) := fraction s m e
    let (num', den') := fraction s' m' e'
    let sum := num * den' + num' * den
    if sum = 0 then zero (s && s') else ofRatio (decide (sum < 0)) sum.natAbs (den * den')

def isWhole (n : Int) : Double → Bool
  | .finite negative m e =>
    let (num, den) := fraction negative m e
    num == n * den
  | _ => false

/-- Is `a` below `b`? Not a number is below nothing and above nothing. -/
def lt (a b : Double) : Bool :=
  match a, b with
  | .nan, _ => false
  | _, .nan => false
  | .infinity s, b => s && b != .infinity true
  | _, .infinity s' => !s'
  | .finite s m e, .finite s' m' e' =>
    let (num, den) := fraction s m e
    let (num', den') := fraction s' m' e'
    num * den' < num' * den

def ltWhole (d : Double) (n : Int) : Bool :=
  match d with
  | .nan => false
  | .infinity s => s
  | .finite s m e =>
    let (num, den) := fraction s m e
    num < n * den

def wholeLt (n : Int) (d : Double) : Bool :=
  match d with
  | .nan => false
  | .infinity s => !s
  | .finite s m e =>
    let (num, den) := fraction s m e
    n * den < num

end Double
end SymbolPath
