import SymbolPath.Text

/-!
Hexadecimal numbers of a fixed width.
-/

namespace SymbolPath.Text

/-- The last `width` hexadecimal digits of `n`, small letters. -/
def hex : Nat → Nat → Text
  | 0, _ => []
  | width + 1, n => hex width (n / 16) ++ [Nat.digitChar (n % 16)]

def hexCapital (width n : Nat) : Text :=
  (hex width n).map Char.toUpper

def hexValue? (c : Char) : Option Nat :=
  if '0' ≤ c ∧ c ≤ '9' then some (c.toNat - '0'.toNat)
  else if 'a' ≤ c ∧ c ≤ 'f' then some (c.toNat - 'a'.toNat + 10)
  else if 'A' ≤ c ∧ c ≤ 'F' then some (c.toNat - 'A'.toNat + 10)
  else none

end SymbolPath.Text
