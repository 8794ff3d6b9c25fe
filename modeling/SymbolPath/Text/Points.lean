import SymbolPath.Text

/-!
Code points. Every character has one; the code points of surrogates have no character, so a list of
code points is a text only if it has none of them.
-/

namespace SymbolPath.Text

def points (t : Text) : List Nat :=
  t.map Char.toNat

def charOfPoint? (n : Nat) : Option Char :=
  if n.isValidChar then some (Char.ofNat n) else none

def ofPoints? (points : List Nat) : Option Text :=
  points.mapM charOfPoint?

theorem charOfPoint?_toNat (c : Char) : charOfPoint? c.toNat = some c := by
  have valid : c.toNat.isValidChar := c.valid
  simp [charOfPoint?, valid]

end SymbolPath.Text
