import SymbolPath.Text

/-!
Prototype chains. A member of a prototype is an instance member, so `.prototype.` and a trailing
`.prototype` are both written `#`.
-/

namespace SymbolPath.Path

/-- The number of characters of a prototype segment that `t` begins with, a dot behind it
included. -/
def prototypeLength? (t : Text) : Option Nat :=
  match Text.dropStart? ".prototype" t with
  | none => none
  | some ('.' :: _) => some 11
  | some _ => some 10

/-- Skips the characters that are still part of a segment already written. -/
def foldPrototypeFrom : Nat → Text → Text
  | _, [] => []
  | inside + 1, _ :: rest => foldPrototypeFrom inside rest
  | 0, c :: rest =>
    match prototypeLength? (c :: rest) with
    | some length => '#' :: foldPrototypeFrom (length - 1) rest
    | none => c :: foldPrototypeFrom 0 rest

def foldPrototype (path : Text) : Text :=
  foldPrototypeFrom 0 path

end SymbolPath.Path
