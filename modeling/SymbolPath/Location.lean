import SymbolPath.Text

/-!
Places in a file system, as written: a root and the names below it. Empty names and single dots
are dropped, double dots are kept. Exactly two leading slashes are a root of their own.
-/

namespace SymbolPath

inductive Root where
  | relative
  | absolute
  | doubled
deriving DecidableEq, Repr

structure Location where
  root : Root
  parts : List Text
deriving DecidableEq, Repr

namespace Location

def rootOf (written : Text) : Root :=
  match written.takeWhile (· == '/') with
  | [] => .relative
  | [_, _] => .doubled
  | _ => .absolute

def ofText (written : Text) : Location :=
  ⟨rootOf written,
    (Text.splitOn '/' written).filter fun part => !part.isEmpty && part != ['.']⟩

def rootText : Root → Text
  | .relative => []
  | .absolute => "/"
  | .doubled => "//"

/-- The location as it is written; a single dot if it has no names. -/
def text (l : Location) : Text :=
  match l.root, l.parts with
  | .relative, [] => ['.']
  | root, parts => rootText root ++ Text.joinWith ['/'] parts

def isAbsolute (l : Location) : Bool :=
  l.root != .relative

def append (l other : Location) : Location :=
  if other.isAbsolute then other else { l with parts := l.parts ++ other.parts }

def child (l : Location) (names : List Text) : Location :=
  { l with parts := l.parts ++ names }

def dropPrefixParts : List Text → List Text → Option (List Text)
  | [], parts => some parts
  | _ :: _, [] => none
  | a :: above, b :: parts => if a = b then dropPrefixParts above parts else none

/-- The names that lead from `base` down to `l`, if `l` lies at or below it as written. -/
def below? (l base : Location) : Option Location :=
  if base.root = l.root then (⟨.relative, ·⟩) <$> dropPrefixParts base.parts l.parts else none

/-- The ending of a file name: its last dot and what follows, unless the dot is first or last. -/
def suffixOf (name : Text) : Text :=
  match name.reverse.dropWhile (· != '.') with
  | [] => []
  | _ :: before =>
    let ending := name.drop before.length
    if before.isEmpty || ending.length ≤ 1 then [] else ending

def suffix (l : Location) : Text :=
  (l.parts.getLast?.map suffixOf).getD []

end Location
end SymbolPath
