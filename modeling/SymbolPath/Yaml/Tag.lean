import SymbolPath.Text

/-!
Tags: what kind of value a node is to become. Tags of the standard kinds have names in a space of
their own; a text is written for a kind only by the tags that this library knows.
-/

namespace SymbolPath.Yaml

inductive Tag where
  | null
  | bool
  | int
  | float
  | moment
  | text
  | binary
  | list
  | map
  | set
  | orderedMap
  | pairs
  /-- The key of mappings to be merged into the one around it. -/
  | merge
  /-- The key of the value that a mapping stands for where a scalar is wanted. -/
  | default
  /-- A pair, which only the writer makes. -/
  | pair
  | unknown
deriving DecidableEq, Repr

namespace Tag

def standardSpace : Text := "tag:yaml.org,2002:"

def byName : List (Text × Tag) :=
  [("null", .null), ("bool", .bool), ("int", .int), ("float", .float), ("timestamp", .moment),
   ("str", .text), ("binary", .binary), ("seq", .list), ("map", .map), ("set", .set),
   ("omap", .orderedMap), ("pairs", .pairs), ("merge", .merge), ("value", .default)]

def ofName (name : Text) : Tag :=
  match Text.dropStart? standardSpace name with
  | some short => ((byName.find? fun entry => entry.1 == short).map Prod.snd).getD .unknown
  | none => .unknown

def shortName : Tag → Text
  | .pair => "python/tuple"
  | tag => ((byName.find? fun entry => entry.2 == tag).map Prod.fst).getD []

def written (tag : Tag) : Text := '!' :: '!' :: tag.shortName

end Tag
end SymbolPath.Yaml
