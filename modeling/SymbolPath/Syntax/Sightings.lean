import SymbolPath.Syntax.Cursor

/-!
Nodes are told apart by kind and span alone. Where several nodes of a file agree in both, the one
looked at first stands for all of them from then on. In a file without such nodes every node stands
for itself.
-/

namespace SymbolPath.Syntax

/-- The nodes looked at so far, each the first with its key. -/
structure Sightings where
  cursors : List Cursor
deriving Repr

abbrev Browse := StateM Sightings

namespace Sightings

def empty : Sightings := ⟨[]⟩

def find? (seen : Sightings) (key : Key) : Option Cursor :=
  seen.cursors.find? fun c => c.key == key

end Sightings

/-- The node that stands for a given one. -/
def settle (c : Cursor) : Browse Cursor := fun seen =>
  match seen.find? c.key with
  | some first => (first, seen)
  | none => (c, ⟨c :: seen.cursors⟩)

def settle? : Option Cursor → Browse (Option Cursor)
  | none => pure none
  | some c => some <$> settle c

def lookInto (name : Text) (c : Cursor) : Browse (Option Cursor) :=
  settle? (c.field? name)

end SymbolPath.Syntax
