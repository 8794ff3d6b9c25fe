import SymbolPath.Yaml.Tag

/-!
The nodes of a YAML text: scalars, sequences and mappings. A reference stands for the node that its
anchor marks, so nodes are parts of others by their places, and a node may be a part of several
nodes, or of itself.
-/

namespace SymbolPath.Yaml

abbrev Place := Nat

inductive Content where
  | scalar (points : List Nat)
  | sequence (items : List Place)
  | mapping (entries : List (Place × Place))
deriving DecidableEq, Repr, Inhabited

structure Node where
  tag : Tag
  content : Content
deriving DecidableEq, Repr

/-- What is left out reads as nothing. -/
def Node.absent : Node := ⟨.null, .scalar []⟩

abbrev Nodes := Array Node

namespace Nodes

def at? (nodes : Nodes) (place : Place) : Option Node :=
  nodes[place]?

def node (nodes : Nodes) (place : Place) : Node :=
  (nodes.at? place).getD Node.absent

def setContent (nodes : Nodes) (place : Place) (content : Content) : Nodes :=
  nodes.modify place fun node => { node with content := content }

def setTag (nodes : Nodes) (place : Place) (tag : Tag) : Nodes :=
  nodes.modify place fun node => { node with tag := tag }

def entriesAt (nodes : Nodes) (place : Place) : List (Place × Place) :=
  match (nodes.node place).content with
  | .mapping entries => entries
  | _ => []

end Nodes
end SymbolPath.Yaml
