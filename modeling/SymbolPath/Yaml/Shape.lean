import SymbolPath.Value
import SymbolPath.Yaml.Document
import SymbolPath.Yaml.Merge
import SymbolPath.Yaml.ScalarValue

/-!
What the nodes of a document become. A scalar becomes a value at once. A collection is first noted,
and its parts are looked at when its turn comes, in the order of the notes; so a collection may be a
part of itself, and a scalar that cannot be read may show before a malformed collection that stands
further up.
-/

namespace SymbolPath.Yaml

inductive Shape where
  | value (v : Value)
  | list (items : List Place)
  | map (entries : List (Place × Place))
  | set (members : List Place)
  | pairs (entries : List (Place × Place))
deriving Repr, Inhabited

structure Shaping where
  nodes : Nodes
  shapes : Array (Option Shape)
  /-- The collections noted, of which the first `visited` have their shapes. -/
  noted : Array Place
  visited : Nat

abbrev Shaper := StateT Shaping (Except Refusal)

namespace Shaper

def setShape (place : Place) (shape : Shape) : Shaper Unit :=
  modify fun s => { s with shapes := s.shapes.modify place fun _ => some shape }

def shapeAt (place : Place) : Shaper (Option Shape) :=
  return ((← get).shapes[place]?).getD none

/-- The text of a node under a scalar's tag. A mapping has the text of its default value. -/
def scalarPoints (nodes : Nodes) : Nat → Place → Except Refusal (List Nat)
  | 0, _ => .error .endless
  | steps + 1, place =>
    match (nodes.node place).content with
    | .scalar points => .ok points
    | .sequence _ => .error .malformed
    | .mapping entries =>
      match entries.find? fun entry => (nodes.node entry.1).tag == .default with
      | some (_, value) => scalarPoints nodes steps value
      | none => .error .malformed

def isMapping : Content → Bool
  | .mapping _ => true
  | _ => false

/-- The value of a node under a scalar's tag. A moment is read from a scalar only. -/
def scalarValue (nodes : Nodes) (place : Place) : Except Refusal Value := do
  let node := nodes.node place
  let points ← scalarPoints nodes (nodes.size + 1) place
  if node.tag == .moment && isMapping node.content then throw .momentOfMapping
  ofScalar node.tag points

def isCollection : Tag → Bool
  | .list => true
  | .map => true
  | .set => true
  | .orderedMap => true
  | .pairs => true
  | _ => false

def unvisited : Shape := .list []

def shape (place : Place) : Shaper (Option Value) := do
  match ← shapeAt place with
  | some (.value v) => pure (some v)
  | some _ => pure none
  | none =>
    let nodes := (← get).nodes
    if isCollection (nodes.node place).tag then
      setShape place unvisited
      modify fun s => { s with noted := s.noted.push place }
      pure none
    else
      let v ← scalarValue nodes place
      setShape place (.value v)
      pure (some v)

structure Entry where
  key : Value
  keyPlace : Place
  valuePlace : Place

def putEntry (entries : List Entry) (entry : Entry) : List Entry :=
  if entries.any fun other => other.key.sameKey entry.key then
    entries.map fun other =>
      if other.key.sameKey entry.key then { other with valuePlace := entry.valuePlace } else other
  else entries ++ [entry]

def shapeEntries (seen : List Entry) : List (Place × Place) → Shaper (List Entry)
  | [] => pure seen
  | (keyPlace, valuePlace) :: rest => do
    match ← shape keyPlace with
    | none => throw .malformed
    | some key =>
      discard (shape valuePlace)
      shapeEntries (putEntry seen ⟨key, keyPlace, valuePlace⟩) rest

def shapeMapping (mergeSteps : Nat) (place : Place) : Shaper (List (Place × Place)) := do
  let s ← get
  match (s.nodes.node place).content with
  | .mapping _ =>
    let ((), nodes) ← (Merging.flatten mergeSteps place).run s.nodes
    set { s with nodes := nodes }
    let entries ← shapeEntries [] (nodes.entriesAt place)
    pure (entries.map fun entry => (entry.keyPlace, entry.valuePlace))
  | _ => throw .malformed

def shapePair (place : Place) : Shaper (Place × Place) := do
  match ((← get).nodes.node place).content with
  | .mapping [(key, value)] =>
    discard (shape key)
    discard (shape value)
    pure (key, value)
  | _ => throw .malformed

def sequenceItems (place : Place) : Shaper (List Place) := do
  match ((← get).nodes.node place).content with
  | .sequence items => pure items
  | _ => throw .malformed

def visit (mergeSteps : Nat) (place : Place) : Shaper Unit := do
  match ((← get).nodes.node place).tag with
  | .map => setShape place (.map (← shapeMapping mergeSteps place))
  | .set => setShape place (.set ((← shapeMapping mergeSteps place).map Prod.fst))
  | .list =>
    let items ← sequenceItems place
    items.forM fun item => discard (shape item)
    setShape place (.list items)
  | _ =>
    let items ← sequenceItems place
    setShape place (.pairs (← items.mapM shapePair))

/-- Visits the collections noted, and those noted meanwhile. Each node is noted once at most. -/
def visitAll (mergeSteps : Nat) : Nat → Shaper Unit
  | 0 => pure ()
  | steps + 1 => do
    let s ← get
    match s.noted[s.visited]? with
    | none => pure ()
    | some place =>
      set { s with visited := s.visited + 1 }
      visit mergeSteps place
      visitAll mergeSteps steps

end Shaper

def Document.shapes (document : Document) : Except Refusal (Array (Option Shape)) := do
  let nodes := document.nodes
  let start : Shaping := ⟨nodes, Array.replicate nodes.size none, #[], 0⟩
  let ((), s) ← (do
    discard (Shaper.shape document.root)
    Shaper.visitAll (Merging.enoughSteps nodes) nodes.size : Shaper Unit).run start
  pure s.shapes

end SymbolPath.Yaml
