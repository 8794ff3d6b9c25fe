import SymbolPath.Yaml.Node
import SymbolPath.Yaml.Refusal

/-!
Merge keys. The value of a merge key is a mapping, or a sequence of mappings, whose entries come into
the mapping around it, before its own ones, which therefore win. Of several mappings in a sequence
the first wins.

A mapping can be merged into itself; its merge keys are taken out first, so merging ends.
-/

namespace SymbolPath.Yaml

abbrev Merging := StateT Nodes (Except Refusal)

namespace Merging

/-- The entries of a mapping whose own merge keys have been replaced by `flatten`. -/
def flatEntries (flatten : Place → Merging Unit) (place : Place) :
    Merging (List (Place × Place)) := do
  match ((← get).node place).content with
  | .mapping _ =>
    flatten place
    return (← get).entriesAt place
  | _ => throw .malformed

def broughtIn (flatten : Place → Merging Unit) (value : Place) :
    Merging (List (Place × Place)) := do
  match ((← get).node value).content with
  | .sequence items => return (← items.mapM (flatEntries flatten)).reverse.flatten
  | _ => flatEntries flatten value

/-- Takes the merge keys out of a mapping, and returns what they bring in. `before` holds the entries
that were passed, the last first. A key that marks a default value is a text from now on. -/
def takeMergeKeys (flatten : Place → Merging Unit) (place : Place) (before : List (Place × Place)) :
    List (Place × Place) → Merging (List (Place × Place))
  | [] => pure []
  | (key, value) :: rest => do
    match ((← get).node key).tag with
    | .merge =>
      modify fun nodes => nodes.setContent place (.mapping (before.reverse ++ rest))
      let entries ← broughtIn flatten value
      return entries ++ (← takeMergeKeys flatten place before rest)
    | .default =>
      modify fun nodes => nodes.setTag key .text
      takeMergeKeys flatten place ((key, value) :: before) rest
    | _ => takeMergeKeys flatten place ((key, value) :: before) rest

/-- Replaces the merge keys of a mapping by what they bring in. Every step down takes out one. -/
def flatten : Nat → Place → Merging Unit
  | 0, _ => throw .malformed
  | steps + 1, place => do
    let entries ← takeMergeKeys (flatten steps) place [] ((← get).entriesAt place)
    unless entries.isEmpty do
      modify fun nodes => nodes.setContent place (.mapping (entries ++ nodes.entriesAt place))

/-- More steps than there are merge keys. -/
def enoughSteps (nodes : Nodes) : Nat :=
  nodes.foldl (fun count node => match node.content with
    | .mapping entries => count + entries.length
    | _ => count) 1

end Merging
end SymbolPath.Yaml
