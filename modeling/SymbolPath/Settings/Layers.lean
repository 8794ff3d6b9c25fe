import SymbolPath.Settings
import SymbolPath.Text.Blank
import SymbolPath.Yaml.Reader

/-!
Where settings come from. The environment, the file of the user and the file of the project are
layers of one mapping, each laid over the one before it; what none of them sets is standard. A file
that is missing or malformed is an empty layer, and layers that make no settings are all set aside.
-/

namespace SymbolPath

structure Environment where
  docspaceKinds : Text
  format : Text
deriving DecidableEq, Repr

namespace Settings

/-- The items of a list written with commas. Blanks around items, and empty items, do not count. -/
def splitList (written : Text) : List Text :=
  ((Text.splitOn ',' written).map Text.trim).filter fun item => !item.isEmpty

def listOf (written : Text) : List Value :=
  (splitList written).map .text

/-- How far down mappings are laid over each other. It stands for the limit on recursion, which also
counts the callers. Mappings that contain themselves reach it, and so do long chains of others. -/
def levelLimit : Nat := 1000

def bothEntries? (below : Option Value) (value : Value) : Option (Mapping × Mapping) := do
  return (← (← below).entries?, ← value.entries?)

/-- Lays a mapping over another, some levels down: its values win, and mappings under the same key
are merged. -/
def mergeTo : Nat → Mapping → Mapping → Mapping
  | 0, _, entries => entries
  | levels + 1, base, entries =>
    entries.foldl (fun merged (key, value) =>
      merged.put key (match bothEntries? (merged.find? key) value with
        | some (below, above) => .map (mergeTo levels below above)
        | none => value)) base

def merge (base entries : Mapping) : Mapping :=
  mergeTo levelLimit base entries

/-- Do mappings lie over each other that many levels down? -/
def reaches : Nat → Mapping → Mapping → Bool
  | 0, _, _ => true
  | levels + 1, base, entries =>
    entries.any fun (key, value) => match bothEntries? (base.find? key) value with
      | some (below, above) => reaches levels below above
      | none => false

def environmentLayer (environment : Environment) : Mapping :=
  let kinds : Mapping :=
    if environment.docspaceKinds.isEmpty then []
    else [(.text "resolver",
      .map [(.text "docspace_kinds", .list (listOf environment.docspaceKinds))])]
  let format : Mapping :=
    if environment.format.isEmpty then []
    else [(.text "display", .map [(.text "format", .text environment.format)])]
  kinds ++ format

inductive Source where
  | userFile
  | projectFile
deriving DecidableEq, Repr

def Source.number : Source → Nat
  | .userFile => 0
  | .projectFile => 1

/-- The layer of a file, if there is one. A text that cannot be decoded, and a scalar that its tag
cannot read, are not passed over in silence. -/
def fileLayer (source : Source) : Option Bytes → Except Failure Mapping
  | none => .ok []
  | some bytes =>
    match Yaml.read source.number (Yaml.Supply.ofBytes bytes) with
    | .ok v => .ok (v.entries?.getD [])
    | .error .malformed => .ok []
    | .error reason => .error (.unreadableFile reason)

def ofLayers (environment user project : Mapping) : Except Failure Settings :=
  match ofValue (.map (merge (merge environment user) project)) with
  | .ok settings => .ok settings
  | .error .infiniteSize => .error .infiniteSize
  | .error _ => .ok standard

def load (environment : Environment) (user project : Option Bytes) : Except Failure Settings := do
  let environment := environmentLayer environment
  let user ← fileLayer .userFile user
  let project ← fileLayer .projectFile project
  if reaches levelLimit (merge environment user) project then throw .endless
  ofLayers environment user project

end Settings
end SymbolPath
