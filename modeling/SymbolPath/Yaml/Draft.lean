import SymbolPath.Text.Base64
import SymbolPath.Value
import SymbolPath.Yaml.Tag

/-!
What is to be written of a value: its scalars as texts with tags, its mappings sorted by their keys
where these can be compared, and a mere reference in every place but the first where one and the
same collection or moment stands. A number of too many digits cannot be written.
-/

namespace SymbolPath.Yaml

inductive Draft where
  | reference (label : Label)
  | scalar (anchor : Option Label) (tag : Tag) (points : List Nat)
  | sequence (anchor : Option Label) (tag : Tag) (items : List Draft)
  | mapping (anchor : Option Label) (tag : Tag) (entries : List (Draft × Draft))
deriving Repr, Inhabited

abbrev Drafter := StateT (List Label) Option

/-- A number always has a point, so that it does not read as a text. -/
def floatText (d : Double) : Text :=
  match d with
  | .nan => ".nan"
  | .infinity negative => if negative then "-.inf" else ".inf"
  | finite =>
    let t := finite.text
    if t.contains '.' then t
    else t.flatMap fun c => if c == 'e' then ['.', '0', 'e'] else [c]

namespace Draft

def ofText (tag : Tag) (t : Text) : Draft := .scalar none tag t.points

def ofNothing : Draft := ofText .null "null"

def withAnchor (label : Label) : Draft → Draft
  | .reference other => .reference other
  | .scalar _ tag points => .scalar (some label) tag points
  | .sequence _ tag items => .sequence (some label) tag items
  | .mapping _ tag entries => .mapping (some label) tag entries

/-- Drafts entries in the order of their keys, or as they are if there is no such order. -/
def inOrder (entries : List (Value × Drafter (Draft × Draft))) : Drafter (List (Draft × Draft)) :=
  ((Value.sortBy? Prod.fst entries).getD entries).mapM Prod.snd

mutual

def ofValue : Value → Drafter Draft
  | .null => pure ofNothing
  | .bool b => pure (ofText .bool (if b then "true" else "false"))
  | .int n => do
    match Whole.text? n with
    | some t => pure (ofText .int t)
    | none => failure
  | .float d => pure (ofText .float (floatText d))
  | .text t => pure (ofText .text t)
  | .fragment points => pure (.scalar none .text points)
  | .bytes b => pure (ofText .binary (Text.Base64.encodeInLines b))
  | .moment m => pure (ofText .moment m.text)
  | .list items => return .sequence none .list (← ofItems items)
  | .pair first second => return .sequence none .pair [← ofValue first, ← ofValue second]
  | .set members => return .mapping none .set (← inOrder (ofMembers members))
  | .map entries => return .mapping none .map (← inOrder (ofEntries entries))
  | .shared label _ v => do
    if (← get).contains label then return .reference label
    modify (label :: ·)
    return (← ofValue v).withAnchor label
  | .again label => pure (.reference label)

def ofItems : List Value → Drafter (List Draft)
  | [] => pure []
  | item :: rest => return (← ofValue item) :: (← ofItems rest)

def ofMembers : List Value → List (Value × Drafter (Draft × Draft))
  | [] => []
  | member :: rest => (member, (·, ofNothing) <$> ofValue member) :: ofMembers rest

def ofEntries : List (Value × Value) → List (Value × Drafter (Draft × Draft))
  | [] => []
  | (key, value) :: rest => (key, do return (← ofValue key, ← ofValue value)) :: ofEntries rest

end

mutual

def references : Draft → List Label
  | .reference label => [label]
  | .scalar .. => []
  | .sequence _ _ items => referencesIn items
  | .mapping _ _ entries => referencesOf entries

def referencesIn : List Draft → List Label
  | [] => []
  | item :: rest => references item ++ referencesIn rest

def referencesOf : List (Draft × Draft) → List Label
  | [] => []
  | (key, value) :: rest => references key ++ references value ++ referencesOf rest

end

def of? (v : Value) : Option Draft :=
  Prod.fst <$> (ofValue v).run []

end Draft
end SymbolPath.Yaml
