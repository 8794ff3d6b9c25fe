import SymbolPath.Yaml.Shape

/-!
Reading YAML. Scalars become what their tags say, or what their spelling says where they have none;
mappings keep the last value of a repeated key. Where a text has references, its collections and
moments carry labels, so that one and the same value can be told from a like one.
-/

namespace SymbolPath.Yaml

inductive Labelling where
  | unlabelled
  | ofFile (number : Nat)
deriving DecidableEq, Repr

namespace Labelling

def wrap (labelling : Labelling) (place : List Nat) (loops : Bool) (v : Value) : Value :=
  match labelling with
  | .unlabelled => v
  | .ofFile number => .shared (number :: place) loops v

/-- Moments are told apart, as collections are. -/
def wrapScalar (labelling : Labelling) (place : Place) (v : Value) : Value :=
  match v with
  | .moment m => labelling.wrap [place] false (.moment m)
  | v => v

def again (labelling : Labelling) (place : Place) : Value :=
  match labelling with
  | .unlabelled => .null
  | .ofFile number => .again [number, place]

end Labelling

/-- The values of places, as far as they are known, and do not lie inside themselves. -/
abbrev Known := Array (Option Value)

structure Unfolded where
  value : Value
  backTo : List Place
deriving Inhabited

namespace Unfolded

variable (labelling : Labelling) (shapes : Array (Option Shape))

def collection (place : Place) (backTo : List Place) (v : Value) : Unfolded :=
  ⟨labelling.wrap [place] (backTo.contains place) v, backTo.filter (· != place)⟩

def pairAt (place : Place) (position : Nat) (first second : Unfolded) : Unfolded :=
  ⟨labelling.wrap [place, position] false (.pair first.value second.value),
    first.backTo ++ second.backTo⟩

def ofShape (unfold : Place → StateM Known Unfolded) (place : Place) :
    Shape → StateM Known Unfolded
  | .value v => pure ⟨labelling.wrapScalar place v, []⟩
  | .set members => do
    let parts ← members.mapM unfold
    pure (collection labelling place [] (.set (parts.map value)))
  | .list items => do
    let parts ← items.mapM unfold
    pure (collection labelling place (parts.flatMap backTo) (.list (parts.map value)))
  | .map entries => do
    let keys ← entries.mapM fun entry => unfold entry.1
    let parts ← entries.mapM fun entry => unfold entry.2
    pure (collection labelling place (parts.flatMap backTo)
      (.map ((keys.map value).zip (parts.map value))))
  | .pairs entries => do
    let parts ← entries.zipIdx.mapM fun ((first, second), position) => do
      return pairAt labelling place position (← unfold first) (← unfold second)
    pure (collection labelling place (parts.flatMap backTo) (.list (parts.map value)))

/-- The value of a place inside the places `outer`. A value that leads back to one of these is not
the same elsewhere, so it is not kept. -/
def ofPlace : Nat → List Place → Place → StateM Known Unfolded
  | 0, _, _ => pure ⟨.null, []⟩
  | steps + 1, outer, place => do
    if outer.contains place then return ⟨labelling.again place, [place]⟩
    match (← get)[place]? with
    | some (some v) => pure ⟨v, []⟩
    | _ =>
      let shape := (shapes[place]?.getD none).getD (.value .null)
      let unfolded ← ofShape labelling (ofPlace steps (place :: outer)) place shape
      if unfolded.backTo.isEmpty then
        modify fun known => known.modify place fun _ => some unfolded.value
      pure unfolded

end Unfolded

def Document.value (document : Document) (labelling : Labelling) : Except Refusal Value := do
  let shapes ← document.shapes
  let (unfolded, _) := (Unfolded.ofPlace labelling shapes (shapes.size + 1) [] document.root).run
    (Array.replicate shapes.size none)
  pure unfolded.value

def read (file : Nat) (supply : Supply) : Except Refusal Value := do
  let document ← Document.ofTokens (Tokens.ofSupply supply)
  document.value (if document.hasReferences then .ofFile file else .unlabelled)

end SymbolPath.Yaml
