import SymbolPath.Yaml.Node
import SymbolPath.Yaml.Scalar
import SymbolPath.Yaml.Token

/-!
The document of a YAML text, from its tokens. An anchor must come before the references to it, and
only once, though a reference may stand inside the node that it means. A text holds one document, or
none. What is wrong behind the last token shows when that token has been used up.
-/

namespace SymbolPath.Yaml

structure Document where
  nodes : Nodes
  root : Place
  hasReferences : Bool
deriving Repr

structure Reading where
  tokens : List Token
  /-- What is wrong behind the tokens, if anything. -/
  fault : Option Refusal
  nodes : Nodes
  anchors : List (Text × Place)
  handles : List (Text × Text)
  hasReferences : Bool
  /-- The number of collections around the next node. -/
  depth : Nat

abbrev Reader := StateT Reading (Except Refusal)

namespace Reader

def refuse {α : Type} : Reader α := throw .malformed

def demand (holds : Bool) : Reader Unit := if holds then pure () else refuse

def peek : Reader (Option Token) := do
  let r ← get
  match r.tokens, r.fault with
  | [], some reason => throw reason
  | tokens, _ => pure tokens.head?

def advance : Reader Unit := modify fun r => { r with tokens := r.tokens.drop 1 }

def accept (token : Token) : Reader Bool := do
  if (← peek) == some token then
    advance
    pure true
  else pure false

def isNext (tokens : List Token) : Reader Bool := do
  match ← peek with
  | some token => pure (tokens.contains token)
  | none => pure true

def fullTag (handle : Option Text) (suffix : Text) : Reader Text := do
  match handle with
  | none => pure suffix
  | some handle =>
    match (← get).handles.find? fun entry => entry.1 == handle with
    | some (_, start) => pure (start ++ suffix)
    | none => refuse

/-- The properties before a node: an anchor and a tag, each at most once, in either order. -/
structure Properties where
  anchor : Option Text
  tag : Option Text

def takeAnchor : Reader (Option Text) := do
  match ← peek with
  | some (.anchor name) => advance; pure (some name)
  | _ => pure none

def takeTag : Reader (Option (Option Text × Text)) := do
  match ← peek with
  | some (.tag handle suffix) => advance; pure (some (handle, suffix))
  | _ => pure none

/-- A handle is looked up when both properties have been read. -/
def takeProperties : Reader Properties := do
  let first ← takeAnchor
  let tag ← takeTag
  let anchor ← if first.isNone && tag.isSome then takeAnchor else pure first
  match tag with
  | some (handle, suffix) => pure ⟨anchor, some (← fullTag handle suffix)⟩
  | none => pure ⟨anchor, none⟩

/-- The tag that leaves the choice open. -/
def openTag : Text := ['!']

def collectionTag (usual : Tag) (written : Option Text) : Tag :=
  match written with
  | none => usual
  | some name => if name == openTag then usual else Tag.ofName name

/-- The tag of a scalar: the one written, or else what the spelling of a plain scalar tells. -/
def scalarTag (written : Option Text) (isPlain : Bool) (points : List Nat) : Tag :=
  if written == some openTag || (isPlain && written.isNone) then
    match Text.ofPoints? points with
    | some t => Tag.ofPlain t
    | none => .text
  else match written with
    | some name => Tag.ofName name
    | none => .text

/-- Adds a node, which its anchor marks from now on. -/
def add (anchor : Option Text) (node : Node) : Reader Place := do
  let r ← get
  let place := r.nodes.size
  match anchor with
  | none => set { r with nodes := r.nodes.push node }
  | some name =>
    demand (!r.anchors.any fun entry => entry.1 == name)
    set { r with nodes := r.nodes.push node, anchors := (name, place) :: r.anchors }
  pure place

def addScalar (properties : Properties) (isPlain : Bool) (points : List Nat) : Reader Place :=
  add properties.anchor ⟨scalarTag properties.tag isPlain points, .scalar points⟩

def addAbsent : Reader Place := add none Node.absent

def setContent (place : Place) (content : Content) : Reader Unit :=
  modify fun r => { r with nodes := r.nodes.setContent place content }

/-- The number of levels that collections may stand in each other. -/
def depthLimit : Nat := 490

def inside {α : Type} (parts : Reader α) : Reader α := do
  let depth := (← get).depth + 1
  if depth > depthLimit then throw .tooDeep
  modify fun r => { r with depth := depth }
  let read ← parts
  modify fun r => { r with depth := depth - 1 }
  pure read

def addSequence (properties : Properties) (items : Reader (List Place)) : Reader Place := do
  let place ← add properties.anchor ⟨collectionTag .list properties.tag, .sequence []⟩
  setContent place (.sequence (← inside items))
  pure place

def addMapping (properties : Properties) (entries : Reader (List (Place × Place))) :
    Reader Place := do
  let place ← add properties.anchor ⟨collectionTag .map properties.tag, .mapping []⟩
  setContent place (.mapping (← inside entries))
  pure place

def refer (name : Text) : Reader Place := do
  match (← get).anchors.find? fun entry => entry.1 == name with
  | some (_, place) =>
    modify fun r => { r with hasReferences := true }
    pure place
  | none => refuse

mutual

/-- A node. In a block, `dashes` tells whether entries may follow without further indentation. -/
def node (inBlock dashes : Bool) : Nat → Reader Place
  | 0 => refuse
  | steps + 1 => do
    match ← peek with
    | some (.reference name) =>
      advance
      refer name
    | _ =>
      let properties ← takeProperties
      let next ← peek
      if dashes && next == some .blockEntry then
        addSequence properties (dashItems steps)
      else
        match next with
        | some (.scalar isPlain points) =>
          advance
          addScalar properties isPlain points
        | some .flowSequenceStart =>
          addSequence properties do
            advance
            flowItems true steps
        | some .flowMappingStart =>
          addMapping properties do
            advance
            flowEntries true steps
        | _ =>
          if inBlock && next == some .blockSequenceStart then
            addSequence properties do
              advance
              blockItems steps
          else if inBlock && next == some .blockMappingStart then
            addMapping properties do
              advance
              blockEntries steps
          else
            demand (properties.anchor.isSome || properties.tag.isSome)
            addScalar properties true []

def nodeUnless (ends : List Token) (inBlock dashes : Bool) : Nat → Reader Place
  | 0 => refuse
  | steps + 1 => do
    if ← isNext ends then addAbsent else node inBlock dashes steps

def blockItems : Nat → Reader (List Place)
  | 0 => refuse
  | steps + 1 => do
    if ← accept .blockEntry then
      let item ← nodeUnless [.blockEntry, .blockEnd] true false steps
      return item :: (← blockItems steps)
    else
      demand (← accept .blockEnd)
      pure []

/-- The items of a sequence that stands at the indentation of its key. -/
def dashItems : Nat → Reader (List Place)
  | 0 => refuse
  | steps + 1 => do
    if ← accept .blockEntry then
      let item ← nodeUnless [.blockEntry, .key, .value, .blockEnd] true false steps
      return item :: (← dashItems steps)
    else pure []

def blockEntries : Nat → Reader (List (Place × Place))
  | 0 => refuse
  | steps + 1 => do
    if ← accept .key then
      let key ← nodeUnless [.key, .value, .blockEnd] true true steps
      let value ← if ← accept .value then nodeUnless [.key, .value, .blockEnd] true true steps
        else addAbsent
      return (key, value) :: (← blockEntries steps)
    else
      demand (← accept .blockEnd)
      pure []

/-- The items of a sequence in brackets, up to the closing one. A key and its value may stand for a
mapping of that one entry. -/
def flowItems (isFirst : Bool) : Nat → Reader (List Place)
  | 0 => refuse
  | steps + 1 => do
    if ← accept .flowSequenceEnd then pure []
    else
      if !isFirst then demand (← accept .flowEntry)
      if ← accept .key then
        let item ← addMapping ⟨none, none⟩ do
          let key ← nodeUnless [.value, .flowEntry, .flowSequenceEnd] false false steps
          let value ← if ← accept .value then
              nodeUnless [.flowEntry, .flowSequenceEnd] false false steps
            else addAbsent
          return [(key, value)]
        return item :: (← flowItems false steps)
      else if ← accept .flowSequenceEnd then pure []
      else
        let item ← node false false steps
        return item :: (← flowItems false steps)

def flowEntries (isFirst : Bool) : Nat → Reader (List (Place × Place))
  | 0 => refuse
  | steps + 1 => do
    if ← accept .flowMappingEnd then pure []
    else
      if !isFirst then demand (← accept .flowEntry)
      if ← accept .key then
        let key ← nodeUnless [.value, .flowEntry, .flowMappingEnd] false false steps
        let value ← if ← accept .value then
            nodeUnless [.flowEntry, .flowMappingEnd] false false steps
          else addAbsent
        return (key, value) :: (← flowEntries false steps)
      else if ← accept .flowMappingEnd then pure []
      else
        let key ← node false false steps
        return (key, ← addAbsent) :: (← flowEntries false steps)

end

def standardHandles : List (Text × Text) :=
  [("!", "!"), ("!!", Tag.standardSpace)]

/-- The directives before a document: a version at most once, and each tag handle at most once. -/
def directives (hasVersion : Bool) (own : List (Text × Text)) : Nat → Reader (List (Text × Text))
  | 0 => refuse
  | steps + 1 => do
    match ← peek with
    | some (.directive name arguments) =>
      advance
      if name == ("YAML" : Text) then
        demand (!hasVersion && arguments.head? == some ['1'])
        directives true own steps
      else if name == ("TAG" : Text) then
        match arguments with
        | [handle, start] =>
          demand (!own.any fun entry => entry.1 == handle)
          directives hasVersion ((handle, start) :: own) steps
        | _ => refuse
      else directives hasVersion own steps
    | _ => pure (own ++ standardHandles)

def isBoundary : Token → Bool
  | .directive .. => true
  | .documentStart => true
  | .documentEnd => true
  | _ => false

/-- A document behind its directives, with its start marked. It may be empty. -/
def markedDocument (steps : Nat) : Reader Place := do
  let handles ← directives false [] steps
  demand (← accept .documentStart)
  modify fun r => { r with handles := handles }
  if (← peek).all isBoundary then addAbsent else node true false steps

def firstDocument (steps : Nat) : Reader Place := do
  match ← peek with
  | none => addAbsent
  | some (.directive ..) => markedDocument steps
  | some .documentStart => markedDocument steps
  | some _ => node true false steps

def passDocumentEnds : Nat → Reader Unit
  | 0 => refuse
  | steps + 1 => do
    if ← accept .documentEnd then passDocumentEnds steps else pure ()

def onlyDocument (steps : Nat) : Reader Place := do
  let root ← firstDocument steps
  passDocumentEnds steps
  if (← peek).isSome then
    discard (directives false [] steps)
    discard peek
    refuse
  else pure root

end Reader

def Document.ofTokens (tokens : Tokens) : Except Refusal Document := do
  let steps := 4 * tokens.list.length + 4
  let (root, r) ← (Reader.onlyDocument steps).run
    ⟨tokens.list, tokens.fault, #[], [], Reader.standardHandles, false, 0⟩
  pure ⟨r.nodes, root, r.hasReferences⟩

end SymbolPath.Yaml
