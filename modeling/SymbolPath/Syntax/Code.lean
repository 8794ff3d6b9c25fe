import SymbolPath.Syntax.Sightings
import SymbolPath.Syntax.Source
import SymbolPath.Text.Blank

/-!
The code that a comment decorates: what it is called, where it stands, and the value it gives the
name to. Export statements and expression statements are looked through.
-/

namespace SymbolPath.Syntax

structure Code where
  name : Text
  node : Cursor
  value : Option Cursor
  isMember : Bool
  isStatic : Bool
deriving Repr

/-- The text of a member's key. A string literal keeps its content and gets double quotes. -/
def keyText (source : Source) (c : Cursor) : Text :=
  let text := source.text c
  if c.kind == ("string" : Text) then '"' :: (text.drop 1).dropLast ++ ['"'] else text

def hasStaticKeyword (c : Cursor) : Bool :=
  c.focus.children.any fun tree => tree.kind == ("static" : Text)

/-- Steps from a statement to the code in it. Every step but the last leads to a node not met
before, so as many steps as the file has nodes are enough. -/
def unwrap : Nat → Cursor → Browse Cursor
  | 0, c => pure c
  | steps + 1, c =>
    if c.kind == ("export_statement" : Text) then do
      match ← lookInto "declaration" c with
      | some inner => unwrap steps inner
      | none =>
        match ← lookInto "value" c with
        | some inner => unwrap steps inner
        | none => pure c
    else if c.kind == ("expression_statement" : Text) then
      match c.firstChild? Tree.isNamed with
      | some child => settle child
      | none => pure c
    else pure c

def inspectAssignment (source : Source) (c : Cursor) : Browse (Option Code) := do
  match ← lookInto "left" c with
  | none => pure none
  | some left =>
    let value ← lookInto "right" c
    pure (some ⟨Text.compact (source.text left), c, value, false, false⟩)

/-- The first variable that is declared. -/
def inspectVariables (source : Source) (c : Cursor) : Browse (Option Code) := do
  let declares (tree : Tree) : Bool := tree.isNamed && tree.kind == ("variable_declarator" : Text)
  match c.firstChild? declares with
  | none => pure none
  | some child =>
    let declarator ← settle child
    match ← lookInto "name" declarator with
    | none => pure none
    | some target =>
      let value ← lookInto "value" declarator
      pure (some ⟨source.text target, declarator, value, false, false⟩)

def isMethodOfClass (c : Cursor) : Bool :=
  c.kind == ("method_definition" : Text) &&
    c.parent?.any fun parent => parent.kind == ("class_body" : Text)

/-- A function or a class, which is its own value. -/
def inspectDefinition (source : Source) (c : Cursor) : Browse (Option Code) := do
  match ← lookInto "name" c with
  | none => pure none
  | some name =>
    let isMember := isMethodOfClass c
    pure (some ⟨keyText source name, c, some c, isMember, isMember && hasStaticKeyword c⟩)

def inspectField (source : Source) (c : Cursor) : Browse (Option Code) := do
  match ← lookInto "property" c with
  | none => pure none
  | some key =>
    let value ← lookInto "value" c
    pure (some ⟨keyText source key, c, value, true, hasStaticKeyword c⟩)

def inspectPair (source : Source) (c : Cursor) : Browse (Option Code) := do
  match ← lookInto "key" c with
  | none => pure none
  | some key =>
    let value ← lookInto "value" c
    pure (some ⟨keyText source key, c, value, false, false⟩)

def inspect (source : Source) (statement : Cursor) : Browse (Option Code) := do
  let c ← unwrap source.tree.size statement
  let kind := c.kind
  if kind == ("assignment_expression" : Text) then inspectAssignment source c
  else if kind == ("lexical_declaration" : Text) || kind == ("variable_declaration" : Text) then
    inspectVariables source c
  else if isFunction kind || isClass kind then inspectDefinition source c
  else if kind == ("field_definition" : Text) then inspectField source c
  else if kind == ("pair" : Text) then inspectPair source c
  else pure none

/-- The code behind a comment: the next named sibling that is not a comment. -/
def decorated (source : Source) (comment : Cursor) : Browse (Option Code) :=
  match comment.nextSibling? fun tree => tree.isNamed && !isComment tree.kind with
  | none => pure none
  | some sibling => do
    let sibling ← settle sibling
    inspect source sibling

def Code.inferredKind (code : Code) : Text :=
  match code.value with
  | none => "property"
  | some value =>
    if isClass value.kind then "constructor"
    else if isFunction value.kind then "method"
    else "property"

def findConstructor (source : Source) : List Cursor → Browse (Option Cursor)
  | [] => pure none
  | child :: rest =>
    if child.kind == ("method_definition" : Text) then do
      let method ← settle child
      match ← lookInto "name" method with
      | some key =>
        if source.text key == ("constructor" : Text) then pure (some method)
        else findConstructor source rest
      | none => findConstructor source rest
    else findConstructor source rest

def constructorOf (source : Source) (classNode : Cursor) : Browse (Option Cursor) := do
  match ← lookInto "body" classNode with
  | none => pure none
  | some body => findConstructor source body.namedChildren

end SymbolPath.Syntax
