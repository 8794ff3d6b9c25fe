import SymbolPath.Doclet
import SymbolPath.Path.Basic
import SymbolPath.Path.Prototype

/-!
Names that depend on where the code stands: members of an object literal, members assigned through
`this`, and symbols declared inside a function. The enclosing code is known by the doclets already
registered for it.
-/

namespace SymbolPath.Resolution

/-- The nearest function around a node, and whether it has a name of its own. -/
structure Enclosing (Node : Type) where
  node : Node
  isNamed : Bool
deriving DecidableEq, Repr

/-- Where a node stands: the object literal that directly holds it, and the function around it. -/
structure Site (Node : Type) where
  objectLiteral : Option Node
  enclosing : Option (Enclosing Node)
deriving DecidableEq, Repr

inductive Remark where
  | anonymousThis (name : Text)
  | noContainer (name : Text)
deriving DecidableEq, Repr

structure Qualified where
  name : Text
  remark : Option Remark
deriving DecidableEq, Repr

def thisStart : Text := "this."

/-- A container that was tagged, where the word `this` counts as none. -/
def hasExplicitContainer (doclet : Doclet) : Bool :=
  let memberof := Path.foldPrototype doclet.memberof
  !memberof.isEmpty && memberof != ("this" : Text)

def looksAtFunction (inObject : Bool) (name : Text) (doclet : Doclet) : Bool :=
  !inObject && Text.startsWith thisStart name && !hasExplicitContainer doclet

variable {Node : Type}

/-- The path of the function that owns `this`; inner functions have the global one. -/
def thisOwner (function : Option Doclet) : Text :=
  match function with
  | some doc => if doc.isInner then [] else doc.path
  | none => []

/-- A member of whatever owns the function: the class for a constructor, else the container of the
method. -/
def memberOfThis (function : Option Doclet) (member : Text) : Text :=
  let owner := thisOwner function
  let container := match function with
    | some doc => if doc.kind == ("constructor" : Text) then owner else Path.dropLast owner
    | none => owner
  let joiner : Text :=
    if container.isEmpty || Path.endsIn Path.isSeparator container then [] else ['#']
  container ++ joiner ++ member

/-- Qualifies a member of an object literal, or a name that starts with `this.`. -/
def qualifyThis (lookup : Node → Option Doclet) (site : Site Node) (name : Text) (doclet : Doclet) :
    Qualified :=
  match site.objectLiteral with
  | some literal =>
    match lookup literal with
    | some doc =>
      let path := Path.foldPrototype doc.path
      ⟨Path.join (if path.isEmpty then Path.anonymousObject else path) name, none⟩
    | none => ⟨name, none⟩
  | none =>
    match Text.dropStart? thisStart name with
    | none => ⟨name, none⟩
    | some member =>
      if hasExplicitContainer doclet then ⟨member, none⟩
      else
        let function := site.enclosing.bind fun enclosing => lookup enclosing.node
        if site.enclosing.isSome && (thisOwner function).isEmpty then
          ⟨member, some (.anonymousThis name)⟩
        else ⟨memberOfThis function member, none⟩

/-- The path that symbols inside a function hang off: that of its doclet, or a placeholder for a
function that has neither a doclet nor a name. -/
def closurePath (lookup : Node → Option Doclet) (site : Site Node) : Text :=
  match site.enclosing with
  | none => []
  | some enclosing =>
    match lookup enclosing.node with
    | some doc => doc.path
    | none => if enclosing.isNamed then [] else Path.anonymous

def qualifyInner (lookup : Node → Option Doclet) (site : Site Node) (name : Text) : Qualified :=
  let container := closurePath lookup site
  if container.isEmpty then ⟨name, some (.noContainer name)⟩
  else ⟨container ++ '~' :: name, none⟩

end SymbolPath.Resolution
