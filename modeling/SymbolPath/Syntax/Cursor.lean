import SymbolPath.Syntax.Tree

/-!
A node together with its way up: for each level the parent and the siblings that follow. From here
the parent, the enclosing function, the next sibling and the children are all in reach, and nothing
has to be searched for.
-/

namespace SymbolPath.Syntax

structure Crumb where
  parent : Tree
  later : List Tree
deriving Repr

structure Cursor where
  focus : Tree
  up : List Crumb
deriving Repr

namespace Cursor

def root (tree : Tree) : Cursor := ⟨tree, []⟩

def kind (c : Cursor) : Text := c.focus.kind

def key (c : Cursor) : Key := c.focus.key

def parent? (c : Cursor) : Option Cursor :=
  match c.up with
  | [] => none
  | crumb :: up => some ⟨crumb.parent, up⟩

def functionAbove : List Crumb → Option Cursor
  | [] => none
  | crumb :: up => if isFunction crumb.parent.kind then some ⟨crumb.parent, up⟩ else functionAbove up

/-- The nearest function around the node, the node itself not counted. -/
def enclosingFunction? (c : Cursor) : Option Cursor :=
  functionAbove c.up

def findAmong (accept : Tree → Bool) (parent : Tree) (up : List Crumb) :
    List Tree → Option Cursor
  | [] => none
  | tree :: later =>
    if accept tree then some ⟨tree, ⟨parent, later⟩ :: up⟩ else findAmong accept parent up later

def nextSibling? (accept : Tree → Bool) (c : Cursor) : Option Cursor :=
  match c.up with
  | [] => none
  | crumb :: up => findAmong accept crumb.parent up crumb.later

def firstChild? (accept : Tree → Bool) (c : Cursor) : Option Cursor :=
  findAmong accept c.focus c.up c.focus.children

def field? (name : Text) (c : Cursor) : Option Cursor :=
  c.firstChild? fun tree => tree.field == some name

def childrenAmong (parent : Tree) (up : List Crumb) : List Tree → List Cursor
  | [] => []
  | tree :: later => ⟨tree, ⟨parent, later⟩ :: up⟩ :: childrenAmong parent up later

def children (c : Cursor) : List Cursor :=
  childrenAmong c.focus c.up c.focus.children

def namedChildren (c : Cursor) : List Cursor :=
  c.children.filter fun child => child.focus.isNamed

end Cursor

mutual

/-- The comments at or below a node, in document order. A comment is not searched for others. -/
def commentsAt (up : List Crumb) : Tree → List Cursor
  | .node kind isNamed start stop field children =>
    let tree := Tree.node kind isNamed start stop field children
    if isComment kind then [⟨tree, up⟩] else commentsAmong tree up children

def commentsAmong (parent : Tree) (up : List Crumb) : List Tree → List Cursor
  | [] => []
  | tree :: later =>
    commentsAt (⟨parent, later⟩ :: up) tree ++ commentsAmong parent up later

end

def comments (tree : Tree) : List Cursor :=
  commentsAt [] tree

end SymbolPath.Syntax
