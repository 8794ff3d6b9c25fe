import SymbolPath.Text.Utf8

/-!
Syntax trees of source files. A node has a kind, the bytes it spans, the field under which its
parent holds it, and its children in order; nodes without a name of their own are punctuation and
keywords.
-/

namespace SymbolPath.Syntax

inductive Tree where
  | node (kind : Text) (isNamed : Bool) (start stop : Nat) (field : Option Text)
      (children : List Tree)
deriving Repr, Inhabited

namespace Tree

def kind : Tree → Text
  | .node kind .. => kind

def isNamed : Tree → Bool
  | .node _ isNamed .. => isNamed

def start : Tree → Nat
  | .node _ _ start .. => start

def stop : Tree → Nat
  | .node _ _ _ stop .. => stop

def field : Tree → Option Text
  | .node _ _ _ _ field _ => field

def children : Tree → List Tree
  | .node _ _ _ _ _ children => children

mutual

def size : Tree → Nat
  | .node _ _ _ _ _ children => sizeAll children + 1

def sizeAll : List Tree → Nat
  | [] => 0
  | tree :: rest => size tree + sizeAll rest

end

/-- A file in which nothing was recognised. -/
def blankProgram : Tree :=
  .node "program" true 0 0 none []

end Tree

/-- What tells nodes of one file apart: the kind and the bytes spanned. -/
structure Key where
  kind : Text
  start : Nat
  stop : Nat
deriving DecidableEq, Repr

def Tree.key (t : Tree) : Key := ⟨t.kind, t.start, t.stop⟩

def isFunction (kind : Text) : Bool :=
  kind == ("function_declaration" : Text) || kind == ("generator_function_declaration" : Text) ||
  kind == ("function_expression" : Text) || kind == ("function" : Text) ||
  kind == ("generator_function" : Text) || kind == ("arrow_function" : Text) ||
  kind == ("method_definition" : Text)

def isClass (kind : Text) : Bool :=
  kind == ("class_declaration" : Text) || kind == ("class" : Text)

def isObject (kind : Text) : Bool :=
  kind == ("object" : Text)

def isComment (kind : Text) : Bool :=
  kind == ("comment" : Text)

/-- Code whose members look it up as their container. -/
def isContainer (kind : Text) : Bool :=
  isFunction kind || isClass kind || isObject kind

def isDeclaration (kind : Text) : Bool :=
  kind == ("variable_declarator" : Text) || kind == ("function_declaration" : Text) ||
  kind == ("generator_function_declaration" : Text) || kind == ("class_declaration" : Text)

end SymbolPath.Syntax
