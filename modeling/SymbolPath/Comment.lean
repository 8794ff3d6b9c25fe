import SymbolPath.Comment.Lines
import SymbolPath.Doclet

/-!
From the text of a documentation comment to the tags of a doclet.

Tags that state a kind become one `isa` tag, and may name the symbol as well, unless the comment has
a `name` tag of its own; tags that state an access level become an `access` tag; all others are kept
as they are. A description comes first, as a `desc` tag.
-/

namespace SymbolPath.Comment

def kindOfTitle? (title : Text) : Option Text :=
  if title = "constructor" ∨ title = "class" then some "constructor"
  else if title = "function" ∨ title = "method" then some "method"
  else if title = "namespace" then some "namespace"
  else if title = "property" ∨ title = "member" then some "property"
  else if title = "event" then some "event"
  else if title = "module" then some "module"
  else if title = "file" ∨ title = "fileoverview" ∨ title = "overview" then some "file"
  else none

def isAccessTitle (title : Text) : Bool :=
  title == ("inner" : Text) || title == ("private" : Text) || title == ("public" : Text) ||
  title == ("protected" : Text)

/-- What follows a type expression in braces at the start; all of the text if there is none. The
first closing brace ends it. -/
def afterTypeExpression (text : Text) : Text :=
  match text with
  | '{' :: rest =>
    match rest.dropWhile (· != '}') with
    | _ :: after => Text.trimStart after
    | [] => text
  | _ => text

def nameInText (kind text : Text) : Text :=
  if kind = "file" then [] else Text.firstWord (afterTypeExpression text)

/-- The tags of a doclet for raw tags in order; `named` tells that the symbol has its name. -/
def tagsOf (named : Bool) : List (Text × Text) → List Tag
  | [] => []
  | (title, text) :: rest =>
    match kindOfTitle? title with
    | some kind =>
      let name := nameInText kind text
      if named || name.isEmpty then ⟨"isa", kind⟩ :: tagsOf named rest
      else ⟨"isa", kind⟩ :: ⟨"name", name⟩ :: tagsOf true rest
    | none =>
      (if isAccessTitle title then ⟨"access", title⟩ else ⟨title, text⟩) :: tagsOf named rest

def descriptionTags (description : Text) : List Tag :=
  if description.isEmpty then [] else [⟨"desc", description⟩]

def parse (text : Text) : List Tag :=
  let raw := Raw.ofText text
  let named := raw.pairs.any fun pair => pair.1 == ("name" : Text)
  descriptionTags raw.descriptionText ++ tagsOf named raw.pairs

end SymbolPath.Comment

namespace SymbolPath

def Doclet.ofComment (text : Text) (line : Int) : Doclet :=
  ⟨Comment.parse text, line⟩

end SymbolPath
