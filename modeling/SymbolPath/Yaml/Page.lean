import SymbolPath.Yaml.Style

/-!
A page as it is being written. Whether a mark needs a space before it, and whether a block must begin
a line of its own, depends on what stands before it in the line.
-/

namespace SymbolPath.Yaml

structure Page where
  /-- What is written, the last character first. -/
  written : Text
  column : Nat
  /-- Is the last character a blank, or the line empty? -/
  afterBlank : Bool
  /-- Does the line hold nothing but blanks and marks behind which a block may begin? -/
  opensBlock : Bool
deriving Repr

namespace Page

def empty : Page := ⟨[], 0, true, true⟩

def text (page : Page) : Text := page.written.reverse

def columnAfter (column : Nat) (t : Text) : Nat :=
  t.foldl (fun column c => if c == '\n' then 0 else column + 1) column

def append (page : Page) (t : Text) : Page :=
  { page with written := t.reverse ++ page.written, column := columnAfter page.column t }

/-- A mark or a text of its own, behind a space. -/
def put (page : Page) (t : Text) : Page :=
  { page.append (if page.afterBlank then t else ' ' :: t) with
    afterBlank := false, opensBlock := false }

def putClose (page : Page) (t : Text) : Page :=
  { page.append t with afterBlank := false, opensBlock := false }

/-- A mark behind which a block may begin in the same line. -/
def putOpener (page : Page) (t : Text) : Page :=
  { page.put t with opensBlock := page.opensBlock }

def endLine (page : Page) : Page :=
  { page.append ['\n'] with afterBlank := true, opensBlock := true }

/-- Goes on at a column, in a new line unless this one may still be used. -/
def startAt (page : Page) (indent : Nat) : Page :=
  let isUsed := !page.opensBlock || page.column > indent ||
    (page.column == indent && !page.afterBlank)
  let page := if isUsed then page.endLine else page
  if page.column < indent then
    { page.append (pad (indent - page.column)) with afterBlank := true }
  else page

/-- Writes a scalar. A literal block ends with its last line. -/
def putScalar (page : Page) (style : Style) (isKey : Bool) (indent : Nat) (points : List Nat) :
    Page :=
  let column := if page.afterBlank then page.column else page.column + 1
  let page := page.put (scalarText style isKey indent column points)
  if style == .literal then { page with afterBlank := true, opensBlock := true } else page

end Page
end SymbolPath.Yaml
