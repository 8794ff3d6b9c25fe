import SymbolPath.Text.Blank
import SymbolPath.Text.Alphanumeric

/-!
The text of a documentation comment, cut into a description and raw tags.

The delimiters, the star that leads a line and the blanks around lines are layout. A chunk that
begins with an at sign and a letter starts a tag; several tags may share a line that begins with an
at sign. What follows on later lines continues the tag before it.
-/

namespace SymbolPath.Comment

/-- Documentation comments start with exactly two stars. -/
def isDocumentation (text : Text) : Bool :=
  Text.startsWith "/**" text && !Text.startsWith "/***" text && text != ("/**/" : Text)

def body (text : Text) : Text :=
  let trimmed := Text.trim text
  let opened := (Text.dropStart? "/**" trimmed).getD trimmed
  if Text.endsWith "*/" opened then opened.take (opened.length - 2) else opened

def lineContent (line : Text) : Text :=
  match Text.trim line with
  | '*' :: rest => Text.trim rest
  | trimmed => trimmed

def lines (text : Text) : List Text :=
  (Text.splitOn '\n' (body text)).map lineContent

def startsTag : Text → Bool
  | '@' :: c :: _ => Text.isAsciiLetter c
  | _ => false

/-- Cuts a line before every tag that has blanks before it; those blanks are dropped. `blanks` are
the blanks just passed, the last first. -/
def chunksFrom (blanks : Text) : Text → List Text
  | [] => [blanks.reverse]
  | c :: rest =>
    if Text.isBlank c then chunksFrom (c :: blanks) rest
    else
      let tail := match chunksFrom [] rest with
        | [] => [[c]]
        | chunk :: more => (c :: chunk) :: more
      if !blanks.isEmpty && startsTag (c :: rest) then [] :: tail
      else match tail with
        | [] => [blanks.reverse]
        | chunk :: more => (blanks.reverse ++ chunk) :: more

/-- The chunks of a line. Only a line that begins with an at sign is cut. -/
def chunks (line : Text) : List Text :=
  match line with
  | '@' :: _ => chunksFrom [] line
  | _ => [line]

def isTitleChar (c : Char) : Bool :=
  Text.isWordChar c || c == '-'

def tagStart? : Text → Option (Text × Text)
  | '@' :: c :: rest =>
    if Text.isAsciiLetter c then
      some (c :: rest.takeWhile isTitleChar, Text.trimStart (rest.dropWhile isTitleChar))
    else none
  | _ => none

/-- A tag under way: its title and the parts of its text, in order. -/
structure RawTag where
  title : Text
  parts : List Text
deriving DecidableEq, Repr

def RawTag.text (tag : RawTag) : Text :=
  Text.trim (Text.joinWords tag.parts)

structure Raw where
  description : List Text
  tags : List RawTag
deriving DecidableEq, Repr

/-- Puts a chunk before what follows it. A chunk that starts no tag belongs to the tag before it,
which is not known yet, so it waits in the description. -/
def Raw.prepend (chunk : Text) (raw : Raw) : Raw :=
  match tagStart? chunk with
  | some (title, text) => ⟨[], ⟨title, text :: raw.description⟩ :: raw.tags⟩
  | none => { raw with description := chunk :: raw.description }

def Raw.ofChunks (chunks : List Text) : Raw :=
  chunks.foldr Raw.prepend ⟨[], []⟩

def Raw.ofText (text : Text) : Raw :=
  Raw.ofChunks ((lines text).flatMap chunks)

def Raw.descriptionText (raw : Raw) : Text :=
  Text.trim (Text.joinWords raw.description)

def Raw.pairs (raw : Raw) : List (Text × Text) :=
  raw.tags.map fun tag => (tag.title, tag.text)

end SymbolPath.Comment
