import SymbolPath.Yaml.Draft
import SymbolPath.Yaml.Page

/-!
Writing YAML in block style. The items of a list stand at the indentation of its key; empty
collections are written in brackets. A value that is referred to is marked by an anchor where it
first stands. A key too long for one line, or empty, stands behind a question mark.
-/

namespace SymbolPath.Yaml

/-- The labels that have anchors, in the order of their numbers. -/
abbrev Anchors := List Label

namespace Anchors

def ofReferences (labels : List Label) : Anchors :=
  labels.foldl (fun anchors label => if anchors.contains label then anchors
    else anchors ++ [label]) []

/-- The name of an anchor: its number, from 1 on, with three digits at least. -/
def name (anchors : Anchors) (label : Label) : Text :=
  let digits := Text.ofNat (anchors.idxOf label + 1)
  'i' :: 'd' :: List.replicate (3 - digits.length) '0' ++ digits

def name? (anchors : Anchors) (label : Option Label) : Option Text :=
  match label with
  | some label => if anchors.contains label then some (anchors.name label) else none
  | none => none

end Anchors

inductive Stand where
  | item
  | value
  | inlineKey
deriving DecidableEq, Repr

/-- Keys in one line are shorter than this, their properties included. -/
def keyWidth : Nat := 128

namespace Draft

variable (anchors : Anchors)

/-- May the key stand in one line with its value? Only scalars and references are keys. -/
def isInlineKey : Draft → Bool
  | .reference _ => true
  | .scalar anchor tag points =>
    let width := (anchors.name? anchor |>.getD []).length + tag.written.length + points.length
    width < keyWidth && !points.isEmpty && !hasLineEnd points
  | _ => false

def putAnchor (anchor : Option Label) (page : Page) : Page :=
  match anchors.name? anchor with
  | some name => page.put ('&' :: name)
  | none => page

def putTag (isTold : Bool) (tag : Tag) (page : Page) : Page :=
  if isTold then page else page.put tag.written

mutual

def write (stand : Stand) (indent : Nat) (page : Page) : Draft → Page
  | .reference label => page.put ('*' :: anchors.name label)
  | .scalar anchor tag points =>
    let isKey := stand == .inlineKey
    let style := styleOf tag isKey points
    let page := putTag (style.tellsTag tag) tag (putAnchor anchors anchor page)
    page.putScalar style isKey (indent + 2) points
  | .sequence anchor tag items =>
    let page := putTag (tag == .list) tag (putAnchor anchors anchor page)
    if items.isEmpty then page.put "[]"
    else
      let staysAtKey := stand == .value && !page.opensBlock
      writeItems (if staysAtKey then indent else indent + 2) page items
  | .mapping anchor tag entries =>
    let page := putTag (tag == .map) tag (putAnchor anchors anchor page)
    if entries.isEmpty then page.put ['\x7b', '\x7d']
    else writeEntries (indent + 2) page entries

def writeItems (indent : Nat) (page : Page) : List Draft → Page
  | [] => page
  | item :: rest =>
    writeItems indent (write .item indent ((page.startAt indent).putOpener ['-']) item) rest

def writeEntries (indent : Nat) (page : Page) : List (Draft × Draft) → Page
  | [] => page
  | (key, value) :: rest =>
    let page := page.startAt indent
    let page :=
      if key.isInlineKey anchors then (write .inlineKey indent page key).putClose [':']
      else
        let page := write .value indent (page.putOpener ['?']) key
        (page.startAt indent).putOpener [':']
    writeEntries indent (write .value indent page value) rest

end

end Draft

def writeMapping? (entries : List (Value × Value)) : Option Text := do
  let draft ← Draft.of? (.map entries)
  let anchors := Anchors.ofReferences draft.references
  let page := match draft with
    | .mapping _ _ (entry :: rest) => Draft.writeEntries anchors 0 .empty (entry :: rest)
    | draft => draft.write anchors .value 0 .empty
  return (page.startAt 0).text

end SymbolPath.Yaml
