import SymbolPath.KindTable
import SymbolPath.Number.Whole
import SymbolPath.Text.Case
import SymbolPath.Value
import SymbolPath.Yaml.Refusal

/-!
The settings: which kinds have a documentation space of their own, which files are read and up to
what size, and how listings are shown.

Settings come from files that anybody may have written, so the items of lists and the format may be
values of any type. What is wrong with them shows when they are validated or used.
-/

namespace SymbolPath

structure Settings where
  docspaceKinds : List Value
  maxFileSize : Int
  extensions : List Value
  format : Value
deriving Repr

inductive Failure where
  | notAMapping
  | notAList
  | notANumber
  | notAText
  /-- A value that is no text has what texts have, but takes no text for it. -/
  | notForText
  | notJoinable
  | notAKey
  | notComparable
  | infiniteSize
  | undefinedSize
  | unreadableNumber (reason : Whole.Unreadable)
  | numberTooLong
  /-- Mappings lie over each other deeper than the recursion goes. -/
  | endless
  | unreadableFile (reason : Yaml.Refusal)
deriving DecidableEq, Repr

def Failure.message : Failure → Option Text
  | .undefinedSize => some "cannot convert float NaN to integer"
  | .unreadableNumber reason => some reason.message
  | .numberTooLong => some (Whole.limitNotice ++ Whole.limitAdvice)
  | .endless => some "maximum recursion depth exceeded while calling a Python object"
  | .unreadableFile reason => reason.message
  | _ => none

inductive Invalid where
  | docspaceKind (shown : Text)
  | fileSize (shown : Text)
  | extension (shown : Text)
  | format (shown : Text)
deriving DecidableEq, Repr

namespace Settings

def standardExtensions : List Text := [".js", ".jsx", ".mjs", ".cjs"]

def standardFileSize : Int := 300000

def formats : List Text := ["table", "json"]

def standard : Settings :=
  ⟨KindTable.standardDocspaces.map .text, standardFileSize, standardExtensions.map .text,
    .text "table"⟩

/-- The items that a value lists: those of a list, the characters of a text, the numbers of bytes,
the keys of a mapping. -/
def itemsOf (v : Value) : Except Failure (List Value) :=
  match v.bare with
  | .list items => .ok items
  | .pair first second => .ok [first, second]
  | .set members => .ok members
  | .text t => .ok (t.map fun c => .text [c])
  | .fragment points => .ok (points.map fun n => Value.ofPoints [n])
  | .bytes b => .ok (b.map fun byte => .int byte.toNat)
  | .map entries => .ok (entries.map Prod.fst)
  | _ => .error .notAList

def readSize (t : Text) : Except Failure Int :=
  (Whole.read t).mapError .unreadableNumber

/-- The whole number that a value gives; a fraction is cut off. -/
def sizeOf : Value → Except Failure Int
  | .int n => .ok n
  | .bool b => .ok b.toNat
  | .text t => readSize t
  | .fragment points => .error (.unreadableNumber (.notANumber 10 (Text.quotedPoints points)))
  | .bytes b =>
    if b.all fun byte => byte < 0x80 then readSize (b.map fun byte => Char.ofNat byte.toNat)
    else .error (.unreadableNumber (.notANumber 10 (Text.quotedBytes b)))
  | .float .nan => .error .undefinedSize
  | .float (.infinity _) => .error .infiniteSize
  | .float d => .ok (d.truncate?.getD 0)
  | _ => .error .notANumber

def mappingOf (v : Value) : Except Failure Mapping :=
  match v.entries? with
  | some entries => .ok entries
  | none => .error .notAMapping

def sectionOf (data : Mapping) (name : Text) : Value :=
  (data.at? name).getD (.map [])

/-- The settings that a value gives, with the standard ones where it has none. -/
def ofValue (data : Value) : Except Failure Settings := do
  let data ← mappingOf data
  let resolver ← mappingOf (sectionOf data "resolver")
  let kinds ← itemsOf ((resolver.at? "docspace_kinds").getD (.list standard.docspaceKinds))
  let parsing ← mappingOf (sectionOf data "parsing")
  let size ← sizeOf ((parsing.at? "max_file_size").getD (.int standardFileSize))
  let extensions ← itemsOf ((parsing.at? "extensions").getD (.list standard.extensions))
  let display ← mappingOf (sectionOf data "display")
  pure ⟨kinds, size, extensions, (display.at? "format").getD standard.format⟩

def toMapping (settings : Settings) : Mapping := [
  (.text "resolver", .map [(.text "docspace_kinds", .list settings.docspaceKinds)]),
  (.text "parsing", .map [
    (.text "max_file_size", .int settings.maxFileSize),
    (.text "extensions", .list settings.extensions)]),
  (.text "display", .map [(.text "format", settings.format)])]

def toValue (settings : Settings) : Value := .map settings.toMapping

/-! Validation. Each section reports the first thing wrong with it. -/

/-- Letters and digits, hyphens and underscores, not all of them hyphens and underscores. -/
def isKindName (t : Text) : Bool :=
  let bare := t.filter fun c => c != '-' && c != '_'
  !bare.isEmpty && bare.all Text.isAlphanumeric

def shown (v : Value) : Except Failure Text :=
  match v.display with
  | some t => .ok t
  | none => .error .numberTooLong

def validateKinds : List Value → Except Failure (Option Invalid)
  | [] => .ok none
  | kind :: rest =>
    if kind.isBlank then do return some (.docspaceKind (← shown kind))
    else match kind.bare with
      | .text t => if isKindName t then validateKinds rest else .ok (some (.docspaceKind t))
      | .fragment points => .ok (some (.docspaceKind (Text.shownPoints points)))
      | .bytes _ => .error .notForText
      | .moment _ => .error .notForText
      | _ => .error .notAText

def validateExtensions : List Value → Except Failure (Option Invalid)
  | [] => .ok none
  | .text t :: rest =>
    if t.head? == some '.' then validateExtensions rest else .ok (some (.extension t))
  | .fragment points :: rest =>
    if points.head? == some '.'.toNat then validateExtensions rest
    else .ok (some (.extension (Text.shownPoints points)))
  | .bytes _ :: _ => .error .notForText
  | _ :: _ => .error .notAText

def validateResolver (settings : Settings) : Except Failure (Option Invalid) :=
  validateKinds settings.docspaceKinds

def validateParsing (settings : Settings) : Except Failure (Option Invalid) :=
  if settings.maxFileSize ≤ 0 then do
    return some (.fileSize (← shown (.int settings.maxFileSize)))
  else validateExtensions settings.extensions

def isFormat (value : Value) : Bool :=
  value.text?.any formats.contains

def validateDisplay (settings : Settings) : Except Failure (Option Invalid) :=
  if isFormat settings.format then .ok none
  else do return some (.format (← shown settings.format))

def validate (settings : Settings) : Except Failure (Option Invalid) := do
  match ← validateResolver settings with
  | some invalid => pure (some invalid)
  | none =>
    match ← validateParsing settings with
    | some invalid => pure (some invalid)
    | none => validateDisplay settings

def matchesExtension (settings : Settings) (ending : Text) : Bool :=
  settings.extensions.any fun extension => extension.text? == some (Text.lower ending)

def distinctKinds : List Value → List Value → Except Failure (List Value)
  | seen, [] => .ok seen
  | seen, kind :: rest =>
    if !kind.isKey then .error .notAKey
    else if seen.any kind.sameKey then distinctKinds seen rest
    else distinctKinds (seen ++ [kind]) rest

/-- The docspace kinds in order. Texts are not compared with numbers. -/
def sortedKinds (settings : Settings) : Except Failure (List Value) := do
  match Value.sortBy? id (← distinctKinds [] settings.docspaceKinds) with
  | some kinds => pure kinds
  | none => throw .notComparable

/-- The table of kinds. Kinds that are not texts are never looked up. -/
def kindTable (settings : Settings) : Except Failure KindTable := do
  let kinds ← distinctKinds [] settings.docspaceKinds
  pure (KindTable.ofDocspaces (kinds.filterMap Value.text?))

end Settings

def Invalid.message : Invalid → Text
  | .docspaceKind shown =>
    "Invalid docspace kind '" ++ shown ++ "'. Use letters, digits, '-' or '_'"
  | .fileSize shown => "max_file_size must be positive, got " ++ shown
  | .extension shown => "Extension '" ++ shown ++ "' must start with '.'"
  | .format shown =>
    "Unknown format '" ++ shown ++ "'. Valid: " ++ Text.joinWith ", " Settings.formats

end SymbolPath
