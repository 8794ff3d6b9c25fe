import SymbolPath.Comment
import SymbolPath.Resolution
import SymbolPath.Resolution.Context
import SymbolPath.Resolution.Site
import SymbolPath.Syntax.Code
import SymbolPath.Syntax.Walk

/-!
Extracting doclets from source files.

Every documentation comment of a file is joined with the code that it decorates, named, resolved
and, where later comments may refer to it as their container, registered. Comments are processed in
document order, so a container is registered before what it contains. The registry is shared by all
files of a session; nodes of different files differ. The current module ends with its file.
-/

namespace SymbolPath.Extraction

open Syntax Resolution

structure FileNode where
  file : Nat
  key : Key
deriving DecidableEq, Repr

inductive Note where
  | remark (remark : Remark)
  | resolved (name kind path : Text)
  | folded (location : Location) (line : Int)
  | namesNothing (location : Location) (line : Int)
  | tooLarge (location : Location) (limit : Int)
  | unreadable (location : Location) (reason : Text)
  | noGrammar (reason : Text)
deriving DecidableEq, Repr

structure Documented where
  doclet : Doclet
  node : Option Key
deriving DecidableEq, Repr

structure Outcome where
  documented : Option Documented
  notes : List Note
deriving DecidableEq, Repr

structure Progress where
  context : Context FileNode Doclet
  seen : Sightings
deriving Repr

/-- A file with the number that tells its nodes from those of other files. -/
structure Opened where
  number : Nat
  source : Source
deriving Repr

def Opened.nodeOf (file : Opened) (c : Cursor) : FileNode := ⟨file.number, c.key⟩

def lookup (context : Context FileNode Doclet) (node : FileNode) : Option Doclet :=
  context.lookup (some node)

/-- Kinds that are documented on their own, never attached to the code that follows. -/
def isVirtual (kind : Text) : Bool :=
  kind == ("file" : Text) || kind == ("module" : Text) || kind == ("event" : Text)

/-- Members of a class hang off its doclet: static ones by a dot, others by a hash. -/
def qualifyMember (context : Context FileNode Doclet) (file : Opened) (code : Code)
    (classNode : Option Cursor) : Text :=
  match classNode.bind fun c => lookup context (file.nodeOf c) with
  | none => code.name
  | some doc =>
    if doc.path.isEmpty then code.name
    else doc.path ++ (if code.isStatic then '.' else '#') :: code.name

def enclosingOf (file : Opened) (function : Cursor) : Enclosing FileNode :=
  ⟨file.nodeOf function,
    (function.field? "name").any fun name => !(file.source.text name).isEmpty⟩

/-- Turns a name that is read off the code into one that can be resolved. Only declarations are
local to the function around them; a bare assignment may reach a global. -/
def qualify (context : Context FileNode Doclet) (file : Opened) (code : Code) (doclet : Doclet) :
    Browse Qualified := do
  let parent ← settle? code.node.parent?
  let inObject := parent.any fun c => isObject c.kind
  if code.isMember then
    let classNode ← settle? (parent.bind Cursor.parent?)
    pure ⟨qualifyMember context file code classNode, none⟩
  else if Text.startsWith thisStart code.name || inObject then
    let function ←
      if looksAtFunction inObject code.name doclet then settle? code.node.enclosingFunction?
      else pure none
    let literal := if inObject then parent.map file.nodeOf else none
    pure (qualifyThis (lookup context) ⟨literal, function.map (enclosingOf file)⟩ code.name doclet)
  else if isDeclaration code.node.kind then
    match ← settle? code.node.enclosingFunction? with
    | some function =>
      pure (qualifyInner (lookup context) ⟨none, some (enclosingOf file function)⟩ code.name)
    | none => pure ⟨code.name, none⟩
  else pure ⟨code.name, none⟩

/-- Gives the doclet a name, unless it has one: from the code, or from the file for a doclet that
describes the file. -/
def nameDoclet (context : Context FileNode Doclet) (file : Opened) (code : Option Code)
    (doclet : Doclet) : Browse (Doclet × Option Remark) :=
  if !doclet.name.isEmpty then pure (doclet, none)
  else
    match code with
    | some code => do
      let qualified ← qualify context file code doclet
      pure (doclet.set "name" qualified.name, qualified.remark)
    | none =>
      if doclet.kind == ("file" : Text) then
        pure (doclet.set "name" file.source.location.text, none)
      else pure (doclet, none)

def kindDoclet (code : Option Code) (doclet : Doclet) : Doclet :=
  match code with
  | some code => if doclet.kind.isEmpty then doclet.set "isa" code.inferredKind else doclet
  | none => doclet

/-- Registers the value that a doclet documents, if it may contain others. In the constructor of a
class, `this` is an instance of the class, so the doclet of the class serves for it too. -/
def registerValue (file : Opened) (code : Option Code) (doclet : Doclet)
    (context : Context FileNode Doclet) : Browse (Context FileNode Doclet) := do
  match code.bind Code.value with
  | none => pure context
  | some value =>
    if isContainer value.kind then
      let context := context.register (some (file.nodeOf value)) doclet
      if isClass value.kind then
        let method ← constructorOf file.source value
        pure (context.register (method.map file.nodeOf) doclet)
      else pure context
    else pure context

/-- A comment on the constructor of a class belongs to the doclet of the class. -/
def isFolded (code : Option Code) : Bool :=
  code.any fun code => code.isMember && code.name == ("constructor" : Text)

def documentCode (kinds : KindTable) (file : Opened) (code : Option Code) (doclet : Doclet) :
    StateM Progress Outcome := fun progress =>
  let ((named, remark), seen) := (nameDoclet progress.context file code doclet).run progress.seen
  let kinded := kindDoclet code named
  let resolved := resolve kinds progress.context.module kinded
  let notes := (remark.map Note.remark).toList ++
    [.resolved resolved.doclet.name kinded.kind resolved.path]
  if resolved.path.isEmpty then
    (⟨none, notes ++ [.namesNothing file.source.location doclet.line]⟩, ⟨progress.context, seen⟩)
  else
    let moved := if resolved.doclet.kind == ("module" : Text) then
      progress.context.setModule resolved.path else progress.context
    let (context, seen) := (registerValue file code resolved.doclet moved).run seen
    (⟨some ⟨resolved.doclet, code.map fun code => code.node.key⟩, notes⟩, ⟨context, seen⟩)

def processComment (kinds : KindTable) (file : Opened) (comment : Cursor) :
    StateM Progress Outcome := fun progress =>
  let (comment, seen) := (settle comment).run progress.seen
  let line := file.source.line comment
  let doclet := Doclet.ofComment (file.source.text comment) line
  let (code, seen) : Option Code × Sightings :=
    if isVirtual doclet.kind then (none, seen)
    else (decorated file.source comment).run seen
  if isFolded code then (⟨none, [.folded file.source.location line]⟩, ⟨progress.context, seen⟩)
  else (documentCode kinds file code doclet).run ⟨progress.context, seen⟩

def docComments (source : Source) : List Cursor :=
  (walk [Cursor.root source.tree]).filter fun c => Comment.isDocumentation (source.text c)

def processAll (kinds : KindTable) (file : Opened) : List Cursor → StateM Progress (List Outcome)
  | [] => pure []
  | comment :: rest => do
    let outcome ← processComment kinds file comment
    let outcomes ← processAll kinds file rest
    pure (outcome :: outcomes)

inductive Grammar where
  | missing
  | broken (reason : Text)
  | ready (parse : Bytes → Tree)

def Grammar.isReady : Grammar → Bool
  | .ready _ => true
  | _ => false

def Grammar.notes : Grammar → List Note
  | .broken reason => [.noGrammar reason]
  | _ => []

/-- A session of extraction: the kinds, the largest size of a file in bytes, the context that all
files share and the number of files parsed. -/
structure Session where
  kinds : KindTable
  limit : Int
  context : Context FileNode Doclet
  filesParsed : Nat
deriving Repr

def defaultLimit : Int := 300000

def Session.start (kinds : KindTable) (limit : Int) : Session :=
  ⟨kinds, limit, Context.empty, 0⟩

structure Extracted where
  documented : List Documented
  notes : List Note
deriving DecidableEq, Repr

def Extracted.ofOutcomes (outcomes : List Outcome) : Extracted :=
  ⟨outcomes.filterMap Outcome.documented, outcomes.flatMap Outcome.notes⟩

def Session.extractSource (session : Session) (source : Source) : Session × Extracted :=
  let file : Opened := ⟨session.filesParsed, source⟩
  let start : Progress := ⟨session.context.setModule [], Sightings.empty⟩
  let (outcomes, progress) := (processAll session.kinds file (docComments source)).run start
  ({ session with context := progress.context, filesParsed := session.filesParsed + 1 },
    Extracted.ofOutcomes outcomes)

/-- Extracts the doclets of a file. A file that is too large, or for which there is no grammar, has
none and leaves the session as it was. -/
def Session.extract (session : Session) (grammar : Grammar) (location : Location) (content : Text) :
    Session × Extracted :=
  let bytes := Utf8.encode content
  if (bytes.length : Int) > session.limit then
    (session, ⟨[], [.tooLarge location session.limit]⟩)
  else
    match grammar with
    | .ready parse => session.extractSource ⟨location, bytes, parse bytes⟩
    | unready => (session, ⟨[], unready.notes⟩)

end SymbolPath.Extraction
