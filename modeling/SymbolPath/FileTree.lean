import SymbolPath.Location
import SymbolPath.Text.Quoted
import SymbolPath.Text.Utf8

/-!
Files in folders, and finding, reading and writing them by location. A location is followed from
the top or from a working folder, one part at a time; two dots lead back to the folder above. Names
and locations are limited in length.
-/

namespace SymbolPath

inductive FileTree where
  | file (bytes : Bytes)
  | folder (entries : List (Text × FileTree))
deriving Repr, Inhabited

namespace FileTree

def isFolder : FileTree → Bool
  | .file _ => false
  | .folder _ => true

def entries : FileTree → List (Text × FileTree)
  | .file _ => []
  | .folder entries => entries

def child? (tree : FileTree) (name : Text) : Option FileTree :=
  (tree.entries.find? fun entry => entry.1 == name).map Prod.snd

def at? (tree : FileTree) : List Text → Option FileTree
  | [] => some tree
  | name :: rest => (tree.child? name).bind fun child => child.at? rest

/-- The tree with something new at the end of the names; folders on the way are created. -/
def put (tree : FileTree) (new : FileTree) : List Text → FileTree
  | [] => new
  | name :: rest =>
    let below := ((tree.child? name).getD (.folder [])).put new rest
    .folder (if (tree.child? name).isSome
      then tree.entries.map fun entry => if entry.1 == name then (name, below) else entry
      else tree.entries ++ [(name, below)])

mutual

def files : FileTree → List (List Text)
  | .file _ => [[]]
  | .folder entries => filesOf entries

def filesOf : List (Text × FileTree) → List (List Text)
  | [] => []
  | (name, tree) :: rest => (files tree).map (name :: ·) ++ filesOf rest

end

def namesLe : List Text → List Text → Bool
  | [], _ => true
  | _ :: _, [] => false
  | a :: as, b :: bs => if a == b then namesLe as bs else Text.le a b

def parentName : Text := ".."

/-- The number of bytes that a name may have. -/
def nameLimit : Nat := 255

def isTooLong (name : Text) : Bool :=
  (Utf8.encode name).length > nameLimit

inductive DeadEnd where
  | missing
  | behindFile
  | nameTooLong
deriving DecidableEq, Repr

/-- The names of the place that some parts lead to from the place `here`. Only folders are passed
through, and every part must lead somewhere. -/
def follow (tree : FileTree) (here : List Text) : List Text → Except DeadEnd (List Text)
  | [] => .ok here
  | part :: rest =>
    if !(tree.at? here).any isFolder then .error .behindFile
    else if part == parentName then tree.follow here.dropLast rest
    else if isTooLong part then .error .nameTooLong
    else if (tree.at? (here ++ [part])).isSome then tree.follow (here ++ [part]) rest
    else .error .missing

end FileTree

inductive Obstacle where
  /-- The folder is to stand where a file does. -/
  | takenByFile (folder : Location)
  | leadsThroughFile (folder : Location)
  /-- The file is to stand where a folder does. -/
  | takenByFolder (file : Location)
  | tooLong (location : Location)
  | nullCharacter
deriving DecidableEq, Repr

structure Disk where
  tree : FileTree
  here : List Text
deriving Repr

namespace Disk

/-- The number of bytes that a location may have. -/
def locationLimit : Nat := 4095

def isTooLong (l : Location) : Bool :=
  (Utf8.encode l.text).length > locationLimit

def hasNull (l : Location) : Bool :=
  l.text.contains '\x00'

def start (disk : Disk) (l : Location) : List Text :=
  if l.isAbsolute then [] else disk.here

def find? (disk : Disk) (l : Location) : Except Obstacle (Option FileTree) :=
  if hasNull l then .ok none
  else if isTooLong l then .error (.tooLong l)
  else match disk.tree.follow (disk.start l) l.parts with
    | .ok names => .ok (disk.tree.at? names)
    | .error .nameTooLong => .error (.tooLong l)
    | .error _ => .ok none

def read? (disk : Disk) (l : Location) : Except Obstacle (Option Bytes) :=
  (disk.find? l).map fun found => match found with
    | some (.file bytes) => some bytes
    | _ => none

/-- Creates a folder in the one above it, unless it is there; `none` if the one above is missing. -/
def makeFolder (disk : Disk) (l : Location) : Except Obstacle (Option Disk) :=
  if hasNull l then .error .nullCharacter
  else if isTooLong l then .error (.tooLong l)
  else
    let above := l.parts.dropLast
    match disk.tree.follow (disk.start l) above with
    | .error .missing => .ok none
    | .error .behindFile => .error (.leadsThroughFile l)
    | .error .nameTooLong => .error (.tooLong l)
    | .ok here =>
      match disk.tree.follow here (l.parts.drop above.length) with
      | .ok place =>
        if (disk.tree.at? place).any FileTree.isFolder then .ok (some disk)
        else .error (.takenByFile l)
      | .error .behindFile => .error (.leadsThroughFile l)
      | .error .nameTooLong => .error (.tooLong l)
      | .error .missing =>
        let place := here ++ l.parts.drop above.length
        .ok (some { disk with tree := disk.tree.put (.folder []) place })

/-- Creates a folder and those above it that are missing. The parts come last part first. -/
def makeFolders (disk : Disk) (root : Root) : List Text → Except Obstacle Disk
  | [] => .ok disk
  | part :: above => do
    let l : Location := ⟨root, (part :: above).reverse⟩
    match ← disk.makeFolder l with
    | some made => pure made
    | none =>
      let below ← disk.makeFolders root above
      return (← below.makeFolder l).getD below

/-- Writes a file into a folder; both are created where they are missing. -/
def write (disk : Disk) (folder : Location) (name : Text) (bytes : Bytes) :
    Except Obstacle Disk := do
  let disk ← disk.makeFolders folder.root folder.parts.reverse
  match disk.tree.follow (disk.start folder) folder.parts with
  | .error _ => pure disk
  | .ok here =>
    let place := here ++ [name]
    if (disk.tree.at? place).any FileTree.isFolder then
      throw (.takenByFolder (folder.child [name]))
    else pure { disk with tree := disk.tree.put (.file bytes) place }

end Disk

def Obstacle.message : Obstacle → Text
  | .takenByFile folder => "[Errno 17] File exists: " ++ Text.quoted folder.text
  | .leadsThroughFile folder => "[Errno 20] Not a directory: " ++ Text.quoted folder.text
  | .takenByFolder file => "[Errno 21] Is a directory: " ++ Text.quoted file.text
  | .tooLong location => "[Errno 36] File name too long: " ++ Text.quoted location.text
  | .nullCharacter => "embedded null byte"

end SymbolPath
