import SymbolPath.Extraction
import SymbolPath.FileTree
import SymbolPath.Report.Listing
import SymbolPath.Settings

/-!
Source files. A target is a file, taken whatever its name, or a folder, which stands for the files
below it whose ending is one of those to be read.
-/

namespace SymbolPath.Sources

open Extraction

inductive Found where
  | source (location : Location)
  | missing (target : Text)
deriving DecidableEq, Repr

def below (settings : Settings) (folder : Location) (tree : FileTree) : List Location :=
  ((tree.files.mergeSort FileTree.namesLe).map folder.child).filter fun l =>
    settings.matchesExtension l.suffix

def expand (disk : Disk) (settings : Settings) (project : Location) (target : Text) :
    Except Obstacle (List Found) :=
  let location := project.append (Location.ofText target)
  (disk.find? location).map fun found => match found with
    | some (.folder entries) => (below settings location (.folder entries)).map .source
    | some (.file _) => [.source location]
    | none => [.missing target]

/-- Expands targets, up to one that cannot be looked at. -/
def expandAll (disk : Disk) (settings : Settings) (project : Location) :
    List Text → List Found × Option Obstacle
  | [] => ([], none)
  | target :: rest =>
    match expand disk settings project target with
    | .error obstacle => ([], some obstacle)
    | .ok found =>
      let (others, obstacle) := expandAll disk settings project rest
      (found ++ others, obstacle)

/-- A file as listings name it: as seen from the project if it lies below, else in full. -/
def shownName (project location : Location) : Text :=
  ((location.below? project).getD location).text

/-- Reads a file and extracts its doclets. A file that is not text has none. -/
def extractFile (disk : Disk) (grammar : Grammar) (session : Session) (location : Location) :
    Session × Extracted :=
  let bytes := match disk.read? location with
    | .ok (some bytes) => bytes
    | _ => []
  match Utf8.decode bytes with
  | .error reason => (session, ⟨[], [.unreadable location reason.message]⟩)
  | .ok t => session.extract grammar location (Text.unifyLineEnds t)

/-- What is known after some of the files: the session, the doclets listed, the targets that were
not found, and what can be told. -/
structure Survey where
  session : Session
  listing : Listing.ByFile
  missing : List Text
  notes : List Note
deriving Repr

def Survey.start (session : Session) : Survey := ⟨session, [], [], []⟩

def Survey.add (disk : Disk) (grammar : Grammar) (project : Location) (survey : Survey) :
    Found → Survey
  | .missing target => { survey with missing := survey.missing ++ [target] }
  | .source location =>
    let (session, extracted) := extractFile disk grammar survey.session location
    { survey with
      session := session
      listing := Listing.put survey.listing (shownName project location)
        (extracted.documented.map Documented.doclet)
      notes := survey.notes ++ extracted.notes }

def survey (disk : Disk) (grammar : Grammar) (project : Location) (session : Session)
    (found : List Found) : Survey :=
  found.foldl (Survey.add disk grammar project) (Survey.start session)

end SymbolPath.Sources
