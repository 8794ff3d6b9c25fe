import SymbolPath.CommandLine.Help
import SymbolPath.CommandLine.Invocation
import SymbolPath.Report.Log
import SymbolPath.Settings.Store
import SymbolPath.Sources

/-!
Running a command: from the arguments and the files as they are to what is printed, what is logged,
how the program ends, and the files as they are then.
-/

namespace SymbolPath.CommandLine

open Extraction

/-- What a command finds around it. The project may be named by the environment. -/
structure Surroundings where
  disk : Disk
  home : Location
  project : Option Text
  environment : Environment
  grammar : Grammar

inductive Abort where
  | noProject
  | failure (reason : Failure)
  | obstacle (reason : Obstacle)
deriving DecidableEq, Repr

/-- What a command leaves behind. A status of zero means success. -/
structure Ending where
  status : Except Abort Nat
  output : Text
  log : Text
  disk : Disk

namespace Surroundings

variable (around : Surroundings)

def finish (status : Nat) (output : Text) : Ending :=
  ⟨.ok status, output, [], around.disk⟩

def breakOff (reason : Abort) : Ending :=
  ⟨.error reason, [], [], around.disk⟩

end Surroundings

def settingsFolder (l : Location) : Location := l.child [".namepath"]

def settingsName : Text := "config.yaml"

def settingsFile (l : Location) : Location := (settingsFolder l).child [settingsName]

/-- The settings that apply to a project. What is wrong with the file of the user shows before what
is in the way to the file of the project. -/
def storeOf (around : Surroundings) (project : Location) : Except Abort Store := do
  let user ← (around.disk.read? (settingsFile around.home)).mapError .obstacle
  match around.disk.read? (settingsFile project) with
  | .ok bytes => pure (Store.new around.environment user bytes)
  | .error obstacle =>
    discard ((Settings.fileLayer .userFile user).mapError .failure)
    throw (.obstacle obstacle)

def noGrammar : Text :=
  "Error: tree-sitter JavaScript grammar not available. Install tree-sitter-language-pack.\n"

def notFound (target : Text) : Text :=
  "Error: " ++ target ++ " not found\n"

def formatOf (settings : Settings) (asked : Option Text) : Text :=
  asked.getD (settings.format.text?.getD [])

def report (format : Text) (survey : Sources.Survey) : Nat × Text :=
  let missing := survey.missing.flatMap notFound
  if survey.listing.isEmpty then (1, missing ++ "No source files found.\n")
  else (0, missing ++ Listing.render format survey.listing ++ "\n")

def runPaths (around : Surroundings) (settings : Settings) (project : Location)
    (told : Invocation) : Ending :=
  match settings.kindTable with
  | .error reason => around.breakOff (.failure reason)
  | .ok kinds =>
    if !around.grammar.isReady then
      { around.finish 1 noGrammar with log := Log.render told.verbose around.grammar.notes }
    else
      let (found, obstacle) := Sources.expandAll around.disk settings project told.targets
      let survey := Sources.survey around.disk around.grammar project
        (Session.start kinds settings.maxFileSize) found
      let log := Log.render told.verbose survey.notes
      match obstacle with
      | some reason =>
        { around.breakOff (.obstacle reason) with
          output := survey.missing.flatMap notFound, log := log }
      | none =>
        let (status, output) := report (formatOf settings told.format) survey
        { around.finish status output with log := log }

/-- Writes the settings file that a change concerns, if the change is one to the file. -/
def writeSettings (around : Surroundings) (before after : Store) (project : Location)
    (scope : Scope) : Except Obstacle Disk :=
  let folder := match scope with
    | .project => settingsFolder project
    | .user => settingsFolder around.home
  match after.file scope with
  | none => .ok around.disk
  | some bytes =>
    if before.file scope == some bytes then .ok around.disk
    else around.disk.write folder settingsName bytes

def runAssignment (around : Surroundings) (store : Store) (project : Location) (scope : Scope)
    (key value : Text) : Ending :=
  let (change, changed) := store.set key value scope
  match writeSettings around store changed project scope with
  | .error reason => around.breakOff (.obstacle reason)
  | .ok disk =>
    match change with
    | .failed reason => { around.breakOff (.failure reason) with disk := disk }
    | .rejected reason => around.finish 1 ("Error: " ++ reason.message ++ "\n")
    | .done =>
      { around.finish 0 ("Set " ++ key ++ " = " ++ value ++ " (" ++ scope.name ++ ")\n")
        with disk := disk }

def runConfig (around : Surroundings) (store : Store) (settings : Settings) (project : Location)
    (told : Invocation) : Ending :=
  match told.assignment with
  | some (key, value) =>
    runAssignment around store project (if told.forUser then .user else .project) key value
  | none =>
    match settings.describe (settingsFile around.home).text (settingsFile project).text with
    | .error reason => around.breakOff (.failure reason)
    | .ok description => around.finish 0 (description ++ "\n")

/-- The folder of the project: the one told, else the one of the environment, else the working
folder. -/
def projectOf? (around : Surroundings) (told : Invocation) : Option Location :=
  match told.project with
  | .named path => some (Location.ofText path)
  | .unnamed => some (Location.ofText (around.project.getD ['.']))
  | .void => none

def runOn (around : Surroundings) (told : Invocation) (project : Location) : Ending :=
  match storeOf around project with
  | .error reason => around.breakOff reason
  | .ok store =>
    let store := store.load
    match store.settings with
    | .error reason => around.breakOff (.failure reason)
    | .ok settings =>
      if told.command == .paths then runPaths around settings project told
      else runConfig around store settings project told

def runInvocation (around : Surroundings) (told : Invocation) : Ending :=
  if told.command == .root then around.finish 0 Command.root.help
  else match projectOf? around told with
    | none => around.breakOff .noProject
    | some project => runOn around told project

def run (around : Surroundings) (arguments : List Text) : Ending :=
  match Invocation.read arguments with
  | .ok told => runInvocation around told
  | .error (.help command) => around.finish 0 command.help
  | .error .version => around.finish 0 versionText
  | .error (.misuse command reason) =>
    { around.finish 2 [] with log := complaint command reason }

end SymbolPath.CommandLine
