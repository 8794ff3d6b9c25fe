import SymbolPath.CommandLine.Run

/-!
The program. It has no grammar of its own, so it shows and changes settings, and says of sources
that it cannot read them. Only the two settings files are looked at, and written if they change.
-/

namespace SymbolPath.CommandLine

def pathOf (l : Location) : String := String.ofList l.text

def readFile (l : Location) : IO (Option Bytes) := do
  try
    let bytes ← IO.FS.readBinFile (pathOf l)
    return some bytes.toList
  catch _ => return none

def addFile (disk : Disk) (folder : Location) : Option Bytes → Disk
  | none => disk
  | some bytes =>
    match disk.write folder settingsName bytes with
    | .ok disk => disk
    | .error _ => disk

def settingsDisk (folders : List Location) : IO Disk := do
  let mut disk : Disk := ⟨.folder [("here", .folder [])], ["here"]⟩
  for folder in folders do
    disk := addFile disk folder (← readFile (folder.child [settingsName]))
  return disk

def writeChanged (before after : Disk) (folder : Location) : IO Unit := do
  let file := folder.child [settingsName]
  match after.read? file, before.read? file with
  | .ok (some bytes), .ok former =>
    if former != some bytes then
      IO.FS.createDirAll (pathOf folder)
      IO.FS.writeBinFile (pathOf file) ⟨bytes.toArray⟩
  | _, _ => return

def readVariable (name : String) : IO (Option Text) := do
  return (← IO.getEnv name).map String.toList

def Abort.text : Abort → Text
  | .noProject => "no project is named"
  | .failure reason => reason.message.getD "the settings cannot be used"
  | .obstacle reason => reason.message

end SymbolPath.CommandLine

open SymbolPath CommandLine in
def main (arguments : List String) : IO UInt32 := do
  let arguments := arguments.map String.toList
  let project ← readVariable "NAMEPATH_PROJECT_PATH"
  let home := Location.ofText ((← readVariable "HOME").getD "/")
  let environment : Environment :=
    ⟨(← readVariable "NAMEPATH_DOCSPACE_KINDS").getD [], (← readVariable "NAMEPATH_FORMAT").getD []⟩
  let blank : Surroundings := ⟨⟨.folder [], []⟩, home, project, environment, .missing⟩
  let folders := match Invocation.read arguments with
    | .ok told => (home :: (projectOf? blank told).toList).map settingsFolder
    | .error _ => []
  let disk ← settingsDisk folders
  let ending := run { blank with disk := disk } arguments
  IO.print (String.ofList ending.output)
  IO.eprint (String.ofList ending.log)
  for folder in folders do
    writeChanged disk ending.disk folder
  match ending.status with
  | .ok status => return status.toUInt32
  | .error reason =>
    IO.eprintln (String.ofList reason.text)
    return 1
