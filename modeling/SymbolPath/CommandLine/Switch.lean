import SymbolPath.Text

/-!
The commands, and the switches that each of them takes.
-/

namespace SymbolPath.CommandLine

inductive Command where
  | root
  | paths
  | config
deriving DecidableEq, Repr

inductive Switch where
  | help
  | project
  | verbose
  | version
  | format
  | assign
  | user
deriving DecidableEq, Repr

namespace Switch

def spellings : Switch → List Text
  | .help => ["-h", "--help"]
  | .project => ["--project", "-p"]
  | .verbose => ["--verbose", "-v"]
  | .version => ["--version", "-V"]
  | .format => ["--format", "-f"]
  | .assign => ["--set"]
  | .user => ["--user"]

def valueCount : Switch → Nat
  | .project => 1
  | .format => 1
  | .assign => 2
  | _ => 0

def choices : Switch → List Text
  | .format => ["table", "json"]
  | _ => []

def title (switch : Switch) : Text :=
  Text.joinWith "/" switch.spellings

end Switch

namespace Command

def switches : Command → List Switch
  | .root => [.help, .project, .verbose, .version]
  | .paths => [.help, .format]
  | .config => [.help, .assign, .user]

def spellings (command : Command) : List (Text × Switch) :=
  command.switches.flatMap fun switch => switch.spellings.map fun spelling => (spelling, switch)

def switch? (command : Command) (spelling : Text) : Option Switch :=
  (command.spellings.find? fun entry => entry.1 == spelling).map Prod.snd

def byName : List (Text × Command) :=
  [("paths", .paths), ("config", .config)]

def ofName? (name : Text) : Option Command :=
  (byName.find? fun entry => entry.1 == name).map Prod.snd

end Command
end SymbolPath.CommandLine
