import SymbolPath.CommandLine.Misuse

/-!
What the program says about itself and about wrong arguments.
-/

namespace SymbolPath.CommandLine

def programName : Text := "namepath"

def versionText : Text := "namepath 0.1.0\n"

namespace Command

def title : Command → Text
  | .root => programName
  | .paths => programName ++ " paths"
  | .config => programName ++ " config"

def usageLines : Command → List Text
  | .root => [
    "usage: namepath [-h] [--project PROJECT] [--verbose] [--version]",
    "                \x7bpaths,config\x7d ..."]
  | .paths => ["usage: namepath paths [-h] [--format \x7btable,json\x7d] targets [targets ...]"]
  | .config => ["usage: namepath config [-h] [--set KEY VALUE] [--user]"]

def detailLines : Command → List Text
  | .root => [
    "namepath -- JSDoc namepath resolver",
    "",
    "positional arguments:",
    "  \x7bpaths,config\x7d        Commands",
    "    paths               Resolve namepaths in JavaScript sources",
    "    config              Show or change configuration",
    "",
    "options:",
    "  -h, --help            show this help message and exit",
    "  --project PROJECT, -p PROJECT",
    "                        Project directory (default: NAMEPATH_PROJECT_PATH or",
    "                        current)",
    "  --verbose, -v         Log resolution decisions to stderr",
    "  --version, -V         show program's version number and exit",
    "",
    "Resolves documented symbols to canonical namepaths."]
  | .paths => [
    "positional arguments:",
    "  targets               Files or directories",
    "",
    "options:",
    "  -h, --help            show this help message and exit",
    "  --format \x7btable,json\x7d, -f \x7btable,json\x7d",
    "                        Output format (default: display.format setting)"]
  | .config => [
    "options:",
    "  -h, --help       show this help message and exit",
    "  --set KEY VALUE  Set a value",
    "  --user           Write to user config"]

def lines (parts : List Text) : Text :=
  parts.flatMap fun part => part ++ ['\n']

def usage (command : Command) : Text :=
  lines command.usageLines

def help (command : Command) : Text :=
  command.usage ++ '\n' :: lines command.detailLines

end Command

def complaint (command : Command) (reason : Misuse) : Text :=
  command.usage ++ command.title ++ ": error: " ++ reason.message ++ "\n"

end SymbolPath.CommandLine
