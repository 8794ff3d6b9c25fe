import SymbolPath.CommandLine.Piece

/-!
Reading the arguments: which command is to be run, with what. Switches act in the order in which
they are given; the first mistake, or the first call for help, ends the reading. What is not
recognized is complained about at the end, unless something else is wrong.
-/

namespace SymbolPath.CommandLine

inductive Project where
  | unnamed
  | named (path : Text)
  /-- The arguments name a project, but give it no path. -/
  | void
deriving DecidableEq, Repr

structure Invocation where
  command : Command
  project : Project
  verbose : Bool
  targets : List Text
  format : Option Text
  assignment : Option (Text × Text)
  forUser : Bool
  unrecognized : List Text
deriving DecidableEq, Repr

namespace Invocation

def start : Invocation := ⟨.root, .unnamed, false, [], none, none, false, []⟩

def leave (told : Invocation) (arguments : List Text) : Invocation :=
  { told with unrecognized := told.unrecognized ++ arguments }

/-- A switch with the values that belong to it. The divider joined to a switch is no value. -/
structure Action where
  switch : Switch
  values : List Text
deriving DecidableEq, Repr

def perform (command : Command) (told : Invocation) (action : Action) :
    Except Stop Invocation :=
  match action.switch, action.values with
  | .help, _ => .error (.help command)
  | .version, _ => .error .version
  | .verbose, _ => .ok { told with verbose := true }
  | .user, _ => .ok { told with forUser := true }
  | .project, [] => .ok { told with project := .void }
  | .project, [path] => .ok { told with project := .named path }
  | .format, [] => .ok { told with format := none }
  | .format, [format] =>
    if Switch.format.choices.contains format then .ok { told with format := some format }
    else .error (.misuse command
      (.invalidChoice Switch.format.title format Switch.format.choices))
  | .assign, [key, value] => .ok { told with assignment := some (key, value) }
  | switch, _ => .error (.misuse command (.valuesMissing switch))

/-- The switches written in one argument: those that take no value, and the last one with what is
joined to it. -/
structure Bundle where
  flags : List Switch
  last : Switch
  joined : Option Text
deriving DecidableEq, Repr

def Bundle.withFlag (flag : Switch) (bundle : Bundle) : Bundle :=
  { bundle with flags := flag :: bundle.flags }

/-- Takes apart a switch and the text joined to it: a value, or the letters of more switches. -/
def unbundle (command : Command) (isShort : Bool) (switch : Switch) :
    Text → Except Misuse Bundle
  | [] =>
    match switch.valueCount with
    | 0 => .error (.unusedValue switch [])
    | 1 => .ok ⟨[], switch, some []⟩
    | _ => .error (.valuesMissing switch)
  | letter :: rest =>
    match switch.valueCount with
    | 0 =>
      match if isShort then command.switch? ['-', letter] else none with
      | none => .error (.unusedValue switch (letter :: rest))
      | some next =>
        if rest.isEmpty then .ok ⟨[switch], next, none⟩
        else (unbundle command true next rest).map (Bundle.withFlag switch)
    | 1 => .ok ⟨[], switch, some (letter :: rest)⟩
    | _ => .error (.valuesMissing switch)

def bundleOf (command : Command) (switch : Switch) (isShort : Bool) :
    Option Text → Except Misuse Bundle
  | none => .ok ⟨[], switch, none⟩
  | some joined => unbundle command isShort switch joined

/-- The actions of a bundle, given the pieces that follow, and how many of these are its values. -/
def Bundle.actions (bundle : Bundle) (following : List Piece) :
    Except Misuse (List Action × Nat) :=
  let flags : List Action := bundle.flags.map (⟨·, []⟩)
  match bundle.joined with
  | some value => .ok (flags ++ [⟨bundle.last, [value].erase Piece.dividerText⟩], 0)
  | none =>
    let count := bundle.last.valueCount
    let values := following.take count
    if values.length == count && values.all Piece.isWord then
      .ok (flags ++ [⟨bundle.last, values.map Piece.text⟩], count)
    else .error (.valuesMissing bundle.last)

/-- Reads pieces in order; `words` tells what to do with a run of words. A run of the root command
goes on to the end. -/
def readPieces (command : Command) (words : Invocation → List Piece → Except Stop Invocation)
    (told : Invocation) : List Piece → Except Stop Invocation
  | [] => .ok told
  | .unknown written :: rest => readPieces command words (told.leave [written]) rest
  | .known _ switch isShort joined :: rest => do
    let bundle ← (bundleOf command switch isShort joined).mapError (.misuse command)
    let (actions, count) ← (bundle.actions rest).mapError (.misuse command)
    let told ← actions.foldlM (perform command) told
    readPieces command words told (rest.drop count)
  | piece :: rest => do
    let run := rest.takeWhile fun other => command == .root || other.isWordOrDivider
    let told ← words told (piece :: run)
    readPieces command words told (rest.drop run.length)
termination_by pieces => pieces.length
decreasing_by all_goals (simp; try omega)

def readArguments (command : Command)
    (words : Invocation → List Piece → Except Stop Invocation) (told : Invocation)
    (arguments : List Text) : Except Stop Invocation := do
  let pieces ← (Piece.ofTexts command arguments).mapError (.misuse command)
  readPieces command words told pieces

/-- The first run of words has the targets. -/
def takeTargets (told : Invocation) (run : List Piece) : Except Stop Invocation :=
  if told.targets.isEmpty && run.any Piece.isWord then
    .ok { told with targets := (run.map Piece.text).erase Piece.dividerText }
  else .ok (told.leave (run.map Piece.text))

def takeNoWords (told : Invocation) (run : List Piece) : Except Stop Invocation :=
  .ok (told.leave (run.map Piece.text))

def readCommand (command : Command) (told : Invocation) (arguments : List Text) :
    Except Stop Invocation :=
  let told := { told with command := command }
  match command with
  | .paths => do
    let told ← readArguments .paths takeTargets told arguments
    if told.targets.isEmpty then .error (.misuse .paths .targetsMissing) else .ok told
  | _ => readArguments command takeNoWords told arguments

def takeCommand (told : Invocation) (run : List Piece) : Except Stop Invocation :=
  match run with
  | [] => .ok told
  | [.divider] => .ok (told.leave [Piece.dividerText])
  | name :: rest =>
    match Command.ofName? name.text with
    | some command => readCommand command told (rest.map Piece.text)
    | none => .error (.misuse .root
        (.invalidChoice "command" name.text (Command.byName.map Prod.fst)))

def read (arguments : List Text) : Except Stop Invocation := do
  let told ← readArguments .root takeCommand start arguments
  if told.unrecognized.isEmpty then pure told
  else .error (.misuse .root (.unrecognized told.unrecognized))

end Invocation
end SymbolPath.CommandLine
