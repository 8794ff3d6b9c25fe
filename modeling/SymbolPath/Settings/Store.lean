import SymbolPath.Settings.Layers
import SymbolPath.Yaml.Writer

/-!
Settings in use. A store reads its layers once, when settings are first asked for, and keeps what it
read. A change is made to the settings kept, checked with the others of its section, and then all
settings are written to the file of the project or of the user.
-/

namespace SymbolPath

inductive Setting where
  | docspaceKinds
  | maxFileSize
  | extensions
  | format
deriving DecidableEq, Repr

inductive Scope where
  | project
  | user
deriving DecidableEq, Repr

def Scope.name : Scope → Text
  | .project => "project"
  | .user => "user"

inductive Rejection where
  | keyFormat (key : Text)
  | unknownSection (name : Text)
  | unknownSetting (parent name : Text) (valid : List Text)
  | notANumber (written : Text)
  | invalid (reason : Invalid)
deriving DecidableEq, Repr

inductive Change where
  | done
  | rejected (reason : Rejection)
  | failed (reason : Failure)
deriving DecidableEq, Repr

namespace Setting

def sections : List (Text × List (Text × Setting)) :=
  [("resolver", [("docspace_kinds", docspaceKinds)]),
   ("parsing", [("max_file_size", maxFileSize), ("extensions", extensions)]),
   ("display", [("format", format)])]

/-- The setting that a key names: a section, a dot and a setting. -/
def ofKey (key : Text) : Except Rejection Setting :=
  match Text.splitOn '.' key with
  | [parent, name] =>
    match sections.find? fun entry => entry.1 == parent with
    | none => .error (.unknownSection parent)
    | some (_, settings) =>
      match settings.find? fun entry => entry.1 == name with
      | none => .error (.unknownSetting parent name (settings.map Prod.fst))
      | some (_, setting) => .ok setting
  | _ => .error (.keyFormat key)

end Setting

namespace Settings

def join (between : Text) (values : List Value) : Except Failure Text :=
  match Value.texts? values with
  | some texts => .ok (Text.joinWith between texts)
  | none => .error .notJoinable

def get (settings : Settings) : Setting → Except Failure Value
  | .docspaceKinds => .text <$> join "," settings.docspaceKinds
  | .maxFileSize => .text <$> shown (.int settings.maxFileSize)
  | .extensions => .text <$> join "," settings.extensions
  | .format => .ok settings.format

/-- The settings with one of them as written; what is written for a number must be a number. -/
def change (settings : Settings) (setting : Setting) (written : Text) :
    Except Change Settings :=
  match setting with
  | .docspaceKinds => .ok { settings with docspaceKinds := listOf written }
  | .maxFileSize =>
    if written.isEmpty || !written.all Text.isDigit then .error (.rejected (.notANumber written))
    else match Whole.read written with
      | .ok size => .ok { settings with maxFileSize := size }
      | .error reason => .error (.failed (.unreadableNumber reason))
  | .extensions => .ok { settings with extensions := listOf written }
  | .format => .ok { settings with format := .text written }

def validateBeside (settings : Settings) : Setting → Except Failure (Option Invalid)
  | .docspaceKinds => settings.validateResolver
  | .maxFileSize => settings.validateParsing
  | .extensions => settings.validateParsing
  | .format => settings.validateDisplay

def fileText (settings : Settings) : Except Failure Text :=
  match Yaml.writeMapping? settings.toMapping with
  | some t => .ok t
  | none => .error .numberTooLong

def describe (settings : Settings) (userFile projectFile : Text) : Except Failure Text := do
  let kinds ← join ", " settings.docspaceKinds
  let size ← shown (.int settings.maxFileSize)
  let extensions ← join ", " settings.extensions
  let format ← shown settings.format
  pure (Text.joinWith "\n" [
    "Configuration:",
    "",
    "Resolver:",
    "  Docspace kinds: " ++ (if kinds.isEmpty then ("(none)" : Text) else kinds),
    "",
    "Parsing:",
    "  Max file size: " ++ size,
    "  Extensions: " ++ extensions,
    "",
    "Display:",
    "  Format: " ++ format,
    "",
    "Config files:",
    "  User: " ++ userFile,
    "  Project: " ++ projectFile])

end Settings

/-- The environment, the two files as they are, and the settings once they are read. -/
structure Store where
  environment : Environment
  user : Option Bytes
  project : Option Bytes
  kept : Option Settings
deriving Repr

namespace Store

def new (environment : Environment) (user project : Option Bytes) : Store :=
  ⟨environment, user, project, none⟩

def reopen (store : Store) : Store :=
  { store with kept := none }

def keep (store : Store) (settings : Settings) : Store :=
  { store with kept := some settings }

/-- The settings kept, or else those of the layers. -/
def settings (store : Store) : Except Failure Settings :=
  match store.kept with
  | some settings => .ok settings
  | none => Settings.load store.environment store.user store.project

def load (store : Store) : Store :=
  match store.settings with
  | .ok settings => store.keep settings
  | .error _ => store

/-- The setting of a key; a key that names none has no value. -/
def get (store : Store) (key : Text) : Except Failure Value := do
  let settings ← store.settings
  match Setting.ofKey key with
  | .ok setting => settings.get setting
  | .error _ => pure .null

def file (store : Store) : Scope → Option Bytes
  | .project => store.project
  | .user => store.user

def putFile (store : Store) (scope : Scope) (text : Text) : Store :=
  let bytes := Utf8.encode text
  match scope with
  | .project => { store with project := some bytes }
  | .user => { store with user := some bytes }

/-- Writes all settings to a file, and keeps them. Where a number cannot be written, an empty file is
left behind. -/
def save (store : Store) (settings : Settings) (scope : Scope) : Change × Store :=
  let kept := store.keep settings
  match settings.fileText with
  | .ok text => (.done, kept.putFile scope text)
  | .error failure => (.failed failure, kept.putFile scope [])

/-- Changes one setting. A value that can be read is kept even if its section then turns out to be
invalid; nothing is written in that case. -/
def set (store : Store) (key written : Text) (scope : Scope) : Change × Store :=
  match store.settings with
  | .error failure => (.failed failure, store)
  | .ok settings =>
    match Setting.ofKey key with
    | .error rejection => (.rejected rejection, store.keep settings)
    | .ok setting =>
      match settings.change setting written with
      | .error refused => (refused, store.keep settings)
      | .ok changed =>
        match changed.validateBeside setting with
        | .error failure => (.failed failure, store.keep changed)
        | .ok (some invalid) => (.rejected (.invalid invalid), store.keep changed)
        | .ok none => store.save changed scope

theorem set_of_valid {store : Store} {key : Text} {settings changed : Settings} {setting : Setting}
    {written : Text} (read : store.settings = .ok settings)
    (named : Setting.ofKey key = .ok setting) (taken : settings.change setting written = .ok changed)
    (valid : changed.validateBeside setting = .ok none) (scope : Scope) :
    store.set key written scope = store.save changed scope := by
  unfold set
  simp only [read, named, taken, valid]

end Store

def Rejection.message : Rejection → Text
  | .keyFormat key =>
    "Invalid key format: " ++ key ++ ". Use 'section.setting' (e.g., 'display.format')"
  | .unknownSection name =>
    "Unknown section: " ++ name ++ ". Valid: " ++
      Text.joinWith ", " (Setting.sections.map Prod.fst)
  | .unknownSetting parent name valid =>
    "Unknown " ++ parent ++ " setting: " ++ name ++ ". Valid: " ++ Text.joinWith ", " valid
  | .notANumber written => "max_file_size must be a number, got '" ++ written ++ "'"
  | .invalid reason => reason.message

end SymbolPath
