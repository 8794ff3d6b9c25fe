import SymbolPath.Text.Hex
import SymbolPath.Value

/-!
Values as JSON text over several lines, two spaces to a level. Characters above ASCII are escaped,
those beyond the first plane as a pair of surrogates.
-/

namespace SymbolPath.Json

def escapeUnit (unit : Nat) : Text :=
  '\\' :: 'u' :: Text.hex 4 unit

def escapeChar (c : Char) : Text :=
  let n := c.toNat
  if c == '"' then ['\\', '"']
  else if c == '\\' then ['\\', '\\']
  else if c == '\n' then ['\\', 'n']
  else if c == '\r' then ['\\', 'r']
  else if c == '\t' then ['\\', 't']
  else if n == 0x08 then ['\\', 'b']
  else if n == 0x0C then ['\\', 'f']
  else if 0x20 ≤ n && n < 0x80 then [c]
  else if n < 0x10000 then escapeUnit n
  else
    let rest := n - 0x10000
    escapeUnit (0xD800 + rest / 0x400) ++ escapeUnit (0xDC00 + rest % 0x400)

def string (t : Text) : Text :=
  '"' :: t.flatMap escapeChar ++ ['"']

def number (d : Double) : Text :=
  match d with
  | .nan => "NaN"
  | .infinity negative => if negative then "-Infinity" else "Infinity"
  | finite => finite.text

def newline (level : Nat) : Text :=
  '\n' :: List.replicate (2 * level) ' '

/-- The text of a key. Keys that are not texts are written as their values are. -/
def keyText : Value → Text
  | .text t => t
  | .null => "null"
  | .bool b => if b then "true" else "false"
  | .float d => number d
  | other => other.display.getD []

mutual

/-- The text of a value whose own line is indented to `level`. What is neither a number nor a list
nor a mapping is written as a text. -/
def render (level : Nat) : Value → Text
  | .null => "null"
  | .bool b => if b then "true" else "false"
  | .int n => Text.ofInt n
  | .float d => number d
  | .text t => string t
  | .list [] => "[]"
  | .list (item :: rest) =>
    '[' :: newline (level + 1) ++ render (level + 1) item ++ renderItems (level + 1) rest ++
      newline level ++ [']']
  | .map [] => ['\x7b', '\x7d']
  | .map ((key, value) :: rest) =>
    '\x7b' :: newline (level + 1) ++ string (keyText key) ++ ": " ++ render (level + 1) value ++
      renderEntries (level + 1) rest ++ newline level ++ ['\x7d']
  | other => string (other.display.getD [])

def renderItems (level : Nat) : List Value → Text
  | [] => []
  | item :: rest => ',' :: newline level ++ render level item ++ renderItems level rest

def renderEntries (level : Nat) : List (Value × Value) → Text
  | [] => []
  | (key, value) :: rest =>
    ',' :: newline level ++ string (keyText key) ++ ": " ++ render level value ++
      renderEntries level rest

end

def ofValue (value : Value) : Text :=
  render 0 value

end SymbolPath.Json
