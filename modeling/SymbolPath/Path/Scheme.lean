import SymbolPath.Text.Blank
import SymbolPath.Text.Alphanumeric

/-!
Schemes. The kind of a symbol may be written before its name, with a colon: `event:changed`.
-/

namespace SymbolPath.Path

/-- A scheme is made of letters, underscores, dollar signs and hyphens. The letters are those of
ASCII and the four characters that differ from one of them by case alone. -/
def isSchemeChar (c : Char) : Bool :=
  Text.isAsciiLetter c || c == '_' || c == '$' || c == '-' ||
  c.toNat == 0x130 || c.toNat == 0x131 || c.toNat == 0x17F || c.toNat == 0x212A

/-- The first word behind a leading scheme, if there is a scheme and a word follows at once. -/
def afterScheme? (name : Text) : Option Text :=
  let scheme := name.takeWhile isSchemeChar
  match name.dropWhile isSchemeChar with
  | ':' :: rest =>
    let word := rest.takeWhile fun c => !Text.isBlank c
    if scheme.isEmpty || word.isEmpty then none else some word
  | _ => none

def stripScheme (name : Text) : Text :=
  (afterScheme? name).getD name

end SymbolPath.Path
