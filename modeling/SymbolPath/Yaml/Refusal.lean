import SymbolPath.Moment
import SymbolPath.Text.Utf8

/-!
Why a text has no value. A malformed text is told apart from one that cannot be decoded, and from
one that is well formed but holds a scalar which its tag cannot read.
-/

namespace SymbolPath.Yaml

inductive Refusal where
  | malformed
  | tooDeep
  | undecodable (reason : Utf8.Undecodable)
  | noCharacter
  /-- An escape names a number that needs more than 31 bits. -/
  | escapeTooLarge
  | number (reason : Whole.Unreadable)
  /-- What should be a number has nothing behind its sign. -/
  | digitsMissing
  | notAFloat (shown : Text)
  | floatTooLarge
  | notATruthValue (shown : Text)
  | notAMoment
  /-- A mapping stands for its default value where a moment is to be read. -/
  | momentOfMapping
  | impossibleMoment (reason : Moment.Impossible)
  /-- A mapping is its own default value. -/
  | endless
deriving DecidableEq, Repr

def Refusal.message : Refusal → Option Text
  | .undecodable reason => some reason.message
  | .noCharacter => some "chr() arg not in range(0x110000)"
  | .number reason => some reason.message
  | .digitsMissing => some "string index out of range"
  | .notAFloat shown => some ("could not convert string to float: " ++ shown)
  | .notATruthValue shown => some shown
  | .impossibleMoment reason => some reason.message
  | .tooDeep => some "maximum recursion depth exceeded"
  | .endless => some "maximum recursion depth exceeded"
  | _ => none

end SymbolPath.Yaml
