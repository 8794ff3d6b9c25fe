import SymbolPath.Location
import SymbolPath.Syntax.Cursor

/-!
A source file: where it lies, its bytes, and the syntax tree whose spans refer to them.
-/

namespace SymbolPath.Syntax

structure Source where
  location : Location
  bytes : Bytes
  tree : Tree
deriving Repr

namespace Source

def text (source : Source) (c : Cursor) : Text :=
  Utf8.decodeLenient ((source.bytes.take c.focus.stop).drop c.focus.start)

/-- The line on which a node starts, the first line being 1. -/
def line (source : Source) (c : Cursor) : Nat :=
  (source.bytes.take c.focus.start).count 0x0A + 1

end Source
end SymbolPath.Syntax
