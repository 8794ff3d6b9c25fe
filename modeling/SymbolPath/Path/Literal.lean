import SymbolPath.Text

/-!
Quoted literals inside a path. A literal starts at a double quote, holds at least one character and
ends at the nearest quote after that character, all on one line; literals are found from left to
right and do not overlap. What stands inside a literal, its quotes included, never separates.
-/

namespace SymbolPath.Path

/-- The number of characters up to and including the next quote, if it stands on this line. -/
def toClosingQuote : Text → Option Nat
  | [] => none
  | c :: rest =>
    if c = '"' then some 1
    else if c = '\n' then none
    else (· + 1) <$> toClosingQuote rest

/-- The number of characters after an opening quote that belong to its literal. The first of them
may itself be a quote. -/
def literalLength : Text → Option Nat
  | [] => none
  | c :: rest => if c = '\n' then none else (· + 1) <$> toClosingQuote rest

structure Mark where
  char : Char
  inLiteral : Bool
deriving DecidableEq, Repr

/-- Marks a path of which the first `inside` characters belong to a literal already begun. -/
def marksFrom : Nat → Text → List Mark
  | _, [] => []
  | inside + 1, c :: rest => ⟨c, true⟩ :: marksFrom inside rest
  | 0, c :: rest =>
    if c = '"' then
      match literalLength rest with
      | some length => ⟨c, true⟩ :: marksFrom length rest
      | none => ⟨c, false⟩ :: marksFrom 0 rest
    else ⟨c, false⟩ :: marksFrom 0 rest

def marks (path : Text) : List Mark :=
  marksFrom 0 path

theorem marksFrom_chars (inside : Nat) (path : Text) :
    (marksFrom inside path).map Mark.char = path := by
  induction path generalizing inside with
  | nil => cases inside <;> simp [marksFrom]
  | cons c rest ih =>
    cases inside with
    | succ inside => simp [marksFrom, ih]
    | zero =>
      by_cases quote : c = '"'
      · cases found : literalLength rest <;> simp [marksFrom, quote, found, ih]
      · simp [marksFrom, quote, ih]

@[simp] theorem marks_chars (path : Text) : (marks path).map Mark.char = path :=
  marksFrom_chars 0 path

/-- A path of the same length in which literals hide behind underscores. -/
def masked (path : Text) : Text :=
  (marks path).map fun mark => if mark.inLiteral then '_' else mark.char

theorem length_masked (path : Text) : (masked path).length = path.length := by
  have same := congrArg List.length (marks_chars path)
  rw [List.length_map] at same
  rw [masked, List.length_map, same]

end SymbolPath.Path
