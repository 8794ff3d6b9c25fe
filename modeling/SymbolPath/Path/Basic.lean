import SymbolPath.Path.Literal

/-!
Paths of symbols: segments joined by a dot (a static member), a hash (an instance member) or a tilde
(a symbol inside a closure). Splitting and joining turn on the last separator outside quoted
literals. The hash and the tilde stay with the container, as its scope marker; the dot belongs to
neither side.
-/

namespace SymbolPath.Path

/-- Does the character keep to the container it ends? -/
def isScopeMarker (c : Char) : Bool :=
  c == '#' || c == '~'

def isSeparator (c : Char) : Bool :=
  c == '.' || isScopeMarker c

def Mark.separates (mark : Mark) : Bool :=
  !mark.inLiteral && isSeparator mark.char

structure Cut where
  before : Text
  separator : Char
  after : Text
deriving DecidableEq, Repr

def cutMarks : List Mark → Option Cut
  | [] => none
  | mark :: rest =>
    match cutMarks rest with
    | some cut => some { cut with before := mark.char :: cut.before }
    | none => if mark.separates then some ⟨[], mark.char, rest.map Mark.char⟩ else none

/-- Cuts a path at its last separator outside literals, if it has one. -/
def cut? (path : Text) : Option Cut :=
  cutMarks (marks path)

def split (path : Text) : Text × Text :=
  match cut? path with
  | none => ([], path)
  | some cut =>
    (if isScopeMarker cut.separator then cut.before ++ [cut.separator] else cut.before, cut.after)

/-- The path without its last segment, the separator kept; empty if nothing is left. -/
def dropLast (path : Text) : Text :=
  match cut? path with
  | none => []
  | some cut => cut.before ++ [cut.separator]

def endsIn (test : Char → Bool) (t : Text) : Bool :=
  t.getLast?.any test

/-- What stands between a container and its member: nothing after a scope marker, else a dot. -/
def joiner (container : Text) : Text :=
  if endsIn isScopeMarker container then [] else ['.']

def join (container name : Text) : Text :=
  if container.isEmpty then name else container ++ joiner container ++ name

/-- A container that has no stable name. -/
def anonymous : Text := "[[anonymous]]"

def anonymousObject : Text := "[[anonymousObject]]"

theorem chars_cutMarks {list : List Mark} {cut : Cut} (found : cutMarks list = some cut) :
    cut.before ++ cut.separator :: cut.after = list.map Mark.char := by
  induction list generalizing cut with
  | nil => simp [cutMarks] at found
  | cons mark rest ih =>
    cases inner : cutMarks rest with
    | some deeper =>
      simp only [cutMarks, inner, Option.some.injEq] at found
      subst found
      simp [ih inner]
    | none =>
      by_cases here : mark.separates
      · simp only [cutMarks, inner, here, if_true, Option.some.injEq] at found
        subst found
        simp
      · simp [cutMarks, inner, here] at found

theorem chars_cut? {path : Text} {cut : Cut} (found : cut? path = some cut) :
    cut.before ++ cut.separator :: cut.after = path := by
  have := chars_cutMarks found
  rwa [marks_chars] at this

end SymbolPath.Path
