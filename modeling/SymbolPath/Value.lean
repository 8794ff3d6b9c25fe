import SymbolPath.Moment
import SymbolPath.Number.Shortest
import SymbolPath.Text.Utf8

/-!
Values of a settings file or of a table cell: absent, true or false, numbers, texts, bytes, moments,
lists, pairs, sets, and mappings in the order of their entries.

A file can put one and the same value in several places, and even inside itself. Such a value
carries a label: values of one label are one and the same, and inside a value of some label,
`again` stands for the value as a whole.
-/

namespace SymbolPath

/-- Tells apart the values of files: the number of the file, and the place of the value in it. -/
abbrev Label := List Nat

inductive Value where
  | null
  | bool (b : Bool)
  | int (n : Int)
  | float (d : Double)
  | text (t : Text)
  /-- A text that is cut inside a character, as code points. -/
  | fragment (points : List Nat)
  | bytes (b : Bytes)
  | moment (m : Moment)
  | list (items : List Value)
  | pair (first second : Value)
  | set (members : List Value)
  | map (entries : List (Value × Value))
  /-- A value that may also stand elsewhere; `loops` tells whether it stands inside itself. -/
  | shared (label : Label) (loops : Bool) (v : Value)
  | again (label : Label)
deriving Repr, Inhabited

/-- The entries of a mapping, each key once. -/
abbrev Mapping := List (Value × Value)

namespace Value

def ofPoints (points : List Nat) : Value :=
  match Text.ofPoints? points with
  | some t => .text t
  | none => .fragment points

/-! Labels. -/

mutual

/-- Puts `whole` where the value of a label stands inside itself. -/
def fill (label : Label) (whole : Value) : Value → Value
  | .again other => if other = label then whole else .again other
  | .list items => .list (fillItems label whole items)
  | .pair first second => .pair (fill label whole first) (fill label whole second)
  | .map entries => .map (fillEntries label whole entries)
  | .shared other loops v =>
    if other = label then .shared other loops v else .shared other loops (fill label whole v)
  | v => v

def fillItems (label : Label) (whole : Value) : List Value → List Value
  | [] => []
  | item :: rest => fill label whole item :: fillItems label whole rest

def fillEntries (label : Label) (whole : Value) : List (Value × Value) → List (Value × Value)
  | [] => []
  | (key, value) :: rest => (key, fill label whole value) :: fillEntries label whole rest

end

/-- The value without its label, and with itself in the places where it stands inside itself. -/
def bare : Value → Value
  | .shared label loops v => if loops then fill label (.shared label loops v) v else v
  | v => v

def entries? (v : Value) : Option (List (Value × Value)) :=
  match v.bare with
  | .map entries => some entries
  | _ => none

/-! Keys. -/

/-- Absent, false, zero or empty. -/
def isBlank : Value → Bool
  | .null => true
  | .bool b => !b
  | .int n => n == 0
  | .float d => d.isZero
  | .text t => t.isEmpty
  | .bytes b => b.isEmpty
  | .list items => items.isEmpty
  | .set members => members.isEmpty
  | .map entries => entries.isEmpty
  | .shared _ _ v => isBlank v
  | _ => false

/-- The whole number that a key stands for; the truth values count as 0 and 1. -/
def whole? : Value → Option Int
  | .bool b => some b.toNat
  | .int n => some n
  | _ => none

/-- The value under all its labels. -/
def unlabelled : Value → Value
  | .shared _ _ v => unlabelled v
  | v => v

/-- Do two keys agree that have no labels and are not pairs? Numbers agree by value, whatever their
type. Only keys that can be looked up agree with any, so lists, sets and mappings do not. -/
def sameScalar (a b : Value) : Bool :=
  match a, b with
  | .null, .null => true
  | .text s, .text t => s == t
  | .fragment p, .fragment q => p == q
  | .bytes p, .bytes q => p == q
  | .moment p, .moment q => p.same q
  | .float d, .float e => d == e || (d.isZero && e.isZero)
  | .float d, other => other.whole?.any d.isWhole
  | other, .float d => other.whole?.any d.isWhole
  | a, b =>
    match a.whole?, b.whole? with
    | some m, some n => m == n
    | _, _ => false

/-- Do two keys agree? -/
def sameKey (a b : Value) : Bool :=
  match a with
  | .shared _ _ a => sameKey a b
  | .pair first second =>
    match b.unlabelled with
    | .pair other otherSecond => sameKey first other && sameKey second otherSecond
    | _ => false
  | a => a.sameScalar b.unlabelled

def isKey : Value → Bool
  | .list _ => false
  | .set _ => false
  | .map _ => false
  | .again _ => false
  | .pair first second => isKey first && isKey second
  | .shared _ _ v => isKey v
  | _ => true

/-- The order of keys that have no labels and are not pairs, where they can be compared: texts by
code point, bytes by number, numbers and moments by size. -/
def scalarBelow? (a b : Value) : Option Bool :=
  match a, b with
  | .text s, .text t => some (!Text.le t s)
  | .text s, .fragment q => some (decide (s.points < q))
  | .fragment p, .text t => some (decide (p < t.points))
  | .fragment p, .fragment q => some (decide (p < q))
  | .bytes p, .bytes q => some (decide (p.map UInt8.toNat < q.map UInt8.toNat))
  | .moment p, .moment q => p.earlier? q
  | .float d, .float e => some (d.lt e)
  | .float d, other => other.whole?.map d.ltWhole
  | other, .float e => other.whole?.map (Double.wholeLt · e)
  | a, b =>
    match a.whole?, b.whole? with
    | some m, some n => some (m < n)
    | _, _ => none

/-- The order of keys, that of pairs by their first difference. -/
def below? (a b : Value) : Option Bool :=
  match a with
  | .shared _ _ a => below? a b
  | .pair first second =>
    match b.unlabelled with
    | .pair other otherSecond =>
      if sameKey first other then below? second otherSecond else below? first other
    | _ => none
  | a => a.scalarBelow? b.unlabelled

def areComparable : List Value → Bool
  | a :: b :: rest => (below? a b).isSome && areComparable (b :: rest)
  | _ => true

/-- Sorts by keys. Keys that cannot be compared end up next to each other, and then there is no
order. -/
def sortBy? {α : Type} (key : α → Value) (items : List α) : Option (List α) :=
  let sorted := items.mergeSort fun a b => !((below? (key b) (key a)).getD false)
  if areComparable (sorted.map key) then some sorted else none

def text? : Value → Option Text
  | .text t => some t
  | _ => none

/-- The text that a value is made of, a cut character by its number. -/
def lettering? : Value → Option Text
  | .text t => some t
  | .fragment points => some (Text.shownPoints points)
  | _ => none

def texts? (values : List Value) : Option (List Text) :=
  values.mapM lettering?

/-! The texts of values. A number of too many digits has none. -/

def inBrackets (start finish : Char) (items : List Text) : Text :=
  start :: Text.joinWith ", " items ++ [finish]

def ellipsis : Value → Text
  | .map _ => "\x7b...\x7d"
  | .pair .. => "(...)"
  | _ => "[...]"

def ellipsisIn (outer : List (Label × Text)) (label : Label) : Option Text :=
  (outer.find? fun entry => entry.1 == label).map Prod.snd

mutual

/-- The text of a value inside others: texts in quotes, lists in brackets, mappings in braces. -/
def nested (outer : List (Label × Text)) : Value → Option Text
  | .null => some "None"
  | .bool b => some (if b then "True" else "False")
  | .int n => Whole.text? n
  | .float d => some d.text
  | .text t => some (Text.quoted t)
  | .fragment points => some (Text.quotedPoints points)
  | .bytes b => some (Text.quotedBytes b)
  | .moment m => some m.nested
  | .list items => inBrackets '[' ']' <$> nestedItems outer items
  | .pair first second => do
    return inBrackets '(' ')' [← nested outer first, ← nested outer second]
  | .set [] => some "set()"
  | .set members => inBrackets '\x7b' '\x7d' <$> nestedItems outer members
  | .map entries => inBrackets '\x7b' '\x7d' <$> nestedEntries outer entries
  | .shared label _ v =>
    match ellipsisIn outer label with
    | some t => some t
    | none => nested ((label, v.ellipsis) :: outer) v
  | .again label => ellipsisIn outer label

def nestedItems (outer : List (Label × Text)) : List Value → Option (List Text)
  | [] => some []
  | item :: rest => do return (← nested outer item) :: (← nestedItems outer rest)

def nestedEntries (outer : List (Label × Text)) : List (Value × Value) → Option (List Text)
  | [] => some []
  | (key, value) :: rest => do
    let entry := (← nested outer key) ++ ": " ++ (← nested outer value)
    return entry :: (← nestedEntries outer rest)

end

/-- The text of a value on its own: a text or a moment stands without quotes. -/
def display (v : Value) : Option Text :=
  match v.bare with
  | .text t => some t
  | .fragment points => some (Text.shownPoints points)
  | .moment m => some m.text
  | _ => nested [] v

end Value

namespace Mapping

def find? (mapping : Mapping) (key : Value) : Option Value :=
  (List.find? (fun entry => entry.1.sameKey key) mapping).map Prod.snd

def contains (mapping : Mapping) (key : Value) : Bool :=
  mapping.any fun entry => entry.1.sameKey key

/-- Replaces the value of a key in place, or appends the key. -/
def put (mapping : Mapping) (key value : Value) : Mapping :=
  if contains mapping key then
    mapping.map fun entry => if entry.1.sameKey key then (entry.1, value) else entry
  else mapping ++ [(key, value)]

def at? (mapping : Mapping) (key : Text) : Option Value :=
  find? mapping (.text key)

theorem sameKey_text (s t : Text) : Value.sameKey (.text s) (.text t) = (s == t) := by
  simp [Value.sameKey, Value.unlabelled, Value.sameScalar]

theorem find?_put_same (mapping : Mapping) (key value : Value)
    (reflexive : key.sameKey key = true) :
    find? (put mapping key value) key = some value := by
  unfold put contains
  split
  · rename_i present
    obtain ⟨entry, member, same⟩ := List.any_eq_true.mp present
    clear present
    induction mapping with
    | nil => simp at member
    | cons head rest ih =>
      by_cases hit : head.1.sameKey key = true
      · simp [find?, hit]
      · have later : entry ∈ rest := by
          rcases List.mem_cons.mp member with first | later
          · exact absurd (first ▸ same) hit
          · exact later
        simpa [find?, hit] using ih later
  · rename_i absent
    have none : List.find? (fun entry => entry.1.sameKey key) mapping = none := by
      simpa using absent
    simp [find?, List.find?_append, none, reflexive]

end Mapping
end SymbolPath
