import SymbolPath.Number.Notation
import SymbolPath.Text.Base64
import SymbolPath.Text.Case
import SymbolPath.Value
import SymbolPath.Yaml.Refusal
import SymbolPath.Yaml.Scalar

/-!
The value of a scalar by its tag. A tag may be put before any scalar, so each reading says what it
refuses. A scalar is given by its code points; those that are no text are read by no number.
-/

namespace SymbolPath.Yaml

def signed (negative : Bool) (n : Int) : Int :=
  if negative then -n else n

def splitSign : Text → Bool × Text
  | '-' :: rest => (true, rest)
  | '+' :: rest => (false, rest)
  | t => (false, t)

def ofGroups (groups : List Int) : Int :=
  groups.foldl (fun value group => value * 60 + group) 0

/-- Reads digits in the base that their start tells. -/
def readUnsignedWhole (digits : Text) : Except Refusal Int :=
  let readIn (base : Nat) (t : Text) := (Whole.readIn base t).mapError Refusal.number
  match digits with
  | [] => .error .digitsMissing
  | ['0'] => .ok 0
  | '0' :: 'b' :: rest => readIn 2 rest
  | '0' :: 'x' :: rest => readIn 16 rest
  | '0' :: rest => readIn 8 ('0' :: rest)
  | digits =>
    if digits.contains ':' then ofGroups <$> (Text.splitOn ':' digits).mapM (readIn 10)
    else readIn 10 digits

def dropMarks (t : Text) : Text :=
  t.filter (· != '_')

def readWhole (t : Text) : Except Refusal Int := do
  let (negative, digits) := splitSign (dropMarks t)
  return signed negative (← readUnsignedWhole digits)

/-- Adds up groups of base 60, the last of them first; `unit` is what the next one counts. -/
def addGroups (unit : Nat) (sum : Double) : List Double → Except Refusal Double
  | [] => .ok sum
  | group :: rest =>
    let scale := Double.ofWhole unit
    if scale.isInfinite then .error .floatTooLarge
    else addGroups (unit * 60) (sum.add (group.mul scale)) rest

def readPlainFloat (t : Text) : Except Refusal Double :=
  match Double.read? t with
  | some d => .ok d
  | none => .error (.notAFloat (Text.quoted t))

def readUnsignedFloat (digits : Text) : Except Refusal Double :=
  if digits == (".inf" : Text) then .ok (.infinity false)
  else if digits == (".nan" : Text) then .ok .nan
  else if digits.contains ':' then do
    let groups ← (Text.splitOn ':' digits).mapM readPlainFloat
    addGroups 1 (Double.zero false) groups.reverse
  else readPlainFloat digits

/-- Letter case does not count. -/
def readFloat (t : Text) : Except Refusal Double :=
  match Text.lower (dropMarks t) with
  | [] => .error .digitsMissing
  | bare =>
    let (negative, digits) := splitSign bare
    (fun d => if negative then d.negate else d) <$> readUnsignedFloat digits

def truthWords : List (Text × Bool) :=
  [("yes", true), ("no", false), ("true", true), ("false", false), ("on", true), ("off", false)]

def readTruth (t : Text) : Except Refusal Bool :=
  let word := Text.lower t
  match truthWords.find? fun entry => entry.1 == word with
  | some (_, b) => .ok b
  | none => .error (.notATruthValue (Text.quoted word))

def digitsValue (t : Text) : Nat :=
  t.foldl (fun value c => value * 10 + (c.toNat - '0'.toNat)) 0

/-- A fraction of a second in microseconds; further digits are cut off. -/
def microseconds (fraction : Text) : Nat :=
  digitsValue (Text.padEnd 6 (fraction.take 6) |>.map fun c => if c == ' ' then '0' else c)

def Spelled.offset (spelled : Spelled) : Option Int :=
  spelled.zone.map fun (sign, hour, minute) =>
    signed (sign == some '-') (digitsValue hour * 60 + digitsValue minute : Nat)

def Spelled.moment (spelled : Spelled) : Except Moment.Impossible Moment :=
  let date : Date := ⟨digitsValue spelled.year, digitsValue spelled.month, digitsValue spelled.day⟩
  match spelled.time with
  | none => Moment.ofDate date
  | some (hour, minute, second, fraction) =>
    Moment.ofParts date
      ⟨digitsValue hour, digitsValue minute, digitsValue second, microseconds fraction⟩
      spelled.offset

def readMoment (t : Text) : Except Refusal Moment :=
  match spelled? (dropLineEnd t) with
  | none => .error .notAMoment
  | some spelled => spelled.moment.mapError .impossibleMoment

def readBytes (t : Text) : Except Refusal Bytes :=
  if t.all fun c => c.toNat < 0x80 then
    match Text.Base64.decode? t with
    | some bytes => .ok bytes
    | none => .error .malformed
  else .error .malformed

def refuseFragment (tag : Tag) (points : List Nat) : Refusal :=
  let shown := Text.quotedPoints points
  match tag with
  | .bool => .notATruthValue shown
  | .int => .number (.notANumber 10 shown)
  | .float => .notAFloat shown
  | .moment => .notAMoment
  | _ => .malformed

def ofText (tag : Tag) (t : Text) : Except Refusal Value :=
  match tag with
  | .null => .ok .null
  | .bool => Value.bool <$> readTruth t
  | .int => Value.int <$> readWhole t
  | .float => Value.float <$> readFloat t
  | .moment => Value.moment <$> readMoment t
  | .binary => Value.bytes <$> readBytes t
  | .text => .ok (.text t)
  | _ => .error .malformed

def ofScalar (tag : Tag) (points : List Nat) : Except Refusal Value :=
  match Text.ofPoints? points with
  | some t => ofText tag t
  | none =>
    match tag with
    | .null => .ok .null
    | .text => .ok (.fragment points)
    | tag => .error (refuseFragment tag points)

end SymbolPath.Yaml
