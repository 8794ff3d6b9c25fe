import SymbolPath.Text.Alphanumeric
import SymbolPath.Text.Hex
import SymbolPath.Yaml.Tag

/-!
What a plain scalar stands for. Words for nothing and for truth values, numbers and moments are
known by their spelling; any other scalar is a text. Whole numbers may be written in base 2, 8, 10,
16 or in groups of base 60; underscores between digits are ignored.
-/

namespace SymbolPath.Yaml

/-- Is `t` one of the three spellings of a word: small, capitalised, in capitals? -/
def spells (word : Text) (t : Text) : Bool :=
  let capitalised := match word with
    | [] => []
    | c :: rest => c.toUpper :: rest
  t == word || t == capitalised || t == word.map Char.toUpper

def isTrueWord (t : Text) : Bool := spells "yes" t || spells "true" t || spells "on" t

def isFalseWord (t : Text) : Bool := spells "no" t || spells "false" t || spells "off" t

def isNullWord (t : Text) : Bool := t.isEmpty || t == ['~'] || spells "null" t

def dropSign : Text → Text
  | '-' :: rest => rest
  | '+' :: rest => rest
  | t => t

def isDigitOrMark (c : Char) : Bool := Text.isAsciiDigit c || c == '_'

def afterGroups? : Text → Option Text
  | ':' :: a :: b :: rest =>
    if Text.isAsciiDigit a && Text.isAsciiDigit b then
      if a ≤ '5' then some ((afterGroups? rest).getD rest) else none
    else if Text.isAsciiDigit a then some ((afterGroups? (b :: rest)).getD (b :: rest))
    else none
  | [':', a] => if Text.isAsciiDigit a then some [] else none
  | _ => none

def allOf (accept : Char → Bool) (t : Text) : Bool := !t.isEmpty && t.all accept

def isWholeNumber (t : Text) : Bool :=
  match dropSign t with
  | ['0'] => true
  | '0' :: 'b' :: digits => allOf (fun c => c == '0' || c == '1' || c == '_') digits
  | '0' :: 'x' :: digits => allOf (fun c => (Text.hexValue? c).isSome || c == '_') digits
  | '0' :: digits => allOf (fun c => ('0' ≤ c && c ≤ '7') || c == '_') digits
  | c :: rest =>
    Text.isAsciiDigit c &&
      match rest.dropWhile isDigitOrMark with
      | [] => true
      | groups => afterGroups? groups == some []
  | [] => false

def isExponentOrEnd : Text → Bool
  | [] => true
  | e :: sign :: digits =>
    (e == 'e' || e == 'E') && (sign == '-' || sign == '+') && allOf Text.isAsciiDigit digits
  | _ => false

def isFloat (t : Text) : Bool :=
  let ofPoint : Text → Bool
    | '.' :: c :: rest =>
      (Text.isAsciiDigit c && isExponentOrEnd (rest.dropWhile isDigitOrMark)) ||
        t == (".nan" : Text) || t == (".NaN" : Text) || t == (".NAN" : Text)
    | _ => false
  let body := dropSign t
  let ofDigits : Text → Bool
    | c :: rest =>
      Text.isAsciiDigit c &&
        match rest.dropWhile isDigitOrMark with
        | '.' :: fraction => isExponentOrEnd (fraction.dropWhile isDigitOrMark)
        | groups =>
          match afterGroups? groups with
          | some ('.' :: fraction) => fraction.all isDigitOrMark
          | _ => false
    | [] => false
  ofPoint t || ofDigits body ||
    body == (".inf" : Text) || body == (".Inf" : Text) || body == (".INF" : Text)

def afterDigits? (least most : Nat) (t : Text) : Option Text :=
  let count := ((t.take most).takeWhile Text.isAsciiDigit).length
  if least ≤ count then some (t.drop count) else none

def afterChar? (mark : Char) : Text → Option Text
  | c :: rest => if c == mark then some rest else none
  | [] => none

def isSpaceOrTab (c : Char) : Bool := c == ' ' || c == '\t'

structure Spelled where
  year : Text
  month : Text
  day : Text
  /-- Hour, minute, second and the fraction of a second, if a time is written. -/
  time : Option (Text × Text × Text × Text)
  /-- The sign, hour and minute of an offset; no sign stands for universal time. -/
  zone : Option (Option Char × Text × Text)
deriving DecidableEq, Repr

def takeDigits? (least most : Nat) (t : Text) : Option (Text × Text) :=
  (afterDigits? least most t).map fun rest => (t.take (t.length - rest.length), rest)

def zoneOrEnd? (t : Text) : Option (Option (Option Char × Text × Text)) :=
  match t.dropWhile isSpaceOrTab with
  | [] => if t.isEmpty then some none else none
  | ['Z'] => some (some (none, [], []))
  | sign :: rest =>
    if sign == '-' || sign == '+' then do
      let (hour, rest) ← takeDigits? 1 2 rest
      match rest with
      | [] => pure (some (some sign, hour, []))
      | ':' :: rest =>
        let (minute, rest) ← takeDigits? 2 2 rest
        if rest.isEmpty then pure (some (some sign, hour, minute)) else none
      | _ => none
    else none

/-- The time behind a date, which a letter or blanks set off. -/
def afterDateMark? : Text → Option Text
  | [] => none
  | c :: rest =>
    if c == 'T' || c == 't' then some rest
    else if isSpaceOrTab c then some (rest.dropWhile isSpaceOrTab)
    else none

def spelled? (t : Text) : Option Spelled := do
  let (year, rest) ← takeDigits? 4 4 t
  let (month, rest) ← takeDigits? 1 2 (← afterChar? '-' rest)
  let (day, rest) ← takeDigits? 1 2 (← afterChar? '-' rest)
  if rest.isEmpty then pure ⟨year, month, day, none, none⟩
  else
    let (hour, rest) ← takeDigits? 1 2 (← afterDateMark? rest)
    let (minute, rest) ← takeDigits? 2 2 (← afterChar? ':' rest)
    let (second, rest) ← takeDigits? 2 2 (← afterChar? ':' rest)
    let (fraction, rest) := match rest with
      | '.' :: rest => (rest.takeWhile Text.isAsciiDigit, rest.dropWhile Text.isAsciiDigit)
      | rest => ([], rest)
    pure ⟨year, month, day, some (hour, minute, second, fraction), ← zoneOrEnd? rest⟩

/-- A date with two digits for month and day, or a date with a time. -/
def isMoment (t : Text) : Bool :=
  (spelled? t).any fun spelled =>
    spelled.time.isSome || (spelled.month.length == 2 && spelled.day.length == 2)

def dropLineEnd (t : Text) : Text :=
  if t.getLast? == some '\n' then t.dropLast else t

def Tag.ofPlain (t : Text) : Tag :=
  let bare := dropLineEnd t
  if bare.isEmpty then (if t.isEmpty then .null else .text)
  else if isTrueWord bare || isFalseWord bare then .bool
  else if isFloat bare then .float
  else if isWholeNumber bare then .int
  else if bare == ("<<" : Text) then .merge
  else if isNullWord bare then .null
  else if isMoment bare then .moment
  else if bare == ['='] then .default
  else if bare == ['!'] || bare == ['&'] || bare == ['*'] then .unknown
  else .text

end SymbolPath.Yaml
