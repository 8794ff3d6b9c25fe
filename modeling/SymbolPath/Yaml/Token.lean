import SymbolPath.Text.Alphanumeric
import SymbolPath.Yaml.ScalarText

/-!
The tokens of a YAML text. Indentation becomes block starts and ends; a key is recognised only when
the colon behind it is met, and its token is then put in before it.
-/

namespace SymbolPath.Yaml

/-- Passes spaces, comments and line ends. Outside brackets a new line may begin with a key. -/
def skipToToken : Nat → Scanner Unit
  | 0 => pure ()
  | steps + 1 => do
    let s ← get
    if s.index == 0 && s.rest.head? == some '\uFEFF' then skip 1
    discard (takeAll isSpace)
    if (← rest).head? == some '#' then discard (takeAll fun c => !isBreak c)
    let t ← rest
    if endsLine t && !t.isEmpty then
      discard takeBreak
      if (← get).depth == 0 then allowKey true
      skipToToken steps
    else pure ()

def isNameChar (c : Char) : Bool :=
  Text.isAsciiLetter c || Text.isAsciiDigit c || c == '-' || c == '_'

def endLine : Scanner Unit := do
  discard (takeAll isSpace)
  if (← rest).head? == some '#' then discard (takeAll fun c => !isBreak c)
  require (endsLine (← rest))
  discard takeBreak

def takeNumber : Scanner Text := do
  let digits := (← rest).takeWhile Text.isAsciiDigit
  require (!digits.isEmpty)
  match Whole.read digits with
  | .error reason => throw (.number reason)
  | .ok n =>
    skip digits.length
    pure (Text.ofInt n)

def takeVersion : Scanner (List Text) := do
  discard (takeAll isSpace)
  let major ← takeNumber
  require ((← rest).head? == some '.')
  skip 1
  let minor ← takeNumber
  require (endsOrSpaces (← rest))
  pure [major, minor]

/-- A tag handle: an exclamation mark, or a name between two. -/
def takeHandle : Scanner Text := do
  require ((← rest).head? == some '!')
  skip 1
  match ← rest with
  | ' ' :: _ => pure ['!']
  | _ =>
    let name ← takeAll isNameChar
    match ← rest with
    | '!' :: _ => skip 1; pure ('!' :: name ++ ['!'])
    | _ => fail

def isUriChar (c : Char) : Bool :=
  Text.isAsciiLetter c || Text.isAsciiDigit c || "-;/?:@&=+$,_.!~*'()[]".toList.contains c

def takeUriBytes : Nat → Scanner Bytes
  | 0 => pure []
  | steps + 1 => do
    match ← rest with
    | '%' :: _ =>
      skip 1
      match (← rest).take 2 with
      | [high, low] =>
        match Text.hexValue? high, Text.hexValue? low with
        | some h, some l =>
          skip 2
          return (h * 16 + l).toUInt8 :: (← takeUriBytes steps)
        | _, _ => fail
      | _ => fail
    | _ => pure []

def takeUriFrom : Nat → Scanner Text
  | 0 => pure []
  | steps + 1 => do
    match ← rest with
    | [] => pure []
    | c :: _ =>
      if c == '%' then
        match Utf8.decode (← takeUriBytes (← enoughSteps)) with
        | .ok t => return t ++ (← takeUriFrom steps)
        | .error _ => fail
      else if isUriChar c then
        skip 1
        return c :: (← takeUriFrom steps)
      else pure []

def takeUri : Scanner Text := do
  let uri ← takeUriFrom (← enoughSteps)
  require (!uri.isEmpty)
  pure uri

def takeTagDirective : Scanner (List Text) := do
  discard (takeAll isSpace)
  let handle ← takeHandle
  require ((← rest).head? == some ' ')
  discard (takeAll isSpace)
  let start ← takeUri
  require (endsOrSpaces (← rest))
  pure [handle, start]

def scanDirective : Scanner Unit := do
  closeBlocks (-1)
  dropKeySpot
  allowKey false
  skip 1
  let name ← takeAll isNameChar
  require (!name.isEmpty && endsOrSpaces (← rest))
  let arguments ←
    if name == ("YAML" : Text) then takeVersion
    else if name == ("TAG" : Text) then takeTagDirective
    else do
      discard (takeAll fun c => !isBreak c)
      pure []
  endLine
  put (.directive name arguments)

def scanMarker (token : Token) : Scanner Unit := do
  closeBlocks (-1)
  dropKeySpot
  allowKey false
  skip 3
  put token

def scanBracketOpen (token : Token) : Scanner Unit := do
  noteKeySpot
  modify fun s => { s with depth := s.depth + 1 }
  allowKey true
  skip 1
  put token

/-- A closing bracket that none opened is left to the reader of the tokens to refuse. -/
def scanBracketClose (token : Token) : Scanner Unit := do
  dropKeySpot
  require ((← get).depth != 0)
  modify fun s => { s with depth := s.depth - 1 }
  allowKey false
  skip 1
  put token

def scanFlowEntry : Scanner Unit := do
  allowKey true
  dropKeySpot
  skip 1
  put .flowEntry

/-- Outside brackets, a new block may begin only where a key may. -/
def openBlockHere (start : Token) : Scanner Unit := do
  let s ← get
  if s.depth == 0 then
    require s.keyAllowed
    if ← openBlock s.column then put start

def scanBlockEntry : Scanner Unit := do
  openBlockHere .blockSequenceStart
  allowKey true
  dropKeySpot
  skip 1
  put .blockEntry

def scanKey : Scanner Unit := do
  openBlockHere .blockMappingStart
  allowKey ((← get).depth == 0)
  dropKeySpot
  skip 1
  put .key

/-- A colon: the key before it, if one may have begun, gets its token now. -/
def scanValue : Scanner Unit := do
  let s ← get
  match s.keySpots.find? fun spot => spot.depth == s.depth with
  | some spot =>
    set { s with keySpots := s.keySpots.filter fun other => other.depth != s.depth }
    let opened ← if s.depth == 0 then openBlock spot.column else pure false
    putAt spot.token (if opened then [.blockMappingStart, .key] else [.key])
    allowKey false
  | none =>
    openBlockHere .blockMappingStart
    allowKey ((← get).depth == 0)
    dropKeySpot
  skip 1
  put .value

def scanName (token : Text → Token) : Scanner Unit := do
  noteKeySpot
  allowKey false
  skip 1
  let name ← takeAll isNameChar
  let t ← rest
  require (!name.isEmpty && (endsOrGaps t || t.head?.any fun c => "?:,]\x7d%@\x60".toList.contains c))
  put (token name)

def hasHandle (t : Text) : Bool :=
  ((t.drop 1).takeWhile fun c => !(c == ' ' || isBreak c)).contains '!'

def scanTag : Scanner Unit := do
  noteKeySpot
  allowKey false
  match ← rest with
  | '!' :: '<' :: _ =>
    skip 2
    let uri ← takeUri
    require ((← rest).head? == some '>')
    skip 1
    require (endsOrSpaces (← rest))
    put (.tag none uri)
  | t =>
    if endsOrGaps (t.drop 1) then
      skip 1
      require (endsOrSpaces (← rest))
      put (.tag none ['!'])
    else
      let handle ← if hasHandle t then takeHandle else do
        skip 1
        pure ['!']
      let suffix ← takeUri
      require (endsOrSpaces (← rest))
      put (.tag (some handle) suffix)

def scanBlockScalar (isFolded : Bool) : Scanner Unit := do
  allowKey true
  dropKeySpot
  let text ← takeBlock isFolded
  put (.scalar false text.points)

def scanQuoted (isDouble : Bool) : Scanner Unit := do
  noteKeySpot
  allowKey false
  let points ← takeQuoted isDouble
  put (.scalar false points)

def scanPlain : Scanner Unit := do
  noteKeySpot
  allowKey false
  let text ← takePlain
  put (.scalar true text.points)

/-- May a plain scalar begin like this? Marks may begin one if a character follows at once, though
in brackets only the hyphen may. -/
def startsPlain (inBrackets : Bool) : Text → Bool
  | [] => false
  | c :: after =>
    !(isGap c || "-?:,[]\x7b\x7d#&*!|>'\"%@\x60".toList.contains c) ||
    (!endsOrGaps after && (c == '-' || (!inBrackets && (c == '?' || c == ':'))))

def scanToken (inBrackets atMargin : Bool) (c : Char) (after : Text) : Scanner Unit :=
  if c == '%' && atMargin then scanDirective
  else if atMargin && isMarker '-' (c :: after) then scanMarker .documentStart
  else if atMargin && isMarker '.' (c :: after) then scanMarker .documentEnd
  else if c == '[' then scanBracketOpen .flowSequenceStart
  else if c == '\x7b' then scanBracketOpen .flowMappingStart
  else if c == ']' then scanBracketClose .flowSequenceEnd
  else if c == '\x7d' then scanBracketClose .flowMappingEnd
  else if c == ',' then scanFlowEntry
  else if c == '-' && endsOrGaps after then scanBlockEntry
  else if c == '?' && (inBrackets || endsOrGaps after) then scanKey
  else if c == ':' && (inBrackets || endsOrGaps after) then scanValue
  else if c == '*' then scanName .reference
  else if c == '&' then scanName .anchor
  else if c == '!' then scanTag
  else if c == '|' && !inBrackets then scanBlockScalar false
  else if c == '>' && !inBrackets then scanBlockScalar true
  else if c == '\'' then scanQuoted false
  else if c == '"' then scanQuoted true
  else if startsPlain inBrackets (c :: after) then scanPlain
  else fail

def scanNext : Scanner Bool := do
  meetFault
  skipToToken (← enoughSteps)
  dropStaleKeySpots
  closeBlocks (← get).column
  let s ← get
  match s.rest with
  | [] =>
    closeBlocks (-1)
    dropKeySpot
    pure false
  | c :: after =>
    scanToken (s.depth != 0) (s.column == 0) c after
    pure true

structure Tokens where
  list : List Token
  fault : Option Refusal
deriving Repr

def scanFrom (s : Scan) : Nat → Tokens
  | 0 => ⟨s.settled, some .malformed⟩
  | steps + 1 =>
    match scanNext.run s with
    | .ok (true, s) => scanFrom s steps
    | .ok (false, s) => ⟨s.tokens.reverse, none⟩
    | .error reason => ⟨s.settled, some reason⟩

def Tokens.ofSupply (supply : Supply) : Tokens :=
  scanFrom (Scan.start supply) (supply.text.length + 1)

end SymbolPath.Yaml
