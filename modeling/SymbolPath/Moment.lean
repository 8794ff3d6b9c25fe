import SymbolPath.Number.Whole

/-!
Days of the calendar and instants of a day, with the calendar carried back to the year 1. An
instant may tell its offset from universal time; instants that do are compared by universal time,
and never agree with one that does not.
-/

namespace SymbolPath

structure Date where
  year : Nat
  month : Nat
  day : Nat
deriving DecidableEq, Repr

structure Clock where
  hour : Nat
  minute : Nat
  second : Nat
  microsecond : Nat
deriving DecidableEq, Repr

inductive Moment where
  | day (date : Date)
  /-- The offset counts minutes east of universal time. -/
  | instant (date : Date) (clock : Clock) (offset : Option Int)
deriving DecidableEq, Repr

namespace Date

def isLeap (year : Nat) : Bool :=
  year % 4 == 0 && (year % 100 != 0 || year % 400 == 0)

def monthLength (year : Nat) : Nat → Nat
  | 2 => if isLeap year then 29 else 28
  | 4 => 30
  | 6 => 30
  | 9 => 30
  | 11 => 30
  | _ => 31

def daysBefore (year : Nat) : Nat → Nat
  | 0 => 0
  | 1 => 0
  | month + 1 => daysBefore year month + monthLength year month

def ordinal (date : Date) : Nat :=
  let years := date.year - 1
  365 * years + years / 4 - years / 100 + years / 400 + daysBefore date.year date.month + date.day

end Date

namespace Moment

inductive Impossible where
  | year (year : Nat)
  | month
  | day
  | hour
  | minute
  | second
  /-- An offset of a day or more, in minutes. -/
  | offset (minutes : Int)
deriving DecidableEq, Repr

def checkDate (date : Date) : Except Impossible Unit :=
  if date.year < 1 then .error (.year date.year)
  else if date.month < 1 || date.month > 12 then .error .month
  else if date.day < 1 || date.day > Date.monthLength date.year date.month then .error .day
  else .ok ()

def checkClock (clock : Clock) : Except Impossible Unit :=
  if clock.hour > 23 then .error .hour
  else if clock.minute > 59 then .error .minute
  else if clock.second > 59 then .error .second
  else .ok ()

def checkOffset (offset : Option Int) : Except Impossible Unit :=
  match offset with
  | some minutes => if minutes.natAbs < 24 * 60 then .ok () else .error (.offset minutes)
  | none => .ok ()

def ofDate (date : Date) : Except Impossible Moment := do
  checkDate date
  pure (.day date)

/-- The offset is looked at first. -/
def ofParts (date : Date) (clock : Clock) (offset : Option Int) : Except Impossible Moment := do
  checkOffset offset
  checkDate date
  checkClock clock
  pure (.instant date clock offset)

/-- Microseconds of an instant, universal if its offset is known. -/
def microseconds (date : Date) (clock : Clock) (offset : Option Int) : Int :=
  let minutes : Int := (date.ordinal * 24 + clock.hour) * 60 + clock.minute - offset.getD 0
  (minutes * 60 + clock.second) * 1000000 + clock.microsecond

def same (a b : Moment) : Bool :=
  match a, b with
  | .day a, .day b => a == b
  | .instant a s p, .instant b t q => p.isSome == q.isSome && microseconds a s p == microseconds b t q
  | _, _ => false

/-- Is the first moment earlier? Days are compared with days only, and instants with instants of
which as much is known. -/
def earlier? (a b : Moment) : Option Bool :=
  match a, b with
  | .day a, .day b => some (a.ordinal < b.ordinal)
  | .instant a s p, .instant b t q =>
    if p.isSome == q.isSome then some (microseconds a s p < microseconds b t q) else none
  | _, _ => none

/-! The texts of moments. -/

def padded : Nat → Nat → Text
  | 0, _ => []
  | width + 1, n => padded width (n / 10) ++ [Nat.digitChar (n % 10)]

def dateText (date : Date) : Text :=
  padded 4 date.year ++ '-' :: padded 2 date.month ++ '-' :: padded 2 date.day

def clockText (clock : Clock) : Text :=
  padded 2 clock.hour ++ ':' :: padded 2 clock.minute ++ ':' :: padded 2 clock.second ++
    if clock.microsecond = 0 then [] else '.' :: padded 6 clock.microsecond

def offsetText (minutes : Int) : Text :=
  (if minutes < 0 then '-' else '+') ::
    padded 2 (minutes.natAbs / 60) ++ ':' :: padded 2 (minutes.natAbs % 60)

def text : Moment → Text
  | .day date => dateText date
  | .instant date clock offset =>
    dateText date ++ ' ' :: clockText clock ++ (offset.map offsetText).getD []

def call (name : Text) (arguments : List Text) : Text :=
  name ++ '(' :: Text.joinWith ", " arguments ++ [')']

/-- A span of minutes as days and seconds, of which only the days may be negative. -/
def spanText (minutes : Int) : Text :=
  let days := minutes.fdiv (24 * 60)
  let seconds := minutes.fmod (24 * 60) * 60
  let parts : List Text :=
    (if days = 0 then [] else ["days=" ++ Text.ofInt days]) ++
    (if seconds = 0 then [] else ["seconds=" ++ Text.ofInt seconds])
  call "datetime.timedelta" (if parts.isEmpty then ["0"] else parts)

def zoneText (minutes : Int) : Text :=
  if minutes = 0 then "datetime.timezone.utc" else call "datetime.timezone" [spanText minutes]

/-- The parts of a time; seconds and their fraction are left out where they are zero. -/
def clockParts (clock : Clock) : List Nat :=
  [clock.hour, clock.minute] ++
    if clock.microsecond != 0 then [clock.second, clock.microsecond]
    else if clock.second != 0 then [clock.second]
    else []

def nested : Moment → Text
  | .day date => call "datetime.date" ([date.year, date.month, date.day].map Text.ofNat)
  | .instant date clock offset =>
    let numbers := [date.year, date.month, date.day] ++ clockParts clock
    let zone : List Text := match offset with
      | some minutes => ["tzinfo=" ++ zoneText minutes]
      | none => []
    call "datetime.datetime" (numbers.map Text.ofNat ++ zone)

def Impossible.message : Impossible → Text
  | .year n => "year " ++ Text.ofNat n ++ " is out of range"
  | .month => "month must be in 1..12"
  | .day => "day is out of range for month"
  | .hour => "hour must be in 0..23"
  | .minute => "minute must be in 0..59"
  | .second => "second must be in 0..59"
  | .offset minutes =>
    "offset must be a timedelta strictly between -timedelta(hours=24) and timedelta(hours=24), not " ++
      spanText minutes ++ "."

end Moment
end SymbolPath
