import SymbolPath.Text.Blank
import SymbolPath.Text.Digit
import SymbolPath.Text.Quoted

/-!
Whole numbers as people write them: blanks around, a sign, digits of any script, and single
underscores between digits. In bases 2, 8 and 16 a zero and a letter may announce the base. The
number of decimal digits that are read or written is limited.
-/

namespace SymbolPath.Whole

inductive Unreadable where
  | notANumber (base : Nat) (shown : Text)
  | tooManyDigits (count : Nat)
deriving DecidableEq, Repr

/-- Numbers of more decimal digits are neither read nor written. -/
def digitLimit : Nat := 4300

/-- The blanks that may stand around a number: all but the separators of information. -/
def isMargin (c : Char) : Bool :=
  Text.isBlank c && !(0x1C ≤ c.toNat && c.toNat ≤ 0x1F)

def digitValue? (base : Nat) (c : Char) : Option Nat :=
  let value := match Text.decimalValue? c with
    | some d => some d
    | none =>
      if 'a' ≤ c && c ≤ 'z' then some (c.toNat - 'a'.toNat + 10)
      else if 'A' ≤ c && c ≤ 'Z' then some (c.toNat - 'A'.toNat + 10)
      else none
  value.filter (· < base)

/-- Reads digits with single underscores between them, up to the first other character: the value
after `value` and `count` digits, the number of digits, and the rest. An underscore that no digit
follows, or that no digit precedes, is refused. -/
def readDigits (base value count : Nat) (afterDigit : Bool) : Text → Option (Nat × Nat × Text)
  | [] => if afterDigit then some (value, count, []) else none
  | c :: rest =>
    match digitValue? base c with
    | some d => readDigits base (value * base + d) (count + 1) true rest
    | none =>
      if !afterDigit then none
      else if c == '_' then readDigits base value count false rest
      else some (value, count, c :: rest)

def readSign : Text → Bool × Text
  | '-' :: rest => (true, rest)
  | '+' :: rest => (false, rest)
  | t => (false, t)

def baseLetter? : Nat → Option Char
  | 2 => some 'b'
  | 8 => some 'o'
  | 16 => some 'x'
  | _ => none

def dropAnnouncement (base : Nat) : Text → Text
  | zero :: letter :: rest =>
    if Text.decimalValue? zero == some 0 && baseLetter? base == some letter.toLower then
      if rest.head? == some '_' then rest.drop 1 else rest
    else zero :: letter :: rest
  | t => t

/-- The digits of bases that are powers of two are not limited. -/
def isLimited (base : Nat) : Bool :=
  (baseLetter? base).isNone

def readIn (base : Nat) (written : Text) : Except Unreadable Int :=
  let (negative, t) := readSign (written.dropWhile isMargin)
  let refused := Unreadable.notANumber base ((Text.quoted written).take 200)
  match readDigits base 0 0 false (dropAnnouncement base t) with
  | none => .error refused
  | some (value, count, rest) =>
    if isLimited base && count > digitLimit then .error (.tooManyDigits count)
    else if rest.all isMargin then .ok (if negative then -value else value)
    else .error refused

def read (written : Text) : Except Unreadable Int :=
  readIn 10 written

/-- The decimal digits of a number, unless they are too many. -/
def text? (n : Int) : Option Text :=
  if n.natAbs < Nat.pow 10 digitLimit then some (Text.ofInt n) else none

def limitNotice : Text :=
  "Exceeds the limit (" ++ Text.ofNat digitLimit ++ " digits) for integer string conversion"

def limitAdvice : Text :=
  "; use sys.set_int_max_str_digits() to increase the limit"

/-- Long texts are cut short in the message. -/
def Unreadable.message : Unreadable → Text
  | .notANumber base shown =>
    "invalid literal for int() with base " ++ Text.ofNat base ++ ": " ++ shown
  | .tooManyDigits count =>
    limitNotice ++ ": value has " ++ Text.ofNat count ++ " digits" ++ limitAdvice

/-! Numbers that can be written can be read, and the other way round. -/

theorem isAsciiDigit_iff (c : Char) :
    Text.isAsciiDigit c = true ↔ 48 ≤ c.toNat ∧ c.toNat ≤ 57 := by
  rw [Text.isAsciiDigit, Bool.and_eq_true, decide_eq_true_iff, decide_eq_true_iff]
  rfl

theorem isMargin_of_isAsciiDigit {c : Char} (digit : Text.isAsciiDigit c = true) :
    isMargin c = false := by
  rw [isAsciiDigit_iff] at digit
  simp [isMargin, Text.isBlank]
  omega

theorem digitValue?_of_isAsciiDigit {c : Char} (digit : Text.isAsciiDigit c = true) :
    digitValue? 10 c = some (c.toNat - 48) := by
  have range := (isAsciiDigit_iff c).mp digit
  have small : c.toNat - 48 < 10 := by omega
  simp [digitValue?, Text.decimalValue?, digit, small]

theorem readDigits_ascii {digits : Text} (decimal : ∀ c ∈ digits, Text.isAsciiDigit c = true)
    (value count : Nat) :
    readDigits 10 value count true digits =
      some (Nat.ofDigitChars 10 digits value, count + digits.length, []) := by
  induction digits generalizing value count with
  | nil => rfl
  | cons c rest ih =>
    obtain ⟨digit, others⟩ := List.forall_mem_cons.mp decimal
    rw [readDigits, digitValue?_of_isAsciiDigit digit]
    simp only
    rw [ih others, Nat.ofDigitChars_cons, List.length_cons, Nat.mul_comm, Nat.add_assoc, Nat.add_comm 1]
    rfl

theorem ofNat_decimal (n : Nat) : ∀ c ∈ Text.ofNat n, Text.isAsciiDigit c = true := by
  intro c member
  have digit := Nat.isDigit_of_mem_toDigits (by decide) (by decide) member
  exact (isAsciiDigit_iff c).mpr (Char.isDigit_iff_toNat.mp digit)

theorem readDigits_ofNat (n : Nat) :
    readDigits 10 0 0 false (Text.ofNat n) = some (n, (Text.ofNat n).length, []) := by
  have value : Nat.ofDigitChars 10 (Text.ofNat n) 0 = n :=
    Nat.ofDigitChars_toDigits (by decide) (by decide)
  have decimal := ofNat_decimal n
  cases digits : Text.ofNat n with
  | nil => exact absurd digits Nat.toDigits_ne_nil
  | cons c rest =>
    rw [digits] at value decimal
    obtain ⟨digit, others⟩ := List.forall_mem_cons.mp decimal
    rw [readDigits, digitValue?_of_isAsciiDigit digit]
    simp only
    rw [readDigits_ascii others]
    rw [Nat.ofDigitChars_cons, Nat.mul_zero] at value
    rw [Nat.zero_mul, List.length_cons, Nat.add_comm rest.length]
    exact congrArg (fun v => some (v, _, _)) value

theorem dropAnnouncement_decimal (t : Text) : dropAnnouncement 10 t = t := by
  unfold dropAnnouncement
  split <;> simp [baseLetter?]

theorem read_of_sign {t : Text} {negative : Bool} {m : Nat}
    (sign : readSign (t.dropWhile isMargin) = (negative, Text.ofNat m))
    (short : (Text.ofNat m).length ≤ digitLimit) :
    read t = .ok (if negative then -(m : Int) else m) := by
  unfold read readIn
  rw [sign]
  simp only [dropAnnouncement_decimal, readDigits_ofNat]
  simp [Nat.not_lt.mpr short]

theorem length_ofNat_le {m count : Nat} (positive : 0 < count) (small : m < Nat.pow 10 count) :
    (Text.ofNat m).length ≤ count :=
  (Nat.length_toDigits_le_iff (by decide) positive).mpr small

theorem readSign_ofNat (m : Nat) :
    readSign ((Text.ofNat m).dropWhile isMargin) = (false, Text.ofNat m) := by
  have decimal := ofNat_decimal m
  cases digits : Text.ofNat m with
  | nil => rfl
  | cons c rest =>
    have digit : Text.isAsciiDigit c = true := decimal c (by simp [digits])
    rw [List.dropWhile_cons_of_neg (by simp [isMargin_of_isAsciiDigit digit])]
    unfold readSign
    split
    · cases ‹c :: rest = '-' :: _›
      cases digit
    · cases ‹c :: rest = '+' :: _›
      cases digit
    · rfl

/-- A number that can be written is read again. -/
theorem read_of_text? {n : Int} {t : Text} (written : text? n = some t) : read t = .ok n := by
  unfold text? at written
  obtain ⟨small, same⟩ := Option.ite_none_right_eq_some.mp written
  obtain rfl := Option.some.inj same
  have short := length_ofNat_le (by decide) small
  unfold Text.ofInt
  split
  · have sign : readSign (('-' :: Text.ofNat n.natAbs).dropWhile isMargin) =
        (true, Text.ofNat n.natAbs) := rfl
    rw [read_of_sign sign short, if_pos rfl, Except.ok.injEq]
    omega
  · rw [read_of_sign (readSign_ofNat n.natAbs) short, if_neg Bool.false_ne_true, Except.ok.injEq]
    omega

theorem digitValue?_lt {base d : Nat} {c : Char} (value : digitValue? base c = some d) :
    d < base := by
  unfold digitValue? at value
  simpa using (Option.filter_eq_some_iff.mp value).2

/-- A number of so many digits has a value with no more digits. -/
theorem readDigits_lt {base value count : Nat} {afterDigit : Bool} {t : Text} {v c : Nat}
    {rest : Text} (small : value < Nat.pow base count)
    (read : readDigits base value count afterDigit t = some (v, c, rest)) :
    v < Nat.pow base c := by
  induction t generalizing value count afterDigit with
  | nil =>
    rw [readDigits] at read
    obtain ⟨_, same⟩ := Option.ite_none_right_eq_some.mp read
    cases same
    exact small
  | cons char t ih =>
    rw [readDigits] at read
    cases digit : digitValue? base char with
    | some d =>
      rw [digit] at read
      refine ih ?_ read
      have under := digitValue?_lt digit
      calc value * base + d < (value + 1) * base := by rw [Nat.succ_mul]; omega
        _ ≤ Nat.pow base count * base := Nat.mul_le_mul_right base small
    | none =>
      simp only [digit] at read
      split at read
      · cases read
      · split at read
        · exact ih small read
        · cases read
          exact small

/-- A number that can be read can be written. -/
theorem text?_of_read {t : Text} {n : Int} (known : read t = .ok n) :
    ∃ written, text? n = some written := by
  unfold read readIn at known
  generalize readSign (t.dropWhile isMargin) = sign at known
  obtain ⟨negative, unsigned⟩ := sign
  cases found : readDigits 10 0 0 false (dropAnnouncement 10 unsigned) with
  | none => simp [found] at known
  | some parts =>
    obtain ⟨value, count, rest⟩ := parts
    simp only [found] at known
    split at known
    · cases known
    · rename_i few
      split at known
      · have size : n.natAbs = value := by
          cases known
          cases negative <;> simp
        have within : count ≤ digitLimit := by
          simpa [isLimited, baseLetter?] using few
        have small (limit : Nat) (within : count ≤ limit) : n.natAbs < Nat.pow 10 limit := by
          rw [size]
          exact Nat.lt_of_lt_of_le (readDigits_lt Nat.one_pos found)
            (Nat.pow_le_pow_right (by decide) within)
        exact ⟨_, if_pos (small digitLimit within)⟩
      · cases known

theorem digits_of_text? {n : Int} {t : Text} (positive : 0 < n) (written : text? n = some t) :
    t.isEmpty = false ∧ t.all Text.isDigit = true := by
  unfold text? at written
  obtain ⟨_, same⟩ := Option.ite_none_right_eq_some.mp written
  obtain rfl := Option.some.inj same
  rw [Text.ofInt, if_neg (by omega)]
  refine ⟨List.isEmpty_eq_false_iff.mpr Nat.toDigits_ne_nil, ?_⟩
  rw [List.all_eq_true]
  intro c member
  have digit := ofNat_decimal _ c member
  have ascii : c.toNat < 0x80 := by
    have range := (isAsciiDigit_iff c).mp digit
    omega
  rw [Text.isDigit, if_pos ascii]
  exact digit

end SymbolPath.Whole
