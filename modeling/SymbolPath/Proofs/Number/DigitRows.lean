import SymbolPath.Number.Whole
import SymbolPath.Proofs.Text.Trimming

/-!
Rows of digits, and the numbers that are read from them. A row may have digits without a place
value, and it may be longer than a number can be; otherwise it is read as a number, whatever the
scripts of its digits.
-/

namespace SymbolPath

namespace Text

theorem not_isDigit_of_isBlank {c : Char} (blank : isBlank c = true) : isDigit c = false := by
  have ascii : ∀ n ∈ blankPoints, n < 0x80 → isAsciiDigit (Char.ofNat n) = false := by decide
  have beyond : ∀ n ∈ blankPoints, inRanges digitRanges n = false := by
    intro n member
    rw [inRanges, ← Array.any_toList]
    revert n
    decide +kernel
  have member := mem_blankPoints blank
  rw [isDigit]
  split
  · rename_i low
    have refused := ascii c.toNat member low
    rwa [Char.ofNat_toNat] at refused
  · exact beyond c.toNat member

theorem not_isBlank_of_isDigit {c : Char} (digit : isDigit c = true) : isBlank c = false := by
  rw [Bool.eq_false_iff]
  intro blank
  rw [not_isDigit_of_isBlank blank] at digit
  cases digit

theorem decimalValue?_lt {c : Char} {d : Nat} (value : decimalValue? c = some d) : d < 10 := by
  unfold decimalValue? at value
  split at value
  · rename_i ascii
    have range := (Whole.isAsciiDigit_iff c).mp ascii
    cases value
    omega
  · split at value
    · cases value
    · obtain ⟨run, _, rfl⟩ := Option.map_eq_some_iff.mp value
      exact Nat.mod_lt _ (by decide)

end Text

namespace Whole

open SymbolPath.Text (isDigit isDecimal decimalValue?)

theorem digitValue?_of_decimal {c : Char} {d : Nat} (value : decimalValue? c = some d) :
    digitValue? 10 c = some d := by
  simp [digitValue?, value, Text.decimalValue?_lt value]

/-- A digit without a place value stands beyond the letters that go on where digits end. -/
theorem digitValue?_of_not_decimal {c : Char} (digit : isDigit c = true)
    (noValue : decimalValue? c = none) : digitValue? 10 c = none := by
  have high : 0x80 ≤ c.toNat := by
    apply Nat.le_of_not_lt
    intro low
    rw [isDigit, if_pos low] at digit
    simp [decimalValue?, digit] at noValue
  have beyond (last : Char) (ascii : last.toNat < 0x80) : ¬ c ≤ last := by
    intro below
    have order : c.toNat ≤ last.toNat := UInt32.le_iff_toNat_le.mp (Char.le_def.mp below)
    omega
  simp [digitValue?, noValue, beyond 'z' (by decide), beyond 'Z' (by decide)]

theorem isMargin_of_isDigit {c : Char} (digit : isDigit c = true) : isMargin c = false := by
  simp [isMargin, Text.not_isBlank_of_isDigit digit]

theorem readDigits_decimal {row : Text} (decimal : ∀ c ∈ row, isDecimal c = true)
    (value count : Nat) :
    ∃ v, readDigits 10 value count true row = some (v, count + row.length, []) := by
  induction row generalizing value count with
  | nil => exact ⟨value, rfl⟩
  | cons c rest ih =>
      obtain ⟨here, behind⟩ := List.forall_mem_cons.mp decimal
      obtain ⟨d, isValue⟩ := Option.isSome_iff_exists.mp here
      obtain ⟨v, read⟩ := ih behind (value * 10 + d) (count + 1)
      refine ⟨v, ?_⟩
      rw [readDigits, digitValue?_of_decimal isValue]
      simp only [read, List.length_cons, Nat.add_assoc, Nat.add_comm 1]

theorem readDigits_row {row : Text} (given : row ≠ []) (decimal : ∀ c ∈ row, isDecimal c = true) :
    ∃ v, readDigits 10 0 0 false row = some (v, row.length, []) := by
  obtain ⟨c, rest, rfl⟩ := List.exists_cons_of_ne_nil given
  obtain ⟨here, behind⟩ := List.forall_mem_cons.mp decimal
  obtain ⟨d, isValue⟩ := Option.isSome_iff_exists.mp here
  obtain ⟨v, read⟩ := readDigits_decimal behind (0 * 10 + d) (0 + 1)
  refine ⟨v, ?_⟩
  rw [readDigits, digitValue?_of_decimal isValue]
  simp only [read, List.length_cons, Nat.zero_add, Nat.add_comm 1]

theorem readDigits_not_decimal {row : Text} (digits : ∀ c ∈ row, isDigit c = true)
    (stops : ¬ ∀ c ∈ row, isDecimal c = true) (value count : Nat) (afterDigit : Bool) :
    readDigits 10 value count afterDigit row = none ∨
      ∃ v n c rest, readDigits 10 value count afterDigit row = some (v, n, c :: rest) ∧
        isDigit c = true := by
  induction row generalizing value count afterDigit with
  | nil => exact absurd nofun stops
  | cons c rest ih =>
      obtain ⟨digit, others⟩ := List.forall_mem_cons.mp digits
      rw [readDigits]
      cases isValue : decimalValue? c with
      | some d =>
          have here : isDecimal c = true := by simp [isDecimal, isValue]
          rw [digitValue?_of_decimal isValue]
          exact ih others (fun all => stops (List.forall_mem_cons.mpr ⟨here, all⟩)) _ _ _
      | none =>
          have noUnderscore : c ≠ '_' := by
            rintro rfl
            cases digit
          rw [digitValue?_of_not_decimal digit isValue]
          cases afterDigit with
          | false => exact .inl rfl
          | true => exact .inr ⟨value, count, c, rest, by simp [noUnderscore], digit⟩

section Row

variable {row : Text} (given : row ≠ []) (digits : ∀ c ∈ row, isDigit c = true)
include given digits

theorem readSign_row : readSign (row.dropWhile isMargin) = (false, row) := by
  obtain ⟨c, rest, rfl⟩ := List.exists_cons_of_ne_nil given
  have digit := digits c List.mem_cons_self
  rw [List.dropWhile_cons_of_neg (by simp [isMargin_of_isDigit digit])]
  unfold readSign
  split
  · cases ‹c :: rest = '-' :: _›
    cases digit
  · cases ‹c :: rest = '+' :: _›
    cases digit
  · rfl

/-- A row of digits is read as a number exactly if each of them has a place value and there are not
too many. -/
theorem read_row_iff :
    (∃ n, read row = .ok n) ↔ (∀ c ∈ row, isDecimal c = true) ∧ row.length ≤ digitLimit := by
  unfold read readIn
  rw [readSign_row given digits]
  simp only [dropAnnouncement_decimal]
  have limited : isLimited 10 = true := rfl
  by_cases decimal : ∀ c ∈ row, isDecimal c = true
  · obtain ⟨v, whole⟩ := readDigits_row given decimal
    rw [whole]
    by_cases long : row.length > digitLimit
    · simp [limited, long]
    · have short : row.length ≤ digitLimit := Nat.le_of_not_lt long
      simpa [limited, long, short] using decimal
  · have refused : ¬ ((∀ c ∈ row, isDecimal c = true) ∧ row.length ≤ digitLimit) :=
      fun both => decimal both.1
    rw [iff_false_right refused]
    rintro ⟨n, read⟩
    rcases readDigits_not_decimal digits decimal 0 0 false with none | ⟨v, n, c, rest, stop, digit⟩
    · simp [none] at read
    · have behind : (c :: rest).all isMargin = false := by simp [isMargin_of_isDigit digit]
      rw [stop] at read
      simp only [behind] at read
      split at read <;> cases read

end Row

end Whole
end SymbolPath
