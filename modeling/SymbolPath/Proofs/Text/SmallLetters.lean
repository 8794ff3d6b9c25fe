import SymbolPath.Text.Case

/-!
Texts in small letters. Nothing that a character has for a small form has a small form again, so a
text that was put in small letters stays as it is.
-/

namespace SymbolPath.Text

/-! Runs of characters, as tables of case have them. -/

def inRun (code : Nat) (run : Nat × Nat × Nat × Int) : Bool :=
  run.1 ≤ code && code ≤ run.2.1 && (code - run.1) % run.2.2.1 == 0

/-- Of every `step`-th character from `first` to `last`, does none lie in a run? -/
def isClearOf (first last step : Nat) (run : Nat × Nat × Nat × Int) : Bool :=
  last < run.1 || run.2.1 < first || (run.2.2.1 == 2 && step == 2 && (first + run.1) % 2 == 1)

theorem not_inRun_of_clear {first last step code : Nat} {run : Nat × Nat × Nat × Int}
    (clear : isClearOf first last step run = true) (low : first ≤ code) (high : code ≤ last)
    (stepped : (code - first) % step = 0) : inRun code run = false := by
  obtain ⟨start, stop, every, shift⟩ := run
  simp only [isClearOf, Bool.or_eq_true, Bool.and_eq_true, decide_eq_true_eq, beq_iff_eq] at clear
  rw [← Bool.not_eq_true]
  simp only [inRun, Bool.and_eq_true, decide_eq_true_eq, beq_iff_eq]
  rintro ⟨⟨above, below⟩, inStep⟩
  rcases clear with (before | behind) | ⟨⟨rfl, rfl⟩, odd⟩
  · omega
  · omega
  · omega

/-- What the runs of small forms must not lead to: anything up to the capitals of ASCII, and the two
capitals with rules of their own. -/
def barredRuns : List (Nat × Nat × Nat × Int) :=
  [(0, 0x60, 1, 0), (0x130, 0x130, 1, 0), (0x3A3, 0x3A3, 1, 0)]

theorem lowerRuns_clear : (lowerRuns.toList.all fun run =>
    (run.2.2.1 == 1 || run.2.2.1 == 2) && -(run.1 : Int) ≤ run.2.2.2 &&
      (barredRuns ++ lowerRuns.toList).all
        (isClearOf (run.1 + run.2.2.2).toNat (run.2.1 + run.2.2.2).toNat
          (if run.1 = run.2.1 then 2 else run.2.2.1))) = true := by
  decide +kernel

theorem not_inRun_shifted {code : Nat} {run : Nat × Nat × Nat × Int} (isRun : run ∈ lowerRuns.toList)
    (inside : inRun code run = true) {other : Nat × Nat × Nat × Int}
    (isOther : other ∈ barredRuns ++ lowerRuns.toList) :
    inRun (code + run.2.2.2).toNat other = false := by
  have checked := List.all_eq_true.mp lowerRuns_clear run isRun
  simp only [Bool.and_eq_true, Bool.or_eq_true, beq_iff_eq, decide_eq_true_eq] at checked
  obtain ⟨⟨steps, upward⟩, clear⟩ := checked
  simp only [inRun, Bool.and_eq_true, decide_eq_true_eq, beq_iff_eq] at inside
  obtain ⟨⟨above, below⟩, inStep⟩ := inside
  apply not_inRun_of_clear (List.all_eq_true.mp clear other isOther)
  · omega
  · omega
  · have same : (code + run.2.2.2).toNat - (run.1 + run.2.2.2).toNat = code - run.1 := by omega
    rw [same]
    split
    · omega
    · exact inStep

/-! Characters. -/

/-- A character that is its own small form. -/
def IsSmall (c : Char) : Prop := c ≠ 'Σ' ∧ lowerChar c = [c]

instance (c : Char) : Decidable (IsSmall c) :=
  inferInstanceAs (Decidable (c ≠ 'Σ' ∧ lowerChar c = [c]))

theorem shiftBy_cases (runs : Array (Nat × Nat × Nat × Int)) (c : Char) :
    shiftBy runs c = c ∧ (∀ run ∈ runs.toList, inRun c.toNat run = false) ∨
      ∃ run ∈ runs.toList, inRun c.toNat run = true ∧
        shiftBy runs c = Char.ofNat (c.toNat + run.2.2.2).toNat := by
  have search : shiftBy runs c = (runs.toList.find? (inRun c.toNat)).elim c
      fun run => Char.ofNat (c.toNat + run.2.2.2).toNat := by
    rw [Array.find?_toList]
    unfold shiftBy
    split
    · rename_i found
      rw [show runs.find? (inRun c.toNat) = _ from found]
      rfl
    · rename_i found
      rw [show runs.find? (inRun c.toNat) = _ from found]
      rfl
  rw [search]
  cases found : runs.toList.find? (inRun c.toNat) with
  | none =>
      rw [List.find?_eq_none] at found
      exact .inl ⟨rfl, fun run isRun => Bool.eq_false_iff.mpr (found run isRun)⟩
  | some run =>
      exact .inr ⟨run, List.mem_of_find?_eq_some found, List.find?_some found, rfl⟩

theorem ascii_small : ∀ n < 0x80, IsSmall (Char.ofNat n).toLower ∧
    ((Char.ofNat n).toLower = '.' → Char.ofNat n = '.') := by
  decide

theorem ascii_kept : ∀ n < 0x80, 0x60 < n → (Char.ofNat n).toLower = Char.ofNat n := by
  decide

theorem expansion?_lower (c : Char) :
    expansion? lowerExpansions c = if c.toNat = 0x130 then some ['i', '\u0307'] else none := by
  unfold expansion?
  rw [← Array.find?_toList]
  by_cases dotted : c.toNat = 0x130
  · simp only [lowerExpansions, dotted]
    rfl
  · simp [lowerExpansions, dotted, Ne.symm dotted]

theorem isSmall_of_not_inRun {c : Char} (above : 0x60 < c.toNat) (plain : c.toNat ≠ 0x130)
    (noSigma : c ≠ 'Σ') (outside : ∀ run ∈ lowerRuns.toList, inRun c.toNat run = false) :
    IsSmall c := by
  refine ⟨noSigma, ?_⟩
  unfold lowerChar
  split
  · rename_i ascii
    have kept := ascii_kept c.toNat ascii above
    rw [Char.ofNat_toNat] at kept
    rw [kept]
  · rw [expansion?_lower, if_neg plain, Option.getD_none]
    rcases shiftBy_cases lowerRuns c with ⟨same, _⟩ | ⟨run, isRun, inside, _⟩
    · rw [same]
    · rw [outside run isRun] at inside
      cases inside

theorem not_barred {code : Nat} (outside : ∀ run ∈ barredRuns, inRun code run = false) :
    0x60 < code ∧ code ≠ 0x130 ∧ code ≠ 0x3A3 := by
  simp only [barredRuns, List.forall_mem_cons, inRun, Bool.and_eq_false_iff, decide_eq_false_iff_not,
    beq_eq_false_iff_ne] at outside
  omega

theorem isSmall_shiftBy {c : Char} (wide : 0x80 ≤ c.toNat) (plain : c.toNat ≠ 0x130)
    (noSigma : c ≠ 'Σ') : IsSmall (shiftBy lowerRuns c) ∧ (shiftBy lowerRuns c) ≠ '.' := by
  rcases shiftBy_cases lowerRuns c with ⟨same, outside⟩ | ⟨run, isRun, inside, shifted⟩
  · rw [same]
    refine ⟨isSmall_of_not_inRun (by omega) plain noSigma outside, ?_⟩
    rintro rfl
    exact absurd wide (by decide)
  · rw [shifted]
    by_cases valid : (c.toNat + run.2.2.2).toNat.isValidChar
    · -- no run holds what a run leads to, so nothing shifts it again
      have clear : ∀ other ∈ barredRuns ++ lowerRuns.toList,
          inRun (Char.ofNat (c.toNat + run.2.2.2).toNat).toNat other = false := by
        rw [Char.ofNat, dif_pos valid]
        exact fun other isOther => not_inRun_shifted isRun inside isOther
      obtain ⟨above, undotted, unsigned⟩ :=
        not_barred fun other isOther => clear other (List.mem_append_left _ isOther)
      have kept := isSmall_of_not_inRun above undotted (fun same => unsigned (by rw [same]; rfl))
        fun other isOther => clear other (List.mem_append_right _ isOther)
      refine ⟨kept, ?_⟩
      intro isDot
      rw [isDot] at above
      exact absurd above (by decide)
    · -- what is no character counts as the null character
      rw [Char.ofNat, dif_neg valid]
      decide

/-- The small form of a character consists of such characters, and has a dot for dots only. -/
theorem small_of_mem_lowerChar {c d : Char} (noSigma : c ≠ 'Σ') (member : d ∈ lowerChar c) :
    IsSmall d ∧ (d = '.' → c = '.') := by
  unfold lowerChar at member
  split at member
  · rename_i ascii
    have small := ascii_small c.toNat ascii
    rw [Char.ofNat_toNat] at small
    obtain rfl : d = c.toLower := List.mem_singleton.mp member
    exact small
  · rename_i wide
    rw [expansion?_lower] at member
    split at member
    · simp only [Option.getD_some, List.mem_cons, List.not_mem_nil, or_false] at member
      have accented : IsSmall '\u0307' := by decide +kernel
      rcases member with rfl | rfl
      · exact ⟨by decide, nofun⟩
      · exact ⟨accented, nofun⟩
    · rename_i plain
      have shifted : d = shiftBy lowerRuns c := List.mem_singleton.mp member
      obtain ⟨small, noDot⟩ := isSmall_shiftBy (Nat.le_of_not_lt wide) plain noSigma
      rw [shifted]
      exact ⟨small, fun isDot => absurd isDot noDot⟩

/-! Texts. -/

theorem small_of_mem_lowerFrom {before t : Text} {d : Char} (member : d ∈ lowerFrom before t) :
    IsSmall d ∧ (d = '.' → '.' ∈ t) := by
  induction t generalizing before with
  | nil => cases member
  | cons c rest ih =>
      rw [lowerFrom, List.mem_append] at member
      rcases member with here | later
      · split at here
        · -- a capital sigma, whose small form depends on what is around it
          have finals : IsSmall 'ς' ∧ IsSmall 'σ' := by decide +kernel
          obtain rfl := List.mem_singleton.mp here
          split
          · exact ⟨finals.1, nofun⟩
          · exact ⟨finals.2, nofun⟩
        · rename_i noSigma
          obtain ⟨small, dots⟩ := small_of_mem_lowerChar (by simpa using noSigma) here
          refine ⟨small, fun isDot => ?_⟩
          rw [dots isDot]
          exact List.mem_cons_self
      · obtain ⟨small, dots⟩ := ih later
        exact ⟨small, fun isDot => List.mem_cons_of_mem c (dots isDot)⟩

theorem lowerFrom_of_small {t : Text} (small : ∀ c ∈ t, IsSmall c) (before : Text) :
    lowerFrom before t = t := by
  induction t generalizing before with
  | nil => rfl
  | cons c rest ih =>
      obtain ⟨noSigma, own⟩ := small c List.mem_cons_self
      have later := ih (fun d member => small d (List.mem_cons_of_mem c member)) (c :: before)
      rw [lowerFrom, if_neg (by simpa using noSigma), own, later]
      rfl

theorem lower_lower (t : Text) : lower (lower t) = lower t :=
  lowerFrom_of_small (fun _ member => (small_of_mem_lowerFrom member).1) []

theorem dot_mem_of_mem_lowerFrom {before t : Text} (member : '.' ∈ lowerFrom before t) : '.' ∈ t :=
  (small_of_mem_lowerFrom member).2 rfl

end SymbolPath.Text
