import SymbolPath.Path.Basic

/-!
Splitting a path that was put together. Behind a separator, a name without quotes and separators is
the last segment whatever the path before it: no literal of the path reaches into the name, closed
or not, and no separator is found in it.
-/

namespace SymbolPath.Path

structure Bare (name : Text) : Prop where
  noQuote : '"' ∉ name
  noSeparator : ∀ c ∈ name, isSeparator c = false

section Literals

variable {rest : Text} (noQuote : '"' ∉ rest)
include noQuote

theorem toClosingQuote_of_not_mem : toClosingQuote rest = none := by
  induction rest with
  | nil => rfl
  | cons c rest ih =>
      have different : c ≠ '"' := by
        rintro rfl
        exact noQuote List.mem_cons_self
      have further := ih fun member => noQuote (List.mem_cons_of_mem _ member)
      simp [toClosingQuote, different, further]

theorem toClosingQuote_append (t : Text) : toClosingQuote (t ++ rest) = toClosingQuote t := by
  induction t with
  | nil => exact toClosingQuote_of_not_mem noQuote
  | cons c t ih => simp only [List.cons_append, toClosingQuote, ih]

theorem literalLength_append (t : Text) : literalLength (t ++ rest) = literalLength t := by
  cases t with
  | cons c t => simp only [List.cons_append, literalLength, toClosingQuote_append noQuote]
  | nil =>
      cases rest with
      | nil => rfl
      | cons c rest =>
          have unclosed := toClosingQuote_of_not_mem fun member =>
            noQuote (List.mem_cons_of_mem c member)
          simp [literalLength, unclosed]

end Literals

theorem toClosingQuote_le {t : Text} {length : Nat} (closes : toClosingQuote t = some length) :
    length ≤ t.length := by
  induction t generalizing length with
  | nil => cases closes
  | cons c t ih =>
      by_cases quote : c = '"'
      · simp only [toClosingQuote, quote, if_true, Option.some.injEq] at closes
        simp only [List.length_cons]
        omega
      · by_cases lineEnd : c = '\n'
        · simp [toClosingQuote, lineEnd] at closes
        · simp only [toClosingQuote, if_neg quote, if_neg lineEnd] at closes
          obtain ⟨further, found, rfl⟩ := Option.map_eq_some_iff.mp closes
          have bound := ih found
          simp only [List.length_cons]
          omega

theorem literalLength_le {t : Text} {length : Nat} (found : literalLength t = some length) :
    length ≤ t.length := by
  cases t with
  | nil => cases found
  | cons c t =>
      by_cases lineEnd : c = '\n'
      · simp [literalLength, lineEnd] at found
      · simp only [literalLength, if_neg lineEnd] at found
        obtain ⟨further, closes, rfl⟩ := Option.map_eq_some_iff.mp found
        have bound := toClosingQuote_le closes
        simp only [List.length_cons]
        omega

/-- The marks of a path do not depend on what follows without quotes, and that is outside of every
literal. -/
theorem marksFrom_append {rest : Text} (noQuote : '"' ∉ rest) (path : Text) (inside : Nat)
    (within : inside ≤ path.length) :
    marksFrom inside (path ++ rest) = marksFrom inside path ++ rest.map (⟨·, false⟩) := by
  induction path generalizing inside with
  | nil =>
      obtain rfl : inside = 0 := Nat.le_zero.mp within
      induction rest with
      | nil => rfl
      | cons c rest ih =>
          have different : c ≠ '"' := by
            rintro rfl
            exact noQuote List.mem_cons_self
          have further := ih fun member => noQuote (List.mem_cons_of_mem _ member)
          simp only [List.nil_append] at further
          simp [marksFrom, different, further]
  | cons c path ih =>
      cases inside with
      | succ inside =>
          have further := ih inside (Nat.le_of_succ_le_succ within)
          simp only [List.cons_append, marksFrom, further]
      | zero =>
          have further := ih 0 (Nat.zero_le _)
          by_cases quote : c = '"'
          · simp only [List.cons_append, marksFrom, quote, if_true, literalLength_append noQuote]
            cases found : literalLength path with
            | none => simp only [further, List.cons_append]
            -- a literal that begins in the path ends in it
            | some length => simp only [ih length (literalLength_le found), List.cons_append]
          · simp only [List.cons_append, marksFrom, if_neg quote, further]

theorem marks_append {rest : Text} (noQuote : '"' ∉ rest) (path : Text) :
    marks (path ++ rest) = marks path ++ rest.map (⟨·, false⟩) :=
  marksFrom_append noQuote path 0 (Nat.zero_le _)

theorem cutMarks_of_bare {name : Text} (noSeparator : ∀ c ∈ name, isSeparator c = false) :
    cutMarks (name.map (⟨·, false⟩)) = none := by
  induction name with
  | nil => rfl
  | cons c name ih =>
      have here := noSeparator c List.mem_cons_self
      have further := ih fun d member => noSeparator d (List.mem_cons_of_mem _ member)
      simp [cutMarks, further, Mark.separates, here]

theorem cutMarks_append {rest : List Mark} {cut : Cut} (found : cutMarks rest = some cut)
    (front : List Mark) :
    cutMarks (front ++ rest) = some { cut with before := front.map Mark.char ++ cut.before } := by
  induction front with
  | nil => exact found
  | cons mark front ih =>
      rw [List.cons_append, cutMarks, ih]
      rfl

theorem isSeparator_ne_quote {c : Char} (separates : isSeparator c = true) : c ≠ '"' := by
  rintro rfl
  revert separates
  decide

theorem cut?_append (path : Text) {separator : Char} (separates : isSeparator separator = true)
    {name : Text} (bare : Bare name) :
    cut? (path ++ separator :: name) = some ⟨path, separator, name⟩ := by
  have noQuote : '"' ∉ separator :: name := by
    intro member
    rcases List.mem_cons.mp member with same | later
    · exact isSeparator_ne_quote separates same.symm
    · exact bare.noQuote later
  -- no separator is found in the name, so the one before it is the last
  have last : cutMarks ((separator :: name).map (⟨·, false⟩)) = some ⟨[], separator, name⟩ := by
    simp [cutMarks, cutMarks_of_bare bare.noSeparator, Mark.separates, separates,
      Function.comp_def]
  rw [cut?, marks_append noQuote, cutMarks_append last, marks_chars, List.append_nil]

theorem split_append_dot (path : Text) {name : Text} (bare : Bare name) :
    split (path ++ '.' :: name) = (path, name) := by
  rw [split, cut?_append path rfl bare]
  rfl

theorem split_append_marker (path : Text) {marker : Char} (isMarker : isScopeMarker marker = true)
    {name : Text} (bare : Bare name) :
    split (path ++ marker :: name) = (path ++ [marker], name) := by
  have separates : isSeparator marker = true := by simp [isSeparator, isMarker]
  rw [split, cut?_append path separates bare]
  simp [isMarker]

theorem eq_append_of_endsIn {test : Char → Bool} {t : Text} (ends : endsIn test t = true) :
    ∃ front last, t = front ++ [last] ∧ test last = true := by
  obtain ⟨last, found, accepted⟩ := (Option.any_eq_true _ _).mp ends
  obtain ⟨front, split⟩ := List.getLast?_eq_some_iff.mp found
  exact ⟨front, last, split, accepted⟩

theorem split_append_of_marked {path : Text} (marked : endsIn isScopeMarker path = true)
    {name : Text} (bare : Bare name) : split (path ++ name) = (path, name) := by
  obtain ⟨front, marker, rfl, isMarker⟩ := eq_append_of_endsIn marked
  rw [List.append_assoc]
  exact split_append_marker front isMarker bare

theorem join_marked {marker : Char} (isMarker : isScopeMarker marker = true) (path name : Text) :
    join (path ++ [marker]) name = path ++ marker :: name := by
  simp [join, joiner, endsIn, isMarker]

/-- Joining and splitting: the container and the name come back. -/
theorem split_join {container name : Text} (given : container ≠ []) (bare : Bare name) :
    split (join container name) = (container, name) := by
  have notEmpty : container.isEmpty = false := by simpa using given
  unfold join joiner
  rw [notEmpty]
  by_cases marked : endsIn isScopeMarker container = true
  · simpa [marked] using split_append_of_marked marked bare
  · simpa [marked] using split_append_dot container bare

end SymbolPath.Path
