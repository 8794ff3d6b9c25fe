import SymbolPath.Proofs.Path.Splitting

/-!
What a cut leaves. No literal is open at a separator that cuts a path, so what follows it is marked
as a path of its own and has no separator left. Joining the two sides again gives the path back, but
for a dot behind a scope marker, which the marker makes needless.
-/

namespace SymbolPath.Path

theorem cutMarks_cons {mark : Mark} {rest : List Mark} {cut : Cut}
    (found : cutMarks (mark :: rest) = some cut) :
    (∃ deeper, cutMarks rest = some deeper ∧
        cut = { deeper with before := mark.char :: deeper.before }) ∨
      (cutMarks rest = none ∧ mark.separates = true ∧
        cut = ⟨[], mark.char, rest.map Mark.char⟩) := by
  unfold cutMarks at found
  cases inner : cutMarks rest with
  | some deeper =>
      simp only [inner, Option.some.injEq] at found
      exact .inl ⟨deeper, rfl, found.symm⟩
  | none =>
      by_cases here : mark.separates = true
      · simp only [inner, here, if_true, Option.some.injEq] at found
        exact .inr ⟨rfl, here, found.symm⟩
      · simp [inner, here] at found

theorem cutMarks_of_cons {mark : Mark} {rest : List Mark} {before after : Text} {separator : Char}
    (found : cutMarks (mark :: rest) = some ⟨mark.char :: before, separator, after⟩) :
    cutMarks rest = some ⟨before, separator, after⟩ := by
  rcases cutMarks_cons found with ⟨deeper, further, same⟩ | ⟨_, _, same⟩
  · cases same
    exact further
  · cases same

theorem cutMarks_cons_eq_none {mark : Mark} {rest : List Mark}
    (absent : cutMarks (mark :: rest) = none) :
    cutMarks rest = none ∧ mark.separates = false := by
  unfold cutMarks at absent
  cases inner : cutMarks rest with
  | some deeper => simp [inner] at absent
  | none =>
      by_cases here : mark.separates = true
      · simp [inner, here] at absent
      · exact ⟨rfl, by simpa using here⟩

theorem marksFrom_cons (inside : Nat) (c : Char) (rest : Text) :
    ∃ inLiteral next, marksFrom inside (c :: rest) = ⟨c, inLiteral⟩ :: marksFrom next rest ∧
      (inLiteral = false → inside = 0 ∧ next = 0) ∧ inside ≤ next + 1 := by
  cases inside with
  | succ inside => exact ⟨true, inside, rfl, Bool.noConfusion, Nat.le_refl _⟩
  | zero =>
      by_cases quote : c = '"'
      · cases found : literalLength rest with
        | some length =>
            exact ⟨true, length, by simp [marksFrom, quote, found], Bool.noConfusion,
              Nat.zero_le _⟩
        | none =>
            exact ⟨false, 0, by simp [marksFrom, quote, found], fun _ => ⟨rfl, rfl⟩,
              Nat.zero_le _⟩
      · exact ⟨false, 0, by simp [marksFrom, quote], fun _ => ⟨rfl, rfl⟩, Nat.zero_le _⟩

theorem cutMarks_after {path : Text} {inside : Nat} {cut : Cut}
    (found : cutMarks (marksFrom inside path) = some cut) : cut? cut.after = none := by
  induction path generalizing inside cut with
  | nil => cases inside <;> cases found
  | cons c rest ih =>
      obtain ⟨inLiteral, next, marked, outside, _⟩ := marksFrom_cons inside c rest
      rw [marked] at found
      rcases cutMarks_cons found with ⟨deeper, further, rfl⟩ | ⟨none, separates, rfl⟩
      · exact @ih next deeper further
      · have plain : inLiteral = false := by
          cases inLiteral with
          | false => rfl
          | true => cases separates
        obtain ⟨_, rfl⟩ := outside plain
        rw [marksFrom_chars]
        exact none

theorem inside_le_cut {path : Text} {inside : Nat} {cut : Cut}
    (found : cutMarks (marksFrom inside path) = some cut) : inside ≤ cut.before.length := by
  induction path generalizing inside cut with
  | nil => cases inside <;> cases found
  | cons c rest ih =>
      obtain ⟨inLiteral, next, marked, outside, bound⟩ := marksFrom_cons inside c rest
      rw [marked] at found
      rcases cutMarks_cons found with ⟨deeper, further, rfl⟩ | ⟨_, separates, rfl⟩
      · have := ih further
        simp only [List.length_cons]
        omega
      · cases inLiteral with
        | false => exact Nat.le_of_eq (outside rfl).1
        | true => cases separates

theorem isSeparator_of_cutMarks {list : List Mark} {cut : Cut} (found : cutMarks list = some cut) :
    isSeparator cut.separator = true := by
  induction list generalizing cut with
  | nil => cases found
  | cons mark rest ih =>
      rcases cutMarks_cons found with ⟨deeper, further, rfl⟩ | ⟨_, separates, rfl⟩
      · exact @ih deeper further
      · exact (Bool.and_eq_true_iff.mp separates).2

theorem isSeparator_of_cut? {path : Text} {cut : Cut} (found : cut? path = some cut) :
    isSeparator cut.separator = true :=
  isSeparator_of_cutMarks found

theorem cut?_split (path : Text) : cut? (split path).2 = none := by
  unfold split
  cases found : cut? path with
  | none => exact found
  | some cut => exact cutMarks_after found

theorem cut?_ne_none_of_begins {c : Char} (separates : isSeparator c = true) (rest : Text) :
    cut? (c :: rest) ≠ none := by
  intro absent
  have different : c ≠ '"' := isSeparator_ne_quote separates
  unfold cut? marks at absent
  simp only [marksFrom, if_neg different] at absent
  obtain ⟨_, plain⟩ := cutMarks_cons_eq_none absent
  simp [Mark.separates, separates] at plain

/-- The path without its last separator, where that is a dot behind a scope marker. -/
def undotted (path : Text) : Text :=
  match cut? path with
  | none => path
  | some cut =>
    if cut.separator = '.' ∧ endsIn isScopeMarker cut.before = true then cut.before ++ cut.after
    else path

/-- Splitting and joining: the path comes back, but for a needless dot. -/
theorem join_split {path : Text} (given : (split path).1 ≠ []) :
    join (split path).1 (split path).2 = undotted path := by
  unfold split at given ⊢
  unfold undotted
  cases found : cut? path with
  | none => simp [found] at given
  | some cut =>
      have whole := chars_cut? found
      simp only [found] at given ⊢
      by_cases marker : isScopeMarker cut.separator = true
      · -- the marker ends the container and joins it to the name
        have notDot : cut.separator ≠ '.' := by
          intro dot
          rw [dot] at marker
          revert marker
          decide
        simp [join, joiner, endsIn, marker, notDot, ← whole]
      · have dot : cut.separator = '.' := by
          have separates := isSeparator_of_cut? found
          simpa [isSeparator, marker] using separates
        rw [if_neg marker] at given ⊢
        have notEmpty : cut.before.isEmpty = false := by simpa using given
        by_cases needless : endsIn isScopeMarker cut.before = true
        · simp [join, joiner, notEmpty, needless, dot]
        · simp [join, joiner, notEmpty, needless, ← whole, dot]

section LineFeed

variable {front : Text} (oneLine : '\n' ∉ front)
include oneLine

theorem toClosingQuote_cases :
    (∃ length ≤ front.length, ∀ rest, toClosingQuote (front ++ rest) = some length) ∨
      ∀ rest length, toClosingQuote rest = some length →
        toClosingQuote (front ++ rest) = some (front.length + length) := by
  induction front with
  | nil =>
      refine .inr fun rest length closes => ?_
      simpa using closes
  | cons c front ih =>
      have notLineFeed : c ≠ '\n' := by
        rintro rfl
        exact oneLine List.mem_cons_self
      by_cases quote : c = '"'
      · exact .inl ⟨1, by simp, fun rest => by simp [toClosingQuote, quote]⟩
      · rcases ih fun later => oneLine (List.mem_cons_of_mem c later) with
          ⟨length, bound, closes⟩ | beyond
        · refine .inl ⟨length + 1, by simpa using bound, fun rest => ?_⟩
          simp [toClosingQuote, quote, notLineFeed, closes]
        · refine .inr fun rest length closes => ?_
          simp only [List.cons_append, toClosingQuote, if_neg quote, if_neg notLineFeed,
            beyond rest length closes, List.length_cons, Option.map_eq_map, Option.map_some]
          congr 1
          omega

theorem toClosingQuote_isSome (quoted : '"' ∈ front) (rest : Text) :
    ∃ length, toClosingQuote (front ++ rest) = some length := by
  induction front with
  | nil => cases quoted
  | cons c front ih =>
      by_cases quote : c = '"'
      · exact ⟨1, by simp [toClosingQuote, quote]⟩
      · have notLineFeed : c ≠ '\n' := by
          rintro rfl
          exact oneLine List.mem_cons_self
        have later : '"' ∈ front := by
          rcases List.mem_cons.mp quoted with same | later
          · exact absurd same.symm quote
          · exact later
        obtain ⟨length, closes⟩ := ih (fun m => oneLine (List.mem_cons_of_mem c m)) later
        exact ⟨length + 1, by simp [toClosingQuote, quote, notLineFeed, closes]⟩

/-- A literal either ends in the front or, if a quote follows the next two characters, goes beyond
them. -/
theorem literalLength_cases {marker : Char} (notQuote : marker ≠ '"') (notLineFeed : marker ≠ '\n')
    {rest : Text} {closing : Nat} (closes : toClosingQuote rest = some closing) :
    (∃ length ≤ front.length, ∀ other, literalLength (front ++ other) = some length) ∨
      ∃ length, literalLength (front ++ marker :: '.' :: rest) = some length ∧
        front.length + 2 ≤ length := by
  have beyondDot : toClosingQuote ('.' :: rest) = some (closing + 1) := by
    simp [toClosingQuote, closes]
  cases front with
  | nil => exact .inr ⟨closing + 2, by simp [literalLength, notLineFeed, beyondDot], by simp⟩
  | cons c front =>
      have first : c ≠ '\n' := by
        rintro rfl
        exact oneLine List.mem_cons_self
      have beyondMarker : toClosingQuote (marker :: '.' :: rest) = some (closing + 2) := by
        simp [toClosingQuote, notQuote, notLineFeed, closes]
      rcases toClosingQuote_cases fun later => oneLine (List.mem_cons_of_mem c later) with
        ⟨length, bound, found⟩ | beyond
      · exact .inl ⟨length + 1, by simpa using bound, fun other => by
          simp [literalLength, first, found]⟩
      · refine .inr ⟨front.length + (closing + 2) + 1, ?_, by simp⟩
        simp [literalLength, first, beyond _ _ beyondMarker]

end LineFeed

theorem quote_mem_of_hidden {front rest : Text} {marker : Char}
    (separates : isSeparator marker = true) (hidden : cut? (front ++ marker :: rest) = none) :
    '"' ∈ front := by
  induction front with
  | nil => exact absurd hidden (cut?_ne_none_of_begins separates rest)
  | cons c front ih =>
      by_cases quote : c = '"'
      · simp [quote]
      · unfold cut? marks at hidden
        simp only [List.cons_append, marksFrom, if_neg quote] at hidden
        exact List.mem_cons_of_mem c (ih (cutMarks_cons_eq_none hidden).1)

/-- Two texts with a common front are read on alike: from the same place in the front, or the second
from within a literal that goes beyond the two characters behind the front. -/
def ReadAlike (front : Text) (first second : Nat) : Prop :=
  (first = second ∧ second ≤ front.length) ∨ front.length + 2 ≤ second

theorem marksFrom_alike (c : Char) {front rest : Text} (oneLine : '\n' ∉ front) {marker : Char}
    (notQuote : marker ≠ '"') (notLineFeed : marker ≠ '\n') {closing : Nat}
    (closes : toClosingQuote rest = some closing) {inside : Nat}
    (short : inside ≤ front.length + 1) (other : Text) :
    ∃ a b first second,
      marksFrom inside (c :: (front ++ marker :: other)) =
        ⟨c, a⟩ :: marksFrom first (front ++ marker :: other) ∧
      marksFrom inside (c :: (front ++ marker :: '.' :: rest)) =
        ⟨c, b⟩ :: marksFrom second (front ++ marker :: '.' :: rest) ∧
      ReadAlike front first second := by
  cases inside with
  | succ inside =>
      exact ⟨true, true, inside, inside, rfl, rfl, .inl ⟨rfl, Nat.le_of_succ_le_succ short⟩⟩
  | zero =>
      by_cases quote : c = '"'
      · rcases literalLength_cases oneLine notQuote notLineFeed closes with
          ⟨length, bound, found⟩ | ⟨length, found, beyond⟩
        · exact ⟨true, true, length, length, by simp [marksFrom, quote, found],
            by simp [marksFrom, quote, found], .inl ⟨rfl, bound⟩⟩
        · obtain ⟨a, first, marked, _⟩ := marksFrom_cons 0 c (front ++ marker :: other)
          exact ⟨a, true, first, length, marked, by simp [marksFrom, quote, found], .inr beyond⟩
      · exact ⟨false, false, 0, 0, by simp [marksFrom, quote], by simp [marksFrom, quote],
          .inl ⟨rfl, Nat.zero_le _⟩⟩

/-- On one line, a literal that hides a marker would hide a dot behind the marker too, as long as
there is a quote to close it. -/
theorem not_cut_behind_hidden {front rest other : Text} (oneLine : '\n' ∉ front) {marker : Char}
    (separates : isSeparator marker = true) (notLineFeed : marker ≠ '\n') {closing : Nat}
    (closes : toClosingQuote rest = some closing) {first second : Nat}
    (alike : ReadAlike front first second)
    (hidden : cutMarks (marksFrom first (front ++ marker :: other)) = none) :
    cutMarks (marksFrom second (front ++ marker :: '.' :: rest)) ≠
      some ⟨front ++ [marker], '.', rest⟩ := by
  intro found
  have bound := inside_le_cut found
  rw [List.length_append, List.length_singleton] at bound
  rcases alike with ⟨rfl, short⟩ | beyond
  · induction front generalizing first with
    | nil =>
        obtain rfl : first = 0 := Nat.le_zero.mp short
        exact cut?_ne_none_of_begins separates other hidden
    | cons c front ih =>
        have later : '\n' ∉ front := fun member => oneLine (List.mem_cons_of_mem c member)
        obtain ⟨a, b, next, further, marked, markedToo, alike⟩ := marksFrom_alike c later
          (isSeparator_ne_quote separates) notLineFeed closes short other
        rw [List.cons_append, marked] at hidden
        rw [List.cons_append, List.cons_append, markedToo] at found
        have deeper := cutMarks_of_cons found
        have within := inside_le_cut deeper
        rw [List.length_append, List.length_singleton] at within
        rcases alike with ⟨rfl, inFront⟩ | beyond
        · exact ih later (cutMarks_cons_eq_none hidden).1 deeper within inFront
        · omega
  · omega

/-- If what follows a dot behind a marker repeats all that comes before the dot, and hides the
marker in a literal, then it takes the end of a line to keep that literal open before the dot. -/
theorem lineFeed_mem_of_repeated {front rest : Text} {marker : Char}
    (isMarker : isScopeMarker marker = true)
    (found : cut? (front ++ marker :: '.' :: (front ++ marker :: rest)) =
      some ⟨front ++ [marker], '.', front ++ marker :: rest⟩) : '\n' ∈ front := by
  refine Decidable.byContradiction fun oneLine => ?_
  have separates : isSeparator marker = true := by simp [isSeparator, isMarker]
  have notLineFeed : marker ≠ '\n' := by
    rintro rfl
    revert isMarker
    decide
  have hidden : cut? (front ++ marker :: rest) = none := cutMarks_after found
  have quoted := quote_mem_of_hidden separates hidden
  obtain ⟨closing, closes⟩ := toClosingQuote_isSome oneLine quoted (marker :: rest)
  exact not_cut_behind_hidden oneLine separates notLineFeed closes (.inl ⟨rfl, Nat.zero_le _⟩)
    hidden found

end SymbolPath.Path
