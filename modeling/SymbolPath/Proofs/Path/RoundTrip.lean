import SymbolPath.Proofs.Path.Masking

/-!
Splitting and joining as inverses. A bare name comes back from any container it was joined to. A path
comes back from its two halves unless its last separator is a dot that joining would not write: one at
the start, or one behind a scope marker. Dropping the last segment always leaves just what stands
before it.
-/

namespace SymbolPath.Path

theorem cut?_of_bare {name : Text} (bare : Bare name) : cut? name = none := by
  have plain := marks_append bare.noQuote []
  rw [List.nil_append] at plain
  rw [cut?, plain]
  exact cutMarks_of_bare bare.noSeparator

theorem split_join_bare (container : Text) {name : Text} (bare : Bare name) :
    split (join container name) = (container, name) := by
  by_cases none : container = []
  · subst none
    rw [show join [] name = name from rfl, split, cut?_of_bare bare]
  · exact split_join none bare

theorem dropLast_append_short (path : Text) : dropLast path ++ (split path).2 = path := by
  unfold dropLast split
  cases found : cut? path with
  | none => rfl
  | some cut =>
      have whole := chars_cut? found
      rw [List.append_cons] at whole
      exact whole

/-- Joining the halves of a path gives it back unless the separator is a dot that joining leaves
out. -/
theorem join_split_of_cut? {path : Text} {cut : Cut} (found : cut? path = some cut) :
    join (split path).1 (split path).2 = path ↔
      ¬ (cut.separator = '.' ∧ (cut.before = [] ∨ endsIn isScopeMarker cut.before = true)) := by
  obtain ⟨before, separator, after⟩ := cut
  have whole : before ++ separator :: after = path := chars_cut? found
  have shorter : before ++ after ≠ path := by
    intro same
    have lengths := congrArg List.length (same.trans whole.symm)
    simp at lengths
  by_cases none : (split path).1 = []
  · -- only a dot leaves its container empty
    rw [none]
    simp only [split, found] at none ⊢
    by_cases marker : isScopeMarker separator = true
    · simp [marker] at none
    · rw [if_neg marker] at none
      subst none
      have dot : separator = '.' := by
        simpa [isSeparator, marker] using isSeparator_of_cut? found
      constructor
      · intro same
        exact absurd same shorter
      · intro kept
        exact absurd ⟨dot, .inl rfl⟩ kept
  · rw [join_split none]
    simp only [undotted, found]
    by_cases needless : separator = '.' ∧ endsIn isScopeMarker before = true
    · rw [if_pos needless]
      constructor
      · intro same
        exact absurd same shorter
      · intro kept
        exact absurd ⟨needless.1, .inr needless.2⟩ kept
    · rw [if_neg needless]
      refine ⟨fun _ lost => ?_, fun _ => rfl⟩
      obtain ⟨rfl, rfl | marked⟩ := lost
      · simp [split, found, isScopeMarker] at none
      · exact needless ⟨rfl, marked⟩

theorem join_split_iff (path : Text) :
    join (split path).1 (split path).2 = path ↔
      ∀ i, LastSeparator path i '.' → i ≠ 0 ∧ endsIn isScopeMarker (path.take i) = false := by
  cases found : cut? path with
  | none =>
      have comesBack : join (split path).1 (split path).2 = path := by
        rw [split, found]
        rfl
      refine ⟨fun _ i last => ?_, fun _ => comesBack⟩
      rw [lastSeparator_iff, found] at last
      cases last
  | some cut =>
      rw [join_split_of_cut? found]
      constructor
      · intro kept i last
        rw [lastSeparator_iff, found] at last
        cases last
        refine ⟨?_, ?_⟩
        · rintro rfl
          exact kept ⟨rfl, .inl rfl⟩
        · rw [Bool.eq_false_iff]
          intro marked
          exact kept ⟨rfl, .inr marked⟩
      -- only a dot is lost, at the start or behind a scope marker
      · rintro kept ⟨dot, lost⟩
        have last := lastSeparator_of_cut? found
        rw [dot] at last
        obtain ⟨notFirst, unmarked⟩ := kept _ last
        have front : path.take cut.before.length = cut.before := by
          rw [← chars_cut? found]
          simp
        rw [front] at unmarked
        rcases lost with none | marked
        · exact notFirst (by rw [none]; rfl)
        · rw [marked] at unmarked
          cases unmarked

/-- Splitting undoes joining for every container and every bare name. Joining undoes splitting
exactly for the paths whose last separator is not a dot at the start or behind a scope marker. What
is dropped with the last segment is the short name, which has no separator left. -/
theorem split_join_inverse :
    (∀ container name, Bare name → split (join container name) = (container, name)) ∧
    (∀ path, join (split path).1 (split path).2 = path ↔
      ∀ i, LastSeparator path i '.' → i ≠ 0 ∧ endsIn isScopeMarker (path.take i) = false) ∧
    ∀ path, dropLast path ++ (split path).2 = path ∧
      ∀ c ∈ masked (split path).2, isSeparator c = false := by
  refine ⟨fun container name => split_join_bare container, join_split_iff, fun path => ?_⟩
  exact ⟨dropLast_append_short path, cut?_eq_none_iff.mp (cut?_split path)⟩

/-- The literal that the container opens is not closed by the name; the last dot of the other path
stands behind a tilde and is lost. -/
theorem split_join_inverse_open :
    Bare "b c" ∧ split (join "\"a#" "b c") = (("\"a#" : Text), ("b c" : Text)) ∧
      LastSeparator "x.y~.z" 4 '.' ∧
      join (split "x.y~.z").1 (split "x.y~.z").2 ≠ "x.y~.z" := by
  have noLetter : ("b c" : Text).any isSeparator = false := by decide
  have bare : Bare "b c" := ⟨by decide, fun c member =>
    Bool.eq_false_iff.mpr (List.any_eq_false.mp noLetter c member)⟩
  have noneBehind : ((masked "x.y~.z").drop 5).any isSeparator = false := by decide +kernel
  have last : LastSeparator "x.y~.z" 4 '.' := ⟨by decide +kernel, rfl, fun d member =>
    Bool.eq_false_iff.mpr (List.any_eq_false.mp noneBehind d member)⟩
  obtain ⟨joined, iff, _⟩ := split_join_inverse
  refine ⟨bare, joined _ _ bare, last, fun same => ?_⟩
  have kept := ((iff _).mp same 4 last).2
  revert kept
  decide +kernel

end SymbolPath.Path
