import SymbolPath.Proofs.Path.Cutting

/-!
The mask of a path at a separator that shows through it. No literal is open there, so the text before
the separator and the text behind it are masked as if each stood alone. The last separator that shows
is where a path is cut.
-/

namespace SymbolPath.Path

section Quotes

theorem toClosingQuote_ne_zero (t : Text) : toClosingQuote t ≠ some 0 := by
  cases t with
  | nil => simp [toClosingQuote]
  | cons c rest =>
      unfold toClosingQuote
      split
      · simp
      · split
        · simp
        · intro found
          obtain ⟨_, _, same⟩ := Option.map_eq_some_iff.mp found
          cases same

variable {front : Text}

-- A quote that closes within the front closes there whatever follows.
theorem toClosingQuote_append_iff (back : Text) {length : Nat} (within : length ≤ front.length) :
    toClosingQuote (front ++ back) = some length ↔ toClosingQuote front = some length := by
  induction front generalizing length with
  | nil =>
      obtain rfl : length = 0 := Nat.le_zero.mp within
      simp [toClosingQuote, toClosingQuote_ne_zero]
  | cons c front ih =>
      by_cases quote : c = '"'
      · simp [toClosingQuote, quote]
      · by_cases lineEnd : c = '\n'
        · simp [toClosingQuote, lineEnd]
        · simp only [List.cons_append, toClosingQuote, if_neg quote, if_neg lineEnd,
            Option.map_eq_map, Option.map_eq_some_iff]
          constructor
          · rintro ⟨further, closes, rfl⟩
            exact ⟨further, (ih (Nat.le_of_succ_le_succ within)).mp closes, rfl⟩
          · rintro ⟨further, closes, rfl⟩
            exact ⟨further, (ih (Nat.le_of_succ_le_succ within)).mpr closes, rfl⟩

theorem literalLength_append_iff (back : Text) {length : Nat} (within : length ≤ front.length) :
    literalLength (front ++ back) = some length ↔ literalLength front = some length := by
  cases front with
  | nil =>
      obtain rfl : length = 0 := Nat.le_zero.mp within
      cases back with
      | nil => rfl
      | cons c back => by_cases lineEnd : c = '\n' <;> simp [literalLength, lineEnd]
  | cons c front =>
      by_cases lineEnd : c = '\n'
      · simp [literalLength, lineEnd]
      · simp only [List.cons_append, literalLength, if_neg lineEnd, Option.map_eq_map,
          Option.map_eq_some_iff]
        constructor
        · rintro ⟨further, closes, rfl⟩
          exact ⟨further, (toClosingQuote_append_iff back (Nat.le_of_succ_le_succ within)).mp closes,
            rfl⟩
        · rintro ⟨further, closes, rfl⟩
          exact ⟨further, (toClosingQuote_append_iff back (Nat.le_of_succ_le_succ within)).mpr closes,
            rfl⟩

end Quotes

theorem inLiteral_of_lt {path : Text} {inside i : Nat} {mark : Mark}
    (here : (marksFrom inside path)[i]? = some mark) (before : i < inside) :
    mark.inLiteral = true := by
  induction path generalizing inside i with
  | nil => cases inside <;> cases here
  | cons c rest ih =>
      cases inside with
      | zero => exact absurd before (Nat.not_lt_zero i)
      | succ inside =>
          cases i with
          | zero =>
              obtain rfl : ⟨c, true⟩ = mark := Option.some.inj here
              rfl
          | succ i => exact ih here (Nat.lt_of_succ_lt_succ before)

-- Where a character stands outside of literals, the marks before it and behind it are those of the
-- two texts alone: induction on the front, with what is still open of a literal.
theorem marksFrom_split {front back : Text} {c : Char} (notQuote : c ≠ '"') {inside : Nat}
    (outside : (marksFrom inside (front ++ c :: back))[front.length]? = some ⟨c, false⟩) :
    marksFrom inside (front ++ c :: back) =
      marksFrom inside front ++ ⟨c, false⟩ :: marksFrom 0 back := by
  induction front generalizing inside with
  | nil =>
      cases inside with
      | succ inside => cases outside
      | zero => simp [marksFrom, notQuote]
  | cons d front ih =>
      cases inside with
      | succ inside => exact congrArg (⟨d, true⟩ :: ·) (ih outside)
      | zero =>
          by_cases quote : d = '"'
          · simp only [List.cons_append, marksFrom, if_pos quote] at outside ⊢
            cases found : literalLength (front ++ c :: back) with
            | some length =>
                rw [found] at outside
                -- the literal that begins here has ended before the character
                have within : length ≤ front.length := by
                  apply Nat.le_of_not_lt
                  intro beyond
                  have hidden := inLiteral_of_lt outside beyond
                  cases hidden
                rw [(literalLength_append_iff (c :: back) within).mp found]
                exact congrArg (⟨d, true⟩ :: ·) (ih outside)
            | none =>
                rw [found] at outside
                -- what closed in the front alone would close in the whole text
                have unclosed : literalLength front = none := by
                  cases closed : literalLength front with
                  | none => rfl
                  | some length =>
                      have further := (literalLength_append_iff (c :: back)
                        (literalLength_le closed)).mpr closed
                      rw [found] at further
                      cases further
                rw [unclosed]
                exact congrArg (⟨d, false⟩ :: ·) (ih outside)
          · simp only [List.cons_append, marksFrom, if_neg quote] at outside ⊢
            exact congrArg (⟨d, false⟩ :: ·) (ih outside)

section Shown

def Mark.shown (mark : Mark) : Char :=
  if mark.inLiteral then '_' else mark.char

theorem masked_eq_shown (path : Text) : masked path = (marks path).map Mark.shown := rfl

theorem isSeparator_shown (mark : Mark) : isSeparator mark.shown = mark.separates := by
  obtain ⟨c, inLiteral⟩ := mark
  cases inLiteral <;> rfl

theorem Mark.eq_of_separates {mark : Mark} (separates : mark.separates = true) :
    mark = ⟨mark.shown, false⟩ := by
  obtain ⟨c, inLiteral⟩ := mark
  cases inLiteral with
  | false => rfl
  | true => cases separates

theorem mark_of_shown {path : Text} {i : Nat} {c : Char} (shown : (masked path)[i]? = some c)
    (separates : isSeparator c = true) : (marks path)[i]? = some ⟨c, false⟩ := by
  rw [masked_eq_shown, List.getElem?_map] at shown
  obtain ⟨mark, found, rfl⟩ := Option.map_eq_some_iff.mp shown
  rw [isSeparator_shown] at separates
  rw [found, Mark.eq_of_separates separates]
  rfl

theorem getElem?_of_shown {path : Text} {i : Nat} {c : Char} (shown : (masked path)[i]? = some c)
    (separates : isSeparator c = true) : path[i]? = some c := by
  have found := mark_of_shown shown separates
  rw [← marks_chars path, List.getElem?_map, found]
  rfl

theorem parts_of_shown {path : Text} {i : Nat} {c : Char} (shown : (masked path)[i]? = some c)
    (separates : isSeparator c = true) :
    ∃ front back, path = front ++ c :: back ∧ front.length = i := by
  obtain ⟨within, here⟩ := List.getElem?_eq_some_iff.mp (getElem?_of_shown shown separates)
  refine ⟨path.take i, path.drop (i + 1), ?_, List.length_take_of_le (Nat.le_of_lt within)⟩
  rw [← here, ← List.drop_eq_getElem_cons within, List.take_append_drop]

theorem marks_split {front back : Text} {c : Char}
    (shown : (masked (front ++ c :: back))[front.length]? = some c)
    (separates : isSeparator c = true) :
    marks (front ++ c :: back) = marks front ++ ⟨c, false⟩ :: marks back :=
  marksFrom_split (isSeparator_ne_quote separates) (mark_of_shown shown separates)

theorem masked_split {front back : Text} {c : Char}
    (shown : (masked (front ++ c :: back))[front.length]? = some c)
    (separates : isSeparator c = true) :
    masked (front ++ c :: back) = masked front ++ c :: masked back := by
  rw [masked_eq_shown, marks_split shown separates, List.map_append, List.map_cons]
  rfl

end Shown

section LastSeparator

theorem cutMarks_eq_none_iff {list : List Mark} :
    cutMarks list = none ↔ ∀ mark ∈ list, mark.separates = false := by
  induction list with
  | nil => simp [cutMarks]
  | cons mark rest ih =>
      constructor
      · intro absent
        obtain ⟨later, here⟩ := cutMarks_cons_eq_none absent
        exact List.forall_mem_cons.mpr ⟨here, ih.mp later⟩
      · intro plain
        obtain ⟨here, later⟩ := List.forall_mem_cons.mp plain
        rw [cutMarks, ih.mpr later]
        simp [here]

theorem cut?_eq_none_iff {path : Text} :
    cut? path = none ↔ ∀ c ∈ masked path, isSeparator c = false := by
  rw [cut?, cutMarks_eq_none_iff, masked_eq_shown]
  simp [isSeparator_shown]

theorem mark_of_cutMarks {list : List Mark} {cut : Cut} (found : cutMarks list = some cut) :
    list[cut.before.length]? = some ⟨cut.separator, false⟩ := by
  induction list generalizing cut with
  | nil => cases found
  | cons mark rest ih =>
      rcases cutMarks_cons found with ⟨deeper, further, rfl⟩ | ⟨_, separates, rfl⟩
      · exact @ih deeper further
      · obtain ⟨c, inLiteral⟩ := mark
        cases inLiteral with
        | false => rfl
        | true => cases separates

structure LastSeparator (path : Text) (i : Nat) (c : Char) : Prop where
  shown : (masked path)[i]? = some c
  separates : isSeparator c = true
  last : ∀ d ∈ (masked path).drop (i + 1), isSeparator d = false

theorem drop_masked {front back : Text} {c : Char}
    (shown : (masked (front ++ c :: back))[front.length]? = some c)
    (separates : isSeparator c = true) :
    (masked (front ++ c :: back)).drop (front.length + 1) = masked back := by
  rw [masked_split shown separates, ← length_masked front]
  simp

theorem lastSeparator_of_cut? {path : Text} {cut : Cut} (found : cut? path = some cut) :
    LastSeparator path cut.before.length cut.separator := by
  have shown : (masked path)[cut.before.length]? = some cut.separator := by
    have here : (marks path)[cut.before.length]? = some ⟨cut.separator, false⟩ :=
      mark_of_cutMarks found
    rw [masked_eq_shown, List.getElem?_map, here]
    rfl
  refine ⟨shown, isSeparator_of_cut? found, ?_⟩
  have whole := chars_cut? found
  rw [← whole] at shown
  rw [← whole, drop_masked shown (isSeparator_of_cut? found)]
  exact cut?_eq_none_iff.mp (cutMarks_after found)

theorem cut?_of_lastSeparator {front back : Text} {c : Char}
    (last : LastSeparator (front ++ c :: back) front.length c) :
    cut? (front ++ c :: back) = some ⟨front, c, back⟩ := by
  have behind : cutMarks (marks back) = none := by
    refine cut?_eq_none_iff.mpr ?_
    rw [← drop_masked last.shown last.separates]
    exact last.last
  have here : cutMarks (⟨c, false⟩ :: marks back) = some ⟨[], c, back⟩ := by
    simp [cutMarks, behind, Mark.separates, last.separates]
  rw [cut?, marks_split last.shown last.separates, cutMarks_append here, marks_chars,
    List.append_nil]

theorem lastSeparator_iff {path : Text} {i : Nat} {c : Char} :
    LastSeparator path i c ↔ cut? path = some ⟨path.take i, c, path.drop (i + 1)⟩ := by
  constructor
  · intro last
    obtain ⟨front, back, rfl, rfl⟩ := parts_of_shown last.shown last.separates
    rw [cut?_of_lastSeparator last]
    simp
  · intro found
    have last := lastSeparator_of_cut? found
    have whole := congrArg List.length (chars_cut? found)
    have length : (path.take i).length = i := by
      simp only [List.length_append, List.length_cons, List.length_take, List.length_drop] at whole ⊢
      omega
    rw [length] at last
    exact last

end LastSeparator

section Front

variable {path : Text} (noQuote : '"' ∉ path)
include noQuote

theorem marks_append_front (rest : Text) :
    marks (path ++ rest) = path.map (⟨·, false⟩) ++ marks rest := by
  unfold marks
  induction path with
  | nil => rfl
  | cons c path ih =>
      have different : c ≠ '"' := by
        rintro rfl
        exact noQuote List.mem_cons_self
      have further := ih fun member => noQuote (List.mem_cons_of_mem c member)
      simp [marksFrom, different, further]

theorem masked_append_front (rest : Text) : masked (path ++ rest) = path ++ masked rest := by
  rw [masked, marks_append_front noQuote]
  simp [masked, Function.comp_def]

end Front

end SymbolPath.Path
