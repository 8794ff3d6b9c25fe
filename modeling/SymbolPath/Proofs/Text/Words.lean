import Mathlib.Data.List.TakeWhile
import SymbolPath.Proofs.Text.Trimming

/-!
The words of a text, and the first of them. A blank behind something ends the first word, whatever
follows.
-/

namespace SymbolPath.Text

theorem firstWord_blank_cons {c : Char} (blank : isBlank c = true) (t : Text) :
    firstWord (c :: t) = firstWord t := by
  rw [firstWord, trimStart_cons, if_pos blank, firstWord]

theorem firstWord_black_cons {c : Char} (black : isBlank c = false) (t : Text) :
    firstWord (c :: t) = c :: t.takeWhile fun d => !isBlank d := by
  simp [firstWord, trimStart_cons, black]

theorem firstWord_trimStart (t : Text) : firstWord (trimStart t) = firstWord t := by
  induction t with
  | nil => rfl
  | cons c t ih =>
      cases blank : isBlank c with
      | true => rw [trimStart_cons, if_pos blank, ih, firstWord_blank_cons blank]
      | false => simp [trimStart_cons, blank]

theorem words_blank_cons {c : Char} (blank : isBlank c = true) (t : Text) :
    words (c :: t) = words t := by
  cases t <;> simp [words, blank]

theorem words_black_cons {c : Char} (black : isBlank c = false) (t : Text) :
    ∃ others, words (c :: t) = firstWord (c :: t) :: others := by
  induction t generalizing c with
  | nil => exact ⟨[], by simp [words, firstWord_black_cons, black]⟩
  | cons d t ih =>
      cases apart : isBlank d with
      | true => exact ⟨words (d :: t), by simp [words, firstWord_black_cons, black, apart]⟩
      | false =>
          obtain ⟨others, further⟩ := ih apart
          refine ⟨others, ?_⟩
          rw [words.eq_def]
          simp [black, apart, further, firstWord_black_cons]

theorem firstWord_eq_nil_iff {t : Text} : firstWord t = [] ↔ Blank t := by
  induction t with
  | nil => simp [firstWord, trimStart, Blank]
  | cons c rest ih =>
      rw [Blank, List.forall_mem_cons]
      cases blank : isBlank c with
      | true => simpa [firstWord_blank_cons blank, Blank] using ih
      | false => simp [firstWord_black_cons blank]

theorem firstWord_of_noBlank {t : Text} (noBlank : ∀ c ∈ t, isBlank c = false) :
    firstWord t = t := by
  have kept : trimStart t = t := by
    cases t with
    | nil => rfl
    | cons c rest => simp [trimStart, noBlank c List.mem_cons_self]
  rw [firstWord, kept, List.takeWhile_eq_self_iff]
  intro c member
  rw [noBlank c member]
  rfl

theorem noBlank_firstWord {t : Text} {c : Char} (member : c ∈ firstWord t) :
    isBlank c = false := by
  simpa using List.mem_takeWhile_imp member

theorem head?_words_eq_some_iff {t word : Text} :
    (words t).head? = some word ↔ word ≠ [] ∧ firstWord t = word := by
  induction t with
  | nil => simp [words, firstWord, trimStart, eq_comm]
  | cons c t ih =>
      cases blank : isBlank c with
      | true => rw [words_blank_cons blank, firstWord_blank_cons blank, ih]
      | false =>
          obtain ⟨others, found⟩ := words_black_cons blank t
          rw [found, List.head?_cons, Option.some.injEq]
          constructor
          · rintro rfl
            exact ⟨by simp [firstWord_black_cons blank], rfl⟩
          · exact And.right

theorem firstWord_append_blank {front : Text} (shows : ¬ Blank front) {b : Char}
    (blank : isBlank b = true) (back : Text) :
    firstWord (front ++ b :: back) = firstWord front := by
  rw [firstWord, trimStart_append_of_not shows, List.takeWhile_append, firstWord]
  split
  · rename_i all
    have whole := (List.takeWhile_prefix (fun c => !isBlank c)).eq_of_length all
    simp [blank, whole]
  · rfl

end SymbolPath.Text
