import Mathlib.Algebra.Order.BigOperators.Group.List
import Mathlib.Algebra.Order.Group.Nat
import SymbolPath.Report.Console

/-!
What printing writes, code point by code point. Of the attempts that it makes, only one writes the
text if its ending can be written. A text that the encoding covers is written as it is. In any other
text each code point with a spelling is spelled, even one that the encoding has, so a surrogate
changes what UTF-8 writes for an arrow beside it. An ending that cannot be written fails in every
attempt.
-/

namespace SymbolPath

namespace Encoding

def Covers (e : Encoding) (points : List Nat) : Prop := ∀ n ∈ points, e.represents n = true

instance (e : Encoding) (points : List Nat) : Decidable (e.Covers points) :=
  inferInstanceAs (Decidable (∀ n ∈ points, e.represents n = true))

def bytesOf (e : Encoding) (points : List Nat) : Bytes :=
  points.flatMap fun n => (e.encodePoint? n).getD []

theorem encodePoint?_of_represents {e : Encoding} {n : Nat} (has : e.represents n = true) :
    e.encodePoint? n = some (e.bytesOf [n]) := by
  obtain ⟨bytes, isBytes⟩ := Option.isSome_iff_exists.mp has
  simp [bytesOf, isBytes]

theorem encodePoint?_of_lacks {e : Encoding} {n : Nat} (lacks : e.represents n = false) :
    e.encodePoint? n = none := by
  simpa [represents] using lacks

theorem covers_cons {e : Encoding} {n : Nat} {rest : List Nat} :
    e.Covers (n :: rest) ↔ e.represents n = true ∧ e.Covers rest :=
  List.forall_mem_cons

theorem encodeFrom_of_covers {e : Encoding} {points : List Nat} (covered : e.Covers points)
    (offset : Nat) : encodeFrom e offset points = .ok (e.bytesOf points) := by
  induction points generalizing offset with
  | nil => rfl
  | cons n rest ih =>
      obtain ⟨here, later⟩ := covers_cons.mp covered
      simp only [encodeFrom, encodePoint?_of_represents here, ih later (offset + 1)]
      simp [bytesOf, Functor.map, Except.map]

theorem encodeFrom_of_lacks {e : Encoding} {points : List Nat} (lacks : ¬ e.Covers points)
    (offset : Nat) : ∃ failure, encodeFrom e offset points = .error failure := by
  induction points generalizing offset with
  | nil => exact absurd (fun n member => nomatch member) lacks
  | cons n rest ih =>
      rw [encodeFrom]
      cases has : e.encodePoint? n with
      | none => exact ⟨_, rfl⟩
      | some bytes =>
          have here : e.represents n = true := by simp [represents, has]
          have later : ¬ e.Covers rest := fun covered => lacks (covers_cons.mpr ⟨here, covered⟩)
          obtain ⟨failure, fails⟩ := ih later (offset + 1)
          exact ⟨failure, by simp only [fails]; rfl⟩

theorem encode_of_covers {e : Encoding} {points : List Nat} (covered : e.Covers points) :
    e.encode points = .ok (e.bytesOf points) :=
  encodeFrom_of_covers covered 0

theorem encode_of_lacks {e : Encoding} {points : List Nat} (lacks : ¬ e.Covers points) :
    ∃ failure, e.encode points = .error failure :=
  encodeFrom_of_lacks lacks 0

theorem utf8_covers_points (t : Text) : utf8.Covers t.points := by
  intro n member
  obtain ⟨c, _, rfl⟩ := List.mem_map.mp member
  simp [represents, encodePoint?, Text.charOfPoint?_toNat]

end Encoding

namespace Console

open Encoding

variable {e : Encoding}

theorem write_of_covers {points ending : List Nat} (covered : e.Covers points)
    (endCovered : e.Covers ending) :
    write e [points, ending] = ⟨e.bytesOf points ++ e.bytesOf ending, none⟩ := by
  simp [write, encode_of_covers covered, encode_of_covers endCovered]

theorem write_of_lacks {points : List Nat} (lacks : ¬ e.Covers points) (ending : List Nat) :
    ∃ failure, write e [points, ending] = ⟨[], some failure⟩ := by
  obtain ⟨failure, fails⟩ := encode_of_lacks lacks
  exact ⟨failure, by simp only [write, fails]⟩

theorem write_of_end_lacks {ending : List Nat} (lacks : ¬ e.Covers ending) (points : List Nat) :
    ∃ bytes failure, write e [points, ending] = ⟨bytes, some failure⟩ := by
  by_cases covered : e.Covers points
  · obtain ⟨failure, fails⟩ := encode_of_lacks lacks
    exact ⟨e.bytesOf points, failure, by simp [write, encode_of_covers covered, fails]⟩
  · obtain ⟨failure, fails⟩ := write_of_lacks covered ending
    exact ⟨[], failure, fails⟩

theorem covers_replaceLacking (e : Encoding) (points : List Nat) :
    e.Covers (replaceLacking e points) := by
  intro n member
  obtain ⟨m, _, rfl⟩ := List.mem_map.mp member
  split
  · assumption
  · cases e <;> rfl

theorem replaceLacking_of_covers {points : List Nat} (covered : e.Covers points) :
    replaceLacking e points = points := by
  refine (List.map_congr_left fun n member => ?_).trans (List.map_id points)
  rw [if_pos (covered n member)]
  rfl

theorem print_of_covers {points ending : List Nat} (covered : e.Covers points)
    (endCovered : e.Covers ending) :
    print e points ending = ⟨e.bytesOf points ++ e.bytesOf ending, none⟩ := by
  rw [print, write_of_covers covered endCovered]
  rfl

/-- The second attempt and the third write the same where the second one writes at all. -/
theorem print_of_lacks {points ending : List Nat} (lacks : ¬ e.Covers points)
    (endCovered : e.Covers ending) :
    print e points ending =
      ⟨e.bytesOf (replaceLacking e (spellOut points)) ++ e.bytesOf ending, none⟩ := by
  obtain ⟨failure, first⟩ := write_of_lacks lacks ending
  rw [print, first]
  by_cases spelled : e.Covers (spellOut points)
  · rw [write_of_covers spelled endCovered, replaceLacking_of_covers spelled]
    rfl
  · obtain ⟨other, second⟩ := write_of_lacks spelled ending
    rw [second, write_of_covers (covers_replaceLacking e _) endCovered]
    rfl

theorem print_of_end_lacks {ending : List Nat} (lacks : ¬ e.Covers ending) (points : List Nat) :
    ∃ bytes failure, print e points ending = ⟨bytes, some failure⟩ := by
  obtain ⟨first, _, isFirst⟩ := write_of_end_lacks lacks points
  obtain ⟨second, _, isSecond⟩ := write_of_end_lacks lacks (spellOut points)
  obtain ⟨third, failure, isThird⟩ :=
    write_of_end_lacks lacks (replaceLacking e (spellOut points))
  refine ⟨first ++ (second ++ third), failure, ?_⟩
  rw [print, isFirst, isSecond, isThird]
  rfl

/-- Printing fails for what cannot be written at the end, and for nothing else. -/
theorem print_failure_iff (e : Encoding) (points ending : List Nat) :
    (print e points ending).failure.isSome = true ↔ ¬ e.Covers ending := by
  by_cases endCovered : e.Covers ending
  · by_cases covered : e.Covers points
    · simp [print_of_covers covered endCovered, endCovered]
    · simp [print_of_lacks covered endCovered, endCovered]
  · obtain ⟨bytes, failure, fails⟩ := print_of_end_lacks endCovered points
    simp [fails, endCovered]

section Spelling

variable {table : List (Char × Text)} {n : Nat}

def spellingIn? (table : List (Char × Text)) (n : Nat) : Option (List Nat) :=
  (table.find? fun entry => n == entry.1.toNat).map fun entry => Text.points entry.2

/-- No spelling holds a character that has one. -/
def Apart (table : List (Char × Text)) : Prop :=
  ∀ entry ∈ table, ∀ other ∈ table, other.1.toNat ∉ Text.points entry.2

theorem spellingIn?_eq_none (absent : ∀ entry ∈ table, n ≠ entry.1.toNat) :
    spellingIn? table n = none := by
  simpa [spellingIn?] using absent

/-- One pass for each spelling is one pass for all of them, as none makes work for a later one. -/
theorem foldl_respell (apart : Apart table) (points : List Nat) :
    table.foldl respell points = points.flatMap fun n => (spellingIn? table n).getD [n] := by
  induction table generalizing points with
  | nil => simp [spellingIn?]
  | cons entry rest ih =>
      have later : Apart rest := fun one inRest other otherInRest =>
        apart one (List.mem_cons_of_mem entry inRest) other (List.mem_cons_of_mem entry otherInRest)
      rw [List.foldl_cons, ih later, respell, List.flatMap_assoc]
      refine List.flatMap_congr fun n _ => ?_
      by_cases here : n = entry.1.toNat
      · have kept : ∀ m ∈ Text.points entry.2, (spellingIn? rest m).getD [m] = [m] := by
          intro m member
          rw [spellingIn?_eq_none]
          · rfl
          · rintro other inRest rfl
            exact apart entry List.mem_cons_self other (List.mem_cons_of_mem entry inRest) member
        rw [if_pos here, List.flatMap_congr kept]
        simp [spellingIn?, here]
      · simp [spellingIn?, here]

theorem apart_spellings : Apart spellings := by
  unfold Apart
  decide +kernel

def spelling? (n : Nat) : Option (List Nat) :=
  spellingIn? spellings n

theorem spellOut_eq_flatMap (points : List Nat) :
    spellOut points = points.flatMap fun n => (spelling? n).getD [n] :=
  foldl_respell apart_spellings points

theorem exists_entry_of_spelling {form : List Nat} (spelled : spelling? n = some form) :
    ∃ entry ∈ spellings, n = entry.1.toNat ∧ form = Text.points entry.2 := by
  obtain ⟨entry, found, rfl⟩ := Option.map_eq_some_iff.mp spelled
  exact ⟨entry, List.mem_of_find?_eq_some found, by simpa using List.find?_some found, rfl⟩

end Spelling

/-- The bytes that stand for a code point: its own, else those of its spelling, else those of a
question mark. -/
def standIn (e : Encoding) (n : Nat) : Bytes :=
  match e.encodePoint? n with
  | some bytes => bytes
  | none => e.bytesOf ((spelling? n).getD ['?'.toNat])

/-- The bytes of a code point in a text that the encoding does not cover. -/
def respelled (e : Encoding) (n : Nat) : Bytes :=
  e.bytesOf (replaceLacking e ((spelling? n).getD [n]))

theorem bytesOf_spellOut (e : Encoding) (points : List Nat) :
    e.bytesOf (replaceLacking e (spellOut points)) = points.flatMap (respelled e) := by
  rw [spellOut_eq_flatMap, replaceLacking, List.map_flatMap, bytesOf, List.flatMap_assoc]
  rfl

theorem bytesOf_of_covers {points : List Nat} (covered : e.Covers points) :
    e.bytesOf points = points.flatMap (standIn e) := by
  refine List.flatMap_congr fun n member => ?_
  rw [standIn, encodePoint?_of_represents (covered n member)]
  rfl

section Comparison

variable {n : Nat} {form : List Nat}

theorem spelling?_eq_none (narrow : e ≠ .utf8) (has : e.represents n = true) :
    spelling? n = none := by
  have all : ∀ entry ∈ spellings, e.represents entry.1.toNat = false := by
    cases e with
    | utf8 => exact absurd rfl narrow
    | ascii | latin1 => decide +kernel
  by_contra some
  obtain ⟨form, spelled⟩ := Option.ne_none_iff_exists'.mp some
  obtain ⟨entry, member, rfl, -⟩ := exists_entry_of_spelling spelled
  exact absurd has (Bool.eq_false_iff.mp (all entry member))

theorem covers_of_spelling (e : Encoding) (spelled : spelling? n = some form) : e.Covers form := by
  have all : ∀ entry ∈ spellings, e.Covers (Text.points entry.2) := by
    cases e <;> decide +kernel
  obtain ⟨entry, member, -, rfl⟩ := exists_entry_of_spelling spelled
  exact all entry member

theorem respelled_of_spelling (spelled : spelling? n = some form) :
    respelled e n = e.bytesOf form := by
  simp [respelled, spelled, replaceLacking_of_covers (covers_of_spelling e spelled)]

theorem respelled_eq_standIn (spares : e.represents n = true → spelling? n = none) :
    respelled e n = standIn e n := by
  cases spelled : spelling? n with
  | some form =>
      have lacks : e.represents n = false := by
        by_contra has
        simp [spares (by simpa using has)] at spelled
      rw [respelled_of_spelling spelled, standIn, encodePoint?_of_lacks lacks, spelled]
      rfl
  | none =>
      cases has : e.represents n with
      | true =>
          simp [respelled, standIn, spelled, replaceLacking, has, encodePoint?_of_represents has]
      | false => simp [respelled, standIn, spelled, replaceLacking, has, encodePoint?_of_lacks has]

def beyondAscii (bytes : Bytes) : Nat :=
  bytes.countP fun b => 0x80 ≤ b

theorem beyondAscii_respelled_eq_zero (spelled : spelling? n = some form) :
    beyondAscii (respelled e n) = 0 := by
  have all : ∀ entry ∈ spellings, beyondAscii (e.bytesOf (Text.points entry.2)) = 0 := by
    cases e <;> decide +kernel
  rw [respelled_of_spelling spelled]
  obtain ⟨entry, member, -, rfl⟩ := exists_entry_of_spelling spelled
  exact all entry member

theorem beyondAscii_standIn_pos (has : e.represents n = true) (spelled : spelling? n = some form) :
    0 < beyondAscii (standIn e n) := by
  have all : ∀ entry ∈ spellings, e.represents entry.1.toNat = true →
      0 < beyondAscii (e.bytesOf [entry.1.toNat]) := by
    cases e <;> decide +kernel
  rw [standIn, encodePoint?_of_represents has]
  obtain ⟨entry, member, rfl, -⟩ := exists_entry_of_spelling spelled
  exact all entry member has

theorem beyondAscii_respelled_le (e : Encoding) (n : Nat) :
    beyondAscii (respelled e n) ≤ beyondAscii (standIn e n) := by
  cases spelled : spelling? n with
  | some form => simp [beyondAscii_respelled_eq_zero spelled]
  | none => rw [respelled_eq_standIn fun _ => spelled]

theorem flatMap_respelled_eq_iff (points : List Nat) :
    points.flatMap (respelled e) = points.flatMap (standIn e) ↔
      ∀ n ∈ points, e.represents n = true → spelling? n = none := by
  constructor
  · intro same n member has
    by_contra some
    obtain ⟨form, spelled⟩ := Option.ne_none_iff_exists'.mp some
    -- spelling out a character that could stand takes bytes beyond ASCII away, and none comes in
    have fewer : beyondAscii (respelled e n) < beyondAscii (standIn e n) := by
      rw [beyondAscii_respelled_eq_zero spelled]
      exact beyondAscii_standIn_pos has spelled
    have counts := congrArg beyondAscii same
    simp only [beyondAscii, List.countP_flatMap] at counts
    exact absurd counts
      (List.sum_lt_sum _ _ (fun m _ => beyondAscii_respelled_le e m) ⟨n, member, fewer⟩).ne
  · intro spares
    exact List.flatMap_congr fun n member => respelled_eq_standIn (spares n member)

end Comparison

/-- Printing fails exactly for what cannot be written at the end. Otherwise it writes what stands
for each code point and then the ending, once, if and only if the encoding covers the text or has no
code point of it that has a spelling. -/
theorem print_character_wise_iff (e : Encoding) (points ending : List Nat) :
    ((print e points ending).failure.isSome = true ↔ ∃ n ∈ ending, e.represents n = false) ∧
      ((print e points ending).failure = none →
        ((print e points ending).bytes = points.flatMap (standIn e) ++ e.bytesOf ending ↔
          e.Covers points ∨ ∀ n ∈ points, e.represents n = true → spelling? n = none)) := by
  refine ⟨by simpa [Covers] using print_failure_iff e points ending, fun whole => ?_⟩
  have endCovered : e.Covers ending := by
    have written := print_failure_iff e points ending
    simpa [whole] using written
  by_cases covered : e.Covers points
  · simp [print_of_covers covered endCovered, bytesOf_of_covers covered, covered]
  · simp only [print_of_lacks covered endCovered, bytesOf_spellOut, List.append_cancel_right_eq,
      flatMap_respelled_eq_iff, covered, false_or]

/-- An arrow is spelled out, a snowman becomes a question mark, and what the encoding has stays. -/
theorem print_character_wise_latin1 :
    (print .latin1 (Text.points "é→☃") ['\n'.toNat]).failure = none ∧
      (print .latin1 (Text.points "é→☃") ['\n'.toNat]).bytes = [0xE9, 0x2D, 0x3E, 0x3F, 0x0A] := by
  have whole : (print .latin1 (Text.points "é→☃") ['\n'.toNat]).failure = none := by
    decide +kernel
  refine ⟨whole, ?_⟩
  rw [((print_character_wise_iff .latin1 (Text.points "é→☃") ['\n'.toNat]).2 whole).mpr
    (by decide +kernel)]
  decide +kernel

/-- Beside a lone surrogate an arrow is spelled out, although UTF-8 has it. -/
theorem arrow_respelled_beside_surrogate :
    print .utf8 [0xDCFF, '→'.toNat] ['\n'.toNat] = ⟨[0x3F, 0x2D, 0x3E, 0x0A], none⟩ ∧
      (print .utf8 [0xDCFF, '→'.toNat] ['\n'.toNat]).bytes ≠
        [0xDCFF, '→'.toNat].flatMap (standIn .utf8) ++ utf8.bytesOf ['\n'.toNat] := by
  decide +kernel

/-- Nothing but a surrogate in UTF-8 keeps a text from being written character by character: UTF-8
covers every text of characters, and the other encodings have no character that has a spelling. -/
theorem print_of_characters {points ending : List Nat}
    (characters : e = .utf8 → ∃ t : Text, points = t.points) (endCovered : e.Covers ending) :
    print e points ending = ⟨points.flatMap (standIn e) ++ e.bytesOf ending, none⟩ := by
  by_cases covered : e.Covers points
  · rw [print_of_covers covered endCovered, bytesOf_of_covers covered]
  · have narrow : e ≠ .utf8 := by
      rintro rfl
      obtain ⟨t, rfl⟩ := characters rfl
      exact covered (utf8_covers_points t)
    have spares : ∀ n ∈ points, e.represents n = true → spelling? n = none :=
      fun n _ has => spelling?_eq_none narrow has
    rw [print_of_lacks covered endCovered, bytesOf_spellOut,
      (flatMap_respelled_eq_iff points).mpr spares]

end Console
end SymbolPath
