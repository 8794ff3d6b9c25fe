import Mathlib.Data.List.TakeWhile
import SymbolPath.Text.Blank

/-!
Trimming a text that was put together. What is blank at an end goes altogether; what is not keeps
all that stands beyond it.
-/

namespace SymbolPath.Text

def blankPoints : List Nat :=
  [0x09, 0x0A, 0x0B, 0x0C, 0x0D, 0x1C, 0x1D, 0x1E, 0x1F, 0x20, 0x85, 0xA0, 0x1680, 0x2000, 0x2001,
    0x2002, 0x2003, 0x2004, 0x2005, 0x2006, 0x2007, 0x2008, 0x2009, 0x200A, 0x2028, 0x2029, 0x202F,
    0x205F, 0x3000]

theorem mem_blankPoints {c : Char} (blank : isBlank c = true) : c.toNat ∈ blankPoints := by
  simp only [isBlank, Bool.or_eq_true, Bool.and_eq_true, decide_eq_true_eq, beq_iff_eq] at blank
  simp only [blankPoints, List.mem_cons, List.not_mem_nil, or_false]
  omega

def Blank (t : Text) : Prop := ∀ c ∈ t, isBlank c = true

instance (t : Text) : Decidable (Blank t) :=
  decidable_of_iff (t.all isBlank = true) List.all_eq_true

variable {front gap back : Text}

theorem blank_nil : Blank [] := nofun

theorem blank_append_iff : Blank (front ++ back) ↔ Blank front ∧ Blank back :=
  List.forall_mem_append

theorem blank_reverse_iff {t : Text} : Blank t.reverse ↔ Blank t := by
  simp [Blank]

theorem trimEnd_eq (t : Text) : trimEnd t = (trimStart t.reverse).reverse := rfl

theorem trimStart_append (blank : Blank front) (back : Text) :
    trimStart (front ++ back) = trimStart back :=
  List.dropWhile_append_of_pos blank

theorem trimEnd_append (blank : Blank back) (front : Text) :
    trimEnd (front ++ back) = trimEnd front := by
  rw [trimEnd_eq, List.reverse_append, trimStart_append (blank_reverse_iff.mpr blank), ← trimEnd_eq]

theorem trim_append_start (blank : Blank front) (back : Text) :
    trim (front ++ back) = trim back := by
  rw [trim, trimStart_append blank, trim]

theorem trim_append_end (blank : Blank back) (front : Text) :
    trim (front ++ back) = trim front := by
  rw [← trim_trimEnd, trimEnd_append blank, trim_trimEnd]

theorem trimStart_of_not_blank (shows : ¬ Blank front) :
    ∃ c rest, isBlank c = false ∧ ∀ back, trimStart (front ++ back) = c :: (rest ++ back) := by
  induction front with
  | nil => exact absurd nofun shows
  | cons c front ih =>
      cases blank : isBlank c with
      | false => exact ⟨c, front, blank, fun back => by simp [trimStart_cons, blank]⟩
      | true =>
          obtain ⟨d, rest, black, trimmed⟩ := ih fun all =>
            shows (List.forall_mem_cons.mpr ⟨blank, all⟩)
          refine ⟨d, rest, black, fun back => ?_⟩
          rw [List.cons_append, trimStart_cons, blank, if_pos rfl, trimmed]

theorem trimStart_append_of_not (shows : ¬ Blank front) (back : Text) :
    trimStart (front ++ back) = trimStart front ++ back := by
  obtain ⟨c, rest, _, trimmed⟩ := trimStart_of_not_blank shows
  have alone := trimmed []
  rw [List.append_nil, List.append_nil] at alone
  rw [trimmed, alone, List.cons_append]

theorem trimEnd_append_of_not (shows : ¬ Blank back) (front : Text) :
    trimEnd (front ++ back) = front ++ trimEnd back := by
  rw [trimEnd_eq, List.reverse_append, trimStart_append_of_not (mt blank_reverse_iff.mp shows),
    List.reverse_append, List.reverse_reverse, ← trimEnd_eq]

theorem trim_between (starts : ¬ Blank front) (ends : ¬ Blank back) (gap : Text) :
    trim (front ++ gap ++ back) = trimStart front ++ gap ++ trimEnd back := by
  rw [trim, List.append_assoc, trimStart_append_of_not starts, ← List.append_assoc,
    trimEnd_append_of_not ends]

/-! What is left at the end. -/

theorem exists_trimmed (t : Text) : ∃ gap, Blank gap ∧ trimEnd t ++ gap = t := by
  refine ⟨(t.reverse.takeWhile isBlank).reverse, ?_, ?_⟩
  · intro c member
    exact List.mem_takeWhile_imp (List.mem_reverse.mp member)
  · rw [trimEnd, ← List.reverse_append, List.takeWhile_append_dropWhile, List.reverse_reverse]

theorem mem_of_mem_trimEnd {c : Char} {t : Text} (member : c ∈ trimEnd t) : c ∈ t := by
  obtain ⟨gap, _, whole⟩ := exists_trimmed t
  exact whole ▸ List.mem_append_left gap member

theorem trimEnd_slice (start width : Nat) (t : Text) :
    trimEnd (((trimEnd t).drop start).take width) = trimEnd ((t.drop start).take width) := by
  obtain ⟨gap, blank, whole⟩ := exists_trimmed t
  conv => rhs; rw [← whole, List.drop_append, List.take_append]
  refine (trimEnd_append ?_ _).symm
  intro c member
  exact blank c (List.mem_of_mem_drop (List.mem_of_mem_take member))

end SymbolPath.Text
