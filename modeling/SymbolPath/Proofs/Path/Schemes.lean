import Mathlib.Data.List.TakeWhile
import SymbolPath.Path.Scheme

/-!
Schemes in front of a name. What is written in scheme characters before a colon comes off, and the
word behind it is left. Anything else before a colon is no scheme, and the name stays whole.
-/

namespace SymbolPath.Path

section Written

variable {scheme : Text}

theorem stripScheme_of_scheme (given : scheme ≠ []) (letters : scheme.all isSchemeChar = true)
    {word : Text} (named : word ≠ []) (noBlank : ∀ c ∈ word, Text.isBlank c = false) :
    stripScheme (scheme ++ ':' :: word) = word := by
  have chars : ∀ c ∈ scheme, isSchemeChar c = true := List.all_eq_true.mp letters
  have before : (scheme ++ ':' :: word).takeWhile isSchemeChar = scheme := by
    rw [List.takeWhile_append_of_pos chars]
    exact List.append_nil scheme
  have behind : (scheme ++ ':' :: word).dropWhile isSchemeChar = ':' :: word := by
    rw [List.dropWhile_append_of_pos chars]
    rfl
  have whole : word.takeWhile (fun c => !Text.isBlank c) = word := by
    rw [List.takeWhile_eq_self_iff]
    intro c member
    rw [noBlank c member]
    rfl
  have found : afterScheme? (scheme ++ ':' :: word) = some word := by
    simp [afterScheme?, before, behind, whole, given, named]
  rw [stripScheme, found]
  rfl

theorem stripScheme_of_other (noColon : ':' ∉ scheme)
    (other : scheme.all isSchemeChar = false) (rest : Text) :
    stripScheme (scheme ++ ':' :: rest) = scheme ++ ':' :: rest := by
  -- the scheme characters end within the scheme, and not at a colon
  obtain ⟨c, behind, dropped⟩ : ∃ c behind, scheme.dropWhile isSchemeChar = c :: behind := by
    apply List.exists_cons_of_ne_nil
    intro none
    rw [List.dropWhile_eq_nil_iff] at none
    rw [List.all_eq_true.mpr none] at other
    cases other
  have inScheme : c ∈ scheme := by
    have among : c ∈ scheme.dropWhile isSchemeChar := dropped ▸ List.mem_cons_self
    exact (List.dropWhile_sublist isSchemeChar).subset among
  have notColon : c ≠ ':' := by
    rintro rfl
    exact noColon inScheme
  have whole : (scheme ++ ':' :: rest).dropWhile isSchemeChar = c :: (behind ++ ':' :: rest) := by
    rw [List.dropWhile_append, dropped]
    rfl
  have none : afterScheme? (scheme ++ ':' :: rest) = none := by
    unfold afterScheme?
    rw [whole]
    split
    · rename_i same
      exact absurd (List.cons.inj same).1 notColon
    · rfl
  rw [stripScheme, none]
  rfl

end Written

theorem stripScheme_of_noColon {name : Text} (noColon : ':' ∉ name) : stripScheme name = name := by
  have none : afterScheme? name = none := by
    unfold afterScheme?
    dsimp only
    split
    · rename_i rest behind
      have colon : ':' ∈ name := (List.dropWhile_suffix isSchemeChar).subset (by simp [behind])
      exact absurd colon noColon
    · rfl
  rw [stripScheme, none]
  rfl

theorem stripScheme_ne_nil {name : Text} (given : name ≠ []) : stripScheme name ≠ [] := by
  unfold stripScheme
  cases found : afterScheme? name with
  | none => exact given
  | some word =>
      unfold afterScheme? at found
      dsimp only at found
      split at found
      · split at found
        · cases found
        · rename_i present
          obtain rfl := Option.some.inj found
          rw [Bool.or_eq_true, not_or] at present
          simpa using present.2
      · cases found

theorem isInfix_stripScheme (name : Text) : stripScheme name <:+: name := by
  unfold stripScheme
  cases found : afterScheme? name with
  | none => exact List.infix_refl name
  | some word =>
      unfold afterScheme? at found
      dsimp only at found
      split at found
      · rename_i rest behind
        split at found
        · cases found
        · obtain rfl := Option.some.inj found
          have suffix : rest <:+ name :=
            (List.suffix_cons ':' rest).trans (behind ▸ List.dropWhile_suffix _)
          exact (List.takeWhile_prefix _).isInfix.trans suffix.isInfix
      · cases found

end SymbolPath.Path
