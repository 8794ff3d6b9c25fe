import Mathlib.Data.List.TakeWhile
import SymbolPath.Proofs.Path.Prototypes
import SymbolPath.Proofs.Path.Splitting
import SymbolPath.Proofs.Text.Words
import SymbolPath.Resolution

/-!
The name that resolution starts from. Its blanks, if any, are those of the current module. Whatever
is rewritten before a key, the key stays the last segment behind a separator, unless it completes a
prototype segment.
-/

namespace SymbolPath.Resolution

open SymbolPath.Path

theorem forall_false_iff_any {text : Text} {test : Char → Bool} :
    (∀ c ∈ text, test c = false) ↔ text.any test = false := by
  simp

theorem expandExports_of_not_startsWith {module name : Text}
    (other : Text.startsWith "exports." name = false) : expandExports module name = name := by
  unfold expandExports
  cases found : Text.dropStart? "exports." name with
  | none => rfl
  | some rest =>
      rw [Text.startsWith, found] at other
      cases other

theorem expandExports_nil (name : Text) : expandExports [] name = name := by
  unfold expandExports
  split <;> rfl

theorem expandExports_member {module member : Text} (given : module ≠ []) (named : member ≠ []) :
    expandExports module (("exports." : Text) ++ member) = module ++ '.' :: member := by
  have notEmpty : module.isEmpty = false := by simpa using given
  obtain ⟨c, rest, rfl⟩ := List.exists_cons_of_ne_nil named
  have found : Text.dropStart? "exports." (("exports." : Text) ++ c :: rest) = some (c :: rest) :=
    Text.dropStart?_eq_some_iff.mpr rfl
  unfold expandExports
  rw [found]
  simp [notEmpty]

theorem expandExports_cases (module name : Text) :
    expandExports module name = name ∨
      ∃ member, name = ("exports." : Text) ++ member ∧
        expandExports module name = module ++ '.' :: member := by
  by_cases none : module = []
  · exact .inl (none ▸ expandExports_nil name)
  · cases starts : Text.startsWith "exports." name with
    | false => exact .inl (expandExports_of_not_startsWith starts)
    | true =>
        obtain ⟨member, rfl⟩ := Text.startsWith_iff.mp starts
        by_cases named : member = []
        · subst named
          exact .inl rfl
        · exact .inr ⟨member, rfl, expandExports_member none named⟩

theorem mem_foldPrototypeFrom {inside : Nat} {t : Text} {c : Char}
    (member : c ∈ foldPrototypeFrom inside t) : c = '#' ∨ c ∈ t := by
  induction t generalizing inside with
  | nil => cases inside <;> cases member
  | cons d rest ih =>
      have later : ∀ {inside}, c ∈ foldPrototypeFrom inside rest → c = '#' ∨ c ∈ d :: rest :=
        fun among => (ih among).imp id (List.mem_cons_of_mem d)
      cases inside with
      | succ inside => exact later member
      | zero =>
          unfold foldPrototypeFrom at member
          cases found : prototypeLength? (d :: rest) with
          | some length =>
              simp only [found, List.mem_cons] at member
              rcases member with mark | among
              · exact .inl mark
              · exact later among
          | none =>
              simp only [found, List.mem_cons] at member
              rcases member with rfl | among
              · exact .inr List.mem_cons_self
              · exact later among

theorem mem_module_of_blank {module : Text} {doclet : Doclet} {c : Char}
    (member : c ∈ fullName module doclet) (blank : Text.isBlank c = true) : c ∈ module := by
  have notIn : ∀ d : Char, Text.isBlank d = false → c ≠ d := by
    rintro d plain rfl
    rw [blank] at plain
    cases plain
  rcases mem_foldPrototypeFrom member with hash | inName
  · exact absurd hash (notIn '#' rfl)
  · have notInWord : c ∉ Text.firstWord doclet.name := fun inWord =>
      notIn c (Text.noBlank_firstWord inWord) rfl
    rcases expandExports_cases module (Text.firstWord doclet.name) with same | ⟨rest, word, same⟩
    · rw [same] at inName
      exact absurd inName notInWord
    · rw [same] at inName
      rcases List.mem_append.mp inName with inModule | behind
      · exact inModule
      · rcases List.mem_cons.mp behind with dot | inRest
        · exact absurd dot (notIn '.' rfl)
        · exact absurd (word ▸ List.mem_append_right _ inRest) notInWord

theorem exports_prefix_cases {path name : Text} {separator : Char}
    (separates : isSeparator separator = true)
    (starts : Text.startsWith "exports." (path ++ separator :: name) = true) :
    Text.startsWith "exports." path = true ∨ (path = "exports" ∧ separator = '.') := by
  have dotted : ("exports." : Text) = ("exports" : Text) ++ ['.'] := by decide
  have noLetter : ("exports" : Text).any isSeparator = false := by decide
  obtain ⟨rest, split⟩ := Text.startsWith_iff.mp starts
  rw [dotted] at split ⊢
  generalize ("exports" : Text) = word at *
  have begins : word ++ ['.'] <+: path ++ separator :: name := ⟨rest, split.symm⟩
  rcases prefix_append_cons begins with ⟨more, inPath⟩ | beyond
  · exact .inl (Text.startsWith_iff.mpr ⟨more, inPath.symm⟩)
  · rcases List.prefix_concat_iff.mp beyond with same | shorter
    · obtain ⟨isWord, isDot⟩ := List.append_inj' same rfl
      exact .inr ⟨isWord, List.singleton_inj.mp isDot⟩
    · -- the separator would be a letter of the word
      have letter : separator ∈ word := shorter.subset (by simp)
      exact absurd separates (List.any_eq_false.mp noLetter separator letter)

section Key

variable {key : Text}

def EndsInKey (key name : Text) : Prop :=
  ∃ path separator, isSeparator separator = true ∧ name = path ++ separator :: key

theorem EndsInKey.cons {name : Text} (ends : EndsInKey key name) (c : Char) :
    EndsInKey key (c :: name) := by
  obtain ⟨path, separator, separates, rfl⟩ := ends
  exact ⟨c :: path, separator, separates, rfl⟩

theorem EndsInKey.split {name : Text} (ends : EndsInKey key name) (bare : Bare key) :
    (Path.split name).2 = key := by
  obtain ⟨path, separator, separates, rfl⟩ := ends
  rw [Path.split, cut?_append path separates bare]

theorem EndsInKey.ne {name : Text} (ends : EndsInKey key name) : name ≠ key := by
  obtain ⟨path, separator, _, rfl⟩ := ends
  intro same
  have lengths := congrArg List.length same
  simp at lengths
  omega

theorem endsInKey_expandExports {module name : Text} (ends : EndsInKey key name) :
    EndsInKey key (expandExports module name) := by
  obtain ⟨path, separator, separates, rfl⟩ := ends
  rcases expandExports_cases module (path ++ separator :: key) with same | ⟨member, whole, same⟩
  · rw [same]
    exact ⟨path, separator, separates, rfl⟩
  · rw [same]
    have starts := Text.startsWith_iff.mpr ⟨member, whole⟩
    rcases exports_prefix_cases separates starts with inPath | ⟨rfl, rfl⟩
    · obtain ⟨rest, rfl⟩ := Text.startsWith_iff.mp inPath
      rw [List.append_assoc] at whole
      obtain rfl := List.append_cancel_left whole
      exact ⟨module ++ '.' :: rest, separator, separates, by simp⟩
    · have dotted : ("exports." : Text) = ("exports" : Text) ++ ['.'] := by decide
      rw [dotted, List.append_assoc] at whole
      obtain ⟨-, rfl⟩ := List.cons.inj (List.append_cancel_left whole)
      exact ⟨module, '.', rfl, rfl⟩

theorem foldPrototypeFrom_skip (front rest : Text) :
    foldPrototypeFrom front.length (front ++ rest) = foldPrototype rest := by
  induction front with
  | nil => rfl
  | cons c front ih => exact ih

variable (noSeparator : ∀ c ∈ key, isSeparator c = false)
include noSeparator

theorem foldPrototype_of_noSeparator : foldPrototype key = key :=
  foldPrototype_of_absent (not_hasPrototype_of_noSeparator noSeparator)

theorem fullName_of_key (module : Text) {doclet : Doclet}
    (noBlank : ∀ c ∈ doclet.name, Text.isBlank c = false) (named : doclet.name = key) :
    fullName module doclet = key := by
  have notExported : Text.startsWith "exports." key = false := by
    rw [Bool.eq_false_iff]
    intro starts
    obtain ⟨rest, rfl⟩ := Text.startsWith_iff.mp starts
    have dot : '.' ∈ ("exports." : Text) ++ rest := List.mem_append_left _ (by decide)
    exact absurd (noSeparator '.' dot) (by decide)
  rw [fullName, Text.firstWord_of_noBlank noBlank, named,
    expandExports_of_not_startsWith notExported, foldPrototype_of_noSeparator noSeparator]

variable (begins : Text.startsWith "prototype" key = false)
include begins

theorem endsInKey_foldPrototypeFrom {path : Text} {separator : Char}
    (separates : isSeparator separator = true) {inside : Nat} (within : inside ≤ path.length) :
    EndsInKey key (foldPrototypeFrom inside (path ++ separator :: key)) := by
  have keptKey := foldPrototype_of_noSeparator noSeparator
  induction path generalizing inside with
  | nil =>
      obtain rfl : inside = 0 := Nat.le_zero.mp within
      have absent : ¬ HasPrototype (separator :: key) :=
        not_hasPrototype_append not_hasPrototype_nil separates noSeparator begins
      have notHere : prototypeLength? (separator :: key) = none :=
        prototypeLength?_of_not_prefix fun starts => absent starts.isInfix
      refine ⟨[], separator, separates, ?_⟩
      rw [List.nil_append, foldPrototypeFrom, notHere]
      exact congrArg (separator :: ·) keptKey
  | cons c path ih =>
      cases inside with
      | succ inside => exact ih (Nat.le_of_succ_le_succ within)
      | zero =>
          rw [List.cons_append, foldPrototypeFrom]
          cases found : prototypeLength? (c :: (path ++ separator :: key)) with
          | none => exact (ih (Nat.zero_le _)).cons c
          | some length =>
              -- the segment ends before the separator, or takes it in
              have bound : length ≤ path.length + 2 :=
                prototypeLength?_le separates found
              dsimp only
              by_cases before : length - 1 ≤ path.length
              · exact (ih before).cons '#'
              · have through : length - 1 = (path ++ [separator]).length := by
                  simp only [List.length_append, List.length_singleton]
                  omega
                rw [through, List.append_cons path separator key, foldPrototypeFrom_skip, keptKey]
                exact ⟨[], '#', rfl, rfl⟩

theorem endsInKey_fullName (module : Text) {doclet : Doclet}
    (noBlank : ∀ c ∈ doclet.name, Text.isBlank c = false) (ends : EndsInKey key doclet.name) :
    EndsInKey key (fullName module doclet) := by
  rw [fullName, Text.firstWord_of_noBlank noBlank]
  have expanded : EndsInKey key (expandExports module doclet.name) := endsInKey_expandExports ends
  obtain ⟨path, separator, separates, same⟩ := expanded
  rw [same]
  exact endsInKey_foldPrototypeFrom noSeparator begins separates (Nat.zero_le _)

end Key

end SymbolPath.Resolution
