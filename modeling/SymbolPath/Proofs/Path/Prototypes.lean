import SymbolPath.Path.Basic
import SymbolPath.Path.Prototype

/-!
Paths without prototype segments. They are left alone by the rewriting of such segments, which leaves
no others. A single segment put behind a path adds none, unless a dot joins it and it begins with the
word itself.
-/

namespace SymbolPath.Path

/-- Does the text have a prototype segment, or one that begins with the same letters? -/
def HasPrototype (t : Text) : Prop :=
  (".prototype" : Text) <:+: t

theorem not_hasPrototype_nil : ¬ HasPrototype [] := by
  rw [HasPrototype]
  decide

theorem infix_append_cons_iff {word front rest : Text} {c : Char} :
    word <:+: front ++ c :: rest ↔
      word <:+: front ∨ (∃ first last, word = first ++ c :: last ∧ first <:+ front ∧ last <+: rest) ∨
        word <:+: rest := by
  constructor
  · intro found
    rcases List.infix_append_iff.mp found with inFront | behind | ⟨first, last, rfl, ends, starts⟩
    · exact .inl inFront
    · rcases List.infix_cons_iff.mp behind with starts | later
      · cases word with
        | nil => exact .inl (List.nil_infix)
        | cons d word =>
            obtain ⟨rfl, further⟩ := List.cons_prefix_cons.mp starts
            exact .inr (.inl ⟨[], word, rfl, List.nil_suffix, further⟩)
      · exact .inr (.inr later)
    · cases last with
      | nil => exact .inl (by simpa using ends.isInfix)
      | cons d last =>
          obtain ⟨rfl, further⟩ := List.cons_prefix_cons.mp starts
          exact .inr (.inl ⟨first, last, rfl, ends, further⟩)
  · rintro (inFront | ⟨first, last, rfl, ⟨before, rfl⟩, ⟨behind, rfl⟩⟩ | later)
    · exact List.infix_append_of_infix_left inFront
    · exact ⟨before, behind, by simp⟩
    · exact List.infix_append_of_infix_right (List.infix_cons later)

theorem infix_append_foreign_iff {word front rest : Text} {c : Char} (foreign : c ∉ word) :
    word <:+: front ++ c :: rest ↔ word <:+: front ∨ word <:+: rest := by
  have notAcross : ¬ ∃ first last, word = first ++ c :: last ∧ first <:+ front ∧ last <+: rest := by
    rintro ⟨first, last, rfl, -⟩
    exact foreign (List.mem_append_right first List.mem_cons_self)
  rw [infix_append_cons_iff, or_iff_right notAcross]

theorem prototypeLength?_of_not_prefix {t : Text} (absent : ¬ (".prototype" : Text) <+: t) :
    prototypeLength? t = none := by
  unfold prototypeLength?
  cases found : Text.dropStart? ".prototype" t with
  | none => rfl
  | some rest =>
      have split := Text.dropStart?_eq_some_iff.mp found
      exact absurd ⟨rest, split.symm⟩ absent

theorem prototypeLength?_eq_none_iff {t : Text} :
    prototypeLength? t = none ↔ ¬ (".prototype" : Text) <+: t := by
  refine ⟨?_, prototypeLength?_of_not_prefix⟩
  rintro none ⟨rest, rfl⟩
  have starts := Text.dropStart?_eq_some_iff.mpr (rfl : (".prototype" : Text) ++ rest = _)
  unfold prototypeLength? at none
  rw [starts] at none
  split at none <;> contradiction

theorem prototypeLength?_eq_some {t : Text} {length : Nat}
    (found : prototypeLength? t = some length) : (".prototype" : Text) <+: t ∧ length ≤ 11 := by
  unfold prototypeLength? at found
  cases starts : Text.dropStart? ".prototype" t with
  | none =>
      rw [starts] at found
      cases found
  | some rest =>
      have split := Text.dropStart?_eq_some_iff.mp starts
      refine ⟨⟨rest, split.symm⟩, ?_⟩
      rw [starts] at found
      split at found <;> cases found <;> decide

theorem foldPrototype_of_absent {path : Text} (absent : ¬ HasPrototype path) :
    foldPrototype path = path := by
  unfold foldPrototype
  induction path with
  | nil => rfl
  | cons c rest ih =>
      have notHere : ¬ (".prototype" : Text) <+: c :: rest := fun here => absent here.isInfix
      have notLater : ¬ HasPrototype rest := fun later =>
        absent (later.trans (List.suffix_cons c rest).isInfix)
      rw [foldPrototypeFrom, prototypeLength?_of_not_prefix notHere]
      simp only [ih notLater]

theorem prefix_append_cons {word front rest : Text} {c : Char}
    (starts : word <+: front ++ c :: rest) : word <+: front ∨ front ++ [c] <+: word := by
  have upTo : front ++ [c] <+: front ++ c :: rest := by
    rw [List.append_cons front c rest]
    exact List.prefix_append (front ++ [c]) rest
  rcases List.prefix_or_prefix_of_prefix starts upTo with short | long
  · rcases List.prefix_concat_iff.mp short with same | shorter
    · exact .inr (same ▸ List.prefix_refl _)
    · exact .inl shorter
  · exact .inr long

/-- A prototype segment that begins before a separator is whole before it: no separator is one of
the letters of the word. -/
theorem prototype_prefix_of_append {c separator : Char} {front rest : Text}
    (separates : isSeparator separator = true)
    (starts : (".prototype" : Text) <+: (c :: front) ++ separator :: rest) :
    (".prototype" : Text) <+: c :: front := by
  have dotted : (".prototype" : Text) = '.' :: ("prototype" : Text) := by decide
  -- behind its dot the word has no separator, so it ends before the one in the text
  have plain : ("prototype" : Text).any isSeparator = false := by decide
  rw [dotted] at starts ⊢
  generalize ("prototype" : Text) = word at *
  rcases prefix_append_cons starts with inFront | ⟨more, same⟩
  · exact inFront
  · obtain ⟨-, split⟩ := List.cons.inj same
    have letter : separator ∈ word := split ▸ by simp
    exact absurd separates (List.any_eq_false.mp plain separator letter)

theorem prototypeLength?_le {c separator : Char} {front rest : Text}
    (separates : isSeparator separator = true) {length : Nat}
    (found : prototypeLength? (c :: (front ++ separator :: rest)) = some length) :
    length ≤ front.length + 2 := by
  obtain ⟨starts, bound⟩ := prototypeLength?_eq_some found
  have whole := (prototype_prefix_of_append separates starts).length_le
  have ten : (".prototype" : Text).length = 10 := by decide
  rw [ten, List.length_cons] at whole
  omega

theorem hasPrototype_append_marker_iff {path rest : Text} {marker : Char}
    (isMarker : isScopeMarker marker = true) :
    HasPrototype (path ++ marker :: rest) ↔ HasPrototype path ∨ HasPrototype rest := by
  -- no letter of the word is a scope marker, so no segment reaches across one
  have none : (".prototype" : Text).any isScopeMarker = false := by decide
  exact infix_append_foreign_iff fun letter => List.any_eq_false.mp none marker letter isMarker

theorem hasPrototype_append_dot_iff {path rest : Text} :
    HasPrototype (path ++ '.' :: rest) ↔
      HasPrototype path ∨ ("prototype" : Text) <+: rest ∨ HasPrototype rest := by
  have dotted : (".prototype" : Text) = '.' :: ("prototype" : Text) := by decide
  have noDot : '.' ∉ ("prototype" : Text) := by decide
  unfold HasPrototype
  rw [infix_append_cons_iff, dotted]
  generalize ("prototype" : Text) = letters at noDot
  refine or_congr_right (or_congr_left ⟨?_, ?_⟩)
  · rintro ⟨first, last, across, -, starts⟩
    cases first with
    | nil =>
        obtain ⟨-, rfl⟩ := List.cons.inj across
        exact starts
    | cons d first =>
        -- a second dot would be one of the letters
        obtain ⟨-, rfl⟩ := List.cons.inj across
        exact absurd (List.mem_append_right first List.mem_cons_self) noDot
  · intro starts
    exact ⟨[], letters, rfl, List.nil_suffix, starts⟩

theorem not_hasPrototype_of_noSeparator {name : Text}
    (noSeparator : ∀ c ∈ name, isSeparator c = false) : ¬ HasPrototype name := by
  intro inName
  have dot : '.' ∈ name := inName.subset List.mem_cons_self
  exact absurd (noSeparator '.' dot) (by decide)

theorem not_hasPrototype_append {path name : Text} (absent : ¬ HasPrototype path)
    {separator : Char} (separates : isSeparator separator = true)
    (noSeparator : ∀ c ∈ name, isSeparator c = false)
    (begins : Text.startsWith "prototype" name = false) :
    ¬ HasPrototype (path ++ separator :: name) := by
  have notInName := not_hasPrototype_of_noSeparator noSeparator
  rcases Bool.or_eq_true_iff.mp separates with dot | isMarker
  · obtain rfl := beq_iff_eq.mp dot
    rw [hasPrototype_append_dot_iff]
    rintro (inPath | ⟨rest, same⟩ | inName)
    · exact absent inPath
    · rw [Text.startsWith_iff.mpr ⟨rest, same.symm⟩] at begins
      cases begins
    · exact notInName inName
  · rw [hasPrototype_append_marker_iff isMarker]
    exact not_or_intro absent notInName

section Step

variable {c : Char} {rest : Text}

theorem foldPrototypeFrom_of_some {length : Nat}
    (found : prototypeLength? (c :: rest) = some length) :
    foldPrototypeFrom 0 (c :: rest) = '#' :: foldPrototypeFrom (length - 1) rest := by
  rw [foldPrototypeFrom, found]

theorem foldPrototypeFrom_of_none (found : prototypeLength? (c :: rest) = none) :
    foldPrototypeFrom 0 (c :: rest) = c :: foldPrototypeFrom 0 rest := by
  rw [foldPrototypeFrom, found]

end Step

theorem count_of_prototypeLength? {t : Text} {length : Nat}
    (found : prototypeLength? t = some length) :
    0 < length ∧ t.count '#' = (t.drop length).count '#' := by
  unfold prototypeLength? at found
  cases starts : Text.dropStart? ".prototype" t with
  | none =>
      rw [starts] at found
      cases found
  | some rest =>
      obtain rfl := Text.dropStart?_eq_some_iff.mp starts
      rw [starts] at found
      split at found
      · cases found
      · rename_i dotted
        cases dotted
        cases found
        exact ⟨by decide, by simp⟩
      · cases found
        exact ⟨by decide, by simp⟩

theorem foldPrototypeFrom_cases (inside : Nat) (t : Text) :
    (t.drop inside).count '#' < (foldPrototypeFrom inside t).count '#' ∨
      foldPrototypeFrom inside t = t.drop inside := by
  induction t generalizing inside with
  | nil =>
      cases inside <;> exact .inr rfl
  | cons c rest ih =>
      cases inside with
      | succ inside => exact ih inside
      | zero =>
          cases found : prototypeLength? (c :: rest) with
          | none =>
              rw [foldPrototypeFrom_of_none found, List.drop_zero]
              refine (ih 0).imp (fun gains => ?_) fun same => ?_
              · rw [List.count_cons, List.count_cons]
                exact Nat.add_lt_add_right gains _
              · rw [same, List.drop_zero]
          | some length =>
              obtain ⟨some, same⟩ := count_of_prototypeLength? found
              obtain ⟨behind, rfl⟩ := Nat.exists_eq_succ_of_ne_zero (Nat.ne_of_gt some)
              rw [List.drop_succ_cons] at same
              rw [foldPrototypeFrom_of_some found, List.drop_zero, same, List.count_cons_self]
              refine .inl (Nat.lt_succ_of_le ?_)
              rcases ih behind with gains | kept
              · exact Nat.le_of_lt gains
              · exact Nat.le_of_eq (congrArg (List.count '#') kept.symm)

/-- What a rewritten text begins with, if no instance marker is in it, stood there before. -/
theorem prefix_of_prefix_foldPrototypeFrom {word t : Text} (plain : '#' ∉ word)
    (starts : word <+: foldPrototypeFrom 0 t) : word <+: t := by
  induction t generalizing word with
  | nil => exact starts
  | cons c rest ih =>
      cases word with
      | nil => exact List.nil_prefix
      | cons d word =>
          cases found : prototypeLength? (c :: rest) with
          | some length =>
              rw [foldPrototypeFrom_of_some found] at starts
              obtain ⟨rfl, _⟩ := List.cons_prefix_cons.mp starts
              exact absurd List.mem_cons_self plain
          | none =>
              rw [foldPrototypeFrom_of_none found] at starts
              obtain ⟨same, further⟩ := List.cons_prefix_cons.mp starts
              have later := ih (fun member => plain (List.mem_cons_of_mem d member)) further
              exact List.cons_prefix_cons.mpr ⟨same, later⟩

theorem not_hasPrototype_foldPrototypeFrom (inside : Nat) (t : Text) :
    ¬ HasPrototype (foldPrototypeFrom inside t) := by
  unfold HasPrototype
  induction t generalizing inside with
  | nil =>
      have empty : foldPrototypeFrom inside [] = [] := by cases inside <;> rfl
      rw [empty]
      decide
  | cons c rest ih =>
      cases inside with
      | succ inside => exact ih inside
      | zero =>
          intro found
          cases here : prototypeLength? (c :: rest) with
          | some length =>
              rw [foldPrototypeFrom_of_some here] at found
              rcases List.infix_cons_iff.mp found with starts | later
              · exact absurd (List.cons_prefix_cons.mp starts).1 (by decide)
              · exact ih _ later
          | none =>
              have kept := foldPrototypeFrom_of_none here
              rw [kept] at found
              rcases List.infix_cons_iff.mp found with starts | later
              · -- the segment would have been there to be rewritten
                rw [← kept] at starts
                exact prototypeLength?_eq_none_iff.mp here
                  (prefix_of_prefix_foldPrototypeFrom (by decide) starts)
              · exact ih 0 later

/-- Rewriting leaves no prototype segment, nor a segment that begins with the same letters. -/
theorem not_hasPrototype_foldPrototype (path : Text) : ¬ HasPrototype (foldPrototype path) :=
  not_hasPrototype_foldPrototypeFrom 0 path

/-- The paths that rewriting keeps are the ones it gives. -/
theorem foldPrototype_eq_self_iff {path : Text} : foldPrototype path = path ↔ ¬ HasPrototype path := by
  refine ⟨fun same => ?_, foldPrototype_of_absent⟩
  rw [← same]
  exact not_hasPrototype_foldPrototype path

/-- Rewriting is done after one pass. A name without separators can be put behind a path that is done
with nothing left to do, unless it stands behind a dot and begins with the word. -/
theorem foldPrototype_settles (path : Text) :
    ¬ HasPrototype (foldPrototype path) ∧ foldPrototype (foldPrototype path) = foldPrototype path ∧
      (¬ HasPrototype path → ∀ name : Text, (∀ c ∈ name, isSeparator c = false) →
        (foldPrototype (path ++ '.' :: name) = path ++ '.' :: name ↔
            ¬ ("prototype" : Text) <+: name) ∧
          foldPrototype (path ++ '#' :: name) = path ++ '#' :: name ∧
          foldPrototype (path ++ '~' :: name) = path ++ '~' :: name) := by
  have done := not_hasPrototype_foldPrototype path
  refine ⟨done, foldPrototype_of_absent done, fun absent name noSeparator => ?_⟩
  have notInName := not_hasPrototype_of_noSeparator noSeparator
  have behindMarker : ∀ marker, isScopeMarker marker = true →
      foldPrototype (path ++ marker :: name) = path ++ marker :: name := by
    intro marker isMarker
    apply foldPrototype_of_absent
    rw [hasPrototype_append_marker_iff isMarker]
    exact not_or_intro absent notInName
  refine ⟨?_, behindMarker '#' rfl, behindMarker '~' rfl⟩
  rw [foldPrototype_eq_self_iff, hasPrototype_append_dot_iff, or_iff_right absent,
    or_iff_left notInName]

/-- The word is not put together from the end of the path and the name behind it. -/
theorem foldPrototype_settles_parted :
    ¬ HasPrototype "Foo.proto" ∧ (∀ c ∈ ("type" : Text), isSeparator c = false) ∧
      ¬ ("prototype" : Text) <+: "type" ∧
      foldPrototype (("Foo.proto" : Text) ++ '.' :: ("type" : Text)) =
        ("Foo.proto" : Text) ++ '.' :: ("type" : Text) ∧
      foldPrototype (("Foo.proto" : Text) ++ '#' :: ("type" : Text)) =
        ("Foo.proto" : Text) ++ '#' :: ("type" : Text) ∧
      foldPrototype (("Foo.proto" : Text) ++ '~' :: ("type" : Text)) =
        ("Foo.proto" : Text) ++ '~' :: ("type" : Text) := by
  have absent : ¬ HasPrototype "Foo.proto" := by
    rw [HasPrototype]
    decide +kernel
  have none : ("type" : Text).any isSeparator = false := by decide
  have noSeparator : ∀ c ∈ ("type" : Text), isSeparator c = false := fun c member =>
    Bool.eq_false_iff.mpr (List.any_eq_false.mp none c member)
  have begins : ¬ ("prototype" : Text) <+: "type" := by decide +kernel
  obtain ⟨dot, hash, tilde⟩ := (foldPrototype_settles "Foo.proto").2.2 absent _ noSeparator
  exact ⟨absent, noSeparator, begins, dot.mpr begins, hash, tilde⟩

/-- Behind a dot the word begins a segment, of which the letters that follow it are left. -/
example : foldPrototype "Foo.proto.prototypes" = "Foo.proto#s" ∧
    foldPrototype "Foo.proto~prototypes" = "Foo.proto~prototypes" := by
  decide +kernel

end SymbolPath.Path
