import Mathlib.Data.Bool.AllAny
import SymbolPath.Comment
import SymbolPath.Proofs.Text.Words

/-!
Names behind type expressions. The value of a kind tag may begin with a type in braces, and the name
is the first word behind it. The type ends at the first closing brace, so the name is the word
behind the whole of it if there are no braces in the type. If there are, what stands behind the
first one that closes is taken for the name.
-/

namespace SymbolPath.Comment

/-- A text, and what is left of it behind a type expression, if it begins with one: an opening
brace, and all up to the next closing one. -/
inductive BehindType : Text → Text → Prop
  | typed {type : Text} (noBrace : '}' ∉ type) (rest : Text) :
      BehindType ('{' :: type ++ '}' :: rest) rest
  | untyped {text : Text} (none : ∀ type rest, text ≠ '{' :: type ++ '}' :: rest) :
      BehindType text text

/-- Every brace that opens is closed behind it, and none is closed that was not opened. -/
inductive Balanced : Text → Prop
  | nil : Balanced []
  | plain {c : Char} {rest : Text} (noBrace : c ≠ '{' ∧ c ≠ '}') (balanced : Balanced rest) :
      Balanced (c :: rest)
  | braced {inner rest : Text} (inside : Balanced inner) (balanced : Balanced rest) :
      Balanced ('{' :: inner ++ '}' :: rest)

structure PlainWord (word : Text) : Prop where
  nonempty : word ≠ []
  noBlank : ∀ c ∈ word, Text.isBlank c = false
  noBrace : ∀ c ∈ word, c ≠ '{' ∧ c ≠ '}'

theorem afterTypeExpression_typed {type : Text} (noBrace : '}' ∉ type) (rest : Text) :
    afterTypeExpression ('{' :: type ++ '}' :: rest) = Text.trimStart rest := by
  have skipped : (type ++ '}' :: rest).dropWhile (· != '}') = '}' :: rest := by
    rw [List.dropWhile_append_of_pos]
    · rfl
    · intro c member
      simpa using ne_of_mem_of_not_mem member noBrace
  simp only [List.cons_append, afterTypeExpression, skipped]

theorem afterTypeExpression_untyped {text : Text}
    (none : ∀ type rest, text ≠ '{' :: type ++ '}' :: rest) : afterTypeExpression text = text := by
  unfold afterTypeExpression
  split
  · rename_i rest
    split
    · rename_i c after found
      have parted := List.takeWhile_append_dropWhile (p := (· != '}')) (l := rest)
      have closes : c = '}' := by
        have stops := List.head?_dropWhile_not (· != '}') rest
        simpa [found] using stops
      rw [found, closes] at parted
      exact absurd (congrArg ('{' :: ·) parted.symm) (none _ after)
    · rfl
  · rfl

theorem firstWord_of_behindType {text rest : Text} (behind : BehindType text rest) :
    Text.firstWord (afterTypeExpression text) = Text.firstWord rest := by
  cases behind with
  | typed noBrace => rw [afterTypeExpression_typed noBrace, Text.firstWord_trimStart]
  | untyped none => rw [afterTypeExpression_untyped none]

theorem exists_behindType (text : Text) : ∃ rest, BehindType text rest := by
  by_cases typed : ∃ type rest, text = '{' :: type ++ '}' :: rest
  · obtain ⟨type, rest, rfl⟩ := typed
    obtain ⟨first, others, parted, noBrace⟩ :=
      List.eq_append_cons_of_mem (show '}' ∈ type ++ '}' :: rest by simp)
    rw [List.cons_append, parted]
    exact ⟨others, .typed noBrace others⟩
  · exact ⟨text, .untyped fun type rest same => typed ⟨type, rest, same⟩⟩

theorem balanced_of_flat {type : Text} (flat : ∀ c ∈ type, c ≠ '{' ∧ c ≠ '}') : Balanced type := by
  induction type with
  | nil => exact .nil
  | cons c rest ih =>
      obtain ⟨here, behind⟩ := List.forall_mem_cons.mp flat
      exact .plain here (ih behind)

theorem Balanced.noBrace {type : Text} (balanced : Balanced type) (noBrace : '}' ∉ type) :
    ∀ c ∈ type, c ≠ '{' ∧ c ≠ '}' := by
  induction balanced with
  | nil => nofun
  | plain other _ ih =>
      rw [List.forall_mem_cons]
      exact ⟨other, ih fun member => noBrace (List.mem_cons_of_mem _ member)⟩
  | braced => exact absurd (by simp) noBrace

theorem parse_of_only {text title kind value name : Text}
    (only : (Raw.ofText text).pairs = [(title, value)]) (isKind : kindOfTitle? title = some kind)
    (noFile : kind ≠ "file") (given : Text.firstWord (afterTypeExpression value) = name)
    (nonempty : name ≠ []) :
    parse text = descriptionTags (Raw.ofText text).descriptionText ++
      [⟨"isa", kind⟩, ⟨"name", name⟩] := by
  have unnamed : (title == ("name" : Text)) = false := by
    rw [beq_eq_false_iff_ne]
    rintro rfl
    cases isKind
  have isName : nameInText kind value = name := by rw [nameInText, if_neg noFile, given]
  simp only [parse, only, List.any_cons, List.any_nil, unnamed, tagsOf, isKind, isName]
  simp [nonempty]

theorem PlainWord.shows {word : Text} (plain : PlainWord word) : ¬ Text.Blank word := by
  obtain ⟨c, rest, same⟩ := List.exists_cons_of_ne_nil plain.nonempty
  have first : c ∈ word := by simp [same]
  intro blank
  have black := plain.noBlank c first
  rw [blank c first] at black
  cases black

section Typed

variable {text title kind type word more : Text}
  (only : (Raw.ofText text).pairs =
    [(title, '{' :: type ++ '}' :: ' ' :: (word ++ more))])
  (isKind : kindOfTitle? title = some kind) (noFile : kind ≠ "file")
include only isKind noFile

theorem parse_flat_type (noBrace : '}' ∉ type) (plain : PlainWord word)
    (parted : ∀ c ∈ more.head?, Text.isBlank c = true) :
    parse text = descriptionTags (Raw.ofText text).descriptionText ++
      [⟨"isa", kind⟩, ⟨"name", word⟩] := by
  refine parse_of_only only isKind noFile ?_ plain.nonempty
  rw [firstWord_of_behindType (.typed noBrace _), Text.firstWord_blank_cons (by decide)]
  have alone : Text.firstWord word = word := Text.firstWord_of_noBlank plain.noBlank
  cases more with
  | nil => rw [List.append_nil, alone]
  | cons b more => rw [Text.firstWord_append_blank plain.shows (parted b rfl), alone]

/-- The brace that closes the whole type is part of what follows the first one that closes. -/
theorem parse_nested_type {inner outer : Text} (parted : type = inner ++ '}' :: outer)
    (noBrace : '}' ∉ inner) :
    parse text = descriptionTags (Raw.ofText text).descriptionText ++
      [⟨"isa", kind⟩, ⟨"name", Text.firstWord (outer ++ ['}'])⟩] := by
  have shows : ¬ Text.Blank (outer ++ ['}']) := by
    intro blank
    exact absurd (blank '}' (by simp)) (by decide)
  refine parse_of_only only isKind noFile ?_ (mt Text.firstWord_eq_nil_iff.mp shows)
  have whole : '{' :: type ++ '}' :: ' ' :: (word ++ more) =
      '{' :: inner ++ '}' :: (outer ++ ['}'] ++ ' ' :: (word ++ more)) := by simp [parted]
  rw [whole, firstWord_of_behindType (.typed noBrace _),
    Text.firstWord_append_blank shows (by decide)]

end Typed

/-- The word behind a type expression is the name if there are no braces in the type, or if behind
the first of them that closes there is the same word by chance. Otherwise the name is what stands
there, be it the brace that closes the whole. -/
theorem named_behind_type_iff {text title kind type word more : Text}
    (only : (Raw.ofText text).pairs =
      [(title, '{' :: type ++ '}' :: ' ' :: (word ++ more))])
    (isKind : kindOfTitle? title = some kind) (noFile : kind ≠ "file")
    (balanced : Balanced type) (plain : PlainWord word)
    (parted : ∀ c ∈ more.head?, Text.isBlank c = true) :
    let description := descriptionTags (Raw.ofText text).descriptionText
    (parse text = description ++ [⟨"isa", kind⟩, ⟨"name", word⟩] ↔
        (∀ c ∈ type, c ≠ '{' ∧ c ≠ '}') ∨
          ∃ inner outer, type = inner ++ '}' :: outer ∧ '}' ∉ inner ∧
            Text.firstWord (outer ++ ['}']) = word) ∧
      ∀ inner outer, type = inner ++ '}' :: outer → '}' ∉ inner →
        parse text = description ++
          [⟨"isa", kind⟩, ⟨"name", Text.firstWord (outer ++ ['}'])⟩] := by
  intro description
  have nested (inner outer : Text) (split : type = inner ++ '}' :: outer) (noBrace : '}' ∉ inner) :
      parse text = description ++ [⟨"isa", kind⟩, ⟨"name", Text.firstWord (outer ++ ['}'])⟩] :=
    parse_nested_type only isKind noFile split noBrace
  refine ⟨?_, nested⟩
  -- the first brace that closes in the type decides; without one the type is flat
  by_cases closes : '}' ∈ type
  · obtain ⟨inner, outer, split, noBrace⟩ := List.eq_append_cons_of_mem closes
    rw [nested inner outer split noBrace]
    constructor
    · intro same
      have names : Text.firstWord (outer ++ ['}']) = word := by simpa using same
      exact .inr ⟨inner, outer, split, noBrace, names⟩
    · rintro (flat | ⟨other, behind, again, noBraceToo, names⟩)
      · exact absurd rfl (flat '}' closes).2
      · have alike := nested other behind again noBraceToo
        rw [names, nested inner outer split noBrace] at alike
        exact alike
  · have flat := parse_flat_type only isKind noFile closes plain parted
    exact ⟨fun _ => .inl (balanced.noBrace closes), fun _ => flat⟩

/-- A type with parameters, and a description behind the name. -/
theorem named_behind_type_parameters :
    let text : Text := "/** Sizes.\n * @property \x7bMap<string, number>\x7d count How many. */"
    (Raw.ofText text).pairs =
        [(("property" : Text), '{' :: "Map<string, number>" ++ '}' :: ' ' ::
          (("count" : Text) ++ (" How many." : Text)))] ∧
      kindOfTitle? "property" = some "property" ∧ Balanced "Map<string, number>" ∧
      PlainWord "count" ∧
      parse text = [⟨"desc", "Sizes."⟩, ⟨"isa", "property"⟩, ⟨"name", "count"⟩] := by
  intro text
  have only : (Raw.ofText text).pairs =
      [(("property" : Text), '{' :: "Map<string, number>" ++ '}' :: ' ' ::
        (("count" : Text) ++ (" How many." : Text)))] := by decide +kernel
  have flat : ∀ c ∈ ("Map<string, number>" : Text), c ≠ '{' ∧ c ≠ '}' := by simp
  have balanced : Balanced "Map<string, number>" := balanced_of_flat flat
  have plain : PlainWord "count" := ⟨by decide, List.all_iff_forall_prop.mp (by decide), by simp⟩
  have described : descriptionTags (Raw.ofText text).descriptionText = [⟨"desc", "Sizes."⟩] := by
    decide +kernel
  have parted : ∀ c ∈ (" How many." : Text).head?, Text.isBlank c = true := by
    rintro c ⟨⟩
    rfl
  have names := (named_behind_type_iff only rfl (by decide) balanced plain parted).1
  rw [described] at names
  exact ⟨only, rfl, balanced, plain, names.mpr (.inl flat)⟩

/-- Of a record with one field, the name is the brace that closes it. -/
theorem record_type_cut :
    let type : Text := "\x7bx: number\x7d"
    let text : Text := "/** @property \x7b\x7bx: number\x7d\x7d point */"
    (Raw.ofText text).pairs =
        [(("property" : Text), '{' :: type ++ '}' :: ' ' :: (("point" : Text) ++ []))] ∧
      kindOfTitle? "property" = some "property" ∧ Balanced type ∧ PlainWord "point" ∧
      parse text = [⟨"isa", "property"⟩, ⟨"name", "\x7d"⟩] ∧
      parse text ≠ [⟨"isa", "property"⟩, ⟨"name", "point"⟩] := by
  intro type text
  have field : Balanced "x: number" := balanced_of_flat (by simp)
  have balanced : Balanced type := Balanced.braced field .nil
  have plain : PlainWord "point" := ⟨by decide, List.all_iff_forall_prop.mp (by decide), by simp⟩
  have read : parse text = [⟨"isa", "property"⟩, ⟨"name", "\x7d"⟩] := by decide +kernel
  exact ⟨by decide +kernel, rfl, balanced, plain, read, by rw [read]; decide⟩

end SymbolPath.Comment
