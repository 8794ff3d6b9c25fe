import SymbolPath.Proofs.Comment.TypeExpressions

/-!
What becomes of the raw tags of a comment. Each gives one tag, in order; none is lost. A name is
inserted behind the first of them that gives one, unless some raw tag, wherever it stands, is a name
already.
-/

namespace SymbolPath.Comment

def tagOf (raw : Text × Text) : Tag :=
  match kindOfTitle? raw.1 with
  | some kind => ⟨"isa", kind⟩
  | none => if isAccessTitle raw.1 then ⟨"access", raw.1⟩ else ⟨raw.1, raw.2⟩

/-- A kind tag, but not of a file, whose text has the word as its first one behind a type
expression, if it begins with one. -/
def Names (raw : Text × Text) (word : Text) : Prop :=
  ∃ kind rest, kindOfTitle? raw.1 = some kind ∧ kind ≠ "file" ∧ BehindType raw.2 rest ∧
    (Text.words rest).head? = some word

/-- No raw tag is a name, and one of them gives a name. -/
def NeedsName (raw : List (Text × Text)) : Prop :=
  (∀ tag ∈ raw, tag.1 ≠ "name") ∧ ∃ tag ∈ raw, ∃ word, Names tag word

def givenName? (raw : Text × Text) : Option Text :=
  (kindOfTitle? raw.1).bind fun kind =>
    if (nameInText kind raw.2).isEmpty then none else some (nameInText kind raw.2)

theorem givenName?_eq_some_iff {raw : Text × Text} {word : Text} :
    givenName? raw = some word ↔ Names raw word := by
  constructor
  · intro given
    obtain ⟨kind, isKind, inText⟩ := Option.bind_eq_some_iff.mp given
    obtain ⟨nonempty, isWord⟩ := Option.ite_none_left_eq_some.mp inText
    obtain rfl := Option.some.inj isWord
    have noFile : kind ≠ "file" := by
      rintro rfl
      exact nonempty rfl
    obtain ⟨rest, behind⟩ := exists_behindType raw.2
    refine ⟨kind, rest, isKind, noFile, behind, ?_⟩
    rw [Text.head?_words_eq_some_iff, ← firstWord_of_behindType behind, nameInText, if_neg noFile]
    rw [nameInText, if_neg noFile, List.isEmpty_iff] at nonempty
    exact ⟨nonempty, rfl⟩
  · rintro ⟨kind, rest, isKind, noFile, behind, first⟩
    obtain ⟨nonempty, isWord⟩ := Text.head?_words_eq_some_iff.mp first
    have isName : nameInText kind raw.2 = word := by
      rw [nameInText, if_neg noFile, firstWord_of_behindType behind, isWord]
    simp [givenName?, isKind, isName, nonempty]

theorem tagsOf_true (raw : List (Text × Text)) : tagsOf true raw = raw.map tagOf := by
  induction raw with
  | nil => rfl
  | cons tag rest ih =>
      obtain ⟨title, text⟩ := tag
      rw [tagsOf, List.map_cons, tagOf]
      cases kindOfTitle? title with
      | some kind => simp [ih]
      | none => simp [ih]

theorem tagsOf_cons (tag : Text × Text) (rest : List (Text × Text)) :
    tagsOf false (tag :: rest) = match givenName? tag with
      | some word => tagOf tag :: ⟨"name", word⟩ :: rest.map tagOf
      | none => tagOf tag :: tagsOf false rest := by
  obtain ⟨title, text⟩ := tag
  rw [tagsOf, tagOf, givenName?]
  cases kindOfTitle? title with
  | none => rfl
  | some kind =>
      cases given : nameInText kind text with
      | nil => simp [given]
      | cons c word => simp [given, tagsOf_true]

theorem tagsOf_append {before : List (Text × Text)} (none : ∀ tag ∈ before, givenName? tag = none)
    (rest : List (Text × Text)) :
    tagsOf false (before ++ rest) = before.map tagOf ++ tagsOf false rest := by
  -- on the raw tags before the first one that gives a name
  induction before with
  | nil => rfl
  | cons tag before ih =>
      obtain ⟨here, behind⟩ := List.forall_mem_cons.mp none
      simp only [List.cons_append, tagsOf_cons, here, ih behind, List.map_cons]

theorem tagsOf_of_none {raw : List (Text × Text)} (none : ∀ tag ∈ raw, givenName? tag = none) :
    tagsOf false raw = raw.map tagOf := by
  have all := tagsOf_append none []
  rwa [List.append_nil, tagsOf, List.append_nil] at all

/-- No raw tag is lost, and none changes its place. A name is added exactly if one is needed, and
then a single one, directly behind the tag of the first raw tag that gives a name. -/
theorem raw_tags_kept (text : Text) :
    let raw := Raw.ofText text
    let description : List Tag :=
      if raw.descriptionText = [] then [] else [⟨"desc", raw.descriptionText⟩]
    (NeedsName raw.pairs →
        ∃ before tag after word, raw.pairs = before ++ tag :: after ∧ Names tag word ∧
          (∀ other ∈ before, ∀ otherWord, ¬ Names other otherWord) ∧
          parse text = description ++
            (before.map tagOf ++ tagOf tag :: ⟨"name", word⟩ :: after.map tagOf)) ∧
      (¬ NeedsName raw.pairs → parse text = description ++ raw.pairs.map tagOf) := by
  intro raw description
  have parts : parse text = description ++
      tagsOf (raw.pairs.any fun pair => pair.1 == ("name" : Text)) raw.pairs := by
    simp only [parse, descriptionTags, List.isEmpty_iff, description, raw]
  have unnamed_iff : (raw.pairs.any fun pair => pair.1 == ("name" : Text)) = false ↔
      ∀ tag ∈ raw.pairs, tag.1 ≠ "name" := by
    simp only [List.any_eq_false, beq_iff_eq, ne_eq]
  constructor
  · rintro ⟨unnamed, tag, member, word, names⟩
    have found : raw.pairs.findSome? givenName? ≠ none := by
      rw [ne_eq, List.findSome?_eq_none_iff]
      intro none
      exact absurd (none tag member) (by rw [givenName?_eq_some_iff.mpr names]; simp)
    obtain ⟨first, isFirst⟩ := Option.ne_none_iff_exists'.mp found
    obtain ⟨before, giver, after, split, given, none⟩ := List.findSome?_eq_some_iff.mp isFirst
    refine ⟨before, giver, after, first, split, givenName?_eq_some_iff.mp given, ?_, ?_⟩
    · intro other inBefore otherWord namesToo
      have givesToo := givenName?_eq_some_iff.mpr namesToo
      rw [none other inBefore] at givesToo
      cases givesToo
    · rw [parts, unnamed_iff.mpr unnamed, split, tagsOf_append none, tagsOf_cons, given]
  · intro needless
    rw [parts]
    cases named : raw.pairs.any fun pair => pair.1 == ("name" : Text) with
    | true => rw [tagsOf_true]
    | false =>
        rw [tagsOf_of_none]
        intro tag member
        rw [Option.eq_none_iff_forall_not_mem]
        intro word given
        exact needless ⟨unnamed_iff.mp named, tag, member, word,
          givenName?_eq_some_iff.mp given⟩

example :
    parse
      "/**\n * How wide it is.\n * @private\n * @member \x7bNumber\x7d width in all\n * @see a\n */" =
      [⟨"desc", "How wide it is."⟩, ⟨"access", "private"⟩, ⟨"isa", "property"⟩, ⟨"name", "width"⟩,
        ⟨"see", "a"⟩] := by
  decide +kernel

end SymbolPath.Comment
