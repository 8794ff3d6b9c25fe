import SymbolPath.Comment
import SymbolPath.Proofs.Text.Trimming

/-!
Writing a comment and reading it back. A comment of a description and tags is written with a star
before each line, the description first and then one line for each tag. What is read from it are the
same tags in the same order, whatever they are called and whatever they say, as long as a value
stays in its line, holds no tag of its own, and the titles are not among those that are read as
kinds or access levels.
-/

namespace SymbolPath.Comment

/-- A letter, then letters, digits, underscores and hyphens. -/
def IsTitle (title : Text) : Prop :=
  ∃ c rest, title = c :: rest ∧ Text.isAsciiLetter c = true ∧ ∀ d ∈ rest, isTitleChar d = true

/-- A tag starts behind a blank. -/
def HoldsTag (t : Text) : Prop :=
  ∃ before blank after, t = before ++ blank :: after ∧ Text.isBlank blank = true ∧
    startsTag after = true

/-- A tag that can be written in a line of its own, and whose title is kept. -/
structure Writable (tag : Tag) : Prop where
  title : IsTitle tag.title
  noKind : kindOfTitle? tag.title = none
  noAccess : isAccessTitle tag.title = false
  oneLine : '\n' ∉ tag.value
  trimmed : Text.Trimmed tag.value
  noTag : startsTag tag.value = false
  noneBehind : ¬ HoldsTag tag.value

/-- A star at the start does no harm, since only one is taken off a line. -/
structure WritableDescription (description : Text) : Prop where
  nonempty : description ≠ []
  oneLine : '\n' ∉ description
  trimmed : Text.Trimmed description
  noSign : description.head? ≠ some '@'

def starred (content : Text) : Text := " * " ++ content

def tagLine (tag : Tag) : Text := starred ('@' :: tag.title ++ ' ' :: tag.value)

def contentLines (description : Option Text) (tags : List Tag) : List Text :=
  description.toList.map starred ++ tags.map tagLine

def render (description : Option Text) (tags : List Tag) : Text :=
  Text.joinWith ['\n'] (("/**" : Text) :: contentLines description tags ++ [(" */" : Text)])

/-! Titles. -/

theorem isTitleChar_of_isAsciiLetter {c : Char} (letter : Text.isAsciiLetter c = true) :
    isTitleChar c = true := by
  simp [isTitleChar, Text.isWordChar, Text.isAlphanumeric_of_isAsciiLetter letter]

/-- The blanks by their code points; those beyond ASCII lie outside all ranges of letters. -/
theorem not_isTitleChar_of_isBlank {c : Char} (blank : Text.isBlank c = true) :
    isTitleChar c = false := by
  have ascii : ∀ n ∈ Text.blankPoints, n < 0x80 → isTitleChar (Char.ofNat n) = false := by decide
  have beyond : ∀ n ∈ Text.blankPoints, Text.inRanges Text.alphanumericRanges n = false := by
    intro n member
    rw [Text.inRanges, ← Array.any_toList]
    revert n
    decide +kernel
  have member := Text.mem_blankPoints blank
  by_cases low : c.toNat < 0x80
  · have refused := ascii c.toNat member low
    rwa [Char.ofNat_toNat] at refused
  · have refused := beyond c.toNat member
    have notUnderscore : c ≠ '_' := fun same => low (by rw [same]; decide)
    have notHyphen : c ≠ '-' := fun same => low (by rw [same]; decide)
    simp [isTitleChar, Text.isWordChar, Text.isAlphanumeric, low, refused, notUnderscore, notHyphen]

theorem IsTitle.chars {title : Text} (isTitle : IsTitle title) :
    ∀ c ∈ title, isTitleChar c = true := by
  obtain ⟨c, rest, rfl, letter, others⟩ := isTitle
  intro d member
  rcases List.mem_cons.mp member with rfl | later
  · exact isTitleChar_of_isAsciiLetter letter
  · exact others d later

theorem IsTitle.noBlank {title : Text} (isTitle : IsTitle title) :
    ∀ c ∈ title, Text.isBlank c = false := by
  intro c member
  rw [Bool.eq_false_iff]
  intro blank
  have inTitle := isTitle.chars c member
  rw [not_isTitleChar_of_isBlank blank] at inTitle
  cases inTitle

/-! Lines. -/

theorem lineContent_starred (content : Text) : lineContent (starred content) = Text.trim content := by
  have space : Text.isBlank ' ' = true := by decide
  have star : Text.isBlank '*' = false := by decide
  have cut : Text.trim (starred content) = '*' :: Text.trimEnd (' ' :: content) := by
    change Text.trim (' ' :: '*' :: ' ' :: content) = _
    rw [Text.trim, Text.trimStart_cons, if_pos space, Text.trimStart_cons, if_neg (by simp [star]),
      Text.trimEnd_cons, star]
    rfl
  rw [lineContent, cut]
  change Text.trim (Text.trimEnd (' ' :: content)) = _
  rw [Text.trim_trimEnd, Text.trim, Text.trimStart_cons, if_pos space]
  rfl

theorem isBlank_sign : Text.isBlank '@' = false := by decide

def tagContent (tag : Tag) : Text :=
  '@' :: tag.title ++ if tag.value.isEmpty then [] else ' ' :: tag.value

theorem lineContent_tagLine {tag : Tag} (writable : Writable tag) :
    lineContent (tagLine tag) = tagContent tag := by
  rw [tagLine, lineContent_starred, tagContent]
  cases said : tag.value with
  | nil =>
      -- the blank behind the title goes
      have bare : Text.Trimmed ('@' :: tag.title) := by
        constructor
        · intro c first
          cases first
          exact isBlank_sign
        · intro c last
          rcases List.mem_cons.mp (List.mem_of_getLast? last) with rfl | member
          · exact isBlank_sign
          · exact writable.title.noBlank c member
      change Text.trim ('@' :: tag.title ++ [' ']) = _
      rw [Text.trim, List.cons_append, Text.trimStart_cons, if_neg (by simp [isBlank_sign]),
        ← List.cons_append, Text.trimEnd_append_blank (by decide), Text.trimEnd_of_last bare.last]
      simp
  | cons c value =>
      have kept : Text.Trimmed ('@' :: tag.title ++ ' ' :: tag.value) := by
        constructor
        · intro d first
          cases first
          exact isBlank_sign
        · intro d last
          have ends : ('@' :: tag.title ++ ' ' :: tag.value).getLast? = tag.value.getLast? := by
            rw [List.append_cons, List.getLast?_append, said]
            simp [List.getLast?_cons]
          exact writable.trimmed.last d (ends ▸ last)
      rw [said] at kept
      simpa using kept.trim_eq

/-! Chunks. -/

theorem holdsTag_cons (c : Char) (t : Text) :
    HoldsTag (c :: t) ↔ (Text.isBlank c = true ∧ startsTag t = true) ∨ HoldsTag t := by
  constructor
  · rintro ⟨before, blank, after, parted, isBlank, starts⟩
    cases before with
    | nil =>
        cases parted
        exact .inl ⟨isBlank, starts⟩
    | cons d before =>
        cases parted
        exact .inr ⟨before, blank, after, rfl, isBlank, starts⟩
  · rintro (⟨isBlank, starts⟩ | ⟨before, blank, after, rfl, isBlank, starts⟩)
    · exact ⟨[], c, t, rfl, isBlank, starts⟩
    · exact ⟨c :: before, blank, after, rfl, isBlank, starts⟩

instance decidableHoldsTag : (t : Text) → Decidable (HoldsTag t)
  | [] => isFalse fun ⟨before, blank, after, parted, _⟩ => by simp at parted
  | c :: t =>
    have := decidableHoldsTag t
    decidable_of_iff _ (holdsTag_cons c t).symm

theorem holdsTag_append {word : Text} (noBlank : ∀ c ∈ word, Text.isBlank c = false) (t : Text) :
    HoldsTag (word ++ t) ↔ HoldsTag t := by
  induction word with
  | nil => rfl
  | cons c word ih =>
      have black := noBlank c List.mem_cons_self
      rw [List.cons_append, holdsTag_cons, ih fun d member => noBlank d (List.mem_cons_of_mem c member)]
      simp [black]

theorem not_holdsTag_tagContent {tag : Tag} (writable : Writable tag) :
    ¬ HoldsTag (tagContent tag) := by
  have noBlank : ∀ c ∈ '@' :: tag.title, Text.isBlank c = false := by
    intro c member
    rcases List.mem_cons.mp member with rfl | inTitle
    · decide
    · exact writable.title.noBlank c inTitle
  rw [tagContent, holdsTag_append noBlank]
  split
  · rintro ⟨before, blank, after, parted, _⟩
    simp at parted
  · rw [holdsTag_cons]
    rintro (⟨_, starts⟩ | behind)
    · rw [writable.noTag] at starts
      cases starts
    · exact writable.noneBehind behind

theorem chunksFrom_of_not_holdsTag {t : Text} (noTag : ¬ HoldsTag t) (blanks : Text)
    (noStart : blanks ≠ [] → startsTag t = false) : chunksFrom blanks t = [blanks.reverse ++ t] := by
  induction t generalizing blanks with
  | nil => simp [chunksFrom]
  | cons c rest ih =>
      rw [holdsTag_cons, not_or] at noTag
      cases isBlank : Text.isBlank c with
      | true =>
          have kept := ih noTag.2 (c :: blanks) fun _ => by simpa [isBlank] using noTag.1
          simp [chunksFrom, isBlank, kept]
      | false =>
          have kept := ih noTag.2 [] (by simp)
          cases blanks with
          | nil => simp [chunksFrom, isBlank, kept]
          | cons d blanks => simp [chunksFrom, isBlank, kept, noStart]

theorem chunks_tagContent {tag : Tag} (writable : Writable tag) :
    chunks (tagContent tag) = [tagContent tag] := by
  change chunksFrom [] (tagContent tag) = _
  rw [chunksFrom_of_not_holdsTag (not_holdsTag_tagContent writable) [] (by simp)]
  rfl

theorem chunks_of_noSign {line : Text} (noSign : line.head? ≠ some '@') : chunks line = [line] := by
  unfold chunks
  split
  · simp at noSign
  · rfl

/-! Tags. -/

theorem tagStart?_of_noSign {chunk : Text} (noSign : chunk.head? ≠ some '@') :
    tagStart? chunk = none := by
  unfold tagStart?
  split
  · simp at noSign
  · rfl

theorem tagStart?_tagContent {tag : Tag} (writable : Writable tag) :
    tagStart? (tagContent tag) = some (tag.title, tag.value) := by
  obtain ⟨c, rest, isTitle, letter, others⟩ := writable.title
  have space : isTitleChar ' ' = false := by decide
  have blank : Text.isBlank ' ' = true := by decide
  have taken (after : Text) : (rest ++ after).takeWhile isTitleChar =
      rest ++ after.takeWhile isTitleChar := List.takeWhile_append_of_pos others
  have dropped (after : Text) : (rest ++ after).dropWhile isTitleChar =
      after.dropWhile isTitleChar := List.dropWhile_append_of_pos others
  rw [tagContent, isTitle]
  cases said : tag.value with
  | nil =>
      have all := taken []
      have none := dropped []
      simp only [List.append_nil, List.takeWhile_nil, List.dropWhile_nil] at all none
      simp [tagStart?, letter, all, none, Text.trimStart]
  | cons d value =>
      have first := Text.trimStart_of_first writable.trimmed.first
      rw [said] at first
      simp [tagStart?, letter, taken, dropped, space, Text.trimStart_cons, blank, first]

theorem ofChunks_cons (chunk : Text) (chunks : List Text) :
    Raw.ofChunks (chunk :: chunks) = Raw.prepend chunk (Raw.ofChunks chunks) := rfl

theorem prepend_of_noSign {chunk : Text} (noSign : chunk.head? ≠ some '@') (raw : Raw) :
    Raw.prepend chunk raw = ⟨chunk :: raw.description, raw.tags⟩ := by
  rw [Raw.prepend, tagStart?_of_noSign noSign]

theorem prepend_tagContent {tag : Tag} (writable : Writable tag) (raw : Raw) :
    Raw.prepend (tagContent tag) raw =
      ⟨[], ⟨tag.title, tag.value :: raw.description⟩ :: raw.tags⟩ := by
  rw [Raw.prepend, tagStart?_tagContent writable]

theorem joinWords_alone {rest : List Text} (empty : ∀ part ∈ rest, part = []) (part : Text) :
    Text.joinWords (part :: rest) = part := by
  have none : rest.filter (fun other => !other.isEmpty) = [] := by
    apply List.filter_eq_nil_iff.mpr
    intro other member
    simp [empty other member]
  cases part with
  | nil => simp [Text.joinWords, none, Text.joinWith]
  | cons c part => simp [Text.joinWords, none, Text.joinWith]

/-- The lines of tags are read as these tags. What follows them is empty and adds nothing. -/
theorem ofChunks_tags {tags : List Tag} (writable : ∀ tag ∈ tags, Writable tag) :
    let raw := Raw.ofChunks (tags.map tagContent ++ [[]])
    raw.pairs = tags.map (fun tag => (tag.title, tag.value)) ∧ ∀ part ∈ raw.description, part = [] := by
  induction tags with
  | nil => simp [Raw.ofChunks, Raw.prepend, tagStart?, Raw.pairs]
  | cons tag tags ih =>
      have first := writable tag List.mem_cons_self
      obtain ⟨pairs, empty⟩ := ih fun other member => writable other (List.mem_cons_of_mem tag member)
      rw [List.map_cons, List.cons_append, ofChunks_cons, prepend_tagContent first]
      constructor
      · have said : RawTag.text ⟨tag.title, tag.value ::
            (Raw.ofChunks (tags.map tagContent ++ [[]])).description⟩ = tag.value := by
          rw [RawTag.text, joinWords_alone empty, first.trimmed.trim_eq]
        exact List.cons_eq_cons.mpr ⟨congrArg (Prod.mk tag.title) said, pairs⟩
      · intro part member
        cases member

theorem ofChunks_content {description : Option Text} {tags : List Tag}
    (described : ∀ d ∈ description, WritableDescription d) (writable : ∀ tag ∈ tags, Writable tag) :
    let raw := Raw.ofChunks ([] :: (description.toList ++ (tags.map tagContent ++ [[]])))
    raw.pairs = tags.map (fun tag => (tag.title, tag.value)) ∧
      raw.descriptionText = description.getD [] := by
  obtain ⟨pairs, empty⟩ := ofChunks_tags writable
  rw [ofChunks_cons, prepend_of_noSign (by simp)]
  cases description with
  | none =>
      refine ⟨pairs, ?_⟩
      exact congrArg Text.trim (joinWords_alone empty [])
  | some d =>
      have said := described d rfl
      rw [Option.toList_some, List.singleton_append, ofChunks_cons, prepend_of_noSign said.noSign]
      refine ⟨pairs, ?_⟩
      rw [Raw.descriptionText, Text.joinWords, List.filter_cons_of_neg (by simp)]
      exact (congrArg Text.trim (joinWords_alone empty d)).trans said.trimmed.trim_eq

theorem tagsOf_kept {tags : List Tag} (writable : ∀ tag ∈ tags, Writable tag) (named : Bool) :
    tagsOf named (tags.map fun tag => (tag.title, tag.value)) = tags := by
  induction tags with
  | nil => rfl
  | cons tag tags ih =>
      have first := writable tag List.mem_cons_self
      have rest := ih fun other member => writable other (List.mem_cons_of_mem tag member)
      simp [tagsOf, first.noKind, first.noAccess, rest]

/-! The whole comment. -/

theorem joinWith_append (between start part : Text) (parts : List Text) :
    Text.joinWith between ((start ++ part) :: parts) =
      start ++ Text.joinWith between (part :: parts) := by
  cases parts <;> simp [Text.joinWith]

theorem joinWith_concat_append (between part ending : Text) (parts : List Text) :
    Text.joinWith between (parts ++ [part ++ ending]) =
      Text.joinWith between (parts ++ [part]) ++ ending := by
  induction parts with
  | nil => rfl
  | cons first parts ih =>
      cases parts with
      | nil => simp [Text.joinWith]
      | cons next parts =>
          simp only [List.cons_append, Text.joinWith, List.append_assoc] at ih ⊢
          rw [ih]

theorem body_of_delimited (inner : Text) : body ("/**" ++ inner ++ "*/") = inner := by
  have trimmed : Text.Trimmed ("/**" ++ inner ++ "*/") := by
    constructor
    · intro c first
      cases first
      decide
    · intro c last
      have ends : ("/**" ++ inner ++ "*/" : Text).getLast? = some '/' := by
        rw [List.getLast?_append]
        rfl
      rw [ends] at last
      cases last
      decide
  have opened : Text.dropStart? "/**" ("/**" ++ inner ++ "*/") = some (inner ++ "*/") := by
    rw [Text.dropStart?_eq_some_iff, List.append_assoc]
  have closed : Text.endsWith "*/" (inner ++ "*/") = true := by
    rw [Text.endsWith, Text.startsWith_iff]
    exact ⟨inner.reverse, List.reverse_append⟩
  rw [body, trimmed.trim_eq, opened, Option.getD_some]
  simp only [closed, if_true]
  simp

theorem body_render (description : Option Text) (tags : List Tag) :
    body (render description tags) =
      Text.joinWith ['\n'] (([] :: contentLines description tags) ++ [[' ']]) := by
  have parted : render description tags =
      "/**" ++ Text.joinWith ['\n'] (([] :: contentLines description tags) ++ [[' ']]) ++ "*/" := by
    have closing := joinWith_concat_append ['\n'] [' '] "*/" ([] :: contentLines description tags)
    have opening := joinWith_append ['\n'] "/**" []
      (contentLines description tags ++ [(" */" : Text)])
    rw [List.append_assoc, ← closing]
    exact opening
  rw [parted, body_of_delimited]

theorem oneLine_tagLine {tag : Tag} (writable : Writable tag) : '\n' ∉ tagLine tag := by
  have inTitle : '\n' ∉ tag.title := by
    intro member
    have black := writable.title.noBlank _ member
    revert black
    decide
  simp [tagLine, starred, inTitle, writable.oneLine]

theorem lines_render {description : Option Text} {tags : List Tag}
    (described : ∀ d ∈ description, WritableDescription d) (writable : ∀ tag ∈ tags, Writable tag) :
    lines (render description tags) =
      [] :: (description.toList ++ (tags.map tagContent ++ [[]])) := by
  have oneLine : ∀ part ∈ ([] :: contentLines description tags) ++ [[' ']], '\n' ∉ part := by
    intro part member
    simp only [contentLines, List.mem_append, List.mem_cons, List.mem_map, Option.mem_toList,
      List.not_mem_nil, or_false] at member
    rcases member with (rfl | ⟨d, isDescription, rfl⟩ | ⟨tag, isTag, rfl⟩) | rfl
    · simp
    · simp [starred, (described d isDescription).oneLine]
    · exact oneLine_tagLine (writable tag isTag)
    · simp
  have descriptions : (description.toList.map starred).map lineContent = description.toList := by
    cases description with
    | none => rfl
    | some d => simp [lineContent_starred, (described d rfl).trimmed.trim_eq]
  have contents : (tags.map tagLine).map lineContent = tags.map tagContent := by
    rw [List.map_map]
    exact List.map_congr_left fun tag member => lineContent_tagLine (writable tag member)
  rw [lines, body_render, Text.splitOn_joinWith (by simp) oneLine, contentLines]
  simp only [List.map_append, List.map_cons, descriptions, contents, List.cons_append,
    List.append_assoc]
  rfl

theorem chunks_render {description : Option Text} {tags : List Tag}
    (described : ∀ d ∈ description, WritableDescription d) (writable : ∀ tag ∈ tags, Writable tag) :
    (lines (render description tags)).flatMap chunks =
      [] :: (description.toList ++ (tags.map tagContent ++ [[]])) := by
  have descriptions : description.toList.flatMap chunks = description.toList := by
    cases description with
    | none => rfl
    | some d => simp [chunks_of_noSign (described d rfl).noSign]
  have contents : (tags.map tagContent).flatMap chunks = tags.map tagContent := by
    induction tags with
    | nil => rfl
    | cons tag tags ih =>
        have first := chunks_tagContent (writable tag List.mem_cons_self)
        have rest := ih fun other member => writable other (List.mem_cons_of_mem tag member)
        rw [List.map_cons, List.flatMap_cons, first, rest]
        rfl
  rw [lines_render described writable]
  simp only [List.flatMap_cons, List.flatMap_append, descriptions, contents]
  rfl

/-- Parsing undoes rendering: what is read from a comment that was written are its description, if
it has one, and its tags in order. -/
theorem parse_render (description : Option Text) (tags : List Tag)
    (described : ∀ d ∈ description, WritableDescription d) (writable : ∀ tag ∈ tags, Writable tag) :
    parse (render description tags) = description.toList.map (Tag.mk "desc") ++ tags := by
  obtain ⟨pairs, said⟩ := ofChunks_content described writable
  have raw : Raw.ofText (render description tags) =
      Raw.ofChunks ([] :: (description.toList ++ (tags.map tagContent ++ [[]]))) := by
    rw [Raw.ofText, chunks_render described writable]
  rw [parse, raw]
  simp only [pairs, said, tagsOf_kept writable]
  cases description with
  | none => rfl
  | some d =>
      have nonempty := (described d rfl).nonempty
      simp [descriptionTags, nonempty]

/-- An address, a sign behind a blank that no letter follows, a star, and no value at all. -/
theorem parse_render_address :
    let description : Text := "*Sends* mail to x@y."
    let tags : List Tag := [⟨"author", "me@home or @1"⟩, ⟨"x-y_z", "*"⟩, ⟨"name", []⟩]
    WritableDescription description ∧ (∀ tag ∈ tags, Writable tag) ∧
      parse (render (some description) tags) = ⟨"desc", description⟩ :: tags := by
  intro description tags
  have trimmed (t : Text) (same : Text.trim t = t) : Text.Trimmed t := (Text.trimmed_iff t).mpr same
  have described : WritableDescription description :=
    ⟨by decide, by decide, trimmed _ (by decide), by decide⟩
  have title (c : Char) (rest : Text) (letter : Text.isAsciiLetter c = true)
      (others : rest.all isTitleChar = true) : IsTitle (c :: rest) :=
    ⟨c, rest, rfl, letter, List.all_eq_true.mp others⟩
  have author : Writable ⟨"author", "me@home or @1"⟩ :=
    ⟨title 'a' "uthor" (by decide) (by decide), by decide, by decide, by decide,
      trimmed _ (by decide), by decide, by decide⟩
  have custom : Writable ⟨"x-y_z", "*"⟩ :=
    ⟨title 'x' "-y_z" (by decide) (by decide), by decide, by decide, by decide,
      trimmed _ (by decide), by decide, by decide⟩
  have name : Writable ⟨"name", []⟩ :=
    ⟨title 'n' "ame" (by decide) (by decide), by decide, by decide, by decide,
      trimmed _ (by decide), by decide, by decide⟩
  have writable : ∀ tag ∈ tags, Writable tag := by
    intro tag member
    simp only [tags, List.mem_cons, List.not_mem_nil, or_false] at member
    rcases member with rfl | rfl | rfl
    · exact author
    · exact custom
    · exact name
  have read := parse_render (some description) tags (by rintro d ⟨⟩; exact described) writable
  exact ⟨described, writable, read⟩

end SymbolPath.Comment
