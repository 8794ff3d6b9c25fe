import Mathlib.Logic.Relation
import SymbolPath.Proofs.Comment.Gaps
import SymbolPath.Proofs.Comment.Rendering

/-!
The layout of a comment. How lines end, what blanks stand around them, and whether a tag that has
others before it on its line stands there or on the next makes no difference to the tags.
-/

namespace SymbolPath.Comment

open SymbolPath.Text (Blank)

/-! Breaking a line. -/

section Chunks

theorem chunksFrom_blank {run : Text} (blank : Blank run) (blanks rest : Text) :
    chunksFrom blanks (run ++ rest) = chunksFrom (run.reverse ++ blanks) rest := by
  induction run generalizing blanks with
  | nil => rfl
  | cons c run ih =>
      obtain ⟨here, later⟩ := List.forall_mem_cons.mp blank
      rw [List.cons_append, chunksFrom, if_pos here, ih later, List.reverse_cons, List.append_assoc,
        List.singleton_append]

def extend (front : Text) : List Text → List Text
  | [] => [front]
  | chunk :: more => (front ++ chunk) :: more

theorem extend_append {chunks : List Text} (given : chunks ≠ []) (front : Text)
    (more : List Text) : extend front (chunks ++ more) = extend front chunks ++ more := by
  obtain ⟨chunk, others, rfl⟩ := List.exists_cons_of_ne_nil given
  rfl

theorem chunksFrom_black {c : Char} (black : Text.isBlank c = false) (blanks rest : Text) :
    chunksFrom blanks (c :: rest) =
      if !blanks.isEmpty && startsTag (c :: rest) then [] :: extend [c] (chunksFrom [] rest)
      else extend (blanks.reverse ++ [c]) (chunksFrom [] rest) := by
  rw [chunksFrom, black, if_neg Bool.false_ne_true]
  cases chunksFrom [] rest with
  | nil => rfl
  | cons chunk more => simp [extend]

theorem chunksFrom_ne_nil (blanks t : Text) : chunksFrom blanks t ≠ [] := by
  induction t generalizing blanks with
  | nil => simp [chunksFrom]
  | cons c rest ih =>
      cases blank : Text.isBlank c with
      | true =>
          rw [chunksFrom, if_pos blank]
          exact ih _
      | false =>
          rw [chunksFrom_black blank]
          obtain ⟨chunk, more, found⟩ := List.exists_cons_of_ne_nil (ih [])
          rw [found]
          split <;> simp [extend]

theorem startsTag_cons {tag : Text} (starts : startsTag tag = true) :
    ∃ c rest, tag = '@' :: c :: rest ∧ Text.isAsciiLetter c = true := by
  unfold startsTag at starts
  split at starts
  · rename_i c rest
    exact ⟨c, rest, rfl, starts⟩
  · cases starts

theorem chunksFrom_tag {blanks tag : Text} (given : blanks ≠ []) (starts : startsTag tag = true) :
    chunksFrom blanks tag = [] :: chunksFrom [] tag := by
  have notEmpty : blanks.isEmpty = false := by simpa using given
  have tagged := starts
  obtain ⟨c, rest, rfl, _⟩ := startsTag_cons starts
  rw [chunksFrom_black isBlank_sign, chunksFrom_black isBlank_sign, notEmpty, tagged]
  rfl

theorem not_isBlank_of_isAsciiLetter {c : Char} (letter : Text.isAsciiLetter c = true) :
    Text.isBlank c = false := by
  rw [Bool.eq_false_iff]
  intro blank
  have inTitle := isTitleChar_of_isAsciiLetter letter
  rw [not_isTitleChar_of_isBlank blank] at inTitle
  cases inTitle

theorem startsTag_append_blank {line run : Text} (given : line ≠ []) (blank : Blank run)
    (apart : run ≠ []) (rest : Text) : startsTag (line ++ (run ++ rest)) = startsTag line := by
  obtain ⟨c, line, rfl⟩ := List.exists_cons_of_ne_nil given
  obtain ⟨d, run, rfl⟩ := List.exists_cons_of_ne_nil apart
  -- two characters tell whether a tag starts, and neither is blank
  by_cases sign : c = '@'
  · subst sign
    cases line with
    | cons e line => rfl
    | nil =>
        change Text.isAsciiLetter d = false
        rw [Bool.eq_false_iff]
        intro letter
        have black := not_isBlank_of_isAsciiLetter letter
        rw [blank d List.mem_cons_self] at black
        cases black
  · simp [startsTag, sign]

/-- A line is cut where a tag stands behind blanks: induction on what stands before them, with the
blanks just passed. -/
theorem chunksFrom_across {line run tag : Text}
    (ends : ∀ c ∈ line.getLast?, Text.isBlank c = false) (blank : Blank run) (apart : run ≠ [])
    (starts : startsTag tag = true) {blanks : Text} (bare : line = [] → blanks = []) :
    chunksFrom blanks (line ++ (run ++ tag)) = chunksFrom blanks line ++ chunksFrom [] tag := by
  induction line generalizing blanks with
  | nil =>
      obtain rfl := bare rfl
      rw [List.nil_append, chunksFrom_blank blank, chunksFrom_tag (by simpa using apart) starts]
      rfl
  | cons c line ih =>
      have later : ∀ d ∈ line.getLast?, Text.isBlank d = false := by
        intro d last
        refine ends d ?_
        rw [List.getLast?_cons, Option.mem_def.mp last]
        rfl
      cases isBlank : Text.isBlank c with
      | true =>
          have further : line ≠ [] := by
            rintro rfl
            rw [ends c rfl] at isBlank
            cases isBlank
          rw [List.cons_append, chunksFrom, if_pos isBlank, chunksFrom, if_pos isBlank,
            ih later fun none => absurd none further]
      | false =>
          rw [List.cons_append, chunksFrom_black isBlank, chunksFrom_black isBlank,
            ← List.cons_append, startsTag_append_blank (by simp) blank apart, ih later fun _ => rfl,
            extend_append (chunksFrom_ne_nil [] line), extend_append (chunksFrom_ne_nil [] line)]
          split <;> rfl

end Chunks

theorem lineContent_of_star {line rest : Text} (starred : Text.trim line = '*' :: rest) :
    lineContent line = Text.trim rest := by
  rw [lineContent, starred]
  rfl

theorem lineContent_of_other {line rest : Text} {c : Char} (other : c ≠ '*')
    (trimmed : Text.trim line = c :: rest) : lineContent line = c :: rest := by
  rw [lineContent, trimmed]
  split
  · rename_i same
    exact absurd (List.cons.inj same).1 other
  · rfl

theorem trim_of_sign (rest : Text) : Text.trim ('@' :: rest) = '@' :: Text.trimEnd rest := by
  rw [Text.trim, Text.trimStart_cons, isBlank_sign, if_neg Bool.false_ne_true, Text.trimEnd_cons,
    isBlank_sign]
  rfl

theorem trimEnd_of_letter {c : Char} (letter : Text.isAsciiLetter c = true) (rest : Text) :
    Text.trimEnd (c :: rest) = c :: Text.trimEnd rest := by
  rw [Text.trimEnd_cons, not_isBlank_of_isAsciiLetter letter]
  rfl

theorem not_blank_of_last {t : Text} (given : t ≠ [])
    (ends : ∀ c ∈ t.getLast?, Text.isBlank c = false) : ¬ Blank t := by
  intro blank
  have black := ends _ (List.getLast?_eq_some_getLast given)
  rw [blank _ (List.getLast_mem given)] at black
  cases black

theorem ends_of_suffix {t rest : Text} (ends : ∀ c ∈ t.getLast?, Text.isBlank c = false)
    (suffix : rest <:+ t) : ∀ c ∈ rest.getLast?, Text.isBlank c = false := by
  obtain ⟨front, rfl⟩ := suffix
  intro c last
  refine ends c ?_
  rw [List.getLast?_append, Option.mem_def.mp last]
  rfl

theorem trim_of_ends {t : Text} (ends : ∀ c ∈ t.getLast?, Text.isBlank c = false) :
    Text.trim t = Text.trimStart t :=
  Text.trimEnd_of_last (ends_of_suffix ends (List.dropWhile_suffix _))

theorem trim_cons_of_ends {t : Text} (given : t ≠ [])
    (ends : ∀ c ∈ t.getLast?, Text.isBlank c = false) :
    ∃ c rest, Text.trim t = c :: rest ∧ c :: rest <:+ t := by
  obtain ⟨c, rest, _, begins⟩ := Text.trimStart_of_not_blank (not_blank_of_last given ends)
  have alone := begins []
  rw [List.append_nil, List.append_nil] at alone
  exact ⟨c, rest, (trim_of_ends ends).trans alone, alone ▸ List.dropWhile_suffix _⟩

section Across

variable {line run : Text} (ends : ∀ c ∈ line.getLast?, Text.isBlank c = false)
include ends

theorem trim_across (given : line ≠ []) (run rest : Text) :
    Text.trim (line ++ run ++ '@' :: rest) = Text.trim line ++ run ++ Text.trim ('@' :: rest) := by
  have shows : ¬ Blank ('@' :: rest) := by
    intro all
    exact absurd (all '@' List.mem_cons_self) (by decide)
  rw [Text.trim_between (not_blank_of_last given ends) shows, trim_of_ends ends, trim_of_sign,
    Text.trimEnd_cons]
  rfl

theorem lineContent_across (blank : Blank run) (rest : Text) :
    lineContent (line ++ run ++ '@' :: rest) =
      if (lineContent line).isEmpty then lineContent ('@' :: rest)
      else lineContent line ++ run ++ lineContent ('@' :: rest) := by
  have sign : lineContent ('@' :: rest) = Text.trim ('@' :: rest) := by
    rw [lineContent_of_other (by decide) (trim_of_sign rest), trim_of_sign]
  by_cases given : line = []
  · subst given
    exact lineContent_of_trim (Text.trim_append_start blank _)
  · obtain ⟨c, behind, trimmed, suffix⟩ := trim_cons_of_ends given ends
    have across := trim_across ends given run rest
    rw [trimmed, List.cons_append, List.cons_append] at across
    by_cases star : c = '*'
    · subst star
      have again : Text.trim ('@' :: Text.trimEnd rest) = '@' :: Text.trimEnd rest := by
        rw [trim_of_sign, Text.trimEnd_trimEnd]
      rw [lineContent_of_star across, lineContent_of_star trimmed, sign, trim_of_sign]
      by_cases alone : behind = []
      · subst alone
        rw [List.nil_append, Text.trim_append_start blank, again]
        rfl
      · -- behind the star the line is trimmed once more, and ends as before
        have endsToo := ends_of_suffix ends ((List.suffix_cons '*' behind).trans suffix)
        obtain ⟨d, further, trimmedToo, _⟩ := trim_cons_of_ends alone endsToo
        rw [trim_across endsToo alone, again, trimmedToo]
        rfl
    · rw [lineContent_of_other star across, lineContent_of_other star trimmed, sign]
      rfl

omit ends in
theorem trimmed_lineContent (line : Text) : Text.Trimmed (lineContent line) := by
  unfold lineContent
  split
  · exact Text.trimmed_trim _
  · exact Text.trimmed_trim line

theorem said_broken_line (oneLine : '\n' ∉ line)
    (begins : lineContent line = [] ∨ (lineContent line).head? = some '@') (blank : Blank run)
    (apart : run ≠ []) (oneRun : '\n' ∉ run) {tag : Text} (starts : startsTag tag = true)
    (oneTag : '\n' ∉ tag) : said (line ++ run ++ tag) = said line ++ said tag := by
  obtain ⟨c, rest, rfl, letter⟩ := startsTag_cons starts
  have content : lineContent ('@' :: c :: rest) = '@' :: c :: Text.trimEnd rest := by
    rw [lineContent_of_other (by decide) (trim_of_sign _), trimEnd_of_letter letter]
  have together : '\n' ∉ line ++ run ++ '@' :: c :: rest := by
    simp only [List.mem_append, not_or]
    exact ⟨⟨oneLine, oneRun⟩, oneTag⟩
  rw [said_line together, said_line oneLine, said_line oneTag, lineContent_across ends blank]
  rcases begins with empty | sign
  · rw [empty]
    rfl
  · obtain ⟨more, found⟩ := List.head?_eq_some_iff.mp sign
    have trimmed := (trimmed_lineContent line).last
    rw [found] at trimmed ⊢
    -- both lines begin with a sign, so both are cut
    have startsToo : startsTag ('@' :: c :: Text.trimEnd rest) = true := letter
    have cut : chunksFrom [] ('@' :: more ++ (run ++ '@' :: c :: Text.trimEnd rest)) =
        chunksFrom [] ('@' :: more) ++ chunksFrom [] ('@' :: c :: Text.trimEnd rest) :=
      chunksFrom_across trimmed blank apart startsToo fun none => nomatch none
    rw [content, ← significant_append]
    have whole : chunks ('@' :: more ++ run ++ '@' :: c :: Text.trimEnd rest) =
        chunksFrom [] ('@' :: more ++ (run ++ '@' :: c :: Text.trimEnd rest)) := by
      rw [← List.append_assoc]
      rfl
    exact congrArg significant (whole.trans cut)

/-- Where a line says nothing or begins with a sign before a gap, a tag behind the gap may stand on
a line of its own. -/
theorem said_broken (oneLine : '\n' ∉ line)
    (begins : lineContent line = [] ∨ (lineContent line).head? = some '@') (blank : Blank run)
    (apart : run ≠ []) (oneRun : '\n' ∉ run) {back : Text} (starts : startsTag back = true) :
    said (line ++ run ++ back) = said line ++ said back := by
  by_cases broken : '\n' ∈ back
  · obtain ⟨tag, below, rfl, oneTag⟩ := List.eq_append_cons_of_mem broken
    have given : tag ≠ [] := by
      rintro rfl
      cases starts
    have startsToo : startsTag tag = true :=
      (startsTag_append_blank given blank_lineFeed (by simp) below).symm.trans starts
    rw [← List.append_assoc, said_append_lineFeed, said_append_lineFeed,
      said_broken_line ends oneLine begins blank apart oneRun startsToo oneTag, List.append_assoc]
  · exact said_broken_line ends oneLine begins blank apart oneRun starts broken

end Across

theorem startsTag_closed {back : Text} (starts : startsTag back = true) :
    startsTag (closed back) = true := by
  obtain ⟨c, rest, rfl, letter⟩ := startsTag_cons starts
  have trimmed : Text.trimEnd ('@' :: c :: rest) = '@' :: c :: Text.trimEnd rest := by
    rw [Text.trimEnd_cons, trimEnd_of_letter letter, isBlank_sign]
    rfl
  rw [closed, trimmed]
  generalize Text.trimEnd rest = behind
  by_cases ends : Text.endsWith "*/" ('@' :: c :: behind) = true
  · obtain ⟨turned, split⟩ := Text.startsWith_iff.mp ends
    have parted : '@' :: c :: behind = turned.reverse ++ ['*', '/'] := by
      have same := congrArg List.reverse split
      rw [List.reverse_reverse, List.reverse_append, List.reverse_reverse] at same
      exact same
    generalize turned.reverse = kept at parted
    have cut : (kept ++ ['*', '/']).take ((kept ++ ['*', '/']).length - 2) = kept := by simp
    rw [if_pos ends, parted, cut]
    -- the delimiter is none of the two characters that start the tag
    rcases kept with _ | ⟨first, _ | ⟨second, more⟩⟩
    · cases parted
    · cases parted
      exact absurd letter (by decide)
    · cases parted
      exact letter
  · rw [if_neg ends]
    exact letter

/-! Relayouts. -/

/-- A line of a text, with what stands above and below it. -/
structure IsLine (above line below : Text) : Prop where
  starts : above = [] ∨ above.getLast? = some '\n'
  oneLine : '\n' ∉ line
  ends : below = [] ∨ below.head? = some '\n'

def contentBelow (above line : Text) : Text :=
  lineContent (if Blank above then opened line else line)

/-- A change of layout: all line ends at once become a carriage return and a line feed; spaces and
tabs are added around a line; in a line that begins with a sign, all the blanks before a tag become
the end of a line. -/
inductive Relayout : Text → Text → Prop
  | lineEnds (text : Text) : Relayout text (Text.replaceChar '\n' ['\r', '\n'] text)
  | pad {above line below left right : Text} (isLine : IsLine above line below)
      (spaces : ∀ c ∈ left ++ right, c = ' ' ∨ c = '\t') :
      Relayout (above ++ line ++ below) (above ++ (left ++ line ++ right) ++ below)
  | breakLine {above left run right below : Text}
      (isLine : IsLine above (left ++ run ++ right) below)
      (begins : (contentBelow above (left ++ run ++ right)).head? = some '@')
      (blank : Blank run) (apart : run ≠ []) (whole : ∀ c ∈ left.getLast?, Text.isBlank c = false)
      (starts : startsTag right = true) :
      Relayout (above ++ (left ++ run ++ right) ++ below)
        (above ++ (left ++ '\n' :: right) ++ below)

theorem parse_lineEnds (front text : Text) :
    parse (front ++ Text.replaceChar '\n' ['\r', '\n'] text) = parse (front ++ text) := by
  induction text generalizing front with
  | nil => rfl
  | cons c text ih =>
      have first : Text.replaceChar '\n' ['\r', '\n'] (c :: text) =
          (if c = '\n' then ['\r', '\n'] else [c]) ++ Text.replaceChar '\n' ['\r', '\n'] text :=
        List.flatMap_cons
      rw [first, ← List.append_assoc, ih]
      by_cases lineEnd : c = '\n'
      · subst lineEnd
        have ret : Blank ['\r'] := by decide
        have padded := parse_padded ret Text.blank_nil (by decide) (by decide) front text
        simpa using padded
      · simp [lineEnd]

section Around

variable {gap : Text} (blank : Blank gap) (oneLine : '\n' ∉ gap)
include blank oneLine

theorem parse_at_start {above : Text} (starts : above = [] ∨ above.getLast? = some '\n')
    (rest : Text) : parse (above ++ gap ++ rest) = parse (above ++ rest) := by
  rcases starts with rfl | last
  · exact parse_of_trim (Text.trim_append_start blank rest)
  · obtain ⟨front, rfl⟩ := List.getLast?_eq_some_iff.mp last
    have padded := parse_padded Text.blank_nil blank (by decide) oneLine front rest
    simpa using padded

theorem parse_at_end {below : Text} (ends : below = [] ∨ below.head? = some '\n')
    (front : Text) : parse (front ++ gap ++ below) = parse (front ++ below) := by
  rcases ends with rfl | first
  · rw [List.append_nil, List.append_nil]
    exact parse_of_trim (Text.trim_append_end blank front)
  · obtain ⟨rest, rfl⟩ := List.head?_eq_some_iff.mp first
    have padded := parse_padded blank Text.blank_nil oneLine (by decide) front rest
    simpa using padded

end Around

section Broken

variable {above left run right below : Text}

theorem opened_suffix (front : Text) : opened front <:+ front := by
  have trimmed : Text.trimStart front <:+ front := List.dropWhile_suffix _
  unfold opened
  cases found : Text.dropStart? "/**" (Text.trimStart front) with
  | none => exact trimmed
  | some rest =>
      have whole := Text.dropStart?_eq_some_iff.mp found
      rw [whole] at trimmed
      exact (List.suffix_append _ _).trans trimmed

theorem begins_of_content (ends : ∀ c ∈ left.getLast?, Text.isBlank c = false) (blank : Blank run)
    (starts : startsTag right = true)
    (begins : (lineContent (left ++ run ++ right)).head? = some '@') :
    lineContent left = [] ∨ (lineContent left).head? = some '@' := by
  obtain ⟨c, rest, rfl, _⟩ := startsTag_cons starts
  rw [lineContent_across ends blank] at begins
  by_cases empty : lineContent left = []
  · exact .inl empty
  · obtain ⟨first, more, found⟩ := List.exists_cons_of_ne_nil empty
    rw [found] at begins ⊢
    exact .inr begins

variable (isLine : IsLine above (left ++ run ++ right) below)
  (begins : (contentBelow above (left ++ run ++ right)).head? = some '@') (blank : Blank run)
  (apart : run ≠ []) (whole : ∀ c ∈ left.getLast?, Text.isBlank c = false)
  (starts : startsTag right = true)
include isLine begins blank apart whole starts

theorem said_opened_broken (shows : ¬ Blank (above ++ left)) {back : Text}
    (tagged : startsTag back = true) :
    said (opened (above ++ left) ++ run ++ back) =
      said (opened (above ++ left) ++ ['\n'] ++ back) := by
  have oneLeft : '\n' ∉ left := fun member => isLine.oneLine (by simp [member])
  have oneRun : '\n' ∉ run := fun member => isLine.oneLine (by simp [member])
  rw [contentBelow] at begins
  -- the opening delimiter stands in this line, or above it
  by_cases high : Blank above
  · have opens : opened (above ++ left) = opened left := by
      rw [opened, Text.trimStart_append high, opened]
    have showsLeft : ¬ Blank left := fun low => shows (Text.blank_append_iff.mpr ⟨high, low⟩)
    have content : opened (left ++ run ++ right) = opened left ++ run ++ right := by
      obtain ⟨c, rest, rfl⟩ := List.exists_cons_of_ne_nil apart
      have parted := opened_append (blank c List.mem_cons_self) showsLeft (rest ++ right)
      simpa using parted
    have suffix := opened_suffix left
    have ends := ends_of_suffix whole suffix
    have oneLine : '\n' ∉ opened left := fun member => oneLeft (suffix.subset member)
    rw [if_pos high, content] at begins
    rw [opens, said_broken ends oneLine (begins_of_content ends blank starts begins) blank apart
      oneRun tagged, List.append_assoc, List.singleton_append, said_append_lineFeed]
  · rcases isLine.starts with rfl | last
    · exact absurd Text.blank_nil high
    · obtain ⟨higher, rfl⟩ := List.getLast?_eq_some_iff.mp last
      have showsHigher : ¬ Blank higher := by
        intro blankHigher
        exact high (Text.blank_append_iff.mpr ⟨blankHigher, blank_lineFeed⟩)
      have opens : opened (higher ++ ['\n'] ++ left) = opened higher ++ '\n' :: left := by
        rw [List.append_assoc, List.singleton_append, opened_append isBlank_lineFeed showsHigher]
      rw [if_neg high] at begins
      have broken := said_broken whole oneLeft (begins_of_content whole blank starts begins) blank
        apart oneRun tagged
      have first : opened higher ++ '\n' :: left ++ run ++ back =
          opened higher ++ '\n' :: (left ++ run ++ back) := by simp
      have second : opened higher ++ '\n' :: left ++ ['\n'] ++ back =
          opened higher ++ '\n' :: (left ++ '\n' :: back) := by simp
      rw [opens, first, second, said_append_lineFeed, said_append_lineFeed, broken,
        said_append_lineFeed]

theorem parse_broken :
    parse (above ++ (left ++ run ++ right) ++ below) =
      parse (above ++ (left ++ '\n' :: right) ++ below) := by
  have tagged : startsTag (closed (right ++ below)) = true := by
    obtain ⟨c, rest, rfl, letter⟩ := startsTag_cons starts
    exact startsTag_closed letter
  have gap : parse (above ++ left ++ run ++ (right ++ below)) =
      parse (above ++ left ++ ['\n'] ++ (right ++ below)) := by
    apply parse_gap blank blank_lineFeed apart (by simp)
    intro shows _
    exact said_opened_broken isLine begins blank apart whole starts shows tagged
  simpa using gap

end Broken

theorem parse_relayout {before after : Text} (relayout : Relayout before after) :
    parse after = parse before := by
  cases relayout with
  | lineEnds => exact parse_lineEnds [] before
  | @pad above line below left right isLine spaces =>
      have spacesOnly : ∀ c ∈ left ++ right, Text.isBlank c = true ∧ c ≠ '\n' := by
        intro c member
        rcases spaces c member with rfl | rfl <;> decide
      obtain ⟨inLeft, inRight⟩ := List.forall_mem_append.mp spacesOnly
      have first := parse_at_start (fun c member => (inLeft c member).1)
        (fun member => (inLeft _ member).2 rfl) isLine.starts (line ++ right ++ below)
      have last := parse_at_end (fun c member => (inRight c member).1)
        (fun member => (inRight _ member).2 rfl) isLine.ends (above ++ line)
      simp only [List.append_assoc] at first last ⊢
      exact first.trans last
  | breakLine isLine begins blank apart whole starts =>
      exact (parse_broken isLine begins blank apart whole starts).symm

/-- However often and in whatever ways a comment is laid out anew, it has the same tags. -/
theorem relayouts_keep_tags {before after : Text}
    (relayouts : Relation.ReflTransGen Relayout before after) : parse after = parse before := by
  induction relayouts with
  | refl => rfl
  | tail _ last ih => exact (parse_relayout last).trans ih

/-- Two tags are parted, the line below them is set off, and all lines end in two characters. The
blanks before the sign that no letter follows stay. -/
theorem relayouts_keep_tags_parted :
    let first : Text := "/** @inner\t @param x @ 1\n* more */"
    let parted : Text := "/** @inner\n@param x @ 1\n* more */"
    let setOff : Text := "/** @inner\n@param x @ 1\n \t* more */ "
    let last : Text := "/** @inner\r\n@param x @ 1\r\n \t* more */ "
    Relayout first parted ∧ Relayout parted setOff ∧ Relayout setOff last ∧
      parse last = [⟨"access", "inner"⟩, ⟨"param", "x @ 1 more"⟩] := by
  intro first parted setOff last
  have parts : Relayout first parted := by
    refine @Relayout.breakLine [] "/** @inner" "\t " "@param x @ 1" "\n* more */" ?_ ?_ ?_ ?_ ?_ ?_
    · exact ⟨.inl rfl, by decide, .inr rfl⟩
    · decide
    · decide
    · decide
    · rintro _ ⟨⟩
      rfl
    · decide
  have setsOff : Relayout parted setOff := by
    refine @Relayout.pad "/** @inner\n@param x @ 1\n" "* more */" [] " \t" " " ?_ ?_
    · exact ⟨.inr rfl, by decide, .inl rfl⟩
    · simp
  have ends : Relayout setOff last := Relayout.lineEnds setOff
  have kept := relayouts_keep_tags (((Relation.ReflTransGen.single parts).tail setsOff).tail ends)
  have read : parse first = [⟨"access", "inner"⟩, ⟨"param", "x @ 1 more"⟩] := by decide +kernel
  exact ⟨parts, setsOff, ends, kept.trans read⟩

end SymbolPath.Comment
