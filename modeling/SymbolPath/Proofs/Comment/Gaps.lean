import SymbolPath.Proofs.Text.Trimming
import SymbolPath.Comment

/-!
Gaps in a comment. What is read from a comment are the chunks of its lines that are not empty. A
gap of blanks lies between the delimiters if anything stands on either side of it, so another gap
in its place changes nothing as long as the lines around it say the same; blanks at the ends of a
line say nothing.
-/

namespace SymbolPath.Comment

open SymbolPath.Text (Blank)

/-! Empty chunks. -/

def significant (chunks : List Text) : List Text :=
  chunks.filter fun chunk => !chunk.isEmpty

def Raw.pruned (raw : Raw) : Raw :=
  ⟨significant raw.description, raw.tags.map fun tag => ⟨tag.title, significant tag.parts⟩⟩

theorem joinWords_significant (parts : List Text) :
    Text.joinWords (significant parts) = Text.joinWords parts := by
  simp [Text.joinWords, significant, List.filter_filter]

theorem descriptionText_pruned (raw : Raw) : raw.pruned.descriptionText = raw.descriptionText := by
  rw [Raw.descriptionText, Raw.pruned, joinWords_significant, Raw.descriptionText]

theorem pairs_pruned (raw : Raw) : raw.pruned.pairs = raw.pairs := by
  simp [Raw.pairs, Raw.pruned, RawTag.text, joinWords_significant]

theorem significant_append (first second : List Text) :
    significant (first ++ second) = significant first ++ significant second :=
  List.filter_append first second

theorem pruned_prepend (chunk : Text) {first second : Raw} (same : first.pruned = second.pruned) :
    (Raw.prepend chunk first).pruned = (Raw.prepend chunk second).pruned := by
  obtain ⟨descriptions, tags⟩ := Raw.mk.inj same
  have further (part : Text) :
      significant (part :: first.description) = significant (part :: second.description) := by
    have behind := congrArg (significant [part] ++ ·) descriptions
    rwa [← significant_append, ← significant_append] at behind
  unfold Raw.prepend
  split
  · simp only [Raw.pruned, List.map_cons, further, tags]
  · simp only [Raw.pruned, further, tags]

theorem pruned_ofChunks (chunks : List Text) :
    (Raw.ofChunks (significant chunks)).pruned = (Raw.ofChunks chunks).pruned := by
  induction chunks with
  | nil => rfl
  | cons chunk chunks ih =>
      cases chunk with
      | nil => exact ih
      | cons c chunk => exact pruned_prepend (c :: chunk) ih

def said (inner : Text) : List Text :=
  significant (((Text.splitOn '\n' inner).map lineContent).flatMap chunks)

theorem parse_congr {first second : Text} (same : said (body first) = said (body second)) :
    parse first = parse second := by
  have pruned : (Raw.ofText first).pruned = (Raw.ofText second).pruned := by
    rw [Raw.ofText, Raw.ofText, ← pruned_ofChunks,
      ← pruned_ofChunks ((lines second).flatMap chunks)]
    exact congrArg (fun chunks => (Raw.ofChunks chunks).pruned) same
  have pairs : (Raw.ofText first).pairs = (Raw.ofText second).pairs := by
    rw [← pairs_pruned, pruned, pairs_pruned]
  have descriptions : (Raw.ofText first).descriptionText = (Raw.ofText second).descriptionText := by
    rw [← descriptionText_pruned, pruned, descriptionText_pruned]
  rw [parse, parse, pairs, descriptions]

theorem parse_of_trim {first second : Text} (same : Text.trim first = Text.trim second) :
    parse first = parse second := by
  have bodies : body first = body second := by rw [body, body, same]
  exact parse_congr (congrArg said bodies)

/-! Lines. -/

theorem said_append_lineFeed (front back : Text) :
    said (front ++ '\n' :: back) = said front ++ said back := by
  simp [said, significant, Text.splitOn_append_cons]

theorem said_line {line : Text} (oneLine : '\n' ∉ line) :
    said line = significant (chunks (lineContent line)) := by
  simp [said, Text.splitOn_of_not_mem oneLine]

theorem lineContent_of_trim {first second : Text} (same : Text.trim first = Text.trim second) :
    lineContent first = lineContent second := by
  rw [lineContent, lineContent, same]

theorem exists_firstLine (back : Text) :
    ∃ line later, '\n' ∉ line ∧
      ∀ front, said (front ++ back) = said (front ++ line) ++ later := by
  by_cases broken : '\n' ∈ back
  · obtain ⟨line, below, rfl, oneLine⟩ := List.eq_append_cons_of_mem broken
    refine ⟨line, said below, oneLine, fun front => ?_⟩
    rw [← List.append_assoc, said_append_lineFeed]
  · exact ⟨back, [], broken, fun front => (List.append_nil _).symm⟩

theorem exists_lastLine (front : Text) :
    ∃ line earlier, '\n' ∉ line ∧
      ∀ back, said (front ++ back) = earlier ++ said (line ++ back) := by
  by_cases broken : '\n' ∈ front
  · obtain ⟨line, above, parted, oneLine⟩ :=
      List.eq_append_cons_of_mem (List.mem_reverse.mpr broken)
    have whole : front = above.reverse ++ '\n' :: line.reverse := by
      have same := congrArg List.reverse parted
      simpa using same
    refine ⟨line.reverse, said above.reverse, by simpa using oneLine, fun back => ?_⟩
    rw [whole, List.append_assoc, List.cons_append, said_append_lineFeed]
  · exact ⟨front, [], broken, fun back => rfl⟩

section Padding

variable {gap : Text} (blank : Blank gap) (oneLine : '\n' ∉ gap)
include blank oneLine

theorem said_append_blank (front : Text) : said (front ++ gap) = said front := by
  obtain ⟨line, earlier, lineOnly, lasts⟩ := exists_lastLine front
  have kept := lasts []
  rw [List.append_nil, List.append_nil] at kept
  have together : '\n' ∉ line ++ gap := by simp [lineOnly, oneLine]
  rw [lasts, kept, said_line together, said_line lineOnly,
    lineContent_of_trim (Text.trim_append_end blank line)]

theorem said_blank_append (back : Text) : said (gap ++ back) = said back := by
  obtain ⟨line, later, lineOnly, firsts⟩ := exists_firstLine back
  have kept := firsts []
  have together : '\n' ∉ gap ++ line := by simp [lineOnly, oneLine]
  rw [List.nil_append, List.nil_append] at kept
  rw [firsts, kept, said_line together, said_line lineOnly,
    lineContent_of_trim (Text.trim_append_start blank line)]

end Padding

/-! Delimiters. -/

/-- A text without the blanks that it begins with, and without the delimiter behind them. -/
def opened (front : Text) : Text :=
  (Text.dropStart? "/**" (Text.trimStart front)).getD (Text.trimStart front)

/-- A text without the blanks that it ends in, and without the delimiter before them. -/
def closed (back : Text) : Text :=
  let trimmed := Text.trimEnd back
  if Text.endsWith "*/" trimmed then trimmed.take (trimmed.length - 2) else trimmed

section Gap

variable {c : Char} (blank : Text.isBlank c = true)
include blank

theorem not_mem_delimiter : c ∉ ("/**" : Text) := by
  intro member
  have black : ("/**" : Text).any Text.isBlank = false := by decide
  exact List.any_eq_false.mp black c member blank

theorem open_append (front back : Text) :
    (Text.dropStart? "/**" (front ++ c :: back)).getD (front ++ c :: back) =
      (Text.dropStart? "/**" front).getD front ++ c :: back := by
  rw [Text.dropStart?_append_cons (not_mem_delimiter blank)]
  cases Text.dropStart? "/**" front <;> rfl

theorem opened_append {front : Text} (shows : ¬ Blank front) (back : Text) :
    opened (front ++ c :: back) = opened front ++ c :: back := by
  rw [opened, Text.trimStart_append_of_not shows, open_append blank, opened]

theorem endsWith_append (front back : Text) :
    Text.endsWith "*/" (front ++ c :: back) = Text.endsWith "*/" back := by
  have outside : c ∉ ("*/" : Text).reverse := by
    intro member
    have inOther : ("*/" : Text).reverse <+: ("/**" : Text) := by decide
    exact not_mem_delimiter blank (inOther.subset member)
  unfold Text.endsWith Text.startsWith
  rw [List.reverse_append, List.reverse_cons, List.append_assoc, List.singleton_append,
    Text.dropStart?_append_cons outside, Option.isSome_map]

theorem close_append (front back : Text) :
    (if Text.endsWith "*/" (front ++ c :: back) then
        (front ++ c :: back).take ((front ++ c :: back).length - 2) else front ++ c :: back) =
      front ++ c :: if Text.endsWith "*/" back then back.take (back.length - 2) else back := by
  rw [endsWith_append blank]
  by_cases ends : Text.endsWith "*/" back = true
  · obtain ⟨rest, split⟩ := Text.startsWith_iff.mp ends
    have long : 2 ≤ back.length := by
      have lengths := congrArg List.length split
      simp at lengths
      omega
    have shorter : (front ++ c :: back).length - 2 = front.length + (back.length - 2 + 1) := by
      simp only [List.length_append, List.length_cons]
      omega
    rw [if_pos ends, if_pos ends, shorter, List.take_length_add_append, List.take_succ_cons]
  · rw [if_neg ends, if_neg ends]

end Gap

theorem body_between {front gap back : Text} (starts : ¬ Blank front) (ends : ¬ Blank back)
    (blank : Blank gap) (given : gap ≠ []) :
    body (front ++ gap ++ back) = opened front ++ gap ++ closed back := by
  have first := blank (gap.head given) (List.head_mem given)
  have last := blank (gap.getLast given) (List.getLast_mem given)
  have opens := open_append first (Text.trimStart front) (gap.tail ++ Text.trimEnd back)
  have closes := close_append last (opened front ++ gap.dropLast) (Text.trimEnd back)
  have around (rest : Text) : opened front ++ gap.dropLast ++ gap.getLast given :: rest =
      opened front ++ (gap ++ rest) := by
    rw [List.append_cons, List.append_assoc (opened front), List.dropLast_concat_getLast,
      List.append_assoc]
  rw [← List.cons_append, List.cons_head_tail, ← opened] at opens
  rw [around, around, ← closed] at closes
  unfold body
  rw [Text.trim_between starts ends, List.append_assoc, List.append_assoc]
  dsimp only
  rw [opens, closes]

/-- Where two gaps of blanks are read alike, the comment is parsed alike. -/
theorem parse_gap {first second : Text} (blank : Blank first) (alsoBlank : Blank second)
    (given : first ≠ []) (alsoGiven : second ≠ []) {front back : Text}
    (same : ¬ Blank front → ¬ Blank back →
      said (opened front ++ first ++ closed back) = said (opened front ++ second ++ closed back)) :
    parse (front ++ first ++ back) = parse (front ++ second ++ back) := by
  by_cases starts : Blank front
  · apply parse_of_trim
    rw [Text.trim_append_start (Text.blank_append_iff.mpr ⟨starts, blank⟩),
      Text.trim_append_start (Text.blank_append_iff.mpr ⟨starts, alsoBlank⟩)]
  · by_cases ends : Blank back
    · apply parse_of_trim
      rw [Text.trim_append_end ends, Text.trim_append_end ends, Text.trim_append_end blank,
        Text.trim_append_end alsoBlank]
    · apply parse_congr
      rw [body_between starts ends blank given, body_between starts ends alsoBlank alsoGiven,
        same starts ends]

theorem isBlank_lineFeed : Text.isBlank '\n' = true := by decide

theorem blank_lineFeed : Blank ['\n'] := List.forall_mem_singleton.mpr isBlank_lineFeed

/-- Blanks on either side of the end of a line do not count. -/
theorem parse_padded {left right : Text} (before : Blank left) (behind : Blank right)
    (oneLeft : '\n' ∉ left) (oneRight : '\n' ∉ right) (front back : Text) :
    parse (front ++ (left ++ '\n' :: right) ++ back) = parse (front ++ ['\n'] ++ back) := by
  have gap : Blank (left ++ '\n' :: right) :=
    Text.blank_append_iff.mpr ⟨before, List.forall_mem_cons.mpr ⟨isBlank_lineFeed, behind⟩⟩
  apply parse_gap gap blank_lineFeed (by simp) (by simp)
  intro _ _
  have padded : opened front ++ (left ++ '\n' :: right) ++ closed back =
      (opened front ++ left) ++ '\n' :: (right ++ closed back) := by simp
  rw [padded, said_append_lineFeed, said_append_blank before oneLeft,
    said_blank_append behind oneRight, ← said_append_lineFeed]
  simp

end SymbolPath.Comment
