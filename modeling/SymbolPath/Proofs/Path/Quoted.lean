import SymbolPath.Proofs.Path.Masking
import SymbolPath.Proofs.Path.Prototypes

/-!
Segments in quotes. One line of text without quotes in it, put between two of them, is a literal from
end to end, so behind a container without quotes it is the last segment, whatever separators stand
in it.
-/

namespace SymbolPath.Path

def quoted (content : Text) : Text :=
  '"' :: (content ++ ['"'])

structure Quotable (content : Text) : Prop where
  given : content ≠ []
  noQuote : '"' ∉ content
  oneLine : '\n' ∉ content

theorem toClosingQuote_append_quote {content : Text} (noQuote : '"' ∉ content)
    (oneLine : '\n' ∉ content) : toClosingQuote (content ++ ['"']) = some (content.length + 1) := by
  induction content with
  | nil => rfl
  | cons c content ih =>
      obtain ⟨notQuote, noQuote⟩ := not_or.mp (mt List.mem_cons.mpr noQuote)
      obtain ⟨notLineFeed, oneLine⟩ := not_or.mp (mt List.mem_cons.mpr oneLine)
      simp [toClosingQuote, Ne.symm notQuote, Ne.symm notLineFeed, ih noQuote oneLine]

section Quotable

variable {content : Text} (quotable : Quotable content)
include quotable

theorem literalLength_append_quote :
    literalLength (content ++ ['"']) = some (content ++ ['"']).length := by
  obtain ⟨given, noQuote, oneLine⟩ := quotable
  obtain ⟨c, rest, rfl⟩ := List.exists_cons_of_ne_nil given
  obtain ⟨notLineFeed, further⟩ := not_or.mp (mt List.mem_cons.mpr oneLine)
  have closes := toClosingQuote_append_quote
    (fun member => noQuote (List.mem_cons_of_mem c member)) further
  simp [literalLength, Ne.symm notLineFeed, closes]

theorem inLiteral_of_quoted : ∀ mark ∈ marks (quoted content), mark.inLiteral = true := by
  have opens : marks (quoted content) =
      ⟨'"', true⟩ :: marksFrom (content ++ ['"']).length (content ++ ['"']) := by
    rw [marks, quoted, marksFrom, if_pos rfl, literalLength_append_quote quotable]
  rw [opens, List.forall_mem_cons]
  refine ⟨rfl, fun mark member => ?_⟩
  obtain ⟨i, within, here⟩ := List.mem_iff_getElem.mp member
  have bound := congrArg List.length (marksFrom_chars (content ++ ['"']).length (content ++ ['"']))
  rw [List.length_map] at bound
  exact inLiteral_of_lt (List.getElem?_eq_some_iff.mpr ⟨within, here⟩) (bound ▸ within)

theorem cut?_append_quoted {path : Text} (noQuote : '"' ∉ path) {separator : Char}
    (separates : isSeparator separator = true) :
    cut? (path ++ separator :: quoted content) = some ⟨path, separator, quoted content⟩ := by
  have front : '"' ∉ path ++ [separator] := by
    simp only [List.mem_append, List.mem_singleton, not_or]
    exact ⟨noQuote, fun same => isSeparator_ne_quote separates same.symm⟩
  have hidden : cutMarks (marks (quoted content)) = none := by
    refine cutMarks_eq_none_iff.mpr fun mark member => ?_
    rw [Mark.separates, inLiteral_of_quoted quotable mark member]
    rfl
  have last : cutMarks (⟨separator, false⟩ :: marks (quoted content)) =
      some ⟨[], separator, quoted content⟩ := by
    simp [cutMarks, hidden, Mark.separates, separates]
  rw [List.append_cons, cut?, marks_append_front front, List.map_append, List.append_assoc]
  rw [List.map_singleton, List.singleton_append, cutMarks_append last]
  simp [Function.comp_def]

theorem split_join_quoted {container : Text} (given : container ≠ []) (noQuote : '"' ∉ container) :
    split (join container (quoted content)) = (container, quoted content) := by
  have notEmpty : container.isEmpty = false := by simpa using given
  by_cases marked : endsIn isScopeMarker container = true
  · obtain ⟨front, marker, rfl, isMarker⟩ := eq_append_of_endsIn marked
    have separates : isSeparator marker = true := by simp [isSeparator, isMarker]
    have before : '"' ∉ front := fun member => noQuote (List.mem_append_left _ member)
    rw [join_marked isMarker, split, cut?_append_quoted quotable before separates]
    simp [isMarker]
  · have dotted : join container (quoted content) = container ++ '.' :: quoted content := by
      simp [join, joiner, notEmpty, marked]
    rw [dotted, split, cut?_append_quoted quotable noQuote rfl]
    rfl

end Quotable

theorem hasPrototype_append_quoted {path content : Text} {separator : Char}
    (separates : isSeparator separator = true) (absent : ¬ HasPrototype path) :
    HasPrototype (path ++ separator :: quoted content) ↔ HasPrototype content := by
  have foreign : '"' ∉ (".prototype" : Text) := by decide
  have before : ¬ HasPrototype (path ++ [separator]) :=
    not_hasPrototype_append absent separates (fun _ member => nomatch member) rfl
  have behind := not_hasPrototype_nil
  unfold HasPrototype at before behind ⊢
  rw [List.append_cons, quoted, infix_append_foreign_iff foreign, infix_append_foreign_iff foreign,
    or_iff_right before, or_iff_left behind]

end SymbolPath.Path
