import Mathlib.Data.List.Induction
import SymbolPath.Proofs.Extraction.Registration

/-!
The comments of a source in their turns. A comment is processed in the state that those before it
leave, and nothing that comes of them changes with it; so the doclets that some first comments give
are the first of all that is extracted.
-/

namespace SymbolPath.Extraction

open Syntax Resolution

theorem docComments_eq (source : Source) :
    docComments source =
      (comments source.tree).filter fun c => Comment.isDocumentation (source.text c) := by
  rw [docComments, walk_root]

theorem docComments_of_all {source : Source} {all : List Cursor} (found : comments source.tree = all)
    (documents : (all.all fun c => Comment.isDocumentation (source.text c)) = true) :
    docComments source = all := by
  rw [docComments_eq, found, List.filter_eq_self]
  exact List.all_eq_true.mp documents

def Session.outcomes (session : Session) (source : Source) (comments : List Cursor) :
    List (Cursor × Outcome) :=
  comments.zip ((processAll session.kinds ⟨session.filesParsed, source⟩ comments).run
    ⟨session.context.setModule [], Sightings.empty⟩).1

theorem length_processAll (kinds : KindTable) (file : Opened) (comments : List Cursor)
    (progress : Progress) :
    ((processAll kinds file comments).run progress).1.length = comments.length := by
  induction comments generalizing progress with
  | nil => rfl
  | cons comment rest ih =>
      rw [processAll_cons]
      exact congrArg (· + 1) (ih _)

theorem Session.extractSource_outcomes (session : Session) (source : Source) :
    (session.extractSource source).2 =
      Extracted.ofOutcomes ((session.outcomes source (docComments source)).map Prod.snd) := by
  have enough := length_processAll session.kinds ⟨session.filesParsed, source⟩
    (docComments source) ⟨session.context.setModule [], Sightings.empty⟩
  unfold Session.outcomes
  rw [List.map_snd_zip (Nat.le_of_eq enough)]
  rfl

/-- What comes of a comment in its turn, with others processed before. -/
def Session.turn (session : Session) (source : Source) (before : List Cursor) (comment : Cursor) :
    Outcome :=
  ((processComment session.kinds ⟨session.filesParsed, source⟩ comment).run
    (session.after source before)).1

def Session.yields (session : Session) (source : Source) (comments : List Cursor) :
    List (Cursor × Documented) :=
  (session.outcomes source comments).filterMap fun (comment, outcome) =>
    outcome.documented.map (comment, ·)

section Turns

variable (session : Session) (source : Source)

theorem Session.extractSource_documented :
    (session.extractSource source).2.documented =
      (session.yields source (docComments source)).map Prod.snd := by
  rw [extractSource_outcomes]
  unfold Extracted.ofOutcomes yields
  dsimp only
  rw [List.filterMap_map, List.map_filterMap]
  congr 1
  funext ⟨comment, outcome⟩
  simp [Option.map_map, Function.comp_def]

theorem Session.after_snoc (before : List Cursor) (comment : Cursor) :
    session.after source (before ++ [comment]) =
      ((processComment session.kinds ⟨session.filesParsed, source⟩ comment).run
        (session.after source before)).2 := by
  unfold after
  rw [stateAfter_append, stateAfter_cons, stateAfter_nil]

theorem Session.outcomes_snoc (before : List Cursor) (comment : Cursor) :
    session.outcomes source (before ++ [comment]) =
      session.outcomes source before ++ [(comment, session.turn source before comment)] := by
  have enough := length_processAll session.kinds ⟨session.filesParsed, source⟩ before
    ⟨session.context.setModule [], Sightings.empty⟩
  unfold outcomes
  rw [processAll_append, processAll_cons]
  dsimp only
  rw [List.zip_append enough.symm, List.zip_cons_cons, List.zip_nil_left]
  rfl

theorem Session.yields_snoc (before : List Cursor) (comment : Cursor) :
    session.yields source (before ++ [comment]) =
      session.yields source before ++
        ((session.turn source before comment).documented.map (comment, ·)).toList := by
  unfold yields
  rw [outcomes_snoc, List.filterMap_append]
  generalize session.turn source before comment = outcome
  cases given : outcome.documented <;> simp [given]

theorem Session.mem_yields {comments : List Cursor} {comment : Cursor} {documented : Documented}
    (among : (comment, documented) ∈ session.yields source comments) :
    ∃ before after, comments = before ++ comment :: after ∧
      (session.turn source before comment).documented = some documented := by
  induction comments using List.reverseRecOn with
  | nil => cases among
  | append_singleton before last ih =>
      rw [yields_snoc] at among
      rcases List.mem_append.mp among with earlier | own
      · obtain ⟨first, rest, order, gives⟩ := ih earlier
        exact ⟨first, rest ++ [last], by rw [order, List.append_assoc, List.cons_append], gives⟩
      · obtain ⟨given, gives, same⟩ := Option.map_eq_some_iff.mp (Option.mem_toList.mp own)
        cases same
        exact ⟨before, [], rfl, gives⟩

theorem Session.yields_sublist (comments : List Cursor) :
    ((session.yields source comments).map Prod.fst).Sublist comments := by
  induction comments using List.reverseRecOn with
  | nil => exact List.nil_sublist _
  | append_singleton before comment ih =>
      rw [yields_snoc, List.map_append]
      apply ih.append
      cases (session.turn source before comment).documented with
      | none => exact List.nil_sublist _
      | some documented => exact List.Sublist.refl _

theorem Session.yields_prefix (first second : List Cursor) :
    session.yields source first <+: session.yields source (first ++ second) := by
  induction second using List.reverseRecOn with
  | nil => simp only [List.append_nil, List.prefix_rfl]
  | append_singleton second comment ih =>
      rw [← List.append_assoc, yields_snoc]
      exact ih.trans (List.prefix_append _ _)

theorem Session.extractSource_split {before after : List Cursor} {comment : Cursor}
    (order : docComments source = before ++ comment :: after) :
    ∃ later, (session.extractSource source).2.documented =
      (session.yields source before).map Prod.snd ++
        (session.turn source before comment).documented.toList ++ later := by
  have first := session.yields_prefix source (before ++ [comment]) after
  rw [List.append_assoc, List.singleton_append, ← order, yields_snoc] at first
  obtain ⟨later, all⟩ := first
  refine ⟨later.map Prod.snd, ?_⟩
  rw [extractSource_documented, ← all, List.map_append, List.map_append]
  generalize session.turn source before comment = outcome
  cases outcome.documented <;> rfl

theorem Session.mem_extractSource {source : Source} {before after : List Cursor}
    {comment : Cursor} (order : docComments source = before ++ comment :: after)
    {documented : Documented}
    (gives : ((processComment session.kinds ⟨session.filesParsed, source⟩ comment).run
      (session.after source before)).1.documented = some documented) :
    documented ∈ (session.extractSource source).2.documented := by
  obtain ⟨later, all⟩ := session.extractSource_split source order
  rw [all, turn, gives, Option.toList_some]
  exact List.mem_append_left _ (List.mem_append_right _ List.mem_cons_self)

theorem Session.turn_step (before : List Cursor) (comment : Cursor) :
    ∃ nodes, Step ⟨session.filesParsed, source⟩ (session.after source before).context
      (session.after source (before ++ [comment])).context (session.turn source before comment)
      nodes := by
  rw [after_snoc]
  exact ⟨_, processComment_step session.kinds ⟨session.filesParsed, source⟩ comment
    (session.after source before)⟩

end Turns

end SymbolPath.Extraction
