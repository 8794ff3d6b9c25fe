import SymbolPath.Proofs.Extraction.Agreement

/-!
Comments act where they stand. What a comment registers is the value of its code or stands in it,
so with and without the comment the contexts agree outside the value. Leaving a comment out
therefore changes nothing for the comments outside.
-/

namespace SymbolPath.Extraction

open Syntax Resolution

section Run

variable (kinds : KindTable) {file : Opened}

def outcomesAt (kinds : KindTable) (file : Opened) (comments : List Cursor)
    (context : Context FileNode Doclet) : List (Cursor × Outcome) :=
  comments.zip (documentAll kinds file comments context).1

theorem outcomesAt_cons (comment : Cursor) (rest : List Cursor)
    (context : Context FileNode Doclet) :
    outcomesAt kinds file (comment :: rest) context =
      (comment, (documentComment kinds file comment context).1) ::
        outcomesAt kinds file rest (documentComment kinds file comment context).2 := by
  unfold outcomesAt
  rw [documentAll_cons]
  dsimp only
  rw [List.zip_cons_cons]

theorem outcomesAt_append (first second : List Cursor) (context : Context FileNode Doclet) :
    outcomesAt kinds file (first ++ second) context =
      outcomesAt kinds file first context ++
        outcomesAt kinds file second (documentAll kinds file first context).2 := by
  induction first generalizing context with
  | nil => rfl
  | cons comment rest ih =>
      rw [List.cons_append, outcomesAt_cons, ih, outcomesAt_cons, documentAll_cons]
      rfl

theorem mem_outcomesAt_agree (distinct : file.source.tree.Distinct) {outer : Cursor}
    {comments : List Cursor} (members : ∀ comment ∈ comments, comment ∈ nodes file.source.tree)
    {a b : Context FileNode Doclet} (agree : AgreeOutside file outer a b) {other : Cursor}
    (outside : outer ∉ other.ancestors) (outcome : Outcome) :
    (other, outcome) ∈ outcomesAt kinds file comments a ↔
      (other, outcome) ∈ outcomesAt kinds file comments b := by
  induction comments generalizing a b with
  | nil => exact Iff.rfl
  | cons comment rest ih =>
      obtain ⟨after, same⟩ :=
        documentComment_agree kinds distinct agree (members comment List.mem_cons_self)
      rw [outcomesAt_cons, outcomesAt_cons, List.mem_cons, List.mem_cons,
        ih (fun c later => members c (List.mem_cons_of_mem _ later)) after]
      refine or_congr_left ?_
      rw [Prod.mk.injEq, Prod.mk.injEq]
      -- a comment inside is not the one outside, and one outside has the same outcome
      refine and_congr_right fun isComment => ?_
      rw [same (isComment ▸ outside)]

end Run

section Plain

variable (session : Session) {source : Source} (distinct : source.tree.Distinct)
variable {comments : List Cursor} (members : ∀ comment ∈ comments, comment ∈ nodes source.tree)
include distinct members

theorem Session.run_plain :
    let file : Opened := ⟨session.filesParsed, source⟩
    let plain := documentAll session.kinds file comments (session.context.setModule [])
    ∃ next : Sightings, (processAll session.kinds file comments).run
      ⟨session.context.setModule [], Sightings.empty⟩ = (plain.1, ⟨plain.2, next⟩) := by
  obtain ⟨next, _, run⟩ := @processAll_run ⟨session.filesParsed, source⟩ distinct session.kinds
    comments members ⟨session.context.setModule [], Sightings.empty⟩ (of_empty source.tree)
  exact ⟨next, run⟩

theorem Session.outcomes_eq :
    session.outcomes source comments =
      outcomesAt session.kinds ⟨session.filesParsed, source⟩ comments
        (session.context.setModule []) := by
  obtain ⟨_, run⟩ := session.run_plain distinct members
  unfold Session.outcomes
  rw [run]
  rfl

theorem Session.after_context :
    (session.after source comments).context =
      (documentAll session.kinds ⟨session.filesParsed, source⟩ comments
        (session.context.setModule [])).2 := by
  obtain ⟨_, run⟩ := session.run_plain distinct members
  unfold Session.after stateAfter
  rw [run]

end Plain

/-- Whether a comment that yields no module is processed or left out, the comments that follow have
the same outcomes, but for those that stand in the value that it registers. -/
theorem mem_outcomesAt_after_comment (session : Session) {source : Source}
    (distinct : source.tree.Distinct) {before after : List Cursor} {left : Cursor}
    (order : docComments source = before ++ left :: after)
    (noModule : ((processComment session.kinds ⟨session.filesParsed, source⟩ left).run
      (session.after source before)).1.NoModule)
    {other : Cursor}
    (outside : ∀ value, (registeredBy session.kinds ⟨session.filesParsed, source⟩ left
      (session.after source before)).head? = some value → value ∉ other.ancestors)
    (outcome : Outcome) :
    (other, outcome) ∈ outcomesAt session.kinds ⟨session.filesParsed, source⟩ after
        ((processComment session.kinds ⟨session.filesParsed, source⟩ left).run
          (session.after source before)).2.context ↔
      (other, outcome) ∈ outcomesAt session.kinds ⟨session.filesParsed, source⟩ after
        (session.after source before).context := by
  have member := mem_nodes_of_order order
  have step := processComment_step session.kinds ⟨session.filesParsed, source⟩ left
    (session.after source before)
  have cases := @registeredBy_cases ⟨session.filesParsed, source⟩ distinct session.kinds left member
    _ (session.after_seen distinct order)
  generalize registeredBy session.kinds ⟨session.filesParsed, source⟩ left
    (session.after source before) = registered at step cases outside
  -- what is registered hangs together: the value comes first, and the rest stands in it
  cases first : registered.head? with
  | none =>
      obtain rfl := List.head?_eq_none_iff.mp first
      rw [step.same_of_nil noModule]
  | some value =>
      rcases cases with none | ⟨-, all⟩
      · rw [none] at first
        cases first
      · obtain ⟨around, aroundMember, under⟩ :=
          @codeOf_inFile ⟨session.filesParsed, source⟩ distinct left member
        have within : ∀ c ∈ registered, c ∈ nodes source.tree ∧ Within value c := by
          rw [all] at first ⊢
          exact fun c among =>
            ⟨mem_nodes_of_mem_below aroundMember (mem_below_of_containersAt under among),
              within_of_head first c among⟩
        have follow : ∀ comment ∈ after, comment ∈ nodes source.tree := fun comment among =>
          (docComments_sublist_nodes source).subset (by simp [order, among])
        have agree := step.agreeOutside distinct within noModule
        exact @mem_outcomesAt_agree session.kinds ⟨session.filesParsed, source⟩ distinct value after
          follow _ _ agree other (outside value first) outcome

/-- Leaving out a comment that yields no module changes the outcome of no other comment, but of
those that stand in the value that it registers, which is the first of all nodes it registers. -/
theorem outcome_without_comment (session : Session) {source : Source}
    (distinct : source.tree.Distinct) {before after : List Cursor} {left : Cursor}
    (order : docComments source = before ++ left :: after)
    (noModule : ((processComment session.kinds ⟨session.filesParsed, source⟩ left).run
      (session.after source before)).1.NoModule)
    {other : Cursor} (different : other ≠ left)
    (outside : ∀ value, (registeredBy session.kinds ⟨session.filesParsed, source⟩ left
      (session.after source before)).head? = some value → value ∉ other.ancestors)
    (outcome : Outcome) :
    (other, outcome) ∈ session.outcomes source (docComments source) ↔
      (other, outcome) ∈ session.outcomes source (before ++ after) := by
  have inFile : ∀ comment ∈ before ++ left :: after, comment ∈ nodes source.tree :=
    fun comment among => (docComments_sublist_nodes source).subset (order ▸ among)
  have first : ∀ comment ∈ before, comment ∈ nodes source.tree :=
    fun comment among => inFile comment (List.mem_append_left _ among)
  have others : ∀ comment ∈ before ++ after, comment ∈ nodes source.tree := by
    intro comment among
    rcases List.mem_append.mp among with earlier | later
    · exact first comment earlier
    · exact inFile comment (List.mem_append_right _ (List.mem_cons_of_mem _ later))
  obtain ⟨_, _, run⟩ := @processComment_run ⟨session.filesParsed, source⟩ distinct session.kinds
    left (mem_nodes_of_order order) _ (session.after_seen distinct order)
  have later := mem_outcomesAt_after_comment session distinct order noModule outside outcome
  rw [run] at later
  dsimp only at later
  rw [session.after_context distinct first] at later
  rw [order, session.outcomes_eq distinct inFile, session.outcomes_eq distinct others,
    outcomesAt_append, outcomesAt_append, outcomesAt_cons, List.mem_append, List.mem_append,
    List.mem_cons]
  -- before the comment nothing differs, and the other comment is not the one left out
  refine or_congr_right ((or_iff_right fun same => ?_).trans later)
  exact different (Prod.mk.inj same).1

/-- Without the comment on a function, its variable is named otherwise, but not the class behind. -/
theorem outcome_without_function :
    let declarator : Tree := .node "variable_declarator" true 33 34 none
      [.node "identifier" true 33 34 (some "name") []]
    let declaration : Tree := .node "variable_declaration" true 29 34 none [declarator]
    let block : Tree := .node "statement_block" true 20 35 (some "body")
      [.node "comment" true 21 29 none [], declaration]
    let function : Tree := .node "function_declaration" true 8 35 none
      [.node "identifier" true 17 18 (some "name") [], block]
    let others : List Tree := [.node "comment" true 35 43 none [],
      .node "class_declaration" true 43 52 none [.node "identifier" true 49 50 (some "name") []]]
    let tree : Tree := .node "program" true 0 52 none
      (.node "comment" true 0 8 none [] :: function :: others)
    let source : Source := ⟨⟨.relative, ["a.js"]⟩, Utf8.encode
      "/** A */function f()\x7b/** B */var x\x7d/** C */class D\x7b\x7d", tree⟩
    let session := Session.start KindTable.standard defaultLimit
    let left : Cursor := ⟨.node "comment" true 0 8 none [], [⟨tree, function :: others⟩]⟩
    let inside : Cursor := ⟨.node "comment" true 21 29 none [],
      [⟨block, [declaration]⟩, ⟨function, []⟩, ⟨tree, others⟩]⟩
    let behind : Cursor := ⟨.node "comment" true 35 43 none [], [⟨tree, others.drop 1⟩]⟩
    let paths (comments : List Cursor) : List Text :=
      (session.outcomes source comments).filterMap fun pair =>
        pair.2.documented.map fun documented => documented.doclet.path
    source.tree.Distinct ∧ docComments source = [] ++ left :: [inside, behind] ∧
      paths (docComments source) = ["f", "f~x", "D"] ∧ paths [inside, behind] = ["x", "D"] ∧
      ∀ outcome, (behind, outcome) ∈ session.outcomes source (docComments source) ↔
        (behind, outcome) ∈ session.outcomes source [inside, behind] := by
  intro declarator declaration block function others tree source session left inside behind paths
  have distinct : source.tree.Distinct := by decide +kernel
  have order : docComments source = [] ++ left :: [inside, behind] :=
    docComments_of_all rfl (by decide +kernel)
  have kind : (((processComment session.kinds ⟨session.filesParsed, source⟩ left).run
      (session.after source [])).1.documented.map fun documented => documented.doclet.kind) =
        some "method" := by decide +kernel
  have registers : (registeredBy session.kinds ⟨session.filesParsed, source⟩ left
      (session.after source [])).map Cursor.key = [function.key] := by decide +kernel
  refine ⟨distinct, order, by decide +kernel, by decide +kernel, ?_⟩
  refine outcome_without_comment session distinct order ?_ ?_ ?_
  · intro documented gives isModule
    rw [gives, Option.map_some, isModule] at kind
    revert kind
    decide
  · intro same
    have spans := congrArg Cursor.key same
    revert spans
    decide
  · intro value first around
    -- only the program is around the class, and it is not the function
    obtain ⟨rest, split⟩ := List.head?_eq_some_iff.mp first
    rw [split] at registers
    have isFunction := (List.cons.inj registers).1
    obtain rfl := List.mem_singleton.mp around
    revert isFunction
    decide

end SymbolPath.Extraction
