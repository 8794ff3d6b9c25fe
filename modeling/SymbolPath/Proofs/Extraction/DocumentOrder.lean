import SymbolPath.Proofs.Extraction.Plain
import SymbolPath.Proofs.Syntax.CommentOrder

/-!
Doclets in document order. Each is the outcome of one documentation comment, has the line of its
comment and a path, and is registered as it is given; so where the spans of the nodes are in order,
the lines of the doclets ascend, and no comment changes what those before it gave.
-/

namespace SymbolPath.Extraction

open Syntax Resolution

theorem line_nameDoclet (context : Context FileNode Doclet) (file : Opened) (code? : Option Code)
    (doclet : Doclet) (seen : Sightings) :
    ((nameDoclet context file code? doclet).run seen).1.1.line = doclet.line := by
  unfold nameDoclet
  split
  · rfl
  · cases code? with
    | some code =>
        rw [StateT.run_bind]
        rfl
    | none =>
        dsimp only
        split <;> rfl

theorem line_kindDoclet (code? : Option Code) (doclet : Doclet) :
    (kindDoclet code? doclet).line = doclet.line := by
  cases code? with
  | none => rfl
  | some code =>
      simp only [kindDoclet]
      split <;> rfl

theorem line_documentCode {kinds : KindTable} {file : Opened} {code? : Option Code}
    {doclet : Doclet} {progress : Progress} {documented : Documented}
    (gives : ((documentCode kinds file code? doclet).run progress).1.documented = some documented) :
    documented.doclet.line = doclet.line := by
  rw [documentCode_eq] at gives
  dsimp only at gives
  have line := line_nameDoclet progress.context file code? doclet progress.seen
  generalize (nameDoclet progress.context file code? doclet).run progress.seen = named at gives line
  rw [← line_kindDoclet code?, ← line_resolve kinds progress.context.module] at line
  generalize resolve kinds progress.context.module (kindDoclet code? named.1.1) = resolved
    at gives line
  by_cases empty : resolved.path.isEmpty = true
  · rw [if_pos empty] at gives
    cases gives
  · rw [if_neg empty] at gives
    cases gives
    exact line

theorem line_processComment {kinds : KindTable} {file : Opened} {comment : Cursor}
    {progress : Progress} {documented : Documented}
    (gives : ((processComment kinds file comment).run progress).1.documented = some documented) :
    documented.doclet.line = file.source.line comment := by
  rw [processComment_eq] at gives
  dsimp only at gives
  have same := key_settle comment progress.seen
  generalize (settle comment).run progress.seen = settled at gives same
  generalize (codeFor file.source settled.1 (docletOf file.source settled.1)).run settled.2 = code
    at gives
  by_cases folded : isFolded code.1 = true
  · rw [if_pos folded] at gives
    cases gives
  · rw [if_neg folded] at gives
    have line := line_documentCode gives
    rw [line, ← line_of_key file.source same]
    rfl

theorem Session.line_turn {session : Session} {source : Source} {before : List Cursor}
    {comment : Cursor} {documented : Documented}
    (gives : (session.turn source before comment).documented = some documented) :
    documented.doclet.line = source.line comment := by
  unfold turn at gives
  exact line_processComment gives

theorem Session.path_turn {session : Session} {source : Source} {before : List Cursor}
    {comment : Cursor} {documented : Documented}
    (gives : (session.turn source before comment).documented = some documented) :
    documented.doclet.path ≠ [] := by
  obtain ⟨nodes, step⟩ := session.turn_step source before comment
  cases step with
  | dropped nothing _ _ =>
      rw [nothing] at gives
      cases gives
  | documented other same hasPath _ =>
      rw [same] at gives
      cases gives
      exact hasPath

theorem Session.lookup_after (session : Session) (source : Source) (comments : List Cursor)
    {node : FileNode} {doclet : Doclet}
    (found : lookup (session.after source comments).context node = some doclet) :
    lookup session.context node = some doclet ∨
      ∃ given ∈ session.yields source comments, given.2.doclet = doclet := by
  induction comments using List.reverseRecOn with
  | nil => exact .inl found
  | append_singleton before comment ih =>
      obtain ⟨nodes, step⟩ := session.turn_step source before comment
      rw [yields_snoc]
      rcases step.lookup_cases node with kept | ⟨documented, gives, own⟩
      · rw [kept] at found
        rcases ih found with earlier | ⟨given, among, same⟩
        · exact .inl earlier
        · exact .inr ⟨given, List.mem_append_left _ among, same⟩
      · rw [own] at found
        cases found
        refine .inr ⟨(comment, documented), List.mem_append_right _ ?_, rfl⟩
        rw [gives]
        exact List.mem_singleton_self _

section Source

variable {source : Source}

theorem line_mono {c d : Cursor} (behind : c.focus.start ≤ d.focus.start) :
    source.line c ≤ source.line d := by
  unfold Source.line
  have first : source.bytes.take c.focus.start <+: source.bytes.take d.focus.start :=
    List.take_prefix_take_left behind
  exact Nat.succ_le_succ (first.sublist.count_le 0x0A)

theorem start_lt_stop {c : Cursor} (documents : Comment.isDocumentation (source.text c) = true) :
    c.focus.start < c.focus.stop := by
  by_contra empty
  have nothing : (source.bytes.take c.focus.stop).drop c.focus.start = [] := by
    rw [List.drop_eq_nil_iff, List.length_take]
    omega
  rw [Source.text, nothing] at documents
  exact absurd documents (by decide)

/-- Where the spans are in order, each documentation comment starts behind the one before it. -/
theorem docComments_ascend (ordered : source.tree.Ordered) :
    (docComments source).Pairwise fun first second => first.focus.start < second.focus.start := by
  rw [docComments_eq]
  refine ((comments_apart ordered).sublist List.filter_sublist).imp_of_mem ?_
  intro first second isFirst _ apart
  exact Nat.lt_of_lt_of_le (start_lt_stop (List.mem_filter.mp isFirst).2) apart

/-- The doclets extracted from a source are the outcomes of distinct comments in their turns, with
ascending lines and with paths. Those that some first comments give are returned and registered as
they were given, whatever comes behind. -/
structure InDocumentOrder (session : Session) (source : Source) : Prop where
  extracted : (session.extractSource source).2.documented =
    (session.yields source (docComments source)).map Prod.snd
  turns : ∀ given ∈ session.yields source (docComments source), ∃ before after,
    docComments source = before ++ given.1 :: after ∧
      (session.turn source before given.1).documented = some given.2
  distinct : ((session.yields source (docComments source)).map fun given => given.1.key).Nodup
  ascending : ((session.extractSource source).2.documented.map fun one => one.doclet.line).Pairwise
    (· ≤ ·)
  reached : ∀ one ∈ (session.extractSource source).2.documented, one.doclet.path ≠ []
  kept : ∀ before after, docComments source = before ++ after →
    (session.yields source before).map Prod.snd <+: (session.extractSource source).2.documented
  registered : ∀ before after, docComments source = before ++ after → ∀ node doclet,
    lookup (session.after source before).context node = some doclet →
    lookup session.context node = some doclet ∨
      ∃ one ∈ (session.extractSource source).2.documented, one.doclet = doclet

theorem Session.yields_kept (session : Session) {before after : List Cursor}
    (order : docComments source = before ++ after) :
    (session.yields source before).map Prod.snd <+:
      (session.extractSource source).2.documented := by
  rw [extractSource_documented, order]
  exact (session.yields_prefix source before after).map Prod.snd

theorem inDocumentOrder (session : Session) (ordered : source.tree.Ordered) :
    InDocumentOrder session source := by
  have extracted := session.extractSource_documented source
  have turns : ∀ given ∈ session.yields source (docComments source), ∃ before after,
      docComments source = before ++ given.1 :: after ∧
        (session.turn source before given.1).documented = some given.2 :=
    fun _ among => session.mem_yields source among
  have starts := (docComments_ascend ordered).sublist (session.yields_sublist source _)
  rw [List.pairwise_map] at starts
  constructor
  · exact extracted
  · exact turns
  -- comments start in ascending order, so no two are the same
  · rw [List.Nodup, List.pairwise_map]
    refine starts.imp fun behind same => ?_
    exact Nat.ne_of_lt behind (congrArg Key.start same)
  · rw [extracted, List.map_map, List.pairwise_map]
    refine starts.imp_of_mem ?_
    intro first second isFirst isSecond behind
    obtain ⟨_, _, _, firstGives⟩ := turns first isFirst
    obtain ⟨_, _, _, secondGives⟩ := turns second isSecond
    rw [Function.comp_apply, Function.comp_apply, Session.line_turn firstGives,
      Session.line_turn secondGives]
    exact Int.ofNat_le.mpr (line_mono (Nat.le_of_lt behind))
  · intro one among
    rw [extracted] at among
    obtain ⟨given, isGiven, rfl⟩ := List.mem_map.mp among
    obtain ⟨_, _, _, gives⟩ := turns given isGiven
    exact Session.path_turn gives
  · exact fun _ _ order => session.yields_kept order
  · intro before after order node doclet found
    rcases session.lookup_after source before found with earlier | ⟨given, among, same⟩
    · exact .inl earlier
    · have isKept := (session.yields_kept order).subset (List.mem_map_of_mem among)
      exact .inr ⟨given.2, isKept, same⟩

end Source

/-- The walk finds the documentation comments that the recursion over the tree meets, each once and
in the order of the nodes. Where the spans are in order, so are the doclets of the comments. -/
theorem walk_in_document_order (session : Session) (source : Source) :
    docComments source =
        (comments source.tree).filter (fun c => Comment.isDocumentation (source.text c)) ∧
      comments source.tree = (nodes source.tree).filter Cursor.isOuterComment ∧
      (docComments source).Nodup ∧
      (source.tree.Ordered → InDocumentOrder session source) :=
  ⟨docComments_eq source, comments_eq_filter source.tree,
    (nodup_nodes source.tree).sublist (docComments_sublist_nodes source), inDocumentOrder session⟩

/-- A function and, on the next line, a variable of it. -/
theorem walk_in_document_order_lines :
    let name (start stop : Nat) : Tree := .node "identifier" true start stop (some "name") []
    let comment (start stop : Nat) : Tree := .node "comment" true start stop none []
    let declaration : Tree := .node "variable_declaration" true 30 35 none
      [.node "variable_declarator" true 34 35 none [name 34 35]]
    let block : Tree :=
      .node "statement_block" true 20 36 (some "body") [comment 22 30, declaration]
    let function : Tree := .node "function_declaration" true 8 36 none [name 17 18, block]
    let tree : Tree := .node "program" true 0 36 none [comment 0 8, function]
    let source : Source := ⟨⟨.relative, ["a.js"]⟩,
      Utf8.encode "/** A */function f()\x7b\n/** B */var x\x7d", tree⟩
    let session := Session.start KindTable.standard defaultLimit
    source.tree.Ordered ∧
      ((session.extractSource source).2.documented.map fun one => one.doclet.line) = [1, 2] ∧
      ((session.extractSource source).2.documented.map fun one => one.doclet.path) =
        ["f", "f~x"] ∧
      InDocumentOrder session source := by
  intro name comment declaration block function tree source session
  have ordered : source.tree.Ordered := by decide +kernel
  obtain ⟨_, _, _, inOrder⟩ := walk_in_document_order session source
  exact ⟨ordered, by decide +kernel, by decide +kernel, inOrder ordered⟩

end SymbolPath.Extraction
