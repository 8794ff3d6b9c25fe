import SymbolPath.Proofs.Extraction.Plain

/-!
Containers come first. What a comment registers lies at or below a later sibling of the comment, so
the comment precedes all that is inside. Read in document order, no comment registers a node that
an earlier comment stands in: the doclets of all nodes around a comment are final by the time that
the comment is processed.
-/

namespace SymbolPath.Extraction

open Syntax Resolution

theorem mem_below_of_containersAt {source : Source} {code? : Option Code} {outer c : Cursor}
    (under : FoundUnder outer code?) (member : c ∈ containersAt source code?) :
    c ∈ outer.below := by
  obtain ⟨value, given, _, among⟩ := mem_containersAt_iff.mp member
  obtain ⟨code, found, isValue⟩ := Option.bind_eq_some_iff.mp given
  have inside : value ∈ outer.below := (under code found).value value isValue
  rcases among with rfl | ⟨_, method⟩
  · exact inside
  · exact (Cursor.below_sublist inside).subset (mem_below_of_constructorAt method)

theorem precedes_contents {file : Opened} (distinct : file.source.tree.Distinct)
    {kinds : KindTable} {comment other outer : Cursor} {progress : Progress}
    (member : comment ∈ nodes file.source.tree) (otherMember : other ∈ nodes file.source.tree)
    (seen : progress.seen.Of file.source.tree) (around : outer ∈ other.ancestors)
    (registers : file.nodeOf outer ∈
      (registeredBy kinds file comment progress).map file.nodeOf) :
    [comment, other].Sublist (nodes file.source.tree) := by
  obtain ⟨outerMember, inside⟩ := mem_below_of_mem_ancestors otherMember around
  obtain ⟨container, registered, same⟩ := List.mem_map.mp registers
  have contained := registeredBy_subset distinct kinds member progress seen registered
  cases found : codeOf file.source comment with
  | none => simp [found, containersAt] at contained
  | some code =>
      obtain ⟨sibling, follows, siblingMember, under⟩ := codeOf_foundAfter distinct member code found
      have below : container ∈ sibling.below := by
        apply mem_below_of_containersAt ?_ contained
        rintro _ again
        cases found.symm.trans again
        exact under.toUnder
      -- the container has the key of `outer`, so it is `outer`
      have isOuter : container = outer := distinct.eq_of_key
        (mem_nodes_of_mem_below siblingMember below) outerMember (congrArg FileNode.key same)
      subst isOuter
      exact precedes_later_siblings member follows ((Cursor.below_sublist below).subset inside)

theorem not_registered_from (session : Session) {source : Source}
    (distinct : source.tree.Distinct) {before after : List Cursor} {comment outer : Cursor}
    (order : docComments source = before ++ comment :: after) (around : outer ∈ comment.ancestors)
    {between rest : List Cursor} {later : Cursor}
    (split : comment :: after = between ++ later :: rest) :
    Opened.nodeOf ⟨session.filesParsed, source⟩ outer ∉
      (registeredBy session.kinds ⟨session.filesParsed, source⟩ later
        (session.after source (before ++ between))).map
          (Opened.nodeOf ⟨session.filesParsed, source⟩) := by
  intro registers
  have inOrder := docComments_sublist_nodes source
  have all : docComments source = (before ++ between) ++ later :: rest := by
    rw [order, split, List.append_assoc]
  have precedes := precedes_contents distinct (mem_nodes_of_order all) (mem_nodes_of_order order)
    (session.after_seen distinct all) around registers
  -- but the comment is the later one itself or comes before it
  cases between with
  | nil =>
      obtain ⟨rfl, -⟩ := List.cons.inj split
      exact order_unique distinct.nodup precedes precedes
  | cons first between =>
      obtain ⟨rfl, tail⟩ := List.cons.inj split
      have last : [later].Sublist after := by
        rw [tail]
        exact List.singleton_sublist.mpr (by simp)
      have forth : [comment, later].Sublist (docComments source) := by
        rw [order]
        exact (last.cons_cons comment).trans (List.sublist_append_right before _)
      exact order_unique distinct.nodup (forth.trans inOrder) precedes

/-- No comment that follows registers a node around a comment, and what is registered for the node
when the comment is processed is what stays registered for it. -/
theorem containers_settled (session : Session) {source : Source} (distinct : source.tree.Distinct)
    {before after : List Cursor} {comment outer : Cursor}
    (order : docComments source = before ++ comment :: after)
    (around : outer ∈ comment.ancestors) :
    let file : Opened := ⟨session.filesParsed, source⟩
    (∀ between later rest, after = between ++ later :: rest →
        file.nodeOf outer ∉ (registeredBy session.kinds file later
          (session.after source (before ++ comment :: between))).map file.nodeOf) ∧
      lookup (session.extractSource source).1.context (file.nodeOf outer) =
        lookup (session.after source before).context (file.nodeOf outer) := by
  intro file
  constructor
  · intro between later rest split
    apply not_registered_from session distinct order around
    rw [split, List.cons_append]
  · have run : session.after source (docComments source) =
        stateAfter session.kinds file (comment :: after) (session.after source before) := by
      rw [order]
      exact stateAfter_append session.kinds file before _ _
    rw [Session.extractSource_context, run]
    apply lookup_stateAfter
    intro between later rest split
    have registers := not_registered_from session distinct order around split
    rwa [Session.after, stateAfter_append] at registers

/-- A function keeps its doclet once the comment inside it is reached, though a class follows. -/
theorem containers_settled_function :
    let block : Tree := .node "statement_block" true 20 30 (some "body")
      [.node "comment" true 21 29 none []]
    let function : Tree := .node "function_declaration" true 8 30 none
      [.node "identifier" true 17 18 (some "name") [], block]
    let others : List Tree := [.node "comment" true 30 38 none [],
      .node "class_declaration" true 38 47 none [.node "identifier" true 44 45 (some "name") []]]
    let tree : Tree := .node "program" true 0 47 none
      (.node "comment" true 0 8 none [] :: function :: others)
    let source : Source := ⟨⟨.relative, ["a.js"]⟩,
      Utf8.encode "/** A */function f()\x7b/** B */\x7d/** C */class D\x7b\x7d", tree⟩
    let session := Session.start KindTable.standard defaultLimit
    let outer : Cursor := ⟨function, [⟨tree, others⟩]⟩
    let comment : Cursor := ⟨.node "comment" true 21 29 none [],
      ⟨block, []⟩ :: ⟨function, []⟩ :: outer.up⟩
    source.tree.Distinct ∧ outer ∈ comment.ancestors ∧
      ∃ before after, docComments source = before ++ comment :: after ∧
        before.length = 1 ∧ after.length = 1 ∧
        lookup (session.extractSource source).1.context ⟨0, outer.key⟩ ≠ none ∧
        lookup (session.extractSource source).1.context ⟨0, outer.key⟩ =
          lookup (session.after source before).context ⟨0, outer.key⟩ := by
  intro block function others tree source session outer comment
  have distinct : source.tree.Distinct := by decide +kernel
  have around : outer ∈ comment.ancestors := List.mem_cons_of_mem _ List.mem_cons_self
  let first : Cursor := ⟨.node "comment" true 0 8 none [], [⟨tree, function :: others⟩]⟩
  let last : Cursor := ⟨.node "comment" true 30 38 none [], [⟨tree, others.drop 1⟩]⟩
  have order : docComments source = [first] ++ comment :: [last] := by
    have opens : Comment.isDocumentation (source.text first) = true := by decide +kernel
    have inside : Comment.isDocumentation (source.text comment) = true := by decide +kernel
    have closes : Comment.isDocumentation (source.text last) = true := by decide +kernel
    have all : comments source.tree = [first, comment, last] := rfl
    rw [docComments, walk_root, all]
    simp only [List.filter_cons, opens, inside, closes, List.filter_nil]
    rfl
  have settled := containers_settled session distinct order around
  exact ⟨distinct, around, [first], [last], order, rfl, rfl, by decide +kernel, settled.2⟩

end SymbolPath.Extraction
