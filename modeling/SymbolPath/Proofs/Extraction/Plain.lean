import SymbolPath.Proofs.Extraction.Turns
import SymbolPath.Proofs.Syntax.Look

/-!
Extraction from a file without equal nodes, with no account of what was seen before. Each definition
here reads straight off the tree what its counterpart in the extraction looks up; the main
statements are that the two agree, for one comment and for any number of them in order.
-/

namespace SymbolPath.Extraction

open Syntax Resolution

def codeOf (source : Source) (comment : Cursor) : Option Code :=
  (codeFor source comment (docletOf source comment)).glance

theorem codeOf_of_ordinary {source : Source} {comment : Cursor}
    (ordinary : isVirtual (docletOf source comment).kind = false) :
    codeOf source comment = (decorated source comment).glance := by
  rw [codeOf, codeFor, ordinary, if_neg Bool.false_ne_true]

def containersAt (source : Source) (code : Option Code) : List Cursor :=
  match code.bind Code.value with
  | none => []
  | some value =>
    if isContainer value.kind then
      if isClass value.kind then value :: (constructorAt source value).toList else [value]
    else []

theorem mem_containersAt_iff {source : Source} {code? : Option Code} {c : Cursor} :
    c ∈ containersAt source code? ↔
      ∃ value, code?.bind Code.value = some value ∧ isContainer value.kind = true ∧
        (c = value ∨ isClass value.kind = true ∧ constructorAt source value = some c) := by
  unfold containersAt
  cases code?.bind Code.value with
  | none => simp
  | some value =>
      by_cases container : isContainer value.kind = true
      · by_cases ofClass : isClass value.kind = true <;> simp [container, ofClass]
      · simp [container]

def qualifyAt (context : Context FileNode Doclet) (file : Opened) (code : Code) (doclet : Doclet) :
    Qualified :=
  let parent := code.node.parent?
  let inObject := parent.any fun c => isObject c.kind
  if code.isMember then ⟨qualifyMember context file code (parent.bind Cursor.parent?), none⟩
  else if Text.startsWith thisStart code.name || inObject then
    let function :=
      if looksAtFunction inObject code.name doclet then code.node.enclosingFunction? else none
    let literal := if inObject then parent.map file.nodeOf else none
    qualifyThis (lookup context) ⟨literal, function.map (enclosingOf file)⟩ code.name doclet
  else if isDeclaration code.node.kind then
    match code.node.enclosingFunction? with
    | some function =>
      qualifyInner (lookup context) ⟨none, some (enclosingOf file function)⟩ code.name
    | none => ⟨code.name, none⟩
  else ⟨code.name, none⟩

def nameAt (context : Context FileNode Doclet) (file : Opened) (code : Option Code)
    (doclet : Doclet) : Doclet × Option Remark :=
  if !doclet.name.isEmpty then (doclet, none)
  else
    match code with
    | some code =>
      (doclet.set "name" (qualifyAt context file code doclet).name,
        (qualifyAt context file code doclet).remark)
    | none =>
      if doclet.kind == ("file" : Text) then (doclet.set "name" file.source.location.text, none)
      else (doclet, none)

def documentAt (kinds : KindTable) (file : Opened) (code : Option Code) (doclet : Doclet)
    (context : Context FileNode Doclet) : Outcome × Context FileNode Doclet :=
  let (named, remark) := nameAt context file code doclet
  let kinded := kindDoclet code named
  let resolved := resolve kinds context.module kinded
  let notes := (remark.map Note.remark).toList ++
    [.resolved resolved.doclet.name kinded.kind resolved.path]
  if resolved.path.isEmpty then
    (⟨none, notes ++ [.namesNothing file.source.location doclet.line]⟩, context)
  else
    (⟨some ⟨resolved.doclet, code.map fun code => code.node.key⟩, notes⟩,
      registerAll (enter context resolved.doclet)
        ((containersAt file.source code).map file.nodeOf) resolved.doclet)

def documentComment (kinds : KindTable) (file : Opened) (comment : Cursor)
    (context : Context FileNode Doclet) : Outcome × Context FileNode Doclet :=
  let code := codeOf file.source comment
  if isFolded code then
    (⟨none, [.folded file.source.location (file.source.line comment)]⟩, context)
  else documentAt kinds file code (docletOf file.source comment) context

def documentAll (kinds : KindTable) (file : Opened) :
    List Cursor → Context FileNode Doclet → List Outcome × Context FileNode Doclet
  | [], context => ([], context)
  | comment :: rest, context =>
    let (outcome, next) := documentComment kinds file comment context
    let (outcomes, last) := documentAll kinds file rest next
    (outcome :: outcomes, last)

theorem documentAll_cons (kinds : KindTable) (file : Opened) (comment : Cursor)
    (rest : List Cursor) (context : Context FileNode Doclet) :
    documentAll kinds file (comment :: rest) context =
      let first := documentComment kinds file comment context
      let others := documentAll kinds file rest first.2
      (first.1 :: others.1, others.2) := by
  rw [documentAll]

theorem documentAt_step (kinds : KindTable) (file : Opened) (code? : Option Code) (doclet : Doclet)
    (context : Context FileNode Doclet) :
    ∃ registered, registered ⊆ containersAt file.source code? ∧
      Step file context (documentAt kinds file code? doclet context).2
        (documentAt kinds file code? doclet context).1 registered := by
  unfold documentAt
  generalize nameAt context file code? doclet = found
  obtain ⟨named, remark⟩ := found
  dsimp only
  generalize kindDoclet code? named = kinded
  have written := path_of_resolve kinds context.module kinded
  generalize resolve kinds context.module kinded = resolved at written ⊢
  by_cases empty : resolved.path.isEmpty = true
  · rw [if_pos empty]
    exact ⟨[], List.nil_subset _, .dropped rfl rfl rfl⟩
  · have hasPath : resolved.path ≠ [] := by simpa using empty
    rw [if_neg empty]
    refine ⟨containersAt file.source code?, List.Subset.refl _, ?_⟩
    exact .documented ⟨resolved.doclet, code?.map fun code => code.node.key⟩ rfl
      (by rwa [written hasPath]) rfl

theorem documentComment_step (kinds : KindTable) (file : Opened) (comment : Cursor)
    (context : Context FileNode Doclet) :
    ∃ registered, registered ⊆ containersAt file.source (codeOf file.source comment) ∧
      Step file context (documentComment kinds file comment context).2
        (documentComment kinds file comment context).1 registered := by
  unfold documentComment
  generalize codeOf file.source comment = code?
  dsimp only
  by_cases folded : isFolded code? = true
  · rw [if_pos folded]
    exact ⟨[], List.nil_subset _, .dropped rfl rfl rfl⟩
  · rw [if_neg folded]
    exact documentAt_step kinds file code? _ context

def InFile (tree : Tree) (code? : Option Code) : Prop :=
  ∃ outer ∈ nodes tree, FoundUnder outer code?

theorem InFile.node {tree : Tree} {code : Code} (inFile : InFile tree (some code)) :
    code.node ∈ nodes tree := by
  obtain ⟨outer, member, under⟩ := inFile
  exact mem_nodes_of_mem_below member (under code rfl).node

theorem InFile.value {tree : Tree} {code? : Option Code} (inFile : InFile tree code?) {v : Cursor}
    (given : code?.bind Code.value = some v) : v ∈ nodes tree := by
  obtain ⟨outer, member, under⟩ := inFile
  obtain ⟨code, found, value⟩ := Option.bind_eq_some_iff.mp given
  exact mem_nodes_of_mem_below member ((under code found).value v value)

theorem inFile_none (tree : Tree) : InFile tree none :=
  ⟨Cursor.root tree, mem_nodes_root tree, foundUnder_none _⟩

section Distinct

variable {file : Opened} (distinct : file.source.tree.Distinct)
include distinct

/-- Cursors on nodes of the file are told apart by the nodes that they stand for. -/
theorem mem_map_nodeOf_iff {cs : List Cursor} (inFile : ∀ c ∈ cs, c ∈ nodes file.source.tree)
    {c : Cursor} (member : c ∈ nodes file.source.tree) :
    file.nodeOf c ∈ cs.map file.nodeOf ↔ c ∈ cs := by
  refine ⟨fun among => ?_, List.mem_map_of_mem⟩
  obtain ⟨d, isMember, same⟩ := List.mem_map.mp among
  rwa [← distinct.eq_of_key (inFile d isMember) member (congrArg FileNode.key same)]

theorem finds_containers {code? : Option Code} (inFile : InFile file.source.tree code?) :
    Finds file.source.tree (containers file.source code?) (· = containersAt file.source code?) := by
  unfold containers containersAt
  cases given : code?.bind Code.value with
  | none => exact Finds.pure rfl
  | some value =>
      dsimp only
      split
      · split
        · refine (finds_constructorOf distinct file.source (inFile.value given)).map ?_
          rintro _ rfl
          rfl
        · exact Finds.pure rfl
      · exact Finds.pure rfl

theorem finds_qualify (context : Context FileNode Doclet) {code : Code}
    (member : code.node ∈ nodes file.source.tree) (doclet : Doclet) :
    Finds file.source.tree (qualify context file code doclet)
      (· = qualifyAt context file code doclet) := by
  -- all nodes looked at are around the code, hence nodes of the file
  have parentMember : ∀ parent, code.node.parent? = some parent → parent ∈ nodes file.source.tree :=
    fun _ above => (mem_children_of_parent? member above).1
  have functionMember : ∀ function, code.node.enclosingFunction? = some function →
      function ∈ nodes file.source.tree :=
    fun _ around => (mem_below_of_mem_ancestors member (mem_ancestors_of_functionAbove around)).1
  unfold qualify qualifyAt
  refine (finds_settle? distinct parentMember).bind fun parent same => ?_
  subst same
  dsimp only
  split
  · refine (finds_settle? distinct fun grandparent above => ?_).bind fun _ same => ?_
    · obtain ⟨parent, isParent, isGrandparent⟩ := Option.bind_eq_some_iff.mp above
      exact (mem_children_of_parent? (parentMember parent isParent) isGrandparent).1
    · subst same
      exact Finds.pure rfl
  · split
    · split
      · refine (finds_settle? distinct functionMember).bind fun _ same => ?_
        subst same
        exact Finds.pure rfl
      · exact Finds.pure rfl
    · split
      · refine (finds_settle? distinct functionMember).bind fun _ same => ?_
        subst same
        cases code.node.enclosingFunction? <;> exact Finds.pure rfl
      · exact Finds.pure rfl

theorem finds_nameDoclet (context : Context FileNode Doclet) {code? : Option Code}
    (inFile : InFile file.source.tree code?) (doclet : Doclet) :
    Finds file.source.tree (nameDoclet context file code? doclet)
      (· = nameAt context file code? doclet) := by
  unfold nameDoclet nameAt
  split
  · exact Finds.pure rfl
  · cases code? with
    | some code =>
        refine (finds_qualify distinct context inFile.node doclet).bind fun _ same => ?_
        subst same
        exact Finds.pure rfl
    | none =>
        dsimp only
        split <;> exact Finds.pure rfl

theorem documentCode_run (kinds : KindTable) {code? : Option Code}
    (inFile : InFile file.source.tree code?) (doclet : Doclet) (progress : Progress)
    (seen : progress.seen.Of file.source.tree) :
    ∃ next : Sightings, next.Of file.source.tree ∧
      (documentCode kinds file code? doclet).run progress =
        ((documentAt kinds file code? doclet progress.context).1,
          ⟨(documentAt kinds file code? doclet progress.context).2, next⟩) := by
  obtain ⟨_, rfl, names⟩ := finds_nameDoclet distinct progress.context inFile doclet
  obtain ⟨middle, named, middleSeen⟩ := names progress.seen seen
  obtain ⟨_, rfl, contains⟩ := finds_containers distinct inFile
  obtain ⟨last, contained, lastSeen⟩ := contains middle middleSeen
  rw [documentCode_eq, named]
  unfold documentAt
  dsimp only
  rw [contained]
  generalize nameAt progress.context file code? doclet = found
  obtain ⟨named, remark⟩ := found
  dsimp only
  generalize resolve kinds progress.context.module (kindDoclet code? named) = resolved
  by_cases empty : resolved.path.isEmpty = true
  · rw [if_pos empty, if_pos empty]
    exact ⟨middle, middleSeen, rfl⟩
  · rw [if_neg empty, if_neg empty]
    exact ⟨last, lastSeen, rfl⟩

theorem registeredFor_cases (kinds : KindTable) {code? : Option Code}
    (inFile : InFile file.source.tree code?) (doclet : Doclet) (progress : Progress)
    (seen : progress.seen.Of file.source.tree) :
    registeredFor kinds file code? doclet progress = [] ∨
      registeredFor kinds file code? doclet progress = containersAt file.source code? := by
  obtain ⟨_, _, names⟩ := finds_nameDoclet distinct progress.context inFile doclet
  obtain ⟨middle, named, middleSeen⟩ := names progress.seen seen
  obtain ⟨_, rfl, contains⟩ := finds_containers distinct inFile
  obtain ⟨_, contained, _⟩ := contains middle middleSeen
  unfold registeredFor
  dsimp only
  rw [named, contained]
  split
  · exact .inl rfl
  · exact .inr rfl

theorem finds_codeFor {comment : Cursor} (member : comment ∈ nodes file.source.tree)
    (doclet : Doclet) :
    Finds file.source.tree (codeFor file.source comment doclet)
      (FoundAfter file.source.tree comment) := by
  unfold codeFor
  split
  · exact Finds.pure (fun _ found => nomatch found)
  · exact finds_decorated distinct file.source member

theorem codeOf_foundAfter {comment : Cursor} (member : comment ∈ nodes file.source.tree) :
    FoundAfter file.source.tree comment (codeOf file.source comment) :=
  (finds_codeFor distinct member _).glance

theorem codeOf_inFile {comment : Cursor} (member : comment ∈ nodes file.source.tree) :
    InFile file.source.tree (codeOf file.source comment) := by
  cases found : codeOf file.source comment with
  | none => exact inFile_none _
  | some code =>
      obtain ⟨sibling, _, siblingMember, under⟩ := codeOf_foundAfter distinct member code found
      exact ⟨sibling, siblingMember, fun _ same => Option.some.inj same ▸ under.toUnder⟩

/-- In any state, the comment and its code are found as they can be read off the tree. -/
theorem looks_for_code {comment : Cursor} (member : comment ∈ nodes file.source.tree)
    (seen : Sightings) (inFile : seen.Of file.source.tree) :
    ∃ first last : Sightings, (settle comment).run seen = (comment, first) ∧
      (codeFor file.source comment (docletOf file.source comment)).run first =
        (codeOf file.source comment, last) ∧ last.Of file.source.tree := by
  obtain ⟨_, rfl, settles⟩ := finds_settle distinct member
  obtain ⟨first, settled, firstInFile⟩ := settles seen inFile
  obtain ⟨last, looked, lastInFile⟩ := (finds_codeFor distinct member _).run firstInFile
  exact ⟨first, last, settled, looked, lastInFile⟩

theorem processComment_run (kinds : KindTable) {comment : Cursor}
    (member : comment ∈ nodes file.source.tree) (progress : Progress)
    (seen : progress.seen.Of file.source.tree) :
    ∃ next : Sightings, next.Of file.source.tree ∧
      (processComment kinds file comment).run progress =
        ((documentComment kinds file comment progress.context).1,
          ⟨(documentComment kinds file comment progress.context).2, next⟩) := by
  obtain ⟨first, last, settled, looked, lastSeen⟩ :=
    looks_for_code distinct member progress.seen seen
  rw [processComment_eq, settled]
  dsimp only
  rw [looked]
  dsimp only
  unfold documentComment
  by_cases folded : isFolded (codeOf file.source comment) = true
  · rw [if_pos folded, if_pos folded]
    exact ⟨last, lastSeen, rfl⟩
  · rw [if_neg folded, if_neg folded]
    exact documentCode_run distinct kinds (codeOf_inFile distinct member) _ _ lastSeen

theorem processComment_outcome (kinds : KindTable) {comment : Cursor}
    (member : comment ∈ nodes file.source.tree) (progress : Progress)
    (seen : progress.seen.Of file.source.tree) :
    ((processComment kinds file comment).run progress).1 =
      (documentComment kinds file comment progress.context).1 := by
  obtain ⟨_, _, run⟩ := processComment_run distinct kinds member progress seen
  rw [run]

/-- A comment registers all the containers of its code, or nothing. What is folded it does not
register. -/
theorem registeredBy_cases (kinds : KindTable) {comment : Cursor}
    (member : comment ∈ nodes file.source.tree) (progress : Progress)
    (seen : progress.seen.Of file.source.tree) :
    registeredBy kinds file comment progress = [] ∨
      isFolded (codeOf file.source comment) = false ∧
        registeredBy kinds file comment progress =
          containersAt file.source (codeOf file.source comment) := by
  obtain ⟨first, last, settled, looked, lastSeen⟩ :=
    looks_for_code distinct member progress.seen seen
  unfold registeredBy
  rw [settled]
  dsimp only
  rw [looked]
  dsimp only
  split
  · exact .inl rfl
  · rename_i notFolded
    exact (registeredFor_cases distinct kinds (codeOf_inFile distinct member) _ _ lastSeen).imp_right
      fun all => ⟨by simpa using notFolded, all⟩

theorem registeredBy_subset (kinds : KindTable) {comment : Cursor}
    (member : comment ∈ nodes file.source.tree) (progress : Progress)
    (seen : progress.seen.Of file.source.tree) :
    registeredBy kinds file comment progress ⊆
      containersAt file.source (codeOf file.source comment) := by
  rcases registeredBy_cases distinct kinds member progress seen with none | ⟨-, all⟩
  · rw [none]
    exact List.nil_subset _
  · rw [all]
    exact List.Subset.refl _

theorem processAll_run (kinds : KindTable) (comments : List Cursor)
    (members : ∀ comment ∈ comments, comment ∈ nodes file.source.tree) (progress : Progress)
    (seen : progress.seen.Of file.source.tree) :
    ∃ next : Sightings, next.Of file.source.tree ∧
      (processAll kinds file comments).run progress =
        ((documentAll kinds file comments progress.context).1,
          ⟨(documentAll kinds file comments progress.context).2, next⟩) := by
  induction comments generalizing progress with
  | nil => exact ⟨progress.seen, seen, rfl⟩
  | cons comment rest ih =>
      obtain ⟨middle, middleSeen, run⟩ :=
        processComment_run distinct kinds (members comment List.mem_cons_self) progress seen
      obtain ⟨last, lastSeen, runRest⟩ :=
        ih (fun c later => members c (List.mem_cons_of_mem _ later))
          ⟨(documentComment kinds file comment progress.context).2, middle⟩ middleSeen
      refine ⟨last, lastSeen, ?_⟩
      rw [processAll_cons, run]
      dsimp only
      rw [runRest, documentAll]

theorem stateAfter_seen (kinds : KindTable) {comments : List Cursor}
    (members : ∀ comment ∈ comments, comment ∈ nodes file.source.tree) (progress : Progress)
    (seen : progress.seen.Of file.source.tree) :
    (stateAfter kinds file comments progress).seen.Of file.source.tree := by
  obtain ⟨next, inFile, run⟩ := processAll_run distinct kinds comments members progress seen
  rw [stateAfter, run]
  exact inFile

end Distinct

theorem docComments_sublist_nodes (source : Source) :
    (docComments source).Sublist (nodes source.tree) :=
  List.filter_sublist.trans (walk_sublist_nodes source.tree)

theorem mem_nodes_of_order {source : Source} {before after : List Cursor} {comment : Cursor}
    (order : docComments source = before ++ comment :: after) : comment ∈ nodes source.tree :=
  (docComments_sublist_nodes source).subset (by simp [order])

theorem Session.after_seen (session : Session) {source : Source} (distinct : source.tree.Distinct)
    {before rest : List Cursor} (order : docComments source = before ++ rest) :
    (session.after source before).seen.Of source.tree := by
  apply stateAfter_seen distinct session.kinds ?_ _ (of_empty source.tree)
  intro c among
  exact (docComments_sublist_nodes source).subset (order ▸ List.mem_append_left _ among)

end SymbolPath.Extraction
