import SymbolPath.Proofs.Extraction.Isolation
import SymbolPath.Proofs.Extraction.Plain
import SymbolPath.Proofs.Resolution.Joined

/-!
Containment. Code whose comment gives neither a name nor a container hangs off its owner: a member
off its class, a property off the object literal that holds it, a declaration off the function
around it. Each of the three ways to qualify a name joins it to a container made from the path of
the owner, so that resolution ends with the name as it was qualified.
-/

namespace SymbolPath.Extraction

open Syntax Resolution

inductive Place where
  | instanceMember
  | staticMember
  | property
  | inner
deriving DecidableEq, Repr

def Place.path : Place → Text → Text → Text
  | .instanceMember, owner, key => owner ++ '#' :: key
  | .staticMember, owner, key => owner ++ '.' :: key
  | .property, owner, key => Path.join owner key
  | .inner, owner, key => owner ++ '~' :: key

/-- The code stands in a place of its owner: a class, an object literal or a function. -/
inductive Stands (code : Code) : Place → Cursor → Prop
  | member {body owner : Cursor} (isMember : code.isMember = true)
      (inBody : code.node.parent? = some body) (inClass : body.parent? = some owner) :
      Stands code (if code.isStatic then .staticMember else .instanceMember) owner
  | property {owner : Cursor} (free : code.isMember = false)
      (directly : code.node.parent? = some owner) (literal : isObject owner.kind = true) :
      Stands code .property owner
  | inner {owner : Cursor} (free : code.isMember = false)
      (outside : ∀ parent, code.node.parent? = some parent → isObject parent.kind = false)
      (declares : isDeclaration code.node.kind = true)
      (within : code.node.enclosingFunction? = some owner) :
      Stands code .inner owner

def Place.container : Place → Text → Text
  | .instanceMember, owner => owner ++ ['#']
  | .staticMember, owner => owner
  | .property, owner => owner
  | .inner, owner => owner ++ ['~']

theorem Place.path_eq_join {place : Place} {owner : Text} (given : owner ≠ [])
    (unmarked : place = .staticMember → Path.endsIn Path.isScopeMarker owner = false) (key : Text) :
    place.path owner key = Path.join (place.container owner) key := by
  have notEmpty : owner.isEmpty = false := by simpa using given
  cases place with
  | instanceMember => exact (Path.join_marked rfl owner key).symm
  | inner => exact (Path.join_marked rfl owner key).symm
  | property => rfl
  | staticMember => simp [Place.path, Place.container, Path.join, Path.joiner, notEmpty,
      unmarked rfl]

theorem Place.container_ne_nil {owner : Text} (given : owner ≠ []) (place : Place) :
    place.container owner ≠ [] := by
  cases place <;> simp [Place.container, given]

theorem Place.container_holds {module owner : Text} (holds : Container module owner)
    (place : Place) : Container module (place.container owner) := by
  cases place with
  | instanceMember => exact holds.mark rfl
  | inner => exact holds.mark rfl
  | property => exact holds
  | staticMember => exact holds

theorem not_startsWith_this {name : Text} (bare : Path.Bare name) :
    Text.startsWith thisStart name = false := by
  rw [Bool.eq_false_iff]
  intro starts
  obtain ⟨rest, rfl⟩ := Text.startsWith_iff.mp starts
  have dot : '.' ∈ thisStart ++ rest := List.mem_append_left _ (by decide)
  exact absurd (bare.noSeparator '.' dot) (by decide)

/-- Whichever way it is qualified, a name is joined to the path of its owner. -/
theorem qualifyAt_stands {context : Context FileNode Doclet} {file : Opened} {code : Code}
    {place : Place} {owner : Cursor} {doc : Doclet} (stands : Stands code place owner)
    (registered : lookup context (file.nodeOf owner) = some doc) (given : doc.path ≠ [])
    (noPrototype : ¬ Path.HasPrototype doc.path) (bare : Path.Bare code.name) (doclet : Doclet) :
    (qualifyAt context file code doclet).name = place.path doc.path code.name := by
  have notEmpty : doc.path.isEmpty = false := by simpa using given
  cases stands with
  | member isMember inBody inClass =>
      simp only [qualifyAt, isMember, if_true, inBody, Option.bind_some, inClass, qualifyMember,
        registered, notEmpty, Bool.false_eq_true, if_false]
      cases code.isStatic <;> rfl
  | property free directly literal =>
      have kept := Path.foldPrototype_of_absent noPrototype
      simp only [qualifyAt, free, directly, Option.any_some, literal, Bool.or_true,
        Bool.false_eq_true, if_false, if_true, Option.map_some, qualifyThis, registered, kept,
        notEmpty]
      rfl
  | inner free outside declares within =>
      have notInObject : (code.node.parent?.any fun c => isObject c.kind) = false := by
        cases above : code.node.parent? with
        | none => rfl
        | some parent => exact outside parent above
      simp only [qualifyAt, free, notInObject, not_startsWith_this bare, Bool.or_false,
        Bool.false_eq_true, if_false, declares, if_true, within, qualifyInner, closurePath,
        enclosingOf, registered, notEmpty]
      rfl

def Pathed (file : Opened) (context : Context FileNode Doclet) : Prop :=
  ∀ c doc, lookup context (file.nodeOf c) = some doc → doc.path ≠ []

theorem Step.pathed {file : Opened} {before after : Context FileNode Doclet} {outcome : Outcome}
    {registered : List Cursor} (step : Step file before after outcome registered)
    (pathed : Pathed file before) : Pathed file after := by
  intro c doc found
  by_cases among : file.nodeOf c ∈ registered.map file.nodeOf
  · cases step with
    | dropped _ none _ => simp [none] at among
    | documented documented _ hasPath same =>
        rw [same, lookup_registerAll, if_pos among] at found
        cases found
        exact hasPath
  · rw [step.lookup_other among] at found
    exact pathed c doc found

theorem stateAfter_pathed (kinds : KindTable) {file : Opened} (comments : List Cursor)
    {progress : Progress} (pathed : Pathed file progress.context) :
    Pathed file (stateAfter kinds file comments progress).context := by
  induction comments generalizing progress with
  | nil => exact pathed
  | cons comment rest ih =>
      -- what a comment registers has a path, and the rest is as before
      rw [stateAfter_cons]
      exact ih ((processComment_step kinds file comment progress).pathed pathed)

theorem Session.Sound.pathed {session : Session} (sound : session.Sound) (source : Source)
    (comments : List Cursor) :
    Pathed ⟨session.filesParsed, source⟩ (session.after source comments).context := by
  apply stateAfter_pathed
  intro c doc found
  -- at first nothing is registered for the file
  have fresh := sound ⟨session.filesParsed, c.key⟩ (Nat.le_refl _)
  cases fresh.symm.trans found

/-- A comment that leaves the name and the container to the code it decorates, of a kind that is
neither documented on its own nor has a space of its own. -/
structure NamedByCode (kinds : KindTable) (source : Source) (comment : Cursor) (code : Code) :
    Prop where
  decorates : (decorated source comment).glance = some code
  unnamed : (docletOf source comment).name = []
  untagged : (docletOf source comment).memberof = []
  ordinary : isVirtual (kindDoclet (some code) (docletOf source comment)).kind = false
  noSpace : kinds.isDocspace (kindDoclet (some code) (docletOf source comment)).kind = false

theorem NamedByCode.codeOf {kinds : KindTable} {source : Source} {comment : Cursor} {code : Code}
    (named : NamedByCode kinds source comment code) : codeOf source comment = some code := by
  have joins : isVirtual (docletOf source comment).kind = false := by
    have ordinary := named.ordinary
    rw [kind_kindDoclet] at ordinary
    by_cases empty : (docletOf source comment).kind.isEmpty = true
    · rw [List.isEmpty_iff.mp empty]
      rfl
    · rwa [if_neg empty] at ordinary
  exact (codeOf_of_ordinary joins).trans named.decorates

theorem NamedByCode.resolves {kinds : KindTable} {source : Source} {comment : Cursor} {code : Code}
    (named : NamedByCode kinds source comment code) {module container name : Text}
    (holds : Container module container) (given : container ≠ []) (key : Joinable name) :
    let doclet := (docletOf source comment).set "name" (Path.join container name)
    let resolved := resolve kinds module (kindDoclet (some code) doclet)
    resolved.path = Path.join container name ∧ resolved.doclet.path = Path.join container name ∧
      resolved.doclet.name = name := by
  intro doclet resolved
  obtain ⟨isName, memberof, kept⟩ := kindDoclet_set_name code (docletOf source comment)
    (Path.join container name)
  apply resolve_join holds given key isName
  · exact memberof.trans named.untagged
  · apply ne_file_of_ordinary
    rw [kept]
    exact named.ordinary
  · rw [kept]
    exact named.noSpace

theorem documentAt_of_path {kinds : KindTable} {file : Opened} {code? : Option Code}
    {doclet named : Doclet} {remark : Option Remark} {context : Context FileNode Doclet}
    (naming : nameAt context file code? doclet = (named, remark))
    (hasPath : (resolve kinds context.module (kindDoclet code? named)).path ≠ []) :
    ∃ documented, (documentAt kinds file code? doclet context).1.documented = some documented ∧
      documented.node = (code?.map fun code => code.node.key) ∧
      documented.doclet = (resolve kinds context.module (kindDoclet code? named)).doclet := by
  unfold documentAt
  rw [naming]
  dsimp only
  rw [if_neg (by simpa using hasPath)]
  exact ⟨_, rfl, rfl, rfl⟩

theorem documentComment_of_path {kinds : KindTable} {file : Opened} {comment : Cursor} {code : Code}
    {context : Context FileNode Doclet} (decorates : codeOf file.source comment = some code)
    (notFolded : isFolded (some code) = false) (unnamed : (docletOf file.source comment).name = [])
    {name : Text}
    (qualified : (qualifyAt context file code (docletOf file.source comment)).name = name) :
    let doclet := (docletOf file.source comment).set "name" name
    let resolved := resolve kinds context.module (kindDoclet (some code) doclet)
    resolved.path ≠ [] →
      ∃ documented, (documentComment kinds file comment context).1.documented = some documented ∧
        documented.node = some code.node.key ∧ documented.doclet = resolved.doclet := by
  intro doclet resolved hasPath
  have outcome : (documentComment kinds file comment context).1 =
      (documentAt kinds file (some code) (docletOf file.source comment) context).1 := by
    rw [documentComment, decorates]
    rw [notFolded, if_neg Bool.false_ne_true]
  have naming : nameAt context file (some code) (docletOf file.source comment) =
      (doclet, (qualifyAt context file code (docletOf file.source comment)).remark) := by
    rw [nameAt, unnamed, qualified]
    rfl
  rw [outcome]
  exact documentAt_of_path naming hasPath

theorem documentComment_contained {kinds : KindTable} {file : Opened} {comment : Cursor}
    {code : Code} {context : Context FileNode Doclet} {place : Place} {owner : Cursor}
    {doc : Doclet} (named : NamedByCode kinds file.source comment code) (key : Joinable code.name)
    (notConstructor : code.name ≠ "constructor") (stands : Stands code place owner)
    (registered : lookup context (file.nodeOf owner) = some doc) (given : doc.path ≠ [])
    (holds : Container context.module doc.path)
    (unmarked : place = .staticMember → Path.endsIn Path.isScopeMarker doc.path = false) :
    ∃ documented, (documentComment kinds file comment context).1.documented = some documented ∧
      documented.node = some code.node.key ∧ documented.doclet.name = code.name ∧
      documented.doclet.path = place.path doc.path code.name := by
  have joined := place.path_eq_join given unmarked code.name
  have qualified := qualifyAt_stands stands registered given holds.noPrototype key.bare
    (docletOf file.source comment)
  obtain ⟨path, written, short⟩ := named.resolves (place.container_holds holds)
    (place.container_ne_nil given) key
  have hasPath : (resolve kinds context.module (kindDoclet (some code)
      ((docletOf file.source comment).set "name"
        (Path.join (place.container doc.path) code.name)))).path ≠ [] := by
    rw [path, ← joined]
    cases place <;> simp [Place.path, Path.join, given]
  -- the doclet is named after its owner and resolved under that name
  obtain ⟨documented, gives, node, doclet⟩ := documentComment_of_path named.codeOf
    (not_isFolded_of_name notConstructor) named.unnamed (qualified.trans joined) hasPath
  refine ⟨documented, gives, node, ?_, ?_⟩
  · rw [doclet]
    exact short
  · rw [doclet, joined]
    exact written

/-- Whatever came before, a comment that leaves the name to its code yields a doclet with the key of
the code as its name, and as its path the key joined to the path of the owner: by a hash or a dot
to a class, as a property to an object literal, by a tilde to a function. -/
theorem contained_path {session : Session} (sound : session.Sound) {source : Source}
    (distinct : source.tree.Distinct) {before after : List Cursor} {comment : Cursor}
    (order : docComments source = before ++ comment :: after) {code : Code}
    (named : NamedByCode session.kinds source comment code) (key : Joinable code.name)
    (notConstructor : code.name ≠ "constructor") {place : Place} {owner : Cursor}
    (stands : Stands code place owner) {doc : Doclet}
    (registered : lookup (session.after source before).context ⟨session.filesParsed, owner.key⟩ =
      some doc)
    (holds : Container (session.after source before).context.module doc.path)
    (unmarked : place = .staticMember → Path.endsIn Path.isScopeMarker doc.path = false) :
    ∃ documented,
      ((processComment session.kinds ⟨session.filesParsed, source⟩ comment).run
        (session.after source before)).1.documented = some documented ∧
      documented ∈ (session.extractSource source).2.documented ∧
      documented.node = some code.node.key ∧ documented.doclet.name = code.name ∧
      documented.doclet.path = place.path doc.path code.name := by
  have inOrder := docComments_sublist_nodes source
  have seen : (session.after source before).seen.Of source.tree := by
    apply stateAfter_seen distinct session.kinds ?_ _ (of_empty source.tree)
    intro c member
    exact inOrder.subset (by simp [order, member])
  have member : comment ∈ nodes source.tree := inOrder.subset (by simp [order])
  have given : doc.path ≠ [] := sound.pathed source before owner doc registered
  have contained := @documentComment_contained session.kinds ⟨session.filesParsed, source⟩ comment
    code (session.after source before).context place owner doc named key notConstructor stands
    registered given holds unmarked
  rw [← processComment_outcome distinct session.kinds member _ seen] at contained
  obtain ⟨documented, gives, node, name, path⟩ := contained
  have listed := session.mem_extractSource order gives
  exact ⟨documented, gives, listed, node, name, path⟩

/-- A variable that is declared in a documented function. -/
theorem contained_path_variable :
    let declarator : Tree := .node "variable_declarator" true 33 34 none
      [.node "identifier" true 33 34 (some "name") []]
    let declaration : Tree := .node "variable_declaration" true 29 34 none [declarator]
    let block : Tree := .node "statement_block" true 20 35 (some "body")
      [.node "comment" true 21 29 none [], declaration]
    let function : Tree := .node "function_declaration" true 8 35 none
      [.node "identifier" true 17 18 (some "name") [], block]
    let tree : Tree := .node "program" true 0 35 none [.node "comment" true 0 8 none [], function]
    let source : Source := ⟨⟨.relative, ["a.js"]⟩,
      Utf8.encode "/** A */function f()\x7b/** B */var x\x7d", tree⟩
    let session := Session.start KindTable.standard defaultLimit
    let owner : Cursor := ⟨function, [⟨tree, []⟩]⟩
    let first : Cursor := ⟨.node "comment" true 0 8 none [], [⟨tree, [function]⟩]⟩
    let comment : Cursor := ⟨.node "comment" true 21 29 none [],
      ⟨block, [declaration]⟩ :: ⟨function, []⟩ :: owner.up⟩
    let node : Cursor :=
      ⟨declarator, ⟨declaration, []⟩ :: ⟨block, []⟩ :: ⟨function, []⟩ :: owner.up⟩
    let code : Code := ⟨"x", node, none, false, false⟩
    docComments source = [first] ++ comment :: [] ∧
      (lookup (session.after source [first]).context ⟨session.filesParsed, owner.key⟩).map
        Doclet.path = some "f" ∧
      NamedByCode session.kinds source comment code ∧ Stands code .inner owner ∧
      ∃ documented ∈ (session.extractSource source).2.documented,
        documented.doclet.name = "x" ∧ documented.doclet.path = "f~x" := by
  intro declarator declaration block function tree source session owner first comment node code
  have sound : session.Sound := Session.sound_start KindTable.standard defaultLimit
  have distinct : source.tree.Distinct := by decide +kernel
  have order : docComments source = [first] ++ comment :: [] := by
    have opens : Comment.isDocumentation (source.text first) = true := by decide +kernel
    have inside : Comment.isDocumentation (source.text comment) = true := by decide +kernel
    have all : comments source.tree = [first, comment] := rfl
    rw [docComments, walk_root, all]
    simp only [List.filter_cons, opens, inside, List.filter_nil]
    rfl
  have named : NamedByCode session.kinds source comment code :=
    ⟨rfl, by decide +kernel, by decide +kernel, by decide +kernel, by decide +kernel⟩
  have isX : ∀ c ∈ code.name, c = 'x' := fun c member => List.mem_singleton.mp member
  have key : Joinable code.name :=
    ⟨⟨by decide, fun c member => isX c member ▸ rfl⟩, by decide,
      fun c member => isX c member ▸ rfl, by decide⟩
  have stands : Stands code .inner owner := by
    refine .inner rfl ?_ rfl rfl
    rintro _ ⟨⟩
    rfl
  have found : (lookup (session.after source [first]).context
      ⟨session.filesParsed, owner.key⟩).map Doclet.path = some "f" := by decide +kernel
  obtain ⟨doc, registered, owns⟩ := Option.map_eq_some_iff.mp found
  have holds : Container (session.after source [first]).context.module doc.path := by
    rw [owns]
    have isF : ∀ c ∈ ("f" : Text), c = 'f' := fun c member => List.mem_singleton.mp member
    refine ⟨fun c member => isF c member ▸ rfl, ?_, .inl (by decide +kernel)⟩
    intro found
    have dot : '.' ∈ ("f" : Text) := found.subset List.mem_cons_self
    exact absurd dot (by decide)
  obtain ⟨documented, _, listed, _, name, path⟩ := contained_path sound distinct order named key
    (by decide) stands registered holds (fun same => nomatch same)
  rw [owns] at path
  exact ⟨order, found, named, stands, documented, listed, name, path⟩

end SymbolPath.Extraction
