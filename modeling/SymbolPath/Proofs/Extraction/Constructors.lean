import SymbolPath.Proofs.Extraction.Agreement
import SymbolPath.Proofs.Extraction.Containment
import SymbolPath.Proofs.Extraction.Shapes
import SymbolPath.Proofs.Resolution.Identifiers
import SymbolPath.Proofs.Resolution.ThisMember

/-!
Methods called `constructor`. A comment on one is dropped, though the method be static. The doclet
of the class serves for the first of them in its body, and nothing is registered for another. So
inside the first of them `this` stands for an instance of the class, and inside all others for
nothing.
-/

namespace SymbolPath.Extraction

open Syntax Resolution

/-- The method is called `constructor` and stands in the body of the class. It may be static. -/
structure ConstructorIn (source : Source) (classNode method : Cursor) : Prop where
  ofClass : isClass classNode.kind = true
  inBody : ∃ body, classNode.field? "body" = some body ∧ body.kind = "class_body" ∧
    method.parent? = some body
  isMethod : method.kind = "method_definition"
  called : (method.field? "name").map (keyText source) = some ("constructor" : Text)

section Contained

variable {source : Source} {classNode method : Cursor}
  (constructor : ConstructorIn source classNode method)
include constructor

theorem isFolded_of_constructor {code : Code} (shape : Shape source code)
    (node : code.node = method) : isFolded (some code) = true := by
  have kind : code.node.kind = "method_definition" := node ▸ constructor.isMethod
  cases shape with
  | definition _ _ called member =>
      obtain ⟨body, _, isBody, within⟩ := constructor.inBody
      rw [node, constructor.called, Option.some.injEq] at called
      rw [node] at member
      simp only [isFolded, Option.any_some, member, isMethodOfClass, constructor.isMethod, within,
        isBody, ← called, BEq.rfl, Bool.and_true]
  | pair isPair =>
      rw [kind] at isPair
      exact absurd isPair (by decide)
  | held _ among =>
      rw [kind] at among
      exact absurd among (by decide)

theorem eq_of_constructorAt {other : Cursor} (found : constructorAt source other = some method) :
    other = classNode := by
  obtain ⟨body, held, _, within⟩ := constructor.inBody
  obtain ⟨otherBody, otherHeld, among⟩ := Option.bind_eq_some_iff.mp found
  have isChild := List.mem_of_mem_filter (List.mem_of_find?_eq_some among)
  obtain rfl : otherBody = body :=
    Option.some.inj ((Cursor.parent?_of_mem_children isChild).symm.trans within)
  have above := Cursor.parent?_of_mem_children (mem_children_of_field? otherHeld)
  exact Option.some.inj
    (above.symm.trans (Cursor.parent?_of_mem_children (mem_children_of_field? held)))

end Contained

section Registered

variable {file : Opened} (distinct : file.source.tree.Distinct) {classNode method : Cursor}
  (constructor : ConstructorIn file.source classNode method)
  (member : method ∈ nodes file.source.tree)
include distinct constructor member

theorem kind_of_standsFor_constructor {holder : Cursor} {field : Text}
    (inFile : holder ∈ nodes file.source.tree)
    (stands : StandsFor (holder.field? field) (some method)) : holder.kind = "class_body" := by
  obtain ⟨body, _, isBody, within⟩ := constructor.inBody
  obtain ⟨child, held, same⟩ := Option.map_eq_some_iff.mp stands.symm
  have isChild := mem_children_of_field? held
  have childMember := mem_nodes_of_mem_children inFile isChild
  rw [distinct.eq_of_key childMember member same] at isChild
  rw [Option.some.inj ((Cursor.parent?_of_mem_children isChild).symm.trans within)]
  exact isBody

theorem value_ne_constructor {code : Code} (shape : Shape file.source code)
    (inFile : code.node ∈ nodes file.source.tree) (notFolded : isFolded (some code) = false) :
    code.value ≠ some method := by
  intro isValue
  -- the method is the value of no code but its own, and a comment on that is folded
  cases shape with
  | definition kind value called isMember =>
      have node : code.node = method := Option.some.inj (value.symm.trans isValue)
      rw [isFolded_of_constructor constructor (.definition kind value called isMember) node]
        at notFolded
      cases notFolded
  | pair isPair value =>
      rw [isValue] at value
      rw [kind_of_standsFor_constructor distinct constructor member inFile value] at isPair
      exact absurd isPair (by decide)
  | held field among value =>
      rw [isValue] at value
      rw [kind_of_standsFor_constructor distinct constructor member inFile value] at among
      exact absurd among (by decide)

/-- A comment that is not folded registers the method together with its class, if the method is the
one that the class takes for its constructor, and else does not register it. -/
theorem mem_containersAt_constructor {code? : Option Code} (shapes : FoundShape file.source code?)
    (inFile : InFile file.source.tree code?) (notFolded : isFolded code? = false) :
    method ∈ containersAt file.source code? ↔
      classNode ∈ containersAt file.source code? ∧
        constructorAt file.source classNode = some method := by
  constructor
  · intro among
    obtain ⟨value, given, container, isValue | ⟨_, found⟩⟩ := mem_containersAt_iff.mp among
    · obtain ⟨code, rfl, holds⟩ := Option.bind_eq_some_iff.mp given
      rw [← isValue] at holds
      exact absurd holds
        (value_ne_constructor distinct constructor member (shapes code rfl) inFile.node notFolded)
    · obtain rfl := eq_of_constructorAt constructor found
      exact ⟨mem_containersAt_iff.mpr ⟨value, given, container, .inl rfl⟩, found⟩
  · rintro ⟨among, found⟩
    obtain ⟨value, given, container, isValue | ⟨_, other⟩⟩ := mem_containersAt_iff.mp among
    · subst isValue
      exact mem_containersAt_iff.mpr
        ⟨classNode, given, container, .inr ⟨constructor.ofClass, found⟩⟩
    · -- a class is no method
      have ofClass := constructor.ofClass
      rw [kind_of_constructorAt other] at ofClass
      exact absurd ofClass (by decide)

end Registered

theorem containersAt_inFile {source : Source} {code? : Option Code}
    (inFile : InFile source.tree code?) :
    ∀ c ∈ containersAt source code?, c ∈ nodes source.tree := by
  obtain ⟨outer, member, under⟩ := inFile
  exact fun c among => mem_nodes_of_mem_below member (mem_below_of_containersAt under among)

theorem Step.lookup_same {file : Opened} {before after : Context FileNode Doclet}
    {outcome : Outcome} {registered : List Cursor}
    (step : Step file before after outcome registered) {a b : FileNode}
    (together : a ∈ registered.map file.nodeOf ↔ b ∈ registered.map file.nodeOf)
    (same : lookup before a = lookup before b) : lookup after a = lookup after b := by
  by_cases among : a ∈ registered.map file.nodeOf
  · cases step with
    | dropped _ none _ => simp [none] at among
    | documented documented _ _ context =>
        rw [context, lookup_registerAll, lookup_registerAll, if_pos among,
          if_pos (together.mp among)]
  · rw [step.lookup_other among, step.lookup_other (mt together.mpr among), same]

/-- What is registered for a method called `constructor`: the doclet of the class, if the class
takes the method for its constructor, and else nothing. -/
structure Served (file : Opened) (classNode method : Cursor) (context : Context FileNode Doclet) :
    Prop where
  first : constructorAt file.source classNode = some method →
    lookup context (file.nodeOf method) = lookup context (file.nodeOf classNode)
  other : constructorAt file.source classNode ≠ some method →
    lookup context (file.nodeOf method) = none

theorem Served.step {file : Opened} {classNode method : Cursor}
    {before after : Context FileNode Doclet} (served : Served file classNode method before)
    {outcome : Outcome} {registered : List Cursor}
    (step : Step file before after outcome registered)
    (together : file.nodeOf method ∈ registered.map file.nodeOf ↔
      file.nodeOf classNode ∈ registered.map file.nodeOf ∧
        constructorAt file.source classNode = some method) :
    Served file classNode method after where
  first := by
    intro found
    exact step.lookup_same (together.trans (and_iff_left found)) (served.first found)
  other := by
    intro notFound
    rw [step.lookup_other fun among => notFound (together.mp among).2]
    exact served.other notFound

section Session

variable {session : Session} (sound : session.Sound) {source : Source}
  (distinct : source.tree.Distinct) {classNode method : Cursor}
  (constructor : ConstructorIn source classNode method) (member : method ∈ nodes source.tree)
include sound distinct constructor member

/-- However its comments go, the doclet of a class serves for the first method called `constructor`
in its body, and nothing is registered for another. -/
theorem served_after {before rest : List Cursor} (order : docComments source = before ++ rest) :
    Served ⟨session.filesParsed, source⟩ classNode method (session.after source before).context := by
  have classMember : classNode ∈ nodes source.tree := by
    obtain ⟨body, held, _, within⟩ := constructor.inBody
    have bodyMember := (mem_children_of_parent? member within).1
    have above := Cursor.parent?_of_mem_children (mem_children_of_field? held)
    exact (mem_children_of_parent? bodyMember above).1
  induction before using List.reverseRecOn generalizing rest with
  | nil =>
      -- at first nothing is registered for the file
      have fresh : ∀ c : Cursor,
          lookup (session.after source []).context ⟨session.filesParsed, c.key⟩ = none :=
        fun c => sound ⟨session.filesParsed, c.key⟩ (Nat.le_refl _)
      exact ⟨fun _ => (fresh method).trans (fresh classNode).symm, fun _ => fresh method⟩
  | append_singleton before comment ih =>
      rw [List.append_assoc, List.singleton_append] at order
      have step := processComment_step session.kinds ⟨session.filesParsed, source⟩ comment
        (session.after source before)
      have commentMember := mem_nodes_of_order order
      have cases := @registeredBy_cases ⟨session.filesParsed, source⟩ distinct session.kinds
        comment commentMember _ (session.after_seen distinct order)
      have inFile := @codeOf_inFile ⟨session.filesParsed, source⟩ distinct comment commentMember
      rw [session.after_snoc]
      generalize registeredBy session.kinds ⟨session.filesParsed, source⟩ comment
        (session.after source before) = registered at step cases
      refine (ih order).step step ?_
      rcases cases with none | ⟨notFolded, all⟩
      · simp [none]
      · have inNodes := @containersAt_inFile source _ inFile
        have shapes : FoundShape source (codeOf source comment) := fun _ => shape_of_codeOf
        rw [all, mem_map_nodeOf_iff distinct inNodes member,
          mem_map_nodeOf_iff distinct inNodes classMember]
        exact mem_containersAt_constructor distinct constructor member shapes inFile notFolded

end Session

/-- The comment is joined with an assignment to a member of `this`, directly inside a function, and
leaves the name and the container to it. -/
structure AssignsThis (source : Source) (comment : Cursor) (code : Code) (function : Cursor)
    (member : Text) : Prop where
  called : code.name = thisStart ++ member
  free : code.isMember = false
  outside : ∀ parent, code.node.parent? = some parent → isObject parent.kind = false
  within : code.node.enclosingFunction? = some function
  unnamed : (docletOf source comment).name = []
  untagged : (docletOf source comment).memberof = []

structure Constructs (module : Text) (doc : Doclet) : Prop where
  kind : doc.kind = "constructor"
  outer : doc.isInner = false
  container : Container module doc.path
  unmarked : Path.endsIn Path.isSeparator doc.path = false

section AssignsThis

variable {file : Opened} {comment : Cursor} {code : Code} {method : Cursor} {member : Text}
  (assigns : AssignsThis file.source comment code method member) {context : Context FileNode Doclet}
include assigns

theorem qualifyAt_of_assignsThis :
    qualifyAt context file code (docletOf file.source comment) =
      qualifyThis (lookup context) ⟨none, some (enclosingOf file method)⟩ (thisStart ++ member)
        (docletOf file.source comment) := by
  have notInObject : (code.node.parent?.any fun c => isObject c.kind) = false := by
    cases above : code.node.parent? with
    | none => rfl
    | some parent => exact assigns.outside parent above
  have starts : Text.startsWith thisStart (thisStart ++ member) = true :=
    Text.startsWith_iff.mpr ⟨member, rfl⟩
  have implicit := hasExplicitContainer_none assigns.untagged
  simp only [qualifyAt, assigns.free, assigns.called, notInObject, starts, looksAtFunction,
    implicit, assigns.within, Bool.or_false, Bool.not_false, Bool.and_self, Bool.false_eq_true,
    if_false, if_true, Option.map_some]

variable {classNode : Cursor} (served : Served file classNode method context) {doc : Doclet}
include served

theorem qualifyAt_in_first (first : constructorAt file.source classNode = some method)
    (registered : lookup context (file.nodeOf classNode) = some doc) (given : doc.path ≠ [])
    (constructs : Constructs context.module doc) :
    (qualifyAt context file code (docletOf file.source comment)).name =
      doc.path ++ '#' :: member := by
  have found := (served.first first).trans registered
  have implicit := hasExplicitContainer_none assigns.untagged
  rw [qualifyAt_of_assignsThis assigns,
    qualifyThis_of_owner rfl rfl found constructs.outer given implicit member,
    memberOfThis_of_constructor constructs.outer member constructs.kind given constructs.unmarked]

theorem qualifyAt_in_other (other : constructorAt file.source classNode ≠ some method) :
    (qualifyAt context file code (docletOf file.source comment)).name = member := by
  have implicit := hasExplicitContainer_none assigns.untagged
  rw [qualifyAt_of_assignsThis assigns]
  exact qualifyThis_of_undocumented rfl rfl (served.other other) implicit member

variable {kinds : KindTable} (decorates : codeOf file.source comment = some code)
include decorates

omit served in
theorem documentComment_of_resolves {name path : Text}
    (qualified : (qualifyAt context file code (docletOf file.source comment)).name = name)
    (given : path ≠ [])
    (resolves : ∀ doclet : Doclet, doclet.name = name → doclet.memberof = [] →
      doclet.kind ≠ "file" → doclet.kind =
        (kindDoclet (some code) (docletOf file.source comment)).kind →
      (resolve kinds context.module doclet).path = path ∧
        (resolve kinds context.module doclet).doclet.name = member) :
    ∃ documented, (documentComment kinds file comment context).1.documented = some documented ∧
      documented.doclet.name = member ∧ documented.doclet.path = path := by
  obtain ⟨named, container, kind⟩ := kindDoclet_set_name code (docletOf file.source comment) name
  have notFile : (kindDoclet (some code) ((docletOf file.source comment).set "name" name)).kind ≠
      "file" := by
    apply ne_file_of_ordinary
    rw [kind]
    exact ordinary_kindDoclet decorates
  obtain ⟨whole, short⟩ := resolves _ named (container.trans assigns.untagged) notFile kind
  have hasPath : (resolve kinds context.module (kindDoclet (some code)
      ((docletOf file.source comment).set "name" name))).path ≠ [] := whole ▸ given
  obtain ⟨documented, gives, _, same⟩ := documentComment_of_path decorates
    (not_isFolded_of_free assigns.free) assigns.unnamed qualified hasPath
  refine ⟨documented, gives, ?_, ?_⟩
  · rw [same]
    exact short
  · rw [same, path_of_resolve _ _ _ hasPath]
    exact whole

variable (identifier : Identifier member)
include identifier

theorem documentComment_in_first (first : constructorAt file.source classNode = some method)
    (registered : lookup context (file.nodeOf classNode) = some doc) (given : doc.path ≠ [])
    (constructs : Constructs context.module doc) :
    ∃ documented, (documentComment kinds file comment context).1.documented = some documented ∧
      documented.doclet.name = member ∧
      documented.doclet.path = doc.path ++ '#' :: (schemeOf kinds
        (kindDoclet (some code) (docletOf file.source comment)).kind ++ member) := by
  apply documentComment_of_resolves assigns decorates
    (qualifyAt_in_first assigns served first registered given constructs) (by simp)
  intro doclet named untagged notFile kind
  rw [← kind]
  exact resolve_instance identifier untagged constructs.container notFile named

theorem documentComment_in_other (other : constructorAt file.source classNode ≠ some method) :
    ∃ documented, (documentComment kinds file comment context).1.documented = some documented ∧
      documented.doclet.name = member ∧
      documented.doclet.path = schemeOf kinds
        (kindDoclet (some code) (docletOf file.source comment)).kind ++ member := by
  apply documentComment_of_resolves assigns decorates (qualifyAt_in_other assigns served other)
    (List.append_ne_nil_of_right_ne_nil _ identifier.given)
  intro doclet named untagged _ kind
  rw [← kind]
  exact resolve_identifier identifier untagged named

end AssignsThis

section Main

variable {session : Session} (sound : session.Sound) {source : Source}
  (distinct : source.tree.Distinct) {classNode method : Cursor}
  (constructor : ConstructorIn source classNode method) {before after : List Cursor}
  {comment : Cursor} (order : docComments source = before ++ comment :: after) {code : Code}
  (decorates : codeOf source comment = some code)
include distinct constructor order decorates

/-- A comment on a method called `constructor` yields nothing and changes nothing. -/
theorem turn_of_constructor (node : code.node = method) :
    (session.turn source before comment).documented = none ∧
      (session.after source (before ++ [comment])).context =
        (session.after source before).context := by
  have folded := isFolded_of_constructor constructor (shape_of_codeOf decorates) node
  obtain ⟨_, _, run⟩ := @processComment_run ⟨session.filesParsed, source⟩ distinct session.kinds
    comment (mem_nodes_of_order order) _ (session.after_seen distinct order)
  have dropped : documentComment session.kinds ⟨session.filesParsed, source⟩ comment
      (session.after source before).context =
        (⟨none, [.folded source.location (source.line comment)]⟩,
          (session.after source before).context) := by
    rw [documentComment, decorates]
    rw [folded, if_pos rfl]
  rw [session.after_snoc, Session.turn, run, dropped]
  exact ⟨rfl, rfl⟩

include sound

/-- Methods called `constructor` are told by their name alone. A comment on one is dropped, though
the method be static. Inside one, what is assigned to a member of `this` hangs off the class by a
hash if the method is the first of the name in the body; inside another it has no container. -/
theorem constructor_member_iff :
    (code.node = method →
      (session.turn source before comment).documented = none ∧
        (session.after source (before ++ [comment])).context =
          (session.after source before).context) ∧
    ∀ {member : Text} {doc : Doclet}, AssignsThis source comment code method member →
      Identifier member →
      lookup (session.after source before).context ⟨session.filesParsed, classNode.key⟩ = some doc →
      Constructs (session.after source before).context.module doc →
      let scheme := schemeOf session.kinds (kindDoclet (some code) (docletOf source comment)).kind
      ∃ documented ∈ (session.extractSource source).2.documented,
        (session.turn source before comment).documented = some documented ∧
        documented.doclet.name = member ∧
        (constructorAt source classNode = some method →
          documented.doclet.path = doc.path ++ '#' :: (scheme ++ member)) ∧
        (constructorAt source classNode ≠ some method →
          documented.doclet.path = scheme ++ member) ∧
        (documented.doclet.path = doc.path ++ '#' :: member ↔
          constructorAt source classNode = some method ∧ session.kinds.isDocspace
            (kindDoclet (some code) (docletOf source comment)).kind = false) := by
  refine ⟨turn_of_constructor distinct constructor order decorates, ?_⟩
  intro member doc assigns identifier registered constructs scheme
  have given : doc.path ≠ [] := sound.pathed source before classNode doc registered
  have inFile := @codeOf_inFile ⟨session.filesParsed, source⟩ distinct comment
    (mem_nodes_of_order order)
  rw [decorates] at inFile
  have methodMember : method ∈ nodes source.tree :=
    (mem_below_of_mem_ancestors inFile.node (mem_ancestors_of_functionAbove assigns.within)).1
  have served := served_after sound distinct constructor methodMember order
  have turn : session.turn source before comment =
      (documentComment session.kinds ⟨session.filesParsed, source⟩ comment
        (session.after source before).context).1 :=
    @processComment_outcome ⟨session.filesParsed, source⟩ distinct session.kinds comment
      (mem_nodes_of_order order) _ (session.after_seen distinct order)
  have listed := @Session.mem_extractSource session source before after comment order
  rw [← Session.turn] at listed
  -- the class doclet serves for the method only if it is the first of the name in the body
  by_cases first : constructorAt source classNode = some method
  · obtain ⟨documented, gives, name, path⟩ := documentComment_in_first assigns served decorates
      identifier first registered given constructs
    rw [← turn] at gives
    refine ⟨documented, listed gives, gives, name, fun _ => path, absurd first, ?_⟩
    rw [path, and_iff_right first]
    exact instance_path_iff
  · obtain ⟨documented, gives, name, path⟩ := documentComment_in_other assigns served decorates
      identifier first
    rw [← turn] at gives
    refine ⟨documented, listed gives, gives, name, (absurd · first), fun _ => path, ?_⟩
    rw [path]
    exact ⟨fun same => absurd same (scheme_ne_instance _ _ _ _), fun both => absurd both.1 first⟩

end Main

/-- A documented constructor with a documented member in it. -/
theorem constructor_member_documented :
    let target : Tree := .node "member_expression" true 46 52 (some "left") []
    let value : Tree := .node "number" true 53 54 (some "right") []
    let assignment : Tree := .node "assignment_expression" true 46 54 none [target, value]
    let statement : Tree := .node "expression_statement" true 46 54 none [assignment]
    let block : Tree := .node "statement_block" true 37 55 (some "body")
      [.node "comment" true 38 46 none [], statement]
    let key : Tree := .node "property_identifier" true 24 35 (some "name") []
    let parameters : Tree := .node "formal_parameters" true 35 37 (some "parameters") []
    let member : Tree := .node "method_definition" true 24 55 none [key, parameters, block]
    let body : Tree := .node "class_body" true 15 56 (some "body")
      [.node "comment" true 16 24 none [], member]
    let declaration : Tree := .node "class_declaration" true 8 56 none
      [.node "identifier" true 14 15 (some "name") [], body]
    let tree : Tree := .node "program" true 0 56 none
      [.node "comment" true 0 8 none [], declaration]
    let source : Source := ⟨⟨.relative, ["a.js"]⟩,
      Utf8.encode "/** A */class K\x7b/** B */constructor()\x7b/** C */this.x=1\x7d\x7d", tree⟩
    let session := Session.start KindTable.standard defaultLimit
    let classNode : Cursor := ⟨declaration, [⟨tree, []⟩]⟩
    let method : Cursor := ⟨member, ⟨body, []⟩ :: ⟨declaration, []⟩ :: classNode.up⟩
    let first : Cursor := ⟨.node "comment" true 0 8 none [], [⟨tree, [declaration]⟩]⟩
    let second : Cursor :=
      ⟨.node "comment" true 16 24 none [], ⟨body, [member]⟩ :: ⟨declaration, []⟩ :: classNode.up⟩
    let third : Cursor := ⟨.node "comment" true 38 46 none [],
      ⟨block, [statement]⟩ :: ⟨member, []⟩ :: method.up⟩
    docComments source = [first, second, third] ∧ ConstructorIn source classNode method ∧
      (session.turn source [first] second).documented = none ∧
      ∃ documented ∈ (session.extractSource source).2.documented,
        (session.turn source [first, second] third).documented = some documented ∧
        documented.doclet.name = "x" ∧ documented.doclet.path = "K#x" := by
  intro target value assignment statement block key parameters member body declaration tree source
    session classNode method first second third
  have sound : session.Sound := Session.sound_start KindTable.standard defaultLimit
  have distinct : source.tree.Distinct := by decide +kernel
  have order : docComments source = [first, second, third] :=
    docComments_of_all rfl (by decide +kernel)
  have constructor : ConstructorIn source classNode method :=
    ⟨rfl, ⟨⟨body, ⟨declaration, []⟩ :: classNode.up⟩, rfl, rfl, rfl⟩, rfl, by decide +kernel⟩
  let constructorCode : Code := ⟨"constructor", method, some method, true, false⟩
  have onConstructor : codeOf source second = some constructorCode :=
    (codeOf_of_ordinary (by decide +kernel)).trans rfl
  let assigned : Cursor :=
    ⟨assignment, ⟨statement, []⟩ :: ⟨block, []⟩ :: ⟨member, []⟩ :: method.up⟩
  let code : Code :=
    ⟨"this.x", assigned, some ⟨value, ⟨assignment, []⟩ :: assigned.up⟩, false, false⟩
  have onMember : codeOf source third = some code :=
    (codeOf_of_ordinary (by decide +kernel)).trans rfl
  have atConstructor : docComments source = [first] ++ second :: [third] := order
  have atMember : docComments source = [first, second] ++ third :: [] := order
  obtain ⟨folds, _⟩ :=
    constructor_member_iff sound distinct constructor atConstructor onConstructor
  have assigns : AssignsThis source third code method "x" := by
    refine ⟨by decide, rfl, ?_, rfl, by decide +kernel, by decide +kernel⟩
    rintro _ ⟨⟩
    rfl
  have isX : ∀ c ∈ ("x" : Text), c = 'x' := fun c member => List.mem_singleton.mp member
  have identifier : Identifier "x" :=
    ⟨⟨by decide, fun c member => isX c member ▸ rfl⟩, by decide, fun c member => isX c member ▸ rfl,
      by decide⟩
  have found : (lookup (session.after source [first, second]).context
      ⟨session.filesParsed, classNode.key⟩).map
        (fun doc => (doc.path, doc.kind, doc.isInner)) =
          some (("K" : Text), ("constructor" : Text), false) := by decide +kernel
  obtain ⟨doc, registered, owns⟩ := Option.map_eq_some_iff.mp found
  obtain ⟨isK, kind, outer⟩ : doc.path = "K" ∧ doc.kind = "constructor" ∧ doc.isInner = false := by
    simpa using owns
  have noModule : (session.after source [first, second]).context.module = [] := by decide +kernel
  have constructs : Constructs (session.after source [first, second]).context.module doc := by
    refine ⟨kind, outer, ?_, ?_⟩
    · rw [isK, noModule]
      decide
    · rw [isK]
      decide
  have isFirst : constructorAt source classNode = some method := by
    let inside : Cursor := ⟨body, ⟨declaration, []⟩ :: classNode.up⟩
    have held : classNode.field? "body" = some inside := rfl
    have members : inside.namedChildren = [second, method] := rfl
    have isComment : isConstructor source second = false := rfl
    have isMethod : isConstructor source method = true := by decide +kernel
    rw [constructorAt, held, Option.bind_some, members, List.find?_cons, isComment,
      List.find?_cons, isMethod]
  obtain ⟨documented, listed, gives, name, _, _, whole⟩ :=
    (constructor_member_iff sound distinct constructor atMember onMember).2 assigns identifier
      registered constructs
  rw [isK] at whole
  have path : documented.doclet.path = "K#x" := whole.mpr ⟨isFirst, by decide +kernel⟩
  exact ⟨order, constructor, (folds rfl).1, documented, listed, gives, name, path⟩

/-- A static method called `constructor` loses its comment. -/
theorem static_constructor_dropped :
    let member : Tree := .node "method_definition" true 24 46 none
      [.node "static" false 24 30 none [], .node "property_identifier" true 31 42 (some "name") [],
        .node "formal_parameters" true 42 44 (some "parameters") [],
        .node "statement_block" true 44 46 (some "body") []]
    let body : Tree := .node "class_body" true 15 47 (some "body")
      [.node "comment" true 16 24 none [], member]
    let declaration : Tree := .node "class_declaration" true 8 47 none
      [.node "identifier" true 14 15 (some "name") [], body]
    let tree : Tree := .node "program" true 0 47 none
      [.node "comment" true 0 8 none [], declaration]
    let source : Source := ⟨⟨.relative, ["a.js"]⟩,
      Utf8.encode "/** A */class K\x7b/** B */static constructor()\x7b\x7d\x7d", tree⟩
    let session := Session.start KindTable.standard defaultLimit
    (docComments source).length = 2 ∧
      (session.extractSource source).2.documented.map
        (fun documented => [documented.doclet.path, documented.doclet.name]) =
          [[("K" : Text), "K"]] := by
  decide +kernel

/-- A static method called `constructor` comes first, and the members of the instance are lost. -/
example :
    let method (start stop : Nat) (children : List Tree) : Tree :=
      .node "method_definition" true start stop none children
    let name (start : Nat) : Tree :=
      .node "property_identifier" true start (start + 11) (some "name") []
    let assignment : Tree := .node "assignment_expression" true 60 68 none
      [.node "member_expression" true 60 66 (some "left") [],
        .node "number" true 67 68 (some "right") []]
    let block : Tree := .node "statement_block" true 51 69 (some "body")
      [.node "comment" true 52 60 none [],
        .node "expression_statement" true 60 68 none [assignment]]
    let body : Tree := .node "class_body" true 15 70 (some "body")
      [method 16 38 [.node "static" false 16 22 none [], name 23], method 38 69 [name 38, block]]
    let declaration : Tree := .node "class_declaration" true 8 70 none
      [.node "identifier" true 14 15 (some "name") [], body]
    let tree : Tree := .node "program" true 0 70 none
      [.node "comment" true 0 8 none [], declaration]
    let source : Source := ⟨⟨.relative, ["a.js"]⟩,
      Utf8.encode ("/** A */class K\x7bstatic constructor()\x7b\x7d" ++
        "constructor()\x7b/** B */this.x=1\x7d\x7d"), tree⟩
    let session := Session.start KindTable.standard defaultLimit
    (session.extractSource source).2.documented.map (fun documented => documented.doclet.path) =
      [("K" : Text), "x"] := by
  decide +kernel

end SymbolPath.Extraction
