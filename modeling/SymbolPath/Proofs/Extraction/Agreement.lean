import SymbolPath.Proofs.Extraction.ContainersFirst

/-!
Runs that differ inside one node. What is looked up for a comment is around its code, and what it
registers is at or below a later sibling of it. So two contexts that agree on all nodes but the
containers within a given one give every comment outside that node the same outcome, and after any
comment, inside or outside, they agree in the same way.
-/

namespace SymbolPath.Extraction

open Syntax Resolution

structure Within (outer c : Cursor) : Prop where
  container : isContainer c.kind = true
  below : c ∈ outer.below

theorem Within.not_around {outer c other : Cursor} (within : Within outer c)
    (around : c ∈ other.ancestors) : outer ∈ other.ancestors := by
  rcases eq_or_mem_ancestors_of_mem_below within.below with rfl | further
  · exact around
  · exact mem_ancestors_trans around further

theorem isContainer_of_constructorAt {source : Source} {classNode method : Cursor}
    (found : constructorAt source classNode = some method) : isContainer method.kind = true :=
  kind_of_constructorAt found ▸ rfl

theorem within_of_head {source : Source} {code? : Option Code} {value : Cursor}
    (first : (containersAt source code?).head? = some value) :
    ∀ c ∈ containersAt source code?, Within value c := by
  intro c member
  unfold containersAt at first member
  cases given : code?.bind Code.value with
  | none => simp [given] at member
  | some v =>
      simp only [given] at first member
      by_cases container : isContainer v.kind = true
      · rw [if_pos container] at first member
        by_cases isClass : isClass v.kind = true
        · rw [if_pos isClass] at first member
          obtain rfl : v = value := Option.some.inj first
          rcases List.mem_cons.mp member with rfl | method
          · exact ⟨container, Cursor.mem_below_self c⟩
          · have found := Option.mem_toList.mp method
            exact ⟨isContainer_of_constructorAt found, mem_below_of_constructorAt found⟩
        · rw [if_neg isClass] at first member
          obtain rfl : v = value := Option.some.inj first
          obtain rfl := List.mem_singleton.mp member
          exact ⟨container, Cursor.mem_below_self c⟩
      · rw [if_neg container] at member
        cases member

theorem isContainer_of_mem_containersAt {source : Source} {code? : Option Code} {c : Cursor}
    (member : c ∈ containersAt source code?) : isContainer c.kind = true := by
  cases first : (containersAt source code?).head? with
  | none =>
      rw [List.head?_eq_none_iff.mp first] at member
      cases member
  | some value => exact (within_of_head first c member).container

section Congruence

variable {Node : Type} {look other : Node → Option Doclet} {site : Site Node}

theorem qualifyThis_congr (literal : ∀ node, site.objectLiteral = some node → look node = other node)
    (enclosing : ∀ function, site.enclosing = some function →
      look function.node = other function.node) (name : Text) (doclet : Doclet) :
    qualifyThis look site name doclet = qualifyThis other site name doclet := by
  obtain ⟨literal?, enclosing?⟩ := site
  cases literal? with
  | some node => simp only [qualifyThis, literal node rfl]
  | none =>
      cases enclosing? with
      | none => rfl
      | some function => simp only [qualifyThis, Option.bind_some, enclosing function rfl]

theorem qualifyInner_congr (enclosing : ∀ function, site.enclosing = some function →
      look function.node = other function.node) (name : Text) :
    qualifyInner look site name = qualifyInner other site name := by
  have closure : closurePath look site = closurePath other site := by
    unfold closurePath
    cases around : site.enclosing with
    | none => rfl
    | some function => simp only [enclosing function around]
  simp only [qualifyInner, closure]

end Congruence

theorem qualifyAt_congr {a b : Context FileNode Doclet} {file : Opened} {code : Code}
    (same : ∀ outer ∈ code.node.ancestors,
      lookup a (file.nodeOf outer) = lookup b (file.nodeOf outer)) (doclet : Doclet) :
    qualifyAt a file code doclet = qualifyAt b file code doclet := by
  have parent : ∀ c, code.node.parent? = some c →
      lookup a (file.nodeOf c) = lookup b (file.nodeOf c) :=
    fun c above => same c (mem_ancestors_of_parent? above)
  have function : ∀ c, code.node.enclosingFunction? = some c →
      lookup a (file.nodeOf c) = lookup b (file.nodeOf c) :=
    fun c around => same c (mem_ancestors_of_functionAbove around)
  unfold qualifyAt
  dsimp only
  split
  · -- the class of a member is two levels up
    have classNode : qualifyMember a file code (code.node.parent?.bind Cursor.parent?) =
        qualifyMember b file code (code.node.parent?.bind Cursor.parent?) := by
      unfold qualifyMember
      cases above : code.node.parent?.bind Cursor.parent? with
      | none => rfl
      | some c =>
          obtain ⟨body, isBody, isClass⟩ := Option.bind_eq_some_iff.mp above
          have around := mem_ancestors_trans (mem_ancestors_of_parent? isBody)
            (mem_ancestors_of_parent? isClass)
          simp only [Option.bind_some, same c around]
    rw [classNode]
  · split
    · apply qualifyThis_congr
      · intro node literal
        dsimp only at literal
        split at literal
        · obtain ⟨c, above, rfl⟩ := Option.map_eq_some_iff.mp literal
          exact parent c above
        · cases literal
      · intro enclosing found
        obtain ⟨c, around, rfl⟩ := Option.map_eq_some_iff.mp found
        split at around
        · exact function c around
        · cases around
    · split
      · cases around : code.node.enclosingFunction? with
        | none => rfl
        | some c =>
            apply qualifyInner_congr
            rintro _ ⟨⟩
            exact function c around
      · rfl

/-- Contexts that agree on the module and on all nodes but the containers within a given one. -/
structure AgreeOutside (file : Opened) (outer : Cursor) (a b : Context FileNode Doclet) : Prop where
  module : a.module = b.module
  lookup : ∀ c ∈ nodes file.source.tree, ¬ Within outer c →
    lookup a (file.nodeOf c) = lookup b (file.nodeOf c)

section Agreement

variable {file : Opened} {outer : Cursor} {a b : Context FileNode Doclet}

theorem AgreeOutside.symm (agree : AgreeOutside file outer a b) : AgreeOutside file outer b a :=
  ⟨agree.module.symm, fun c member outside => (agree.lookup c member outside).symm⟩

theorem AgreeOutside.trans {c : Context FileNode Doclet} (first : AgreeOutside file outer a b)
    (second : AgreeOutside file outer b c) : AgreeOutside file outer a c :=
  ⟨first.module.trans second.module, fun d member outside =>
    (first.lookup d member outside).trans (second.lookup d member outside)⟩

theorem AgreeOutside.enter (agree : AgreeOutside file outer a b) (doclet : Doclet) :
    AgreeOutside file outer (enter a doclet) (enter b doclet) := by
  unfold Extraction.enter
  split
  · exact ⟨rfl, agree.lookup⟩
  · exact agree

theorem AgreeOutside.registerAll (agree : AgreeOutside file outer a b) (nodes : List FileNode)
    (doclet : Doclet) :
    AgreeOutside file outer (registerAll a nodes doclet) (registerAll b nodes doclet) where
  module := by rw [module_registerAll, module_registerAll, agree.module]
  lookup := by
    intro c member outside
    rw [lookup_registerAll, lookup_registerAll, agree.lookup c member outside]

def Outcome.NoModule (outcome : Outcome) : Prop :=
  ∀ documented, outcome.documented = some documented → documented.doclet.kind ≠ "module"

theorem enter_of_ne {doclet : Doclet} (other : doclet.kind ≠ "module")
    (context : Context FileNode Doclet) : enter context doclet = context :=
  if_neg fun same => other (eq_of_beq same)

theorem Step.same_of_nil {outcome : Outcome} (step : Step file a b outcome [])
    (noModule : outcome.NoModule) : b = a := by
  cases step with
  | dropped _ _ same => exact same
  | documented documented gives _ registered =>
      rw [registered, enter_of_ne (noModule documented gives)]
      rfl

/-- A step that registers containers within a node and is no module changes nothing outside. -/
theorem Step.agreeOutside (distinct : file.source.tree.Distinct) {outcome : Outcome}
    {registered : List Cursor} (step : Step file a b outcome registered)
    (within : ∀ c ∈ registered, c ∈ nodes file.source.tree ∧ Within outer c)
    (noModule : outcome.NoModule) : AgreeOutside file outer b a where
  module := by
    cases step with
    | dropped _ _ same => rw [same]
    | documented documented gives _ same =>
        rw [same, enter_of_ne (noModule documented gives), module_registerAll]
  lookup := by
    intro c member outside
    apply step.lookup_other
    rw [mem_map_nodeOf_iff distinct (fun d among => (within d among).1) member]
    exact fun among => outside (within c among).2

end Agreement

theorem kind_nameAt (context : Context FileNode Doclet) (file : Opened) (code? : Option Code)
    (doclet : Doclet) : (nameAt context file code? doclet).1.kind = doclet.kind := by
  unfold nameAt
  split
  · rfl
  · cases code? with
    | some code => exact Doclet.value_set_other _ _ (by decide)
    | none =>
        dsimp only
        split
        · exact Doclet.value_set_other _ _ (by decide)
        · rfl

theorem isVirtual_inferredKind (code : Code) : isVirtual code.inferredKind = false := by
  unfold Code.inferredKind
  split
  · decide
  · split
    · decide
    · split <;> decide

theorem ordinary_of_codeOf {source : Source} {comment : Cursor} {code : Code}
    (decorates : codeOf source comment = some code) :
    isVirtual (docletOf source comment).kind = false := by
  rw [Bool.eq_false_iff]
  intro virtual
  rw [codeOf, codeFor, virtual, if_pos rfl] at decorates
  cases decorates

theorem ordinary_kindDoclet {source : Source} {comment : Cursor} {code : Code}
    (decorates : codeOf source comment = some code) :
    isVirtual (kindDoclet (some code) (docletOf source comment)).kind = false := by
  rw [kind_kindDoclet]
  split
  · exact isVirtual_inferredKind code
  · exact ordinary_of_codeOf decorates

theorem kind_documentAt {kinds : KindTable} {file : Opened} {code : Code} {doclet : Doclet}
    {context : Context FileNode Doclet} {documented : Documented}
    (gives : (documentAt kinds file (some code) doclet context).1.documented = some documented) :
    documented.doclet.kind =
      if doclet.kind.isEmpty then code.inferredKind else doclet.kind := by
  have keeps := kind_nameAt context file (some code) doclet
  unfold documentAt at gives
  generalize nameAt context file (some code) doclet = found at keeps gives
  obtain ⟨named, remark⟩ := found
  dsimp only at keeps gives
  split at gives
  · cases gives
  · obtain rfl := Option.some.inj gives
    rw [kind_resolve, kind_kindDoclet, keeps]

/-- Where there is code, no module is entered: a module is never joined with code. -/
theorem noModule_of_code (kinds : KindTable) {file : Opened} {comment : Cursor} {code : Code}
    (decorates : codeOf file.source comment = some code) (context : Context FileNode Doclet) :
    (documentComment kinds file comment context).1.NoModule := by
  intro documented gives isModule
  have ordinary := ordinary_kindDoclet decorates
  unfold documentComment at gives
  rw [decorates] at gives
  dsimp only at gives
  split at gives
  · cases gives
  · rw [kind_kindDoclet, ← kind_documentAt gives, isModule] at ordinary
    exact absurd ordinary (by decide)

section Comment

variable (kinds : KindTable) {file : Opened} {comment outer : Cursor}
variable {a b : Context FileNode Doclet} (agree : AgreeOutside file outer a b)
include agree

theorem documentAt_congr {code? : Option Code} {doclet : Doclet}
    (qualified : ∀ code, code? = some code →
      qualifyAt a file code doclet = qualifyAt b file code doclet) :
    (documentAt kinds file code? doclet a).1 = (documentAt kinds file code? doclet b).1 ∧
      AgreeOutside file outer (documentAt kinds file code? doclet a).2
        (documentAt kinds file code? doclet b).2 := by
  have named : nameAt a file code? doclet = nameAt b file code? doclet := by
    cases code? with
    | none => rfl
    | some code => simp only [nameAt, qualified code rfl]
  unfold documentAt
  rw [named, agree.module]
  generalize nameAt b file code? doclet = found
  obtain ⟨doclet, remark⟩ := found
  dsimp only
  generalize resolve kinds b.module (kindDoclet code? doclet) = resolved
  by_cases empty : resolved.path.isEmpty = true
  · rw [if_pos empty, if_pos empty]
    exact ⟨rfl, agree⟩
  · rw [if_neg empty, if_neg empty]
    exact ⟨rfl, (agree.enter resolved.doclet).registerAll _ resolved.doclet⟩

/-- Comments whose code is qualified alike have the same outcome, and contexts go on agreeing. -/
theorem documentComment_congr
    (qualified : ∀ code, codeOf file.source comment = some code →
      qualifyAt a file code (docletOf file.source comment) =
        qualifyAt b file code (docletOf file.source comment)) :
    (documentComment kinds file comment a).1 = (documentComment kinds file comment b).1 ∧
      AgreeOutside file outer (documentComment kinds file comment a).2
        (documentComment kinds file comment b).2 := by
  unfold documentComment
  dsimp only
  by_cases folded : isFolded (codeOf file.source comment) = true
  · rw [if_pos folded, if_pos folded]
    exact ⟨rfl, agree⟩
  · rw [if_neg folded, if_neg folded]
    exact documentAt_congr kinds agree qualified

variable (distinct : file.source.tree.Distinct) (member : comment ∈ nodes file.source.tree)
include distinct member

theorem qualifyAt_outside (outside : outer ∉ comment.ancestors) {code : Code}
    (decorates : codeOf file.source comment = some code) (doclet : Doclet) :
    qualifyAt a file code doclet = qualifyAt b file code doclet := by
  obtain ⟨sibling, follows, siblingMember, starts⟩ :=
    codeOf_foundAfter distinct member code decorates
  apply qualifyAt_congr
  intro around isAround
  have codeMember := mem_nodes_of_mem_below siblingMember starts.node
  refine agree.lookup around (mem_below_of_mem_ancestors codeMember isAround).1 fun within => ?_
  -- a container around the code is around the comment, and the node around both
  have aroundSibling := starts.around around isAround within.container
  rw [ancestors_of_mem_laterSiblings follows] at aroundSibling
  exact outside (within.not_around aroundSibling)

end Comment

theorem documentComment_inside (kinds : KindTable) {file : Opened} {comment outer : Cursor}
    (distinct : file.source.tree.Distinct) (member : comment ∈ nodes file.source.tree)
    (inside : outer ∈ comment.ancestors) {code : Code}
    (decorates : codeOf file.source comment = some code) (context : Context FileNode Doclet) :
    AgreeOutside file outer (documentComment kinds file comment context).2 context := by
  obtain ⟨sibling, follows, siblingMember, starts⟩ :=
    codeOf_foundAfter distinct member code decorates
  obtain ⟨registered, among, step⟩ := documentComment_step kinds file comment context
  refine step.agreeOutside distinct ?_ (noModule_of_code kinds decorates context)
  intro c isRegistered
  have contained := among isRegistered
  have below : c ∈ sibling.below := by
    apply mem_below_of_containersAt ?_ contained
    rintro _ again
    cases decorates.symm.trans again
    exact starts.toUnder
  -- the sibling stands in the node too, and the container at or below it
  rw [← ancestors_of_mem_laterSiblings follows] at inside
  have siblingBelow := (mem_below_of_mem_ancestors siblingMember inside).2
  exact ⟨mem_nodes_of_mem_below siblingMember below, isContainer_of_mem_containersAt contained,
    (Cursor.below_sublist siblingBelow).subset below⟩

/-- A comment keeps contexts in agreement, and has one outcome in both if it stands outside. -/
theorem documentComment_agree (kinds : KindTable) {file : Opened} {outer comment : Cursor}
    {a b : Context FileNode Doclet} (distinct : file.source.tree.Distinct)
    (agree : AgreeOutside file outer a b) (member : comment ∈ nodes file.source.tree) :
    AgreeOutside file outer (documentComment kinds file comment a).2
        (documentComment kinds file comment b).2 ∧
      (outer ∉ comment.ancestors →
        (documentComment kinds file comment a).1 = (documentComment kinds file comment b).1) := by
  by_cases inside : outer ∈ comment.ancestors
  · refine ⟨?_, fun outside => absurd inside outside⟩
    cases found : codeOf file.source comment with
    | none =>
        -- without code nothing is looked up
        refine (documentComment_congr kinds agree fun code decorates => ?_).2
        rw [found] at decorates
        cases decorates
    | some code =>
        have first := documentComment_inside kinds distinct member inside found a
        have second := documentComment_inside kinds distinct member inside found b
        exact (first.trans agree).trans second.symm
  · have congr := documentComment_congr kinds agree fun code decorates =>
      qualifyAt_outside agree distinct member inside decorates (docletOf file.source comment)
    exact ⟨congr.2, fun _ => congr.1⟩

end SymbolPath.Extraction
