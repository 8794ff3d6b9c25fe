import SymbolPath.Extraction

/-!
What the comments of a file register. Processing a comment registers some nodes of its file, all for
one doclet, and does nothing else to the registry; so whatever it does not register keeps the doclet
it had, and nodes of other files do so in any case.
-/

namespace SymbolPath.Extraction

open Syntax Resolution

def registerAll (context : Context FileNode Doclet) (nodes : List FileNode) (doclet : Doclet) :
    Context FileNode Doclet :=
  nodes.foldl (fun context node => context.register (some node) doclet) context

theorem lookup_register (context : Context FileNode Doclet) (node other : FileNode)
    (doclet : Doclet) :
    lookup (context.register (some node) doclet) other =
      if other = node then some doclet else lookup context other :=
  context.lookup_register node other doclet

theorem lookup_registerAll (context : Context FileNode Doclet) (nodes : List FileNode)
    (doclet : Doclet) (node : FileNode) :
    lookup (registerAll context nodes doclet) node =
      if node ∈ nodes then some doclet else lookup context node := by
  induction nodes generalizing context with
  | nil => simp [registerAll]
  | cons first rest ih =>
      have step : registerAll context (first :: rest) doclet =
          registerAll (context.register (some first) doclet) rest doclet := rfl
      rw [step, ih, lookup_register]
      by_cases later : node ∈ rest
      · simp [later]
      · by_cases here : node = first <;> simp [later, here]

theorem module_registerAll (context : Context FileNode Doclet) (nodes : List FileNode)
    (doclet : Doclet) : (registerAll context nodes doclet).module = context.module := by
  induction nodes generalizing context with
  | nil => rfl
  | cons first rest ih => exact ih (context.register (some first) doclet)

theorem lookup_of_registry {a b : Context FileNode Doclet} (same : a.registry = b.registry)
    (node : FileNode) : lookup a node = lookup b node := by
  simp only [lookup, Context.lookup, same]

/-- The nodes that the doclet of some code is registered for: the value of the code, if it may
contain others, and with a class its constructor. -/
def containers (source : Source) (code : Option Code) : Browse (List Cursor) :=
  match code.bind Code.value with
  | none => pure []
  | some value =>
    if isContainer value.kind then
      if isClass value.kind then
        (fun method => value :: method.toList) <$> constructorOf source value
      else pure [value]
    else pure []

theorem registerValue_eq (file : Opened) (code : Option Code) (doclet : Doclet)
    (context : Context FileNode Doclet) :
    registerValue file code doclet context =
      (fun nodes => registerAll context (nodes.map file.nodeOf) doclet) <$>
        containers file.source code := by
  unfold registerValue containers
  cases code.bind Code.value with
  | none => rfl
  | some value =>
      by_cases container : isContainer value.kind = true
      · by_cases isClass : isClass value.kind = true
        · simp only [container, isClass, if_true, Functor.map_map]
          rw [map_eq_pure_bind]
          congr 1
          funext method
          cases method <;> rfl
        · simp only [container, if_true, isClass]
          rfl
      · simp only [container]
        rfl

theorem value_kindDoclet (code? : Option Code) (doclet : Doclet) {title : Text}
    (other : "isa" ≠ title) : (kindDoclet code? doclet).value title = doclet.value title := by
  cases code? with
  | none => rfl
  | some code =>
      simp only [kindDoclet]
      split
      · exact doclet.value_set_other _ other
      · rfl

theorem kind_kindDoclet (code : Code) (doclet : Doclet) :
    (kindDoclet (some code) doclet).kind =
      if doclet.kind.isEmpty then code.inferredKind else doclet.kind := by
  simp only [kindDoclet]
  split
  · exact doclet.value_set_same _ _
  · rfl

theorem kindDoclet_set_name (code : Code) (doclet : Doclet) (name : Text) :
    (kindDoclet (some code) (doclet.set "name" name)).name = name ∧
      (kindDoclet (some code) (doclet.set "name" name)).memberof = doclet.memberof ∧
      (kindDoclet (some code) (doclet.set "name" name)).kind =
        (kindDoclet (some code) doclet).kind := by
  have kind : (doclet.set "name" name).kind = doclet.kind :=
    Doclet.value_set_other _ _ (by decide)
  refine ⟨?_, ?_, ?_⟩
  · exact (value_kindDoclet _ _ (by decide)).trans (Doclet.value_set_same _ _ _)
  · exact (value_kindDoclet _ _ (by decide)).trans (Doclet.value_set_other _ _ (by decide))
  · rw [kind_kindDoclet, kind_kindDoclet, kind]

theorem ne_file_of_ordinary {kind : Text} (ordinary : isVirtual kind = false) : kind ≠ "file" := by
  rintro rfl
  exact absurd ordinary (by decide)

theorem not_isFolded_of_name {code : Code} (other : code.name ≠ "constructor") :
    isFolded (some code) = false := by
  have different : (code.name == ("constructor" : Text)) = false := beq_eq_false_iff_ne.mpr other
  simp only [isFolded, Option.any_some, different, Bool.and_false]

theorem not_isFolded_of_free {code : Code} (free : code.isMember = false) :
    isFolded (some code) = false := by
  simp only [isFolded, Option.any_some, free, Bool.false_and]

def enter (context : Context FileNode Doclet) (doclet : Doclet) : Context FileNode Doclet :=
  if doclet.kind == ("module" : Text) then context.setModule doclet.path else context

/-- What processing a comment can do: drop the comment and leave the context as it is, or give a
doclet with a path, which is registered for some nodes of the file and may change the module. -/
inductive Step (file : Opened) (before after : Context FileNode Doclet) (outcome : Outcome)
    (nodes : List Cursor) : Prop
  | dropped (nothing : outcome.documented = none) (none : nodes = []) (same : after = before)
  | documented (documented : Documented) (gives : outcome.documented = some documented)
      (hasPath : documented.doclet.path ≠ [])
      (registered : after =
        registerAll (enter before documented.doclet) (nodes.map file.nodeOf) documented.doclet)

theorem Step.lookup_other {file : Opened} {before after : Context FileNode Doclet}
    {outcome : Outcome} {nodes : List Cursor} (step : Step file before after outcome nodes)
    {node : FileNode} (other : node ∉ nodes.map file.nodeOf) :
    lookup after node = lookup before node := by
  cases step with
  | dropped _ _ same => rw [same]
  | documented documented _ _ registered =>
      have entered : (enter before documented.doclet).registry = before.registry := by
        unfold enter
        split <;> rfl
      rw [registered, lookup_registerAll, if_neg other, lookup_of_registry entered]

theorem Step.lookup_cases {file : Opened} {before after : Context FileNode Doclet}
    {outcome : Outcome} {nodes : List Cursor} (step : Step file before after outcome nodes)
    (node : FileNode) :
    lookup after node = lookup before node ∨
      ∃ documented, outcome.documented = some documented ∧
        lookup after node = some documented.doclet := by
  by_cases among : node ∈ nodes.map file.nodeOf
  · cases step with
    | dropped _ _ same => exact .inl (same ▸ rfl)
    | documented documented gives _ registered =>
        refine .inr ⟨documented, gives, ?_⟩
        rw [registered, lookup_registerAll, if_pos among]
  · exact .inl (step.lookup_other among)

theorem documentCode_eq (kinds : KindTable) (file : Opened) (code : Option Code) (doclet : Doclet)
    (progress : Progress) :
    (documentCode kinds file code doclet).run progress =
      let named : (Doclet × Option Remark) × Sightings :=
        (nameDoclet progress.context file code doclet).run progress.seen
      let kinded := kindDoclet code named.1.1
      let resolved := resolve kinds progress.context.module kinded
      let notes := (named.1.2.map Note.remark).toList ++
        [.resolved resolved.doclet.name kinded.kind resolved.path]
      if resolved.path.isEmpty then
        (⟨none, notes ++ [.namesNothing file.source.location doclet.line]⟩,
          ⟨progress.context, named.2⟩)
      else
        let nodes : List Cursor × Sightings := (containers file.source code).run named.2
        (⟨some ⟨resolved.doclet, code.map fun code => code.node.key⟩, notes⟩,
          ⟨registerAll (enter progress.context resolved.doclet) (nodes.1.map file.nodeOf)
            resolved.doclet, nodes.2⟩) := by
  unfold documentCode
  dsimp only [StateT.run]
  generalize nameDoclet progress.context file code doclet progress.seen = found
  obtain ⟨⟨named, remark⟩, seen⟩ := found
  dsimp only
  generalize kindDoclet code named = kinded
  have written := path_of_resolve kinds progress.context.module kinded
  generalize resolve kinds progress.context.module kinded = resolved at written ⊢
  by_cases empty : resolved.path.isEmpty = true
  · rw [if_pos empty, if_pos empty]
  · have hasPath : resolved.path ≠ [] := by simpa using empty
    -- a module is entered under the path that was written into its doclet
    rw [if_neg empty, if_neg empty, registerValue_eq, enter, written hasPath]
    rfl

def registeredFor (kinds : KindTable) (file : Opened) (code : Option Code) (doclet : Doclet)
    (progress : Progress) : List Cursor :=
  let named : (Doclet × Option Remark) × Sightings :=
    (nameDoclet progress.context file code doclet).run progress.seen
  if (resolve kinds progress.context.module (kindDoclet code named.1.1)).path.isEmpty then []
  else ((containers file.source code).run named.2).1

theorem documentCode_step (kinds : KindTable) (file : Opened) (code : Option Code)
    (doclet : Doclet) (progress : Progress) :
    Step file progress.context ((documentCode kinds file code doclet).run progress).2.context
      ((documentCode kinds file code doclet).run progress).1
      (registeredFor kinds file code doclet progress) := by
  rw [documentCode_eq]
  unfold registeredFor
  dsimp only
  generalize (nameDoclet progress.context file code doclet).run progress.seen = named
  generalize kindDoclet code named.1.1 = kinded
  have written := path_of_resolve kinds progress.context.module kinded
  generalize resolve kinds progress.context.module kinded = resolved at written ⊢
  by_cases empty : resolved.path.isEmpty = true
  · rw [if_pos empty, if_pos empty]
    exact .dropped rfl rfl rfl
  · have hasPath : resolved.path ≠ [] := by simpa using empty
    rw [if_neg empty, if_neg empty]
    exact .documented ⟨resolved.doclet, code.map fun code => code.node.key⟩ rfl
      (by rwa [written hasPath]) rfl

def codeFor (source : Source) (comment : Cursor) (doclet : Doclet) : Browse (Option Code) :=
  if isVirtual doclet.kind then pure none else decorated source comment

def docletOf (source : Source) (comment : Cursor) : Doclet :=
  Doclet.ofComment (source.text comment) (source.line comment)

theorem processComment_eq (kinds : KindTable) (file : Opened) (comment : Cursor)
    (progress : Progress) :
    (processComment kinds file comment).run progress =
      let settled : Cursor × Sightings := (settle comment).run progress.seen
      let doclet := docletOf file.source settled.1
      let code : Option Code × Sightings :=
        (codeFor file.source settled.1 doclet).run settled.2
      if isFolded code.1 then
        (⟨none, [.folded file.source.location (file.source.line settled.1)]⟩,
          ⟨progress.context, code.2⟩)
      else (documentCode kinds file code.1 doclet).run ⟨progress.context, code.2⟩ := by
  unfold processComment codeFor docletOf
  dsimp only [StateT.run]
  generalize settle comment progress.seen = settled
  obtain ⟨comment, seen⟩ := settled
  dsimp only
  generalize Doclet.ofComment (file.source.text comment) (file.source.line comment) = doclet
  by_cases virtual : isVirtual doclet.kind = true
  · simp only [if_pos virtual]
    rfl
  · simp only [if_neg virtual]

def registeredBy (kinds : KindTable) (file : Opened) (comment : Cursor) (progress : Progress) :
    List Cursor :=
  let settled : Cursor × Sightings := (settle comment).run progress.seen
  let doclet := docletOf file.source settled.1
  let code : Option Code × Sightings := (codeFor file.source settled.1 doclet).run settled.2
  if isFolded code.1 then []
  else registeredFor kinds file code.1 doclet ⟨progress.context, code.2⟩

theorem processComment_step (kinds : KindTable) (file : Opened) (comment : Cursor)
    (progress : Progress) :
    Step file progress.context ((processComment kinds file comment).run progress).2.context
      ((processComment kinds file comment).run progress).1
      (registeredBy kinds file comment progress) := by
  rw [processComment_eq]
  unfold registeredBy
  dsimp only
  generalize (settle comment).run progress.seen = settled
  generalize (codeFor file.source settled.1 (docletOf file.source settled.1)).run settled.2 = code
  by_cases folded : isFolded code.1 = true
  · rw [if_pos folded, if_pos folded]
    exact .dropped rfl rfl rfl
  · rw [if_neg folded, if_neg folded]
    exact documentCode_step kinds file code.1 _ ⟨progress.context, code.2⟩

theorem key_settle (c : Cursor) (seen : Sightings) : ((settle c).run seen).1.key = c.key := by
  simp only [settle, StateT.run]
  cases found : seen.find? c.key with
  | none => rfl
  | some first =>
      have key : first.key = c.key := by simpa using List.find?_some found
      exact key

theorem line_of_key (source : Source) {c d : Cursor} (same : c.key = d.key) :
    source.line c = source.line d := by
  have start : c.focus.start = d.focus.start := congrArg Key.start same
  unfold Source.line
  rw [start]

theorem docletOf_of_key (source : Source) {c d : Cursor} (same : c.key = d.key) :
    docletOf source c = docletOf source d := by
  have start : c.focus.start = d.focus.start := congrArg Key.start same
  have stop : c.focus.stop = d.focus.stop := congrArg Key.stop same
  unfold docletOf Source.text
  rw [line_of_key source same, start, stop]

theorem processAll_cons (kinds : KindTable) (file : Opened) (comment : Cursor) (rest : List Cursor)
    (progress : Progress) :
    (processAll kinds file (comment :: rest)).run progress =
      let first := (processComment kinds file comment).run progress
      let others := (processAll kinds file rest).run first.2
      (first.1 :: others.1, others.2) := by
  rw [processAll, StateT.run_bind]
  generalize (processComment kinds file comment).run progress = first
  rfl

def stateAfter (kinds : KindTable) (file : Opened) (comments : List Cursor) (progress : Progress) :
    Progress :=
  ((processAll kinds file comments).run progress).2

theorem stateAfter_nil (kinds : KindTable) (file : Opened) (progress : Progress) :
    stateAfter kinds file [] progress = progress := rfl

theorem stateAfter_cons (kinds : KindTable) (file : Opened) (comment : Cursor) (rest : List Cursor)
    (progress : Progress) :
    stateAfter kinds file (comment :: rest) progress =
      stateAfter kinds file rest ((processComment kinds file comment).run progress).2 := by
  rw [stateAfter, processAll_cons]
  rfl

theorem processAll_append (kinds : KindTable) (file : Opened) (first second : List Cursor)
    (progress : Progress) :
    (processAll kinds file (first ++ second)).run progress =
      let others := (processAll kinds file second).run (stateAfter kinds file first progress)
      (((processAll kinds file first).run progress).1 ++ others.1, others.2) := by
  induction first generalizing progress with
  | nil => rfl
  | cons comment rest ih =>
      rw [List.cons_append, processAll_cons, processAll_cons, stateAfter_cons]
      dsimp only
      rw [ih]
      rfl

theorem stateAfter_append (kinds : KindTable) (file : Opened) (first second : List Cursor)
    (progress : Progress) :
    stateAfter kinds file (first ++ second) progress =
      stateAfter kinds file second (stateAfter kinds file first progress) := by
  rw [stateAfter, processAll_append]
  rfl

theorem lookup_stateAfter (kinds : KindTable) (file : Opened) (comments : List Cursor)
    (progress : Progress) (node : FileNode)
    (never : ∀ between later rest, comments = between ++ later :: rest →
      node ∉ (registeredBy kinds file later
        (stateAfter kinds file between progress)).map file.nodeOf) :
    lookup (stateAfter kinds file comments progress).context node =
      lookup progress.context node := by
  induction comments generalizing progress with
  | nil => rfl
  | cons comment rest ih =>
      have first := (processComment_step kinds file comment progress).lookup_other
        (never [] comment rest rfl)
      -- what the comments after the first register is counted from the state that it leaves
      rw [stateAfter_cons, ← first]
      apply ih
      intro between later others split
      have registers := never (comment :: between) later others (by rw [split]; rfl)
      rwa [stateAfter_cons] at registers

def Session.after (session : Session) (source : Source) (comments : List Cursor) : Progress :=
  stateAfter session.kinds ⟨session.filesParsed, source⟩ comments
    ⟨session.context.setModule [], Sightings.empty⟩

theorem Session.extractSource_context (session : Session) (source : Source) :
    (session.extractSource source).1.context =
      (session.after source (docComments source)).context := rfl

end SymbolPath.Extraction
