import SymbolPath.Proofs.Extraction.Registration
import SymbolPath.Proofs.Resolution.Nameless

/-!
Comments without a name. What a comment says and what is read off its code make up a doclet, which is
then resolved. A comment whose doclet has no name is dropped, and leaves no trace, only if there is
no container and no scheme either. If there is one, the doclet is listed under a path that names
nothing, and that of a module becomes the current module.
-/

namespace SymbolPath.Extraction

open Syntax Resolution

def completed (file : Opened) (code : Option Code) (doclet : Doclet) (progress : Progress) : Doclet :=
  kindDoclet code ((nameDoclet progress.context file code doclet).run progress.seen).1.1

/-- The doclet of a comment as it is handed over to resolution, unless the comment is folded into
its class. -/
def handedOver (file : Opened) (comment : Cursor) (progress : Progress) : Option Doclet :=
  let settled : Cursor × Sightings := (settle comment).run progress.seen
  let doclet := docletOf file.source settled.1
  let code : Option Code × Sightings := (codeFor file.source settled.1 doclet).run settled.2
  if isFolded code.1 then none
  else some (completed file code.1 doclet ⟨progress.context, code.2⟩)

/-- What comes of a doclet with the path that it resolves to: without one it is dropped, and with one
it is listed and may change the module. -/
inductive Fate (given : Doclet) (path : Text) (before after : Context FileNode Doclet)
    (outcome : Outcome) : Prop
  | dropped (empty : path = []) (nothing : outcome.documented = none) (same : after = before)
  | listed (named : path ≠ []) (gives : outcome.documented ≠ none)
      (module : after.module =
        if given.kind == ("module" : Text) then path else before.module)

theorem documentCode_fate (kinds : KindTable) (file : Opened) (code : Option Code)
    (doclet : Doclet) (progress : Progress) :
    Fate (completed file code doclet progress)
      (resolve kinds progress.context.module (completed file code doclet progress)).path
      progress.context ((documentCode kinds file code doclet).run progress).2.context
      ((documentCode kinds file code doclet).run progress).1 := by
  rw [documentCode_eq]
  unfold completed
  generalize (nameDoclet progress.context file code doclet).run progress.seen = named
  dsimp only
  generalize kindDoclet code named.1.1 = given
  have kind : (resolve kinds progress.context.module given).doclet.kind = given.kind :=
    kind_resolve kinds _ given
  have path := path_of_resolve kinds progress.context.module given
  generalize resolve kinds progress.context.module given = resolved at kind path ⊢
  by_cases empty : resolved.path = []
  · rw [if_pos (List.isEmpty_iff.mpr empty)]
    exact .dropped empty rfl rfl
  · rw [if_neg (by simpa using empty)]
    refine .listed empty nofun ?_
    dsimp only
    rw [module_registerAll, enter, kind, path empty]
    split <;> rfl

theorem processComment_fate (kinds : KindTable) (file : Opened) (comment : Cursor)
    (progress : Progress) {given : Doclet} (handed : handedOver file comment progress = some given) :
    Fate given (resolve kinds progress.context.module given).path
      progress.context ((processComment kinds file comment).run progress).2.context
      ((processComment kinds file comment).run progress).1 := by
  rw [processComment_eq]
  unfold handedOver at handed
  generalize (settle comment).run progress.seen = settled at handed ⊢
  dsimp only at handed ⊢
  generalize docletOf file.source settled.1 = doclet at handed ⊢
  generalize (codeFor file.source settled.1 doclet).run settled.2 = code at handed ⊢
  by_cases folded : isFolded code.1 = true
  · rw [if_pos folded] at handed
    cases handed
  · rw [if_neg folded] at handed ⊢
    cases handed
    exact documentCode_fate kinds file code.1 doclet ⟨progress.context, code.2⟩

/-- A doclet resolves to no path, and is left as it was, exactly if it has neither a word for a name
nor a container nor a scheme. A comment without a name is dropped exactly if it has neither a
container nor a scheme, and nothing changes with it then; else its container and its scheme make a
path, and that of a module becomes the current module. -/
theorem nameless_dropped_iff (kinds : KindTable) :
    (∀ (module : Text) (doclet : Doclet),
      let resolved := resolve kinds module doclet
      (resolved.path = [] ↔
          Nameless doclet ∧ doclet.memberof = [] ∧ kinds.isDocspace doclet.kind = false) ∧
        (resolved.path = [] → resolved.doclet = doclet) ∧
        (Nameless doclet → resolved.path = namelessPath kinds doclet)) ∧
    ∀ (file : Opened) (comment : Cursor) (progress : Progress) {given : Doclet},
      handedOver file comment progress = some given → Nameless given →
      let ended := (processComment kinds file comment).run progress
      (ended.1.documented = none ↔
          given.memberof = [] ∧ kinds.isDocspace given.kind = false) ∧
        (ended.1.documented = none → ended.2.context = progress.context) ∧
        (ended.1.documented ≠ none → ended.2.context.module =
          if given.kind == ("module" : Text) then namelessPath kinds given
          else progress.context.module) := by
  constructor
  · intro module doclet resolved
    refine ⟨path_eq_nil_iff kinds module doclet, resolve_of_no_path, fun nameless => ?_⟩
    exact congrArg Resolved.path (resolve_nameless kinds module nameless)
  · intro file comment progress given handed nameless
    have fate := processComment_fate kinds file comment progress handed
    rw [resolve_nameless kinds progress.context.module nameless] at fate
    generalize (processComment kinds file comment).run progress = ended at fate ⊢
    cases fate with
    | dropped empty nothing same =>
        exact ⟨iff_of_true nothing (namelessPath_eq_nil_iff.mp empty), fun _ => same,
          fun listed => absurd nothing listed⟩
    | listed named gives module =>
        exact ⟨iff_of_false gives fun nothing => named (namelessPath_eq_nil_iff.mpr nothing),
          fun nothing => absurd nothing gives, fun _ => module⟩

/-- A comment that tells a function, and one that tells an event, both without a name. -/
theorem nameless_dropped_function :
    let comment (start stop : Nat) : Tree := .node "comment" true start stop none []
    let tree : Tree := .node "program" true 0 29 none [comment 0 16, comment 16 29]
    let file : Opened := ⟨0, ⟨.relative, ["a.js"]⟩, Utf8.encode "/** @function *//** @event */", tree⟩
    let kinds := KindTable.standard
    let progress : Progress := ⟨.empty, Sightings.empty⟩
    let function : Cursor := ⟨comment 0 16, [⟨tree, [comment 16 29]⟩]⟩
    let event : Cursor := ⟨comment 16 29, [⟨tree, []⟩]⟩
    (resolve kinds [] (docletOf file.source function)).doclet = docletOf file.source function ∧
      handedOver file function progress = some (docletOf file.source function) ∧
      Nameless (docletOf file.source function) ∧
      ((processComment kinds file function).run progress).1.documented = none ∧
      handedOver file event progress = some (docletOf file.source event) ∧
      Nameless (docletOf file.source event) ∧
      ((processComment kinds file event).run progress).1.documented ≠ none ∧
      ((processComment kinds file event).run progress).2.context.module = [] := by
  intro comment tree file kinds progress function event
  obtain ⟨resolved, processed⟩ := nameless_dropped_iff kinds
  have functionHanded : handedOver file function progress = some (docletOf file.source function) := by
    decide +kernel
  have functionNameless : Nameless (docletOf file.source function) := by decide +kernel
  have eventHanded : handedOver file event progress = some (docletOf file.source event) := by
    decide +kernel
  have eventNameless : Nameless (docletOf file.source event) := by decide +kernel
  obtain ⟨empty, unchanged, _⟩ := resolved [] (docletOf file.source function)
  obtain ⟨dropped, _, _⟩ := processed file function progress functionHanded functionNameless
  obtain ⟨listed, _, module⟩ := processed file event progress eventHanded eventNameless
  have isListed : ((processComment kinds file event).run progress).1.documented ≠ none :=
    mt listed.mp (by decide +kernel)
  exact ⟨unchanged (empty.mpr (by decide +kernel)), functionHanded, functionNameless,
    dropped.mpr (by decide +kernel), eventHanded, eventNameless, isListed,
    (module isListed).trans (by decide +kernel)⟩

/-- A module without a name is listed, and is the current module from there on. -/
theorem nameless_module_listed :
    let comment : Tree := .node "comment" true 0 14 none []
    let source : Source := ⟨⟨.relative, ["a.js"]⟩, Utf8.encode "/** @module */",
      .node "program" true 0 14 none [comment]⟩
    let session := Session.start KindTable.standard defaultLimit
    ((session.extractSource source).2.documented.map
        fun documented => (documented.doclet.name, documented.doclet.path)) = [(([] : Text), ("module:" : Text))] ∧
      (session.extractSource source).1.context.module = "module:" ∧
      (resolve session.kinds [] ⟨[⟨"memberof", "Foo"⟩], 0⟩).path = "Foo." := by
  decide +kernel

end SymbolPath.Extraction
