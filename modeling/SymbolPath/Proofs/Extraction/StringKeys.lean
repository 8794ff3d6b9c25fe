import SymbolPath.Proofs.Extraction.Shapes
import SymbolPath.Proofs.Resolution.QuotedNames

/-!
Properties of object literals whose keys are string literals. The key gets double quotes and is joined
to the path of the object, so it is one segment whatever separators it contains. It comes out of
resolution as it went in unless there are blanks or prototype segments in it.
-/

namespace SymbolPath.Extraction

open Syntax Resolution

def keyField? (kind : Text) : Option Text :=
  if kind = "pair" then some "key"
  else if kind = "method_definition" then some "name"
  else none

theorem keyField?_of_held {kind : Text}
    (held : kind ∈ [("assignment_expression" : Text), "variable_declarator", "field_definition"]) :
    keyField? kind = none := by
  have none : ∀ kind ∈
      [("assignment_expression" : Text), "variable_declarator", "field_definition"],
      keyField? kind = none := by decide
  exact none kind held

def LiteralKey (source : Source) (code : Code) (content : Text) : Prop :=
  ∃ field key quote, keyField? code.node.kind = some field ∧ code.node.field? field = some key ∧
    key.kind = "string" ∧ source.text key = quote :: (content ++ [quote])

section Literal

variable {source : Source} {code : Code} {content : Text} (shape : Shape source code)
  (literal : LiteralKey source code content)
include shape literal

theorem name_of_literalKey : code.name = Path.quoted content := by
  obtain ⟨field, key, quote, keyed, held, isString, spelled⟩ := literal
  have called : (code.node.field? field).map (keyText source) = some code.name := by
    unfold keyField? at keyed
    cases shape with
    | definition kind _ called _ =>
        have notPair : code.node.kind ≠ "pair" := by
          intro isPair
          rw [isPair] at kind
          revert kind
          decide
        rw [if_neg notPair] at keyed
        split at keyed
        · cases keyed
          exact called
        · cases keyed
    | pair kind _ called _ =>
        rw [if_pos kind] at keyed
        cases keyed
        exact called
    | held _ kind _ => cases (keyField?_of_held kind).symm.trans keyed
  rw [held, Option.map_some, Option.some.injEq] at called
  rw [← called, keyText, isString, spelled]
  simp [Path.quoted]

theorem not_isMember_of_literalKey {object : Cursor} (within : code.node.parent? = some object)
    (inObject : isObject object.kind = true) : code.isMember = false := by
  cases shape with
  | definition _ _ _ member =>
      have inClass : (object.kind == ("class_body" : Text)) = false := by
        rw [eq_of_beq inObject]
        rfl
      rw [member, isMethodOfClass, within, Option.any_some, inClass, Bool.and_false]
  | pair _ _ _ free => exact free
  | held _ kind _ =>
      obtain ⟨field, _, _, keyed, _⟩ := literal
      cases (keyField?_of_held kind).symm.trans keyed

end Literal

theorem qualify_in_object {context : Context FileNode Doclet} {file : Opened} {code : Code}
    {object : Cursor} {doc : Doclet} (free : code.isMember = false)
    (within : code.node.parent? = some object) (inObject : isObject object.kind = true)
    (registered : lookup context (file.nodeOf object) = some doc) (given : doc.path ≠ [])
    (noPrototype : ¬ Path.HasPrototype doc.path) (doclet : Doclet) :
    Always (qualify context file code doclet) fun qualified =>
      qualified.name = Path.join doc.path code.name := by
  have notEmpty : doc.path.isEmpty = false := by simpa using given
  unfold qualify
  rw [within, free]
  refine (always_settle? (some object)).andThen fun parent stands => ?_
  cases parent with
  | none => cases stands
  | some parent =>
      have same : parent.key = object.key := Option.some.inj stands
      have sameKind : parent.kind = object.kind := congrArg Key.kind same
      have kind : isObject parent.kind = true := sameKind.symm ▸ inObject
      have node : file.nodeOf parent = file.nodeOf object := congrArg (FileNode.mk file.number) same
      simp only [Option.any_some, kind, Bool.or_true, if_true, Bool.false_eq_true, if_false,
        Option.map_some, node]
      refine Always.bind fun function => Always.pure ?_
      simp only [qualifyThis, registered, Path.foldPrototype_of_absent noPrototype, notEmpty,
        Bool.false_eq_true, if_false]

structure NamedIn (kinds : KindTable) (source : Source) (comment : Cursor) (seen : Sightings)
    (code : Code) : Prop where
  decorates : (codeIn source comment seen).1 = some code
  unnamed : (docletOf source comment).name = []
  untagged : (docletOf source comment).memberof = []
  ordinary : isVirtual (kindDoclet (some code) (docletOf source comment)).kind = false
  noSpace : kinds.isDocspace (kindDoclet (some code) (docletOf source comment)).kind = false

structure InObject (context : Context FileNode Doclet) (file : Opened) (code : Code)
    (object : Cursor) (doc : Doclet) : Prop where
  within : code.node.parent? = some object
  literal : isObject object.kind = true
  registered : lookup context (file.nodeOf object) = some doc

/-- A path of one word, without quotes and prototype segments. -/
structure PlainPath (path : Text) : Prop where
  noBlank : ∀ c ∈ path, Text.isBlank c = false
  noQuote : '"' ∉ path
  noPrototype : ¬ Path.HasPrototype path

theorem processComment_literal {kinds : KindTable} {file : Opened} {comment : Cursor}
    {progress : Progress} {code : Code}
    (named : NamedIn kinds file.source comment progress.seen code) {content : Text}
    (literal : LiteralKey file.source code content) (quotable : Path.Quotable content)
    {object : Cursor} {doc : Doclet} (inside : InObject progress.context file code object doc)
    (given : doc.path ≠ []) (plain : PlainPath doc.path) (noModule : progress.context.module = []) :
    ∃ documented,
      ((processComment kinds file comment).run progress).1.documented = some documented ∧
      (documented.doclet.path = Path.join doc.path (Path.quoted content) ∧
          documented.doclet.name = Path.quoted content ↔
        (∀ c ∈ content, Text.isBlank c = false) ∧ ¬ Path.HasPrototype content) := by
  have shape : Shape file.source code := shape_of_codeIn named.decorates
  -- code in an object literal is no member of a class, so its comment is not folded
  have free := not_isMember_of_literalKey shape literal inside.within inside.literal
  have qualified : qualifiedIn file comment code progress =
      Path.join doc.path (Path.quoted content) := by
    rw [← name_of_literalKey shape literal]
    exact qualify_in_object free inside.within inside.literal inside.registered given
      plain.noPrototype _ _
  have documents := @processComment_of_path kinds file comment progress code named.decorates
    (not_isFolded_of_free free) named.unnamed
  dsimp only at documents
  rw [qualified, noModule] at documents
  obtain ⟨name, container, kind⟩ := kindDoclet_set_name code (docletOf file.source comment)
    (Path.join doc.path (Path.quoted content))
  have hasPath := @path_ne_nil_of_quoted doc.path content given kinds _ name
  obtain ⟨documented, gives, resolved⟩ := documents hasPath
  refine ⟨documented, gives, ?_⟩
  rw [resolved, path_of_resolve _ _ _ hasPath]
  apply resolve_quoted_iff given plain.noPrototype plain.noBlank plain.noQuote quotable name
  · exact container.trans named.untagged
  · apply ne_file_of_ordinary
    rw [kind]
    exact named.ordinary
  · rw [kind]
    exact named.noSpace

/-- A comment on a property whose key is a string literal yields a doclet. Its path is the literal
joined to the path of the object, and its name the literal, exactly if the literal has neither blanks
nor prototype segments. -/
theorem string_key_whole_iff {session : Session} (sound : session.Sound) {source : Source}
    {before after : List Cursor} {comment : Cursor}
    (order : docComments source = before ++ comment :: after) {code : Code}
    (named : NamedIn session.kinds source comment (session.after source before).seen code)
    {content : Text} (literal : LiteralKey source code content) (quotable : Path.Quotable content)
    {object : Cursor} {doc : Doclet}
    (inside : InObject (session.after source before).context ⟨session.filesParsed, source⟩ code
      object doc)
    (plain : PlainPath doc.path) (noModule : (session.after source before).context.module = []) :
    ∃ documented ∈ (session.extractSource source).2.documented,
      (session.turn source before comment).documented = some documented ∧
      (documented.doclet.path = Path.join doc.path (Path.quoted content) ∧
          documented.doclet.name = Path.quoted content ↔
        (∀ c ∈ content, Text.isBlank c = false) ∧ ¬ Path.HasPrototype content) := by
  have given : doc.path ≠ [] := sound.pathed source before object doc inside.registered
  have documents := @processComment_literal session.kinds ⟨session.filesParsed, source⟩ comment
    (session.after source before) code named content literal quotable object doc inside given plain
    noModule
  have listed := @Session.mem_extractSource session source before after comment order
  rw [← Session.turn] at documents listed
  obtain ⟨documented, gives, whole⟩ := documents
  exact ⟨documented, listed gives, gives, whole⟩

/-- A key with separators in it. -/
theorem string_key_whole_separators :
    let key : Tree := .node "string" true 24 31 (some "key") []
    let pair : Tree := .node "pair" true 24 33 none [key, .node "number" true 32 33 (some "value") []]
    let object : Tree := .node "object" true 15 34 (some "value")
      [.node "comment" true 16 24 none [], pair]
    let declarator : Tree := .node "variable_declarator" true 13 34 none
      [.node "identifier" true 13 14 (some "name") [], object]
    let declaration : Tree := .node "lexical_declaration" true 9 34 none [declarator]
    let tree : Tree := .node "program" true 0 34 none
      [.node "comment" true 0 8 none [], declaration]
    let source : Source := ⟨⟨.relative, ["a.js"]⟩,
      Utf8.encode "/** A */\nlet o=\x7b/** B */'a.b#c':1\x7d", tree⟩
    let session := Session.start KindTable.standard defaultLimit
    let owner : Cursor := ⟨object, [⟨declarator, []⟩, ⟨declaration, []⟩, ⟨tree, []⟩]⟩
    let first : Cursor := ⟨.node "comment" true 0 8 none [], [⟨tree, [declaration]⟩]⟩
    let comment : Cursor := ⟨.node "comment" true 16 24 none [], ⟨object, [pair]⟩ :: owner.up⟩
    let node : Cursor := ⟨pair, ⟨object, []⟩ :: owner.up⟩
    let value : Cursor := ⟨.node "number" true 32 33 (some "value") [], ⟨pair, []⟩ :: node.up⟩
    let code : Code := ⟨"\"a.b#c\"", node, some value, false, false⟩
    docComments source = [first] ++ comment :: [] ∧
      NamedIn session.kinds source comment (session.after source [first]).seen code ∧
      LiteralKey source code "a.b#c" ∧
      ∃ documented ∈ (session.extractSource source).2.documented,
        documented.doclet.path = "o.\"a.b#c\"" ∧ documented.doclet.name = "\"a.b#c\"" := by
  intro key pair object declarator declaration tree source session owner first comment node value
    code
  have sound : session.Sound := Session.sound_start KindTable.standard defaultLimit
  have order : docComments source = [first] ++ comment :: [] :=
    docComments_of_all rfl (by decide +kernel)
  have distinct : source.tree.Distinct := by decide +kernel
  have decorates : (codeIn source comment (session.after source [first]).seen).1 = some code := by
    rw [codeIn_of_distinct distinct (mem_nodes_of_order order) (session.after_seen distinct order)]
    exact (codeOf_of_ordinary (by decide +kernel)).trans rfl
  have named : NamedIn session.kinds source comment (session.after source [first]).seen code :=
    ⟨decorates, by decide +kernel, by decide +kernel, by decide +kernel, by decide +kernel⟩
  have literal : LiteralKey source code "a.b#c" :=
    ⟨"key", ⟨key, ⟨pair, [value.focus]⟩ :: node.up⟩, '\'', rfl, rfl, rfl, by decide +kernel⟩
  have quotable : Path.Quotable "a.b#c" := ⟨by decide, by decide, by decide⟩
  have found : (lookup (session.after source [first]).context
      ⟨session.filesParsed, owner.key⟩).map Doclet.path = some "o" := by decide +kernel
  obtain ⟨doc, registered, owns⟩ := Option.map_eq_some_iff.mp found
  have inside : InObject (session.after source [first]).context ⟨session.filesParsed, source⟩ code
      owner doc := ⟨rfl, rfl, registered⟩
  have plain : PlainPath doc.path := by
    have isO : ∀ c ∈ ("o" : Text), c = 'o' := fun c member => List.mem_singleton.mp member
    rw [owns]
    exact ⟨fun c member => isO c member ▸ rfl, by decide,
      fun found => absurd (isO '.' (found.subset List.mem_cons_self)) (by decide)⟩
  obtain ⟨documented, listed, _, whole⟩ :=
    string_key_whole_iff sound order named literal quotable inside plain (by decide +kernel)
  rw [owns] at whole
  have noBlank : ∀ c ∈ ("a.b#c" : Text), Text.isBlank c = false :=
    forall_false_iff_any.mpr (by decide)
  have noPrototype : ¬ Path.HasPrototype "a.b#c" := by
    rw [Path.HasPrototype]
    decide
  obtain ⟨path, name⟩ := whole.mpr ⟨noBlank, noPrototype⟩
  exact ⟨order, named, literal, documented, listed, path, name⟩

/-- A blank in the key. -/
theorem string_key_cut :
    let key : Tree := .node "string" true 24 29 (some "key") []
    let pair : Tree := .node "pair" true 24 31 none [key, .node "number" true 30 31 (some "value") []]
    let object : Tree := .node "object" true 15 32 (some "value")
      [.node "comment" true 16 24 none [], pair]
    let declarator : Tree := .node "variable_declarator" true 13 32 none
      [.node "identifier" true 13 14 (some "name") [], object]
    let declaration : Tree := .node "lexical_declaration" true 9 32 none [declarator]
    let tree : Tree := .node "program" true 0 32 none
      [.node "comment" true 0 8 none [], declaration]
    let source : Source := ⟨⟨.relative, ["a.js"]⟩,
      Utf8.encode "/** A */\nlet o=\x7b/** B */'a b':1\x7d", tree⟩
    let session := Session.start KindTable.standard defaultLimit
    (session.extractSource source).2.documented.map
      (fun documented => [documented.doclet.path, documented.doclet.name]) =
        [[("o" : Text), "o"], ["o.\"a", "\"a"]] := by
  decide +kernel

end SymbolPath.Extraction
