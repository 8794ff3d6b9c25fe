import SymbolPath.Proofs.Extraction.Containment
import SymbolPath.Proofs.Resolution.Tagged

/-!
Comments that tag a container and leave the name to the code they decorate. What surrounds the code
takes part all the same: the key is first qualified by whatever container is registered around it,
and only then resolved under the tagged one. So the tag pins the container exactly for code without
a container of its own, and for code whose own container begins with the tagged one.

This holds in any file, also where several nodes agree in kind and span and one stands for all.
-/

namespace SymbolPath.Extraction

open Syntax Resolution

/-- Whatever was seen before, what the look finds is as said. -/
def Always {α : Type} (look : Browse α) (said : α → Prop) : Prop :=
  ∀ seen : Sightings, said (look.run seen).1

theorem Always.pure {α : Type} {said : α → Prop} {found : α} (holds : said found) :
    Always (Pure.pure found) said :=
  fun _ => holds

theorem Always.bind {α β : Type} {look : Browse α} {further : α → Browse β} {said : β → Prop}
    (next : ∀ found, Always (further found) said) : Always (look >>= further) said := by
  intro seen
  rw [StateT.run_bind]
  exact next _ _

def codeIn (source : Source) (comment : Cursor) (seen : Sightings) : Option Code × Sightings :=
  let settled : Cursor × Sightings := (settle comment).run seen
  (codeFor source settled.1 (docletOf source comment)).run settled.2

theorem codeIn_of_distinct {source : Source} (distinct : source.tree.Distinct) {comment : Cursor}
    (member : comment ∈ nodes source.tree) {seen : Sightings} (inFile : seen.Of source.tree) :
    (codeIn source comment seen).1 = codeOf source comment := by
  obtain ⟨first, last, settled, looked, _⟩ := @looks_for_code ⟨0, source⟩ distinct comment member
    seen inFile
  dsimp only at looked
  unfold codeIn
  rw [settled]
  dsimp only
  rw [looked]

def nameIn (file : Opened) (code : Code) (doclet : Doclet) (context : Context FileNode Doclet)
    (seen : Sightings) : Text :=
  ((qualify context file code doclet).run seen).1.name

theorem processComment_code (kinds : KindTable) (file : Opened) (comment : Cursor)
    (progress : Progress) :
    (processComment kinds file comment).run progress =
      let code := codeIn file.source comment progress.seen
      if isFolded code.1 then
        (⟨none, [.folded file.source.location (file.source.line comment)]⟩,
          ⟨progress.context, code.2⟩)
      else (documentCode kinds file code.1 (docletOf file.source comment)).run
        ⟨progress.context, code.2⟩ := by
  have same := key_settle comment progress.seen
  rw [processComment_eq]
  dsimp only
  rw [docletOf_of_key file.source same, line_of_key file.source same]
  rfl

theorem nameDoclet_code {context : Context FileNode Doclet} {file : Opened} {code : Code}
    {doclet : Doclet} (unnamed : doclet.name = []) (seen : Sightings) :
    ((nameDoclet context file (some code) doclet).run seen).1.1 =
      doclet.set "name" (nameIn file code doclet context seen) := by
  have isNamed : (!doclet.name.isEmpty) = false := by rw [unnamed]; rfl
  unfold nameDoclet nameIn
  rw [isNamed, if_neg Bool.false_ne_true]
  dsimp only
  rw [StateT.run_bind]
  rfl

theorem qualifyMember_cases (context : Context FileNode Doclet) (file : Opened) (code : Code)
    (classNode : Option Cursor) :
    qualifyMember context file code classNode = code.name ∨
      EndsInKey code.name (qualifyMember context file code classNode) := by
  unfold qualifyMember
  split
  · exact .inl rfl
  · rename_i doc _
    split
    · exact .inl rfl
    · cases code.isStatic with
      | true => exact .inr ⟨doc.path, '.', rfl, rfl⟩
      | false => exact .inr ⟨doc.path, '#', rfl, rfl⟩

theorem endsInKey_join {container : Text} (given : container ≠ []) (key : Text) :
    EndsInKey key (Path.join container key) := by
  obtain ⟨path, separator, separates, split, _⟩ := join_eq_append given key
  exact ⟨path, separator, separates, split⟩

theorem qualifyThis_cases (look : FileNode → Option Doclet) (literal : FileNode)
    (enclosing : Option (Enclosing FileNode)) (key : Text) (doclet : Doclet) :
    (qualifyThis look ⟨some literal, enclosing⟩ key doclet).name = key ∨
      EndsInKey key (qualifyThis look ⟨some literal, enclosing⟩ key doclet).name := by
  unfold qualifyThis
  dsimp only
  split
  · refine .inr (endsInKey_join ?_ key)
    split
    · decide
    · rename_i hasPath
      simpa using hasPath
  · exact .inl rfl

theorem qualifyInner_cases (look : FileNode → Option Doclet) (site : Site FileNode) (key : Text) :
    (qualifyInner look site key).name = key ∨
      EndsInKey key (qualifyInner look site key).name := by
  unfold qualifyInner
  dsimp only
  split
  · exact .inl rfl
  · exact .inr ⟨closurePath look site, '~', rfl, rfl⟩

theorem qualify_cases {file : Opened} {code : Code} (bare : Path.Bare code.name) (doclet : Doclet)
    (context : Context FileNode Doclet) :
    Always (qualify context file code doclet) fun qualified =>
      qualified.name = code.name ∨ EndsInKey code.name qualified.name := by
  unfold qualify
  rw [not_startsWith_this bare]
  refine Always.bind fun parent => ?_
  dsimp only
  split
  · exact Always.bind fun classNode => Always.pure (qualifyMember_cases context file code classNode)
  · split
    · rename_i inObject
      rw [Bool.false_or] at inObject
      have literal : looksAtFunction true code.name doclet = false := rfl
      rw [inObject, literal, if_neg Bool.false_ne_true]
      cases parent with
      | none => cases inObject
      | some parent =>
          refine Always.bind fun function => Always.pure ?_
          exact qualifyThis_cases (lookup context) (file.nodeOf parent) _ code.name doclet
    · split
      · refine Always.bind fun function => ?_
        cases function with
        | none => exact Always.pure (.inl rfl)
        | some function =>
            exact Always.pure (qualifyInner_cases (lookup context) _ code.name)
      · exact Always.pure (.inl rfl)

theorem path_of_tagged {kinds : KindTable} (module : Text) (code : Code) {doclet : Doclet}
    (tagged : doclet.memberof ≠ [])
    (noSpace : kinds.isDocspace (kindDoclet (some code) doclet).kind = false) (name : Text) :
    (resolve kinds module (kindDoclet (some code) (doclet.set "name" name))).path =
      pathUnder doclet.memberof (fullName module (doclet.set "name" name)) := by
  obtain ⟨named, container, kind⟩ := kindDoclet_set_name code doclet name
  have unfolded := @resolve_tagged kinds module (kindDoclet (some code) (doclet.set "name" name))
    (container ▸ tagged) (kind ▸ noSpace)
  dsimp only at unfolded
  have full : fullName module (kindDoclet (some code) (doclet.set "name" name)) =
      fullName module (doclet.set "name" name) := by
    rw [fullName, fullName, named, Doclet.name, Doclet.value_set_same]
  rw [unfolded, container, full]

structure NamedUnder (kinds : KindTable) (source : Source) (comment : Cursor) (seen : Sightings)
    (code : Code) : Prop where
  decorates : (codeIn source comment seen).1 = some code
  unnamed : (docletOf source comment).name = []
  tagged : (docletOf source comment).memberof ≠ []
  noSpace : kinds.isDocspace (kindDoclet (some code) (docletOf source comment)).kind = false
  notConstructor : code.name ≠ "constructor"

def qualifiedIn (file : Opened) (comment : Cursor) (code : Code) (progress : Progress) : Text :=
  nameIn file code (docletOf file.source comment) progress.context
    (codeIn file.source comment progress.seen).2

def fullNameIn (file : Opened) (comment : Cursor) (code : Code) (progress : Progress) : Text :=
  fullName progress.context.module
    ((docletOf file.source comment).set "name" (qualifiedIn file comment code progress))

theorem processComment_of_path {kinds : KindTable} {file : Opened} {comment : Cursor}
    {progress : Progress} {code : Code}
    (decorates : (codeIn file.source comment progress.seen).1 = some code)
    (notFolded : isFolded (some code) = false) (unnamed : (docletOf file.source comment).name = []) :
    let doclet := kindDoclet (some code) ((docletOf file.source comment).set "name"
      (qualifiedIn file comment code progress))
    let resolved := resolve kinds progress.context.module doclet
    resolved.path ≠ [] →
      ∃ documented,
        ((processComment kinds file comment).run progress).1.documented = some documented ∧
        documented.doclet = resolved.doclet := by
  dsimp only
  unfold qualifiedIn
  intro hasPath
  rw [processComment_code]
  dsimp only
  rw [decorates, notFolded, if_neg Bool.false_ne_true, documentCode_eq]
  dsimp only
  rw [nameDoclet_code unnamed, if_neg (by simpa using hasPath)]
  refine ⟨_, rfl, ?_⟩
  dsimp only

theorem processComment_tagged {kinds : KindTable} {file : Opened} {comment : Cursor}
    {progress : Progress} {code : Code}
    (named : NamedUnder kinds file.source comment progress.seen code) :
    ∃ documented,
      ((processComment kinds file comment).run progress).1.documented = some documented ∧
      documented.doclet.path =
        pathUnder (docletOf file.source comment).memberof (fullNameIn file comment code progress) := by
  -- under a container the path is never empty, so the doclet is not dropped
  have path := path_of_tagged progress.context.module code named.tagged named.noSpace
    (qualifiedIn file comment code progress)
  have hasPath := pathUnder_ne_nil named.tagged (fullNameIn file comment code progress)
  unfold fullNameIn at hasPath ⊢
  rw [← path] at hasPath ⊢
  obtain ⟨documented, gives, resolved⟩ :=
    processComment_of_path named.decorates (not_isFolded_of_name named.notConstructor)
      named.unnamed hasPath
  refine ⟨documented, gives, ?_⟩
  rw [resolved]
  exact path_of_resolve _ _ _ hasPath

theorem processComment_pinned {kinds : KindTable} {file : Opened} {comment : Cursor}
    {progress : Progress} {code : Code}
    (named : NamedUnder kinds file.source comment progress.seen code) (key : Joinable code.name)
    (other : Text.startsWith (docletOf file.source comment).memberof code.name = false) :
    let container := (docletOf file.source comment).memberof
    let qualified := qualifiedIn file comment code progress
    let full := fullNameIn file comment code progress
    ∃ documented,
      ((processComment kinds file comment).run progress).1.documented = some documented ∧
      (documented.doclet.path = Path.join container code.name ↔
        shortUnder container full = code.name) ∧
      ((∀ c ∈ qualified, Text.isBlank c = false) →
        (documented.doclet.path = Path.join container code.name ↔
          qualified = code.name ∨ Text.startsWith container full = true)) := by
  intro container qualified full
  obtain ⟨documented, gives, path⟩ := processComment_tagged named
  have joined : documented.doclet.path = Path.join container code.name ↔
      shortUnder container full = code.name := by
    rw [path]
    exact pathUnder_eq_join_iff other named.tagged key.bare
  refine ⟨documented, gives, joined, ?_⟩
  intro noBlank
  rw [joined]
  have isQualified : ((docletOf file.source comment).set "name" qualified).name = qualified :=
    Doclet.value_set_same _ _ _
  rw [← isQualified] at noBlank
  -- qualifying leaves the key, or puts something in front of it
  have cases : qualified = code.name ∨ EndsInKey code.name qualified :=
    qualify_cases key.bare _ _ _
  rcases cases with same | ends
  · have whole : full = code.name :=
      fullName_of_key key.bare.noSeparator _ noBlank (isQualified.trans same)
    exact iff_of_true (shortUnder_of_key other whole) (.inl same)
  · have inFull : EndsInKey code.name full :=
      endsInKey_fullName key.bare.noSeparator key.noPrototype _ noBlank (isQualified.symm ▸ ends)
    rw [shortUnder_of_endsInKey key.bare inFull, or_iff_right ends.ne]

/-- A comment that tags a container and leaves the name to its code ends under that container
exactly if the name as it is qualified has the key as its short name there. Without blanks in it,
that is so exactly if the key was not qualified, or the name written out begins with the tagged
container. -/
theorem pinned_path_iff {session : Session} {source : Source} {before after : List Cursor}
    {comment : Cursor} (order : docComments source = before ++ comment :: after) {code : Code}
    (named : NamedUnder session.kinds source comment (session.after source before).seen code)
    (key : Joinable code.name)
    (other : Text.startsWith (docletOf source comment).memberof code.name = false) :
    let file : Opened := ⟨session.filesParsed, source⟩
    let container := (docletOf source comment).memberof
    let qualified := qualifiedIn file comment code (session.after source before)
    let full := fullNameIn file comment code (session.after source before)
    ∃ documented, documented ∈ (session.extractSource source).2.documented ∧
      ((processComment session.kinds file comment).run
        (session.after source before)).1.documented = some documented ∧
      (documented.doclet.path = Path.join container code.name ↔
        shortUnder container full = code.name) ∧
      ((∀ c ∈ qualified, Text.isBlank c = false) →
        (documented.doclet.path = Path.join container code.name ↔
          qualified = code.name ∨ Text.startsWith container full = true)) := by
  dsimp only
  obtain ⟨documented, gives, pinned⟩ := @processComment_pinned session.kinds
    ⟨session.filesParsed, source⟩ comment (session.after source before) code named key other
  exact ⟨documented, session.mem_extractSource order gives, gives, pinned⟩

/-- A method of a class that stands in the tagged container itself. -/
theorem pinned_path_within :
    let key : Tree := .node "property_identifier" true 44 45 (some "name") []
    let method : Tree := .node "method_definition" true 44 49 none [key]
    let body : Tree := .node "class_body" true 25 50 (some "body")
      [.node "comment" true 26 44 none [], method]
    let kit : Tree := .node "class_declaration" true 18 50 none
      [.node "identifier" true 24 25 (some "name") [], body]
    let tree : Tree := .node "program" true 0 50 none [.node "comment" true 0 18 none [], kit]
    let source : Source := ⟨⟨.relative, ["a.js"]⟩,
      Utf8.encode "/** @memberof M */class K\x7b/** @memberof M */f()\x7b\x7d\x7d", tree⟩
    let session := Session.start KindTable.standard defaultLimit
    let owner : Cursor := ⟨kit, [⟨tree, []⟩]⟩
    let first : Cursor := ⟨.node "comment" true 0 18 none [], [⟨tree, [kit]⟩]⟩
    let comment : Cursor := ⟨.node "comment" true 26 44 none [],
      ⟨body, [method]⟩ :: ⟨kit, []⟩ :: owner.up⟩
    let node : Cursor := ⟨method, ⟨body, []⟩ :: ⟨kit, []⟩ :: owner.up⟩
    let code : Code := ⟨"f", node, some node, true, false⟩
    docComments source = [first] ++ comment :: [] ∧
      NamedUnder session.kinds source comment (session.after source [first]).seen code ∧
      ∃ documented ∈ (session.extractSource source).2.documented,
        documented.doclet.path = "M.f" := by
  intro key method body kit tree source session owner first comment node code
  have order : docComments source = [first] ++ comment :: [] :=
    docComments_of_all rfl (by decide +kernel)
  have distinct : source.tree.Distinct := by decide +kernel
  have decorates : (codeIn source comment (session.after source [first]).seen).1 = some code := by
    rw [codeIn_of_distinct distinct (mem_nodes_of_order order) (session.after_seen distinct order)]
    exact (codeOf_of_ordinary (by decide +kernel)).trans rfl
  have named : NamedUnder session.kinds source comment (session.after source [first]).seen code :=
    ⟨decorates, by decide +kernel, by decide +kernel, by decide +kernel, by decide⟩
  have isF : ∀ c ∈ code.name, c = 'f' := fun c member => List.mem_singleton.mp member
  have joins : Joinable code.name :=
    ⟨⟨by decide, fun c member => isF c member ▸ rfl⟩, by decide,
      fun c member => isF c member ▸ rfl, by decide⟩
  have container : (docletOf source comment).memberof = "M" := by decide +kernel
  have qualified : qualifiedIn ⟨session.filesParsed, source⟩ comment code
      (session.after source [first]) = "M.K#f" := by decide +kernel
  have full : fullNameIn ⟨session.filesParsed, source⟩ comment code
      (session.after source [first]) = "M.K#f" := by decide +kernel
  obtain ⟨documented, listed, _, _, pinned⟩ :=
    pinned_path_iff order named joins (by rw [container]; decide)
  rw [container, qualified, full] at pinned
  have plain : (("M.K#f" : Text).all fun c => !Text.isBlank c) = true := by decide
  have noBlank : ∀ c ∈ ("M.K#f" : Text), Text.isBlank c = false :=
    fun c member => by simpa using List.all_eq_true.mp plain c member
  have path : documented.doclet.path = "M.f" := (pinned noBlank).mpr (.inr (by decide))
  exact ⟨order, named, documented, listed, path⟩

/-- A documented class comes between the tagged container and the method. -/
theorem pinned_path_lost :
    let key : Tree := .node "property_identifier" true 34 35 (some "name") []
    let body : Tree := .node "class_body" true 15 40 (some "body")
      [.node "comment" true 16 34 none [], .node "method_definition" true 34 39 none [key]]
    let kit : Tree := .node "class_declaration" true 8 40 none
      [.node "identifier" true 14 15 (some "name") [], body]
    let tree : Tree := .node "program" true 0 40 none [.node "comment" true 0 8 none [], kit]
    let source : Source := ⟨⟨.relative, ["a.js"]⟩,
      Utf8.encode "/** A */class K\x7b/** @memberof M */f()\x7b\x7d\x7d", tree⟩
    let session := Session.start KindTable.standard defaultLimit
    (session.extractSource source).2.documented.map
      (fun documented => [documented.doclet.memberof, documented.doclet.path]) =
        [[[], "K"], ["M", "M.K#f"]] := by
  decide +kernel

end SymbolPath.Extraction
