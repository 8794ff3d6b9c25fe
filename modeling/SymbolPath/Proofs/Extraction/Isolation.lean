import SymbolPath.Proofs.Extraction.Registration

/-!
Files do not see one another. A session numbers the files that it reads, so nothing is registered
for the nodes of a file before it is read; and the module of one file is left before the next is
read. The doclets of a file are therefore those that a new session finds in it.
-/

namespace SymbolPath.Extraction

open Syntax Resolution

/-- Nothing is registered for the nodes of files that were not read yet. -/
def Session.Sound (session : Session) : Prop :=
  ∀ node : FileNode, session.filesParsed ≤ node.file → lookup session.context node = none

/-- Contexts in which a source is read as two files, which agree on its nodes and on the module. -/
structure Alike (source : Source) (here there : Nat) (a b : Context FileNode Doclet) : Prop where
  module : a.module = b.module
  lookup : ∀ key, lookup a ⟨here, key⟩ = lookup b ⟨there, key⟩

section Alike

variable {source : Source} {here there : Nat} {a b : Context FileNode Doclet}
variable (alike : Alike source here there a b)
include alike

theorem qualifyMember_alike (code : Code) (classNode : Option Cursor) :
    qualifyMember a ⟨here, source⟩ code classNode =
      qualifyMember b ⟨there, source⟩ code classNode := by
  cases classNode with
  | none => rfl
  | some c =>
      have same := alike.lookup c.key
      simp only [qualifyMember, Opened.nodeOf, Option.bind_some, same]

theorem qualifyThis_alike (literal function : Option Cursor) (name : Text) (doclet : Doclet) :
    qualifyThis (lookup a) ⟨literal.map (Opened.nodeOf ⟨here, source⟩),
        function.map (enclosingOf ⟨here, source⟩)⟩ name doclet =
      qualifyThis (lookup b) ⟨literal.map (Opened.nodeOf ⟨there, source⟩),
        function.map (enclosingOf ⟨there, source⟩)⟩ name doclet := by
  cases literal with
  | some c => simp only [qualifyThis, Option.map_some, Opened.nodeOf, alike.lookup c.key]
  | none =>
      cases function with
      | none => rfl
      | some c =>
          simp only [qualifyThis, Option.map_some, Option.map_none, Option.bind_some,
            Option.isSome_some, enclosingOf, Opened.nodeOf, alike.lookup c.key]
          rfl

theorem qualifyInner_alike (function : Cursor) (name : Text) :
    qualifyInner (lookup a) ⟨none, some (enclosingOf ⟨here, source⟩ function)⟩ name =
      qualifyInner (lookup b) ⟨none, some (enclosingOf ⟨there, source⟩ function)⟩ name := by
  simp only [qualifyInner, closurePath, enclosingOf, Opened.nodeOf, alike.lookup function.key]
  rfl

theorem qualify_alike (code : Code) (doclet : Doclet) :
    qualify a ⟨here, source⟩ code doclet = qualify b ⟨there, source⟩ code doclet := by
  unfold qualify
  congr 1
  funext parent
  dsimp only
  split
  · simp only [qualifyMember_alike alike]
  · split
    · -- the literal is the parent, or there is none
      have literal : ∀ number, (if (parent.any fun c => isObject c.kind) then
          parent.map (Opened.nodeOf ⟨number, source⟩) else none) =
          (if (parent.any fun c => isObject c.kind) then parent else none).map
            (Opened.nodeOf ⟨number, source⟩) := by
        intro number
        split <;> rfl
      simp only [literal, qualifyThis_alike alike]
    · simp only [qualifyInner_alike alike]

theorem nameDoclet_alike (code? : Option Code) (doclet : Doclet) :
    nameDoclet a ⟨here, source⟩ code? doclet = nameDoclet b ⟨there, source⟩ code? doclet := by
  cases code? with
  | none => rfl
  | some code => simp only [nameDoclet, qualify_alike alike]

theorem setModule_alike (module : Text) :
    Alike source here there (a.setModule module) (b.setModule module) :=
  ⟨rfl, alike.lookup⟩

theorem enter_alike (doclet : Doclet) :
    Alike source here there (enter a doclet) (enter b doclet) := by
  unfold enter
  split
  · exact setModule_alike alike doclet.path
  · exact alike

theorem registerAll_alike (nodes : List Cursor) (doclet : Doclet) :
    Alike source here there
      (registerAll a (nodes.map (Opened.nodeOf ⟨here, source⟩)) doclet)
      (registerAll b (nodes.map (Opened.nodeOf ⟨there, source⟩)) doclet) where
  module := by rw [module_registerAll, module_registerAll, alike.module]
  lookup := by
    intro key
    -- in either file, a node is registered if one of the nodes has its key
    have among : ∀ number, (⟨number, key⟩ : FileNode) ∈
        nodes.map (Opened.nodeOf ⟨number, source⟩) ↔ ∃ c ∈ nodes, c.key = key := by
      intro number
      simp [Opened.nodeOf]
    simp only [lookup_registerAll, among, alike.lookup key]

theorem documentCode_alike (kinds : KindTable) (code? : Option Code) (doclet : Doclet)
    (seen : Sightings) :
    let first := (documentCode kinds ⟨here, source⟩ code? doclet).run ⟨a, seen⟩
    let second := (documentCode kinds ⟨there, source⟩ code? doclet).run ⟨b, seen⟩
    first.1 = second.1 ∧ first.2.seen = second.2.seen ∧
      Alike source here there first.2.context second.2.context := by
  rw [documentCode_eq, documentCode_eq]
  dsimp only
  rw [nameDoclet_alike alike, alike.module]
  generalize (nameDoclet b ⟨there, source⟩ code? doclet).run seen = named
  generalize resolve kinds b.module (kindDoclet code? named.1.1) = resolved
  by_cases empty : resolved.path.isEmpty = true
  · rw [if_pos empty, if_pos empty]
    exact ⟨rfl, rfl, alike⟩
  · rw [if_neg empty, if_neg empty]
    exact ⟨rfl, rfl, registerAll_alike (enter_alike alike resolved.doclet) _ resolved.doclet⟩

theorem processComment_alike (kinds : KindTable) (comment : Cursor) (seen : Sightings) :
    let first := (processComment kinds ⟨here, source⟩ comment).run ⟨a, seen⟩
    let second := (processComment kinds ⟨there, source⟩ comment).run ⟨b, seen⟩
    first.1 = second.1 ∧ first.2.seen = second.2.seen ∧
      Alike source here there first.2.context second.2.context := by
  rw [processComment_eq, processComment_eq]
  dsimp only
  generalize (settle comment).run seen = settled
  generalize (codeFor source settled.1 (docletOf source settled.1)).run settled.2 = code
  by_cases folded : isFolded code.1 = true
  · rw [if_pos folded, if_pos folded]
    exact ⟨rfl, rfl, alike⟩
  · rw [if_neg folded, if_neg folded]
    exact documentCode_alike alike kinds code.1 _ code.2

end Alike

theorem processAll_alike {source : Source} {here there : Nat} {a b : Context FileNode Doclet}
    (kinds : KindTable) (comments : List Cursor) (seen : Sightings)
    (alike : Alike source here there a b) :
    ((processAll kinds ⟨here, source⟩ comments).run ⟨a, seen⟩).1 =
      ((processAll kinds ⟨there, source⟩ comments).run ⟨b, seen⟩).1 := by
  induction comments generalizing a b seen with
  | nil => rfl
  | cons comment rest ih =>
      obtain ⟨outcome, looked, after⟩ := processComment_alike alike kinds comment seen
      rw [processAll_cons, processAll_cons]
      dsimp only
      generalize (processComment kinds ⟨here, source⟩ comment).run ⟨a, seen⟩ = first
        at outcome looked after ⊢
      generalize (processComment kinds ⟨there, source⟩ comment).run ⟨b, seen⟩ = second
        at outcome looked after ⊢
      obtain ⟨_, ⟨_, _⟩⟩ := first
      obtain ⟨_, ⟨_, _⟩⟩ := second
      dsimp only at outcome looked after ⊢
      subst outcome looked
      -- the contexts that the first comment leaves agree again
      rw [ih _ after]

theorem stateAfter_elsewhere (kinds : KindTable) (file : Opened) (comments : List Cursor)
    (progress : Progress) {node : FileNode} (other : node.file ≠ file.number) :
    lookup (stateAfter kinds file comments progress).context node =
      lookup progress.context node := by
  apply lookup_stateAfter
  intro _ _ _ _ inside
  obtain ⟨c, _, rfl⟩ := List.mem_map.mp inside
  exact other rfl

namespace Session

theorem sound_start (kinds : KindTable) (limit : Int) : (start kinds limit).Sound :=
  fun _ _ => rfl

theorem Sound.extractSource {session : Session} (sound : session.Sound) (source : Source) :
    (session.extractSource source).1.Sound := by
  intro node later
  have unread : session.filesParsed < node.file := later
  have kept := stateAfter_elsewhere session.kinds ⟨session.filesParsed, source⟩
    (docComments source) ⟨session.context.setModule [], Sightings.empty⟩ (Nat.ne_of_gt unread)
  exact kept.trans (sound node (Nat.le_of_lt unread))

theorem extract_cases (limit : Int) (grammar : Grammar) (location : Location) (content : Text) :
    (∃ extracted, ∀ session : Session, session.limit = limit →
        session.extract grammar location content = (session, extracted)) ∨
      ∃ source, ∀ session : Session, session.limit = limit →
        session.extract grammar location content = session.extractSource source := by
  by_cases large : ((Utf8.encode content).length : Int) > limit
  · refine .inl ⟨⟨[], [.tooLarge location limit]⟩, ?_⟩
    rintro session rfl
    exact if_pos large
  · cases grammar with
    | ready parse =>
        refine .inr ⟨⟨location, Utf8.encode content, parse (Utf8.encode content)⟩, ?_⟩
        rintro session rfl
        exact if_neg large
    | missing =>
        refine .inl ⟨⟨[], []⟩, ?_⟩
        rintro session rfl
        exact if_neg large
    | broken reason =>
        refine .inl ⟨⟨[], [.noGrammar reason]⟩, ?_⟩
        rintro session rfl
        exact if_neg large

theorem Sound.extract {session : Session} (sound : session.Sound) (grammar : Grammar)
    (location : Location) (content : Text) :
    (session.extract grammar location content).1.Sound := by
  rcases extract_cases session.limit grammar location content with ⟨_, passed⟩ | ⟨_, parsed⟩
  · rw [passed session rfl]
    exact sound
  · rw [parsed session rfl]
    exact sound.extractSource _

theorem extractSource_fresh {session : Session} (sound : session.Sound) (source : Source) :
    (session.extractSource source).2 =
      ((start session.kinds session.limit).extractSource source).2 := by
  -- nothing is registered for the new file in either session, and the module was left
  have alike : Alike source session.filesParsed 0 (session.context.setModule [])
      (Context.empty.setModule []) := ⟨rfl, fun key => sound ⟨_, key⟩ (Nat.le_refl _)⟩
  exact congrArg Extracted.ofOutcomes
    (processAll_alike session.kinds (docComments source) Sightings.empty alike)

theorem extract_fresh {session : Session} (sound : session.Sound) (grammar : Grammar)
    (location : Location) (content : Text) :
    (session.extract grammar location content).2 =
      ((start session.kinds session.limit).extract grammar location content).2 := by
  rcases extract_cases session.limit grammar location content with ⟨_, passed⟩ | ⟨_, parsed⟩
  · rw [passed session rfl, passed (start session.kinds session.limit) rfl]
  · rw [parsed session rfl, parsed (start session.kinds session.limit) rfl]
    exact extractSource_fresh sound _

theorem extract_keeps (session : Session) (grammar : Grammar) (location : Location)
    (content : Text) :
    (session.extract grammar location content).1.kinds = session.kinds ∧
      (session.extract grammar location content).1.limit = session.limit := by
  rcases extract_cases session.limit grammar location content with ⟨_, passed⟩ | ⟨_, parsed⟩
  · rw [passed session rfl]
    exact ⟨rfl, rfl⟩
  · rw [parsed session rfl]
    exact ⟨rfl, rfl⟩

end Session

structure Unread where
  grammar : Grammar
  location : Location
  content : Text

def Session.extractAll (session : Session) : List Unread → Session × List Extracted
  | [] => (session, [])
  | file :: rest =>
    let (next, extracted) := session.extract file.grammar file.location file.content
    let (last, others) := next.extractAll rest
    (last, extracted :: others)

def Unread.alone (kinds : KindTable) (limit : Int) (file : Unread) : Extracted :=
  ((Session.start kinds limit).extract file.grammar file.location file.content).2

namespace Session

theorem Sound.extractAll {session : Session} (sound : session.Sound) (files : List Unread) :
    (session.extractAll files).1.Sound := by
  induction files generalizing session with
  | nil => exact sound
  | cons file rest ih => exact ih (sound.extract file.grammar file.location file.content)

/-- Whatever a session read before, the files that it reads in order are each extracted as if read
alone. -/
theorem extractAll_alone {session : Session} (sound : session.Sound) (files : List Unread) :
    (session.extractAll files).2 = files.map (Unread.alone session.kinds session.limit) := by
  induction files generalizing session with
  | nil => rfl
  | cons file rest ih =>
      -- reading the first file leaves a session of the same kinds and limit
      have later := ih (sound.extract file.grammar file.location file.content)
      obtain ⟨kinds, limit⟩ := extract_keeps session file.grammar file.location file.content
      rw [kinds, limit] at later
      have first := extract_fresh sound file.grammar file.location file.content
      rw [List.map_cons, ← later]
      exact congrArg (· :: _) first

/-- Whatever sessions read before, and whatever they read besides, they extract the same from a
file that both read, namely what is extracted from it alone. -/
theorem extractAll_isolated {session other : Session} (sound : session.Sound)
    (otherSound : other.Sound) (kinds : other.kinds = session.kinds)
    (limit : other.limit = session.limit) (files others : List Unread) :
    (session.extractAll files).2 = files.map (Unread.alone session.kinds session.limit) ∧
      ∀ i j : Nat, files[i]? = others[j]? →
        (session.extractAll files).2[i]? = (other.extractAll others).2[j]? := by
  refine ⟨extractAll_alone sound files, ?_⟩
  intro i j same
  rw [extractAll_alone sound, extractAll_alone otherSound, kinds, limit, List.getElem?_map,
    List.getElem?_map, same]

/-- A function read twice: the second reading does not see what the first registered. -/
theorem extractAll_isolated_again :
    let function : Tree := .node "function_declaration" true 8 22 none
      [.node "identifier" true 17 18 (some "name") []]
    let tree : Tree := .node "program" true 0 22 none [.node "comment" true 0 8 none [], function]
    let file : Unread :=
      ⟨.ready fun _ => tree, ⟨.relative, ["a.js"]⟩, "/** A */function f()\x7b\x7d"⟩
    let first := start KindTable.standard defaultLimit
    let session := (first.extractAll [file]).1
    session.Sound ∧ session.context.registry.size = 1 ∧
      (session.extractAll [file]).2 = [file.alone session.kinds session.limit] ∧
      (session.extractAll [file]).2[0]? = (first.extractAll [file]).2[0]? := by
  intro function tree file first session
  have sound : session.Sound := (sound_start _ _).extractAll [file]
  have isolated := extractAll_isolated sound (sound_start KindTable.standard defaultLimit) rfl rfl
    [file] [file]
  exact ⟨sound, by decide +kernel, isolated.1, isolated.2 0 0 rfl⟩

end Session

end SymbolPath.Extraction
