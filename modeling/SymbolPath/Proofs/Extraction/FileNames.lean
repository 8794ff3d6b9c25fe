import SymbolPath.Proofs.Extraction.Pinning
import SymbolPath.Proofs.Resolution.CurrentModule
import SymbolPath.Proofs.Resolution.Nameless
import SymbolPath.Proofs.Sources.Naming

/-!
Comments that describe their file. The doclet is named by where the file lies, and that name is
resolved as if it were one of a symbol: its first word is taken, a member of `exports` is written out
and prototype segments become instance markers. The place of the file comes out as it was only if
none of the three has anything to do.
-/

namespace SymbolPath.Resolution

open SymbolPath.Path

theorem foldPrototype_cases (path : Text) :
    path.count '#' < (foldPrototype path).count '#' ∨ foldPrototype path = path :=
  foldPrototypeFrom_cases 0 path

/-- A member of a module other than `exports` is not written as one of `exports`. -/
theorem eq_exports_of_member {module member : Text}
    (same : foldPrototype (module ++ '.' :: member) = ("exports." : Text) ++ member) :
    module = "exports" := by
  have dotted : ("exports." : Text) ++ member = ("exports" : Text) ++ '.' :: member := rfl
  rcases foldPrototype_cases (module ++ '.' :: member) with gains | kept
  · -- all the markers that are left stand in the member
    have none : ("exports." : Text).count '#' = 0 := by decide
    rw [same, List.count_append, List.count_append, none, Nat.zero_add] at gains
    have within : member.count '#' ≤ ('.' :: member).count '#' :=
      (List.sublist_cons_self '.' member).count_le '#'
    omega
  · rw [kept, dotted] at same
    exact List.append_cancel_right same

/-- A name in one word is kept where it is written out, exactly if it has no prototype segments and
is no member of `exports`, unless `exports` stands for itself. -/
theorem fullName_eq_name_iff {module : Text} (noBlank : ∀ c ∈ module, Text.isBlank c = false)
    (doclet : Doclet) :
    fullName module doclet = doclet.name ↔
      (∀ c ∈ doclet.name, Text.isBlank c = false) ∧ ¬ HasPrototype doclet.name ∧
        (module = [] ∨ module = "exports" ∨
          ∀ member, member ≠ [] → doclet.name ≠ ("exports." : Text) ++ member) := by
  constructor
  · intro same
    have plain : ∀ c ∈ doclet.name, Text.isBlank c = false := by
      intro c member
      rw [Bool.eq_false_iff]
      intro blank
      have inModule := mem_module_of_blank (same.symm ▸ member) blank
      rw [noBlank c inModule] at blank
      cases blank
    refine ⟨plain, same ▸ not_hasPrototype_foldPrototype _, ?_⟩
    by_cases given : module = []
    · exact .inl given
    -- a member of `exports` would be written as one of the module
    · refine .inr (or_iff_not_imp_right.mpr fun exported => ?_)
      push Not at exported
      obtain ⟨member, named, isMember⟩ := exported
      rw [fullName, Text.firstWord_of_noBlank plain, isMember, expandExports_member given named] at same
      exact eq_exports_of_member same
  · rintro ⟨plain, noPrototype, exports⟩
    have kept : expandExports module doclet.name = doclet.name := by
      rcases exports with rfl | rfl | other
      · exact expandExports_nil _
      · rcases expandExports_cases "exports" doclet.name with same | ⟨member, isMember, same⟩
        · exact same
        · rw [same, isMember]
          rfl
      · exact expandExports_of_other other module
    rw [fullName, Text.firstWord_of_noBlank plain, kept, foldPrototype_of_absent noPrototype]

theorem resolve_file {kinds : KindTable} (module : Text) {doclet : Doclet}
    (untagged : doclet.memberof = []) (isFile : doclet.kind = "file")
    (noSpace : kinds.isDocspace "file" = false) :
    let full := fullName module doclet
    resolve kinds module doclet =
      ⟨storeUnlessEmpty (storeUnlessEmpty doclet "name" full) "path" full, full⟩ := by
  have unfolded := resolve_eq kinds module doclet
  have scheme : schemeOf kinds doclet.kind = [] := by
    rw [schemeOf, isFile, noSpace, if_neg Bool.false_ne_true]
  have short (full : Text) : unschemed kinds doclet.kind full = full := by
    rw [unschemed, isFile, noSpace, if_neg Bool.false_ne_true]
  dsimp only at unfolded
  rw [place_file untagged isFile, scheme] at unfolded
  dsimp only at unfolded
  rw [short, compose_nil] at unfolded
  exact unfolded

end SymbolPath.Resolution

namespace SymbolPath.Extraction

open Syntax Resolution

structure DescribesFile (source : Source) (comment : Cursor) : Prop where
  isFile : (docletOf source comment).kind = "file"
  unnamed : (docletOf source comment).name = []
  untagged : (docletOf source comment).memberof = []

def fileName (module place : Text) : Text :=
  Path.foldPrototype (expandExports module (Text.firstWord place))

section Describes

variable {kinds : KindTable} {file : Opened} {comment : Cursor}
  (describes : DescribesFile file.source comment) (noSpace : kinds.isDocspace "file" = false)
include describes

theorem DescribesFile.noCode (seen : Sightings) : (codeIn file.source comment seen).1 = none := by
  unfold codeIn codeFor
  rw [describes.isFile]
  rfl

theorem DescribesFile.nameDoclet (context : Context FileNode Doclet) (seen : Sightings) :
    ((nameDoclet context file none (docletOf file.source comment)).run seen).1.1 =
      (docletOf file.source comment).set "name" file.source.location.text := by
  unfold Extraction.nameDoclet
  rw [describes.unnamed, describes.isFile]
  rfl

include noSpace

theorem DescribesFile.resolve (module : Text) :
    let doclet := (docletOf file.source comment).set "name" file.source.location.text
    let full := fileName module file.source.location.text
    resolve kinds module doclet =
      ⟨storeUnlessEmpty (storeUnlessEmpty doclet "name" full) "path" full, full⟩ := by
  intro doclet full
  have named : doclet.name = file.source.location.text := Doclet.value_set_same _ _ _
  have isFull : fullName module doclet = full := by
    rw [fullName, named]
    rfl
  have untagged : doclet.memberof = [] :=
    (Doclet.value_set_other _ _ (by decide)).trans describes.untagged
  have isFile : doclet.kind = "file" :=
    (Doclet.value_set_other _ _ (by decide)).trans describes.isFile
  have resolved := resolve_file module untagged isFile noSpace
  dsimp only at resolved
  rw [isFull] at resolved
  exact resolved

theorem DescribesFile.documented (progress : Progress) :
    let full := fileName progress.context.module file.source.location.text
    let outcome := ((processComment kinds file comment).run progress).1
    (full = [] → outcome.documented = none) ∧
      (full ≠ [] → ∃ documented, outcome.documented = some documented ∧
        documented.doclet.path = full ∧ documented.doclet.name = full) := by
  have resolved := describes.resolve noSpace progress.context.module
  dsimp only at resolved ⊢
  rw [processComment_code]
  dsimp only
  rw [describes.noCode, isFolded, Option.any_none, if_neg Bool.false_ne_true, documentCode_eq]
  dsimp only
  rw [describes.nameDoclet, kindDoclet]
  rw [resolved]
  dsimp only
  constructor
  · intro empty
    rw [if_pos (List.isEmpty_iff.mpr empty)]
  · intro given
    rw [if_neg (by simpa using given)]
    exact ⟨_, rfl, value_storeUnlessEmpty _ given, name_storeUnlessEmpty _ given _⟩

end Describes

/-- In its turn, the comment yields a doclet with the given name for its path and its name. -/
def Session.Yields (session : Session) (source : Source) (before : List Cursor) (comment : Cursor)
    (name : Text) : Prop :=
  ∃ documented ∈ (session.extractSource source).2.documented,
    (session.turn source before comment).documented = some documented ∧
      documented.doclet.path = name ∧ documented.doclet.name = name

section Turn

variable {session : Session} {source : Source} {before after : List Cursor} {comment : Cursor}
  (order : docComments source = before ++ comment :: after)
  (describes : DescribesFile source comment) (noSpace : session.kinds.isDocspace "file" = false)
include order describes noSpace

theorem turn_file_cases :
    let full := fileName (session.after source before).context.module source.location.text
    (full = [] ∧ (session.turn source before comment).documented = none) ∨
      (full ≠ [] ∧ (session.turn source before comment).documented ≠ none ∧
        ∀ name, session.Yields source before comment name ↔ full = name) := by
  intro full
  have documented := @DescribesFile.documented session.kinds ⟨session.filesParsed, source⟩
    comment describes noSpace (session.after source before)
  have listed := @Session.mem_extractSource session source before after comment order
  rw [← Session.turn] at documented listed
  dsimp only at documented
  unfold Session.Yields
  generalize session.turn source before comment = outcome at documented listed ⊢
  obtain ⟨drops, gives⟩ := documented
  by_cases empty : full = []
  · exact .inl ⟨empty, drops empty⟩
  · obtain ⟨documented, found, path, short⟩ := gives empty
    have yields : outcome.documented ≠ none := Option.ne_none_iff_exists'.mpr ⟨documented, found⟩
    refine .inr ⟨empty, yields, fun name => ⟨?_, ?_⟩⟩
    · rintro ⟨other, _, again, named, _⟩
      cases found.symm.trans again
      exact path.symm.trans named
    · rintro rfl
      exact ⟨documented, listed found, found, path, short⟩

end Turn

/-- A comment that describes its file yields a doclet exactly if there is a word in where the file
lies, and one name is the path and the name of the doclet. That name is where the file lies exactly
if resolution keeps it: under a module without blanks, if there are no blanks in it, no prototype
segments and no member of `exports` that the module is written for. -/
theorem file_named_iff {session : Session} {source : Source} {before after : List Cursor}
    {comment : Cursor} (order : docComments source = before ++ comment :: after)
    (describes : DescribesFile source comment) (noSpace : session.kinds.isDocspace "file" = false)
    {written : Text} (located : source.location = Location.ofText written) :
    let place := source.location.text
    let module := (session.after source before).context.module
    ((session.turn source before comment).documented ≠ none ↔
        ∃ c ∈ place, Text.isBlank c = false) ∧
      ((session.turn source before comment).documented ≠ none →
        session.Yields source before comment (fileName module place)) ∧
      (session.Yields source before comment place ↔ fileName module place = place) ∧
      ((∀ c ∈ module, Text.isBlank c = false) →
        (session.Yields source before comment place ↔
          (∀ c ∈ place, Text.isBlank c = false) ∧ ¬ Path.HasPrototype place ∧
            (module = [] ∨ module = "exports" ∨
              ∀ member, member ≠ [] → place ≠ ("exports." : Text) ++ member))) := by
  intro place module
  have some : place ≠ [] := by
    show source.location.text ≠ []
    rw [located]
    exact Location.text_ne_nil (Location.proper_ofText written)
  have isPlace : (Doclet.set ⟨[], 0⟩ "name" place).name = place := Doclet.value_set_same _ _ _
  have isFull : fullName module (Doclet.set ⟨[], 0⟩ "name" place) = fileName module place := by
    rw [fullName, isPlace, fileName]
  have word : fileName module place ≠ [] ↔ ∃ c ∈ place, Text.isBlank c = false := by
    rw [← isFull, ne_eq, fullName_eq_nil_iff, Nameless, isPlace]
    simp
  have names (noBlank : ∀ c ∈ module, Text.isBlank c = false) := by
    have kept := fullName_eq_name_iff noBlank (Doclet.set ⟨[], 0⟩ "name" place)
    rwa [isFull, isPlace] at kept
  -- without a word in it, the place gives no name, and the comment is dropped
  rcases turn_file_cases order describes noSpace with ⟨empty, drops⟩ | ⟨given, gives, yields⟩
  · have noneYielded (name : Text) : ¬ session.Yields source before comment name := by
      rintro ⟨documented, _, found, _⟩
      rw [drops] at found
      cases found
    have notKept : fileName module place ≠ place := fun kept => some (kept.symm.trans empty)
    exact ⟨iff_of_false (not_not.mpr drops) (mt word.mpr (not_not.mpr empty)),
      fun given => absurd drops given, iff_of_false (noneYielded _) notKept,
      fun noBlank => iff_of_false (noneYielded _) (mt (names noBlank).mpr notKept)⟩
  · exact ⟨iff_of_true gives (word.mp given), fun _ => (yields _).mpr rfl, yields place,
      fun noBlank => (yields place).trans (names noBlank)⟩

/-- A file in a folder, described below a module. -/
theorem file_named_module :
    let tree : Tree := .node "program" true 0 28 none
      [.node "comment" true 0 16 none [], .node "comment" true 16 28 none []]
    let source : Source := ⟨⟨.relative, ["src", "exports.js"]⟩,
      Utf8.encode "/** @module m *//** @file */", tree⟩
    let session := Session.start KindTable.standard defaultLimit
    let last : Tree := .node "comment" true 16 28 none []
    let first : Cursor := ⟨.node "comment" true 0 16 none [], [⟨tree, [last]⟩]⟩
    let comment : Cursor := ⟨last, [⟨tree, []⟩]⟩
    docComments source = [first] ++ comment :: [] ∧ DescribesFile source comment ∧
      (session.after source [first]).context.module = "module:m" ∧
      session.Yields source [first] comment "src/exports.js" := by
  intro tree source session last first comment
  have order : docComments source = [first] ++ comment :: [] :=
    docComments_of_all rfl (by decide +kernel)
  have describes : DescribesFile source comment :=
    ⟨by decide +kernel, by decide +kernel, by decide +kernel⟩
  have module : (session.after source [first]).context.module = "module:m" := by decide +kernel
  have located : source.location = Location.ofText "src/exports.js" := by decide +kernel
  obtain ⟨_, _, _, plain⟩ :=
    @file_named_iff session source [first] [] comment order describes (by decide +kernel)
      "src/exports.js" located
  rw [module] at plain
  have outside : ∀ member : Text, member ≠ [] →
      source.location.text ≠ ("exports." : Text) ++ member := by
    intro member _ same
    have first := congrArg List.head? same
    exact absurd first (by simp [source]; decide)
  refine ⟨order, describes, module, (plain ?_).mpr ⟨?_, ?_, .inr (.inr outside)⟩⟩
  · exact forall_false_iff_any.mpr (by decide)
  · exact forall_false_iff_any.mpr (by decide +kernel)
  · show ¬ (".prototype" : Text) <:+: source.location.text
    decide +kernel

/-- A file whose place is not one word. -/
theorem file_not_named :
    let source : Source := ⟨Location.ofText "my file.js", Utf8.encode "/** @file */",
      .node "program" true 0 12 none [.node "comment" true 0 12 none []]⟩
    let session := Session.start KindTable.standard defaultLimit
    source.location.text = "my file.js" ∧ session.kinds.isDocspace "file" = false ∧
      (session.extractSource source).2.documented.map
        (fun documented => [documented.doclet.path, documented.doclet.name]) =
          [[("my" : Text), "my"]] := by
  decide +kernel

end SymbolPath.Extraction
