import Mathlib.Data.List.Induction
import SymbolPath.CommandLine.Run
import SymbolPath.Proofs.Extraction.Isolation
import SymbolPath.Proofs.Extraction.Turns
import SymbolPath.Proofs.Sources.Naming

/-!
Targets that repeat files. All files are read in one session, which finds in each what a session of
its own finds, and files are listed under names of their own. Reading a file again therefore puts
the same doclets in the same place, and a report shows each file once, where it was first met.
-/

namespace SymbolPath

open Extraction

theorem eraseDups_concat {α : Type} [BEq α] [LawfulBEq α] (before : List α) (last : α) :
    (before ++ [last]).eraseDups =
      if last ∈ before then before.eraseDups else before.eraseDups ++ [last] := by
  rw [List.eraseDups_append]
  by_cases known : last ∈ before <;> simp [known, List.removeAll, List.eraseDups_cons]

theorem Listing.put_map {α : Type} [DecidableEq α] (name : α → Text) (doclets : α → List Doclet)
    {listed : List α} {one : α} (distinct : ∀ other ∈ listed, name other = name one → other = one) :
    Listing.put (listed.map fun l => (name l, doclets l)) (name one) (doclets one) =
      (if one ∈ listed then listed else listed ++ [one]).map fun l => (name l, doclets l) := by
  unfold Listing.put
  by_cases known : one ∈ listed
  · have found : (listed.map fun l => (name l, doclets l)).any (fun entry => entry.1 == name one) =
        true := by
      simpa using ⟨one, known, rfl⟩
    rw [if_pos found, if_pos known, List.map_map]
    refine List.map_congr_left fun other member => ?_
    by_cases same : name other = name one
    · obtain rfl := distinct other member same
      simp
    · simp [same]
  · have new : ¬ (listed.map fun l => (name l, doclets l)).any (fun entry => entry.1 == name one) =
        true := by
      simp only [List.any_map, List.any_eq_true, Function.comp_apply, beq_iff_eq, not_exists,
        not_and]
      exact fun other member same => known (distinct other member same ▸ member)
    rw [if_neg new, if_neg known, List.map_append]
    rfl

namespace Sources

section Files

variable (disk : Disk) (grammar : Grammar)

/-- What a session finds in a file does not depend on what it read before. -/
theorem extractFile_fresh {session : Session} (sound : session.Sound) (location : Location) :
    (extractFile disk grammar session location).2 =
      (extractFile disk grammar (Session.start session.kinds session.limit) location).2 := by
  unfold extractFile
  dsimp only
  split
  · rfl
  · exact Session.extract_fresh sound grammar location _

/-- A session with nothing registered for files to come, of some kinds and limit. -/
structure Steady (kinds : KindTable) (limit : Int) (session : Session) : Prop where
  sound : session.Sound
  kinds : session.kinds = kinds
  limit : session.limit = limit

theorem steady_start (kinds : KindTable) (limit : Int) :
    Steady kinds limit (Session.start kinds limit) :=
  ⟨Session.sound_start kinds limit, rfl, rfl⟩

theorem Steady.extractFile {kinds : KindTable} {limit : Int} {session : Session}
    (steady : Steady kinds limit session) (location : Location) :
    Steady kinds limit (extractFile disk grammar session location).1 := by
  unfold Sources.extractFile
  dsimp only
  split
  · exact steady
  · rename_i written _
    have kept := session.extract_keeps grammar location (Text.unifyLineEnds written)
    exact ⟨steady.sound.extract grammar location _, kept.1.trans steady.kinds,
      kept.2.trans steady.limit⟩

def docletsOf (kinds : KindTable) (limit : Int) (location : Location) : List Doclet :=
  (extractFile disk grammar (Session.start kinds limit) location).2.documented.map
    Documented.doclet

theorem docletsOf_of_text {disk : Disk} {kinds : KindTable} {limit : Int} {location : Location}
    {bytes : Bytes} {t : Text} (parse : Bytes → Syntax.Tree)
    (held : disk.read? location = .ok (some bytes)) (decoded : Utf8.decode bytes = .ok t)
    (fits : ((Utf8.encode (Text.unifyLineEnds t)).length : Int) ≤ limit) :
    let content := Utf8.encode (Text.unifyLineEnds t)
    docletsOf disk (.ready parse) kinds limit location =
      ((Session.start kinds limit).extractSource
        ⟨location, content, parse content⟩).2.documented.map Documented.doclet := by
  have small : ¬ ((Utf8.encode (Text.unifyLineEnds t)).length : Int) >
      (Session.start kinds limit).limit := Int.not_lt.mpr fits
  simp only [docletsOf, extractFile, held, decoded, Session.extract, if_neg small]

def listedOnce (project : Location) (kinds : KindTable) (limit : Int) (locations : List Location) :
    Listing.ByFile :=
  locations.eraseDups.map fun l => (shownName project l, docletsOf disk grammar kinds limit l)

end Files

def missingOf (found : List Found) : List Text :=
  found.filterMap fun
    | .source _ => none
    | .missing target => some target

section Surveys

variable {disk : Disk} {grammar : Grammar} {project : Location}
variable {kinds : KindTable} {limit : Int}

theorem survey_concat (session : Session) (before : List Found) (last : Found) :
    survey disk grammar project session (before ++ [last]) =
      Survey.add disk grammar project (survey disk grammar project session before) last :=
  List.foldl_append

theorem survey_missing (session : Session) (found : List Found) :
    (survey disk grammar project session found).missing = missingOf found := by
  induction found using List.reverseRecOn with
  | nil => rfl
  | append_singleton before last ih =>
      rw [survey_concat, missingOf, List.filterMap_append, ← missingOf, ← ih]
      cases last with
      | source location => simp [Survey.add]
      | missing target => simp [Survey.add]

theorem survey_steady (found : List Found) :
    Steady kinds limit
      (survey disk grammar project (Session.start kinds limit) found).session := by
  induction found using List.reverseRecOn with
  | nil => exact steady_start kinds limit
  | append_singleton before last ih =>
      rw [survey_concat]
      cases last with
      | source location => exact ih.extractFile disk grammar location
      | missing target => exact ih

theorem listing_add {survey : Survey} (steady : Steady kinds limit survey.session)
    (location : Location) :
    (survey.add disk grammar project (.source location)).listing =
      Listing.put survey.listing (shownName project location)
        (docletsOf disk grammar kinds limit location) := by
  obtain ⟨sound, rfl, rfl⟩ := steady
  have fresh := extractFile_fresh disk grammar sound location
  simp only [Survey.add, docletsOf, fresh]

/-- A survey lists each file once, with what is found in it alone, if no two files are shown by one
name. -/
theorem survey_listing (found : List Found)
    (distinct : ∀ l ∈ sourcesOf found, ∀ other ∈ sourcesOf found,
      shownName project l = shownName project other → l = other) :
    (survey disk grammar project (Session.start kinds limit) found).listing =
      listedOnce disk grammar project kinds limit (sourcesOf found) := by
  induction found using List.reverseRecOn with
  | nil => rfl
  | append_singleton before last ih =>
      rw [survey_concat]
      rw [sourcesOf_append] at distinct ⊢
      have listed := ih fun l member other otherMember =>
        distinct l (List.mem_append_left _ member) other (List.mem_append_left _ otherMember)
      cases last with
      | missing target =>
          rw [show sourcesOf [.missing target] = [] from rfl, List.append_nil]
          exact listed
      | source location =>
          rw [show sourcesOf [.source location] = [location] from rfl] at distinct ⊢
          rw [listing_add (survey_steady before), listed, listedOnce, Listing.put_map, listedOnce,
            eraseDups_concat]
          · simp
          · intro other member same
            exact distinct other (List.mem_append_left _ (List.mem_eraseDups.mp member)) location
              (List.mem_append_right _ List.mem_cons_self) same

end Surveys

theorem survey_of_targets {disk : Disk} (grammar : Grammar) (settings : Settings)
    {project : Location} (named : disk.tree.Named) (proper : project.Proper) (kinds : KindTable)
    (limit : Int) (targets : List Text) :
    let found := (expandAll disk settings project targets).1
    (survey disk grammar project (Session.start kinds limit) found).listing =
      listedOnce disk grammar project kinds limit (sourcesOf found) := by
  refine survey_listing _ fun l member other otherMember same => ?_
  exact shownName_inj (placed_of_expandAll settings named proper targets member)
    (placed_of_expandAll settings named proper targets otherMember) same

end Sources

namespace CommandLine

open Sources

/-- How a listing of doclets ends and what is printed of it, besides the targets that are missing. -/
def closing (format : Text) (listing : Listing.ByFile) : Nat × Text :=
  if listing.isEmpty then (1, "No source files found.\n")
  else (0, Listing.render format listing ++ "\n")

theorem report_eq (format : Text) (survey : Survey) :
    report format survey =
      ((closing format survey.listing).1,
        survey.missing.flatMap notFound ++ (closing format survey.listing).2) := by
  unfold report closing
  dsimp only
  split
  · rfl
  · exact congrArg (Prod.mk 0) (List.append_assoc _ _ _)

theorem runPaths_once {around : Surroundings} {settings : Settings} {project : Location}
    (named : around.disk.tree.Named) (proper : project.Proper) (told : Invocation)
    (ends : (expandAll around.disk settings project told.targets).2 = none) {kinds : KindTable}
    (usable : settings.kindTable = .ok kinds) (ready : around.grammar.isReady = true) :
    let found := (expandAll around.disk settings project told.targets).1
    let shown := closing (formatOf settings told.format)
      (listedOnce around.disk around.grammar project kinds settings.maxFileSize (sourcesOf found))
    (runPaths around settings project told).status = .ok shown.1 ∧
      (runPaths around settings project told).output =
        (missingOf found).flatMap notFound ++ shown.2 := by
  intro found shown
  have listing := survey_of_targets around.grammar settings named proper kinds
    settings.maxFileSize told.targets
  dsimp only at listing
  unfold runPaths
  rw [usable]
  dsimp only
  rw [ready, ends, report_eq, survey_missing, listing]
  exact ⟨rfl, rfl⟩

/-- Two lists of targets that can all be looked at, and that stand for the same files in the order in
which they are first met, leave the same report, in whatever format, but for the targets that are
missing: the report of each of these files once. -/
theorem repeated_targets_traceless (around : Surroundings) (settings : Settings) (written : Text)
    (told : Invocation) {first second : List Text} (named : around.disk.tree.Named)
    (firstEnds : (expandAll around.disk settings (.ofText written) first).2 = none)
    (secondEnds : (expandAll around.disk settings (.ofText written) second).2 = none)
    (same : (sourcesOf (expandAll around.disk settings (.ofText written) first).1).eraseDups =
      (sourcesOf (expandAll around.disk settings (.ofText written) second).1).eraseDups) :
    let project := Location.ofText written
    let found targets := (expandAll around.disk settings project targets).1
    let ended targets := runPaths around settings project { told with targets := targets }
    (∀ kinds, settings.kindTable = .ok kinds → around.grammar.isReady = true →
      let shown := closing (formatOf settings told.format) (listedOnce around.disk around.grammar
        project kinds settings.maxFileSize (sourcesOf (found first)))
      ∀ targets ∈ [first, second], (ended targets).status = .ok shown.1 ∧
        (ended targets).output = (missingOf (found targets)).flatMap notFound ++ shown.2) ∧
    ((around.grammar.isReady = false ∨ ∀ kinds, settings.kindTable ≠ .ok kinds) →
      ended first = ended second) := by
  intro project found ended
  constructor
  · intro kinds usable ready shown targets isOne
    have proper := Location.proper_ofText written
    obtain rfl | rfl : targets = first ∨ targets = second := by simpa using isOne
    · exact runPaths_once named proper { told with targets := targets } firstEnds usable ready
    · have once := runPaths_once named proper { told with targets := targets } secondEnds usable
        ready
      unfold listedOnce at once
      dsimp only at once
      rw [← same] at once
      exact once
  · intro unready
    dsimp only [ended]
    unfold runPaths
    cases usable : settings.kindTable with
    | error reason => rfl
    | ok kinds =>
        rcases unready with notReady | unusable
        · simp only [notReady]
          rfl
        · exact absurd usable (unusable kinds)

/-- A file that stands below one target and is another, and a file that is missing. -/
theorem repeated_targets_traceless_folder :
    let written : Text := "/** A */function f()\x7b\x7d"
    let tree : Syntax.Tree := .node "program" true 0 22 none [.node "comment" true 0 8 none [],
      .node "function_declaration" true 8 22 none [.node "identifier" true 17 18 (some "name") []]]
    let file : FileTree := .file (Utf8.encode written)
    let around : Surroundings := ⟨⟨.folder [("src", .folder [("a.js", file)])], []⟩, .ofText "home",
      none, ⟨[], []⟩, .ready fun _ => tree⟩
    let settings : Settings := { Settings.standard with docspaceKinds := [] }
    let found targets := expandAll around.disk settings (.ofText ".") targets
    let ended targets :=
      runPaths around settings (.ofText ".") { Invocation.start with targets := targets }
    let twice : List Text := ["src", "src/a.js", "gone"]
    let once : List Text := ["src/a.js"]
    let table : Text :=
      "src/a.js:\nKIND    PATH  NAME  MEMBEROF  ACCESS\nmethod  f     f     -         -\n"
    around.disk.tree.Named ∧
      found twice = ([.source (.ofText "src/a.js"), .source (.ofText "src/a.js"),
        .missing "gone"], none) ∧
      found once = ([.source (.ofText "src/a.js")], none) ∧
      (ended twice).status = (ended once).status ∧
      (ended twice).output = notFound "gone" ++ (ended once).output ∧
      (ended once).status = .ok 0 ∧ (ended once).output = table := by
  intro written tree file around settings found ended twice once table
  have named : around.disk.tree.Named := by decide +kernel
  have foundTwice : found twice = ([.source (.ofText "src/a.js"), .source (.ofText "src/a.js"),
      .missing "gone"], none) := by decide +kernel
  have foundOnce : found once = ([.source (.ofText "src/a.js")], none) := by decide +kernel
  obtain ⟨shown, _⟩ := repeated_targets_traceless around settings "." Invocation.start named
    (congrArg Prod.snd foundTwice) (congrArg Prod.snd foundOnce)
    (by rw [show expandAll _ _ _ twice = _ from foundTwice,
      show expandAll _ _ _ once = _ from foundOnce]; decide +kernel)
  have doclets : docletsOf around.disk around.grammar (.ofDocspaces []) settings.maxFileSize
      (.ofText "src/a.js") =
        [⟨[⟨"desc", "A"⟩, ⟨"isa", "method"⟩, ⟨"name", "f"⟩, ⟨"path", "f"⟩], 1⟩] := by
    have held : around.disk.read? (.ofText "src/a.js") = .ok (some (Utf8.encode written)) := by
      decide +kernel
    have decoded : Utf8.decode (Utf8.encode written) = .ok written := by decide +kernel
    have unified : Text.unifyLineEnds written = written := by decide +kernel
    have comments : docComments ⟨.ofText "src/a.js", Utf8.encode written, tree⟩ =
        [⟨.node "comment" true 0 8 none [], [⟨tree, [.node "function_declaration" true 8 22 none
          [.node "identifier" true 17 18 (some "name") []]]⟩]⟩] :=
      docComments_of_all rfl (by decide +kernel)
    refine (docletsOf_of_text (fun _ => tree) held decoded (by decide +kernel)).trans ?_
    simp only [unified, Session.extractSource, comments]
    decide +kernel
  have listed : closing (formatOf settings Invocation.start.format) (listedOnce around.disk
      around.grammar (.ofText ".") (.ofDocspaces []) settings.maxFileSize
      (sourcesOf (expandAll around.disk settings (.ofText ".") twice).1)) = (0, table) := by
    have sources : (sourcesOf (found twice).1).eraseDups = [.ofText "src/a.js"] := by
      rw [foundTwice]
      decide +kernel
    rw [listedOnce, sources, List.map_singleton, doclets]
    decide +kernel
  have reports := shown (.ofDocspaces []) rfl rfl
  dsimp only at reports
  rw [listed] at reports
  obtain ⟨statusTwice, outputTwice⟩ := reports twice List.mem_cons_self
  obtain ⟨statusOnce, outputOnce⟩ := reports once (List.mem_cons_of_mem _ List.mem_cons_self)
  rw [show expandAll _ _ _ twice = _ from foundTwice] at outputTwice
  rw [show expandAll _ _ _ once = _ from foundOnce] at outputOnce
  exact ⟨named, foundTwice, foundOnce, statusTwice.trans statusOnce.symm,
    outputTwice.trans (congrArg (notFound "gone" ++ ·) outputOnce.symm), statusOnce, outputOnce⟩

end CommandLine

end SymbolPath
