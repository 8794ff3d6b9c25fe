import Mathlib.Data.List.Basic
import Mathlib.Data.List.TakeWhile
import SymbolPath.Proofs.Settings.Canonical
import SymbolPath.Proofs.Sources.Naming
import SymbolPath.Proofs.Text.SmallLetters

/-!
Which files a list of endings stands for. A list that is accepted asks for the files whose ending it
has, letter case aside. Endings of files are put in small letters and then looked up, so an item
with a capital finds nothing: a folder gives just the files asked for if all items that a file can
end in are listed in small letters.
-/

namespace SymbolPath

/-- A dot, and no other behind it. -/
def IsEnding : Text → Prop
  | [] => False
  | c :: rest => c = '.' ∧ '.' ∉ rest

instance : (t : Text) → Decidable (IsEnding t)
  | [] => inferInstanceAs (Decidable False)
  | c :: rest => inferInstanceAs (Decidable (c = '.' ∧ '.' ∉ rest))

theorem isEnding_lower {t : Text} (ending : IsEnding t) : IsEnding (Text.lower t) := by
  cases t with
  | nil => exact ending
  | cons c rest =>
      obtain ⟨rfl, bare⟩ := ending
      exact ⟨rfl, mt Text.dot_mem_of_mem_lowerFrom bare⟩

theorem suffixOf_cases (name : Text) :
    Location.suffixOf name = [] ∨ IsEnding (Location.suffixOf name) := by
  unfold Location.suffixOf
  -- the name is read from its end up to the first dot
  have whole := List.takeWhile_append_dropWhile (p := (· != '.')) (l := name.reverse)
  have stops := List.head?_dropWhile_not (· != '.') name.reverse
  have bare : '.' ∉ name.reverse.takeWhile (· != '.') := by
    intro member
    simpa using List.mem_takeWhile_imp member
  cases found : name.reverse.dropWhile (· != '.') with
  | nil => exact .inl rfl
  | cons c before =>
      rw [found] at whole stops
      obtain rfl : c = '.' := by simpa using stops
      generalize name.reverse.takeWhile (· != '.') = behind at whole bare
      have parted : name = before.reverse ++ '.' :: behind.reverse := by
        rw [← List.reverse_inj, ← whole]
        simp
      have ending : name.drop before.length = '.' :: behind.reverse := by
        rw [parted]
        exact List.drop_left' List.length_reverse
      dsimp only
      split
      · exact .inl rfl
      · rw [ending]
        exact .inr ⟨rfl, mt List.mem_reverse.mp bare⟩

namespace Sources

def IsFileName (name : Text) : Prop :=
  Location.IsName name ∧ name ≠ FileTree.parentName ∧ '\x00' ∉ name ∧
    FileTree.isTooLong name = false

instance (name : Text) : Decidable (IsFileName name) :=
  inferInstanceAs (Decidable (Location.IsName name ∧ name ≠ FileTree.parentName ∧
    '\x00' ∉ name ∧ FileTree.isTooLong name = false))

/-- All files are led to by what files and folders can be called. -/
def Storable (tree : FileTree) : Prop :=
  ∀ names ∈ tree.files, ∀ name ∈ names, IsFileName name

/-- Does a list ask for files of this ending, letter case aside? -/
def Asked (items : List Text) (ending : Text) : Prop :=
  ∃ item ∈ items, IsEnding item ∧ Text.lower ending = Text.lower item

instance (items : List Text) (ending : Text) : Decidable (Asked items ending) :=
  inferInstanceAs (Decidable (∃ item ∈ items, IsEnding item ∧ Text.lower ending = Text.lower item))

/-- The files below a folder that a list asks for, in the order of their names. -/
def askedBelow (items : List Text) (folder : Location) (tree : FileTree) : List Location :=
  ((tree.files.mergeSort FileTree.namesLe).map folder.child).filter fun l => Asked items l.suffix

/-- Every folder stands for just the files that a list asks for. -/
def TakesAsked (settings : Settings) (items : List Text) : Prop :=
  ∀ disk project target entries, Storable disk.tree →
    disk.find? (project.append (Location.ofText target)) = .ok (some (.folder entries)) →
      expand disk settings project target = .ok
        ((askedBelow items (project.append (Location.ofText target)) (.folder entries)).map .source)

/-- Can the name of a file end in this, letter case aside? -/
def CanEnd (item : Text) : Prop :=
  ∃ name, IsFileName name ∧ Text.lower (Location.suffixOf name) = Text.lower item

theorem asked_of_lower_mem {items : List Text} (filled : ∀ item ∈ items, item ≠ [])
    {name : Text} (member : Text.lower (Location.suffixOf name) ∈ items) :
    Asked items (Location.suffixOf name) := by
  rcases suffixOf_cases name with none | ending
  · rw [none] at member
    exact absurd rfl (filled _ member)
  · exact ⟨_, member, isEnding_lower ending, (Text.lower_lower _).symm⟩

theorem matchesExtension_iff {settings : Settings} {items : List Text}
    (listed : settings.extensions = items.map .text) (ending : Text) :
    settings.matchesExtension ending = true ↔ Text.lower ending ∈ items := by
  rw [Settings.matchesExtension, listed]
  simp [Value.text?]

theorem ne_nil_of_mem_filesOf {entries : List (Text × FileTree)} {names : List Text}
    (member : names ∈ FileTree.filesOf entries) : names ≠ [] := by
  induction entries with
  | nil => cases member
  | cons entry rest ih =>
      rw [FileTree.filesOf, List.mem_append] at member
      rcases member with here | later
      · obtain ⟨below, _, rfl⟩ := List.mem_map.mp here
        exact List.cons_ne_nil entry.1 below
      · exact ih later

theorem suffix_child (folder : Location) {names : List Text} (below : names ≠ []) :
    (folder.child names).suffix = Location.suffixOf (names.getLast below) := by
  rw [Location.suffix, Location.child, List.getLast?_append_of_ne_nil _ below,
    List.getLast?_eq_getLast_of_ne_nil below]
  rfl

theorem expand_folder {disk : Disk} {project : Location} {target : Text}
    {entries : List (Text × FileTree)}
    (stands : disk.find? (project.append (Location.ofText target)) = .ok (some (.folder entries)))
    (settings : Settings) :
    expand disk settings project target =
      .ok ((below settings (project.append (Location.ofText target)) (.folder entries)).map
        .source) := by
  simp only [expand, stands]
  rfl

theorem storable_of_find? {disk : Disk} (storable : Storable disk.tree) {l : Location}
    {found : FileTree} (stands : disk.find? l = .ok (some found)) : Storable found := by
  obtain ⟨above, leads⟩ := Disk.exists_at?_of_find? stands
  intro names below name member
  exact storable _ (FileTree.mem_files_of_at? leads below) name (List.mem_append_right above member)

theorem askedBelow_eq_below {settings : Settings} {items : List Text}
    (listed : settings.extensions = items.map .text) (filled : ∀ item ∈ items, item ≠ [])
    (small : ∀ item ∈ items, IsEnding item → CanEnd item → Text.lower item ∈ items)
    (folder : Location) {entries : List (Text × FileTree)} (storable : Storable (.folder entries)) :
    below settings folder (.folder entries) = askedBelow items folder (.folder entries) := by
  apply List.filter_congr
  intro l isFile
  obtain ⟨names, inTree, rfl⟩ := List.mem_map.mp isFile
  rw [List.mem_mergeSort] at inTree
  have below := ne_nil_of_mem_filesOf inTree
  have named := storable names inTree _ (List.getLast_mem below)
  rw [suffix_child folder below, Bool.eq_iff_iff, matchesExtension_iff listed, decide_eq_true_iff]
  constructor
  · exact asked_of_lower_mem filled
  · rintro ⟨item, isItem, ending, same⟩
    rw [same]
    exact small item isItem ending ⟨_, named, same⟩

/-- A disk with nothing but a file on it, seen from its top. -/
def lone (name : Text) : Disk := ⟨.folder [(name, .file [])], []⟩

def top : Location := ⟨.relative, []⟩

theorem storable_lone {name : Text} (named : IsFileName name) : Storable (lone name).tree := by
  intro names isFile other member
  obtain rfl : names = [name] := by simpa [lone, FileTree.files, FileTree.filesOf] using isFile
  obtain rfl := List.mem_singleton.mp member
  exact named

theorem mem_files_lone (name : Text) :
    top.child [name] ∈
      ((lone name).tree.files.mergeSort FileTree.namesLe).map top.child := by
  simp [lone, FileTree.files, FileTree.filesOf]

theorem TakesAsked.lone {settings : Settings} {items : List Text}
    (takes : TakesAsked settings items) {name : Text} (named : IsFileName name) :
    below settings top (lone name).tree = askedBelow items top (lone name).tree := by
  have stands : (Sources.lone name).find? (top.append (Location.ofText ['.'])) =
      .ok (some (.folder [(name, .file [])])) := rfl
  have taken := takes _ top ['.'] _ (storable_lone named) stands
  rw [expand_folder stands] at taken
  exact List.map_injective_iff.mpr (fun _ _ => Found.source.inj) (Except.ok.inj taken)

theorem takesAsked_iff {settings : Settings} {items : List Text}
    (listed : settings.extensions = items.map .text) (filled : ∀ item ∈ items, item ≠ []) :
    TakesAsked settings items ↔
      ∀ item ∈ items, IsEnding item → CanEnd item → Text.lower item ∈ items := by
  constructor
  · intro takes item isItem ending
    rintro ⟨name, named, same⟩
    -- a disk with one file of that name shows whether it is found
    have suffix : (top.child [name]).suffix = Location.suffixOf name :=
      suffix_child top (List.cons_ne_nil name [])
    have isAsked : Asked items (top.child [name]).suffix := by
      rw [suffix]
      exact ⟨item, isItem, ending, same⟩
    have asked : top.child [name] ∈ askedBelow items top (lone name).tree :=
      List.mem_filter.mpr ⟨mem_files_lone name, decide_eq_true isAsked⟩
    rw [← takes.lone named] at asked
    have found := (matchesExtension_iff listed _).mp (List.mem_filter.mp asked).2
    rwa [suffix, same] at found
  · intro small disk project target entries storable stands
    rw [expand_folder stands, askedBelow_eq_below listed filled small _
      (storable_of_find? storable stands)]

end Sources

namespace Settings

def reading (ending : Text) : Settings :=
  { standard with extensions := [.text ending] }

def readingText (ending : Text) : Text :=
  "display:\n  format: table\nparsing:\n  extensions:\n  - " ++ ending ++
    "\n  max_file_size: 300000\nresolver:\n  docspace_kinds:\n  - event\n  - module\n"

def commonEndings : List Text := [".js", ".JS"]

theorem reading_written {ending : Text} (common : ending ∈ commonEndings) :
    (reading ending).fileText = .ok (readingText ending) := by
  have shown : Whole.text? 300000 = some "300000" := by decide +kernel
  have text : ∀ ending ∈ commonEndings,
      ((Yaml.Draft.writeEntries [] 0 .empty (draft KindTable.standardDocspaces [ending]
        "300000" "table")).startAt 0).text = readingText ending := by decide +kernel
  rw [← text ending common]
  exact fileText_of_texts KindTable.standardDocspaces [ending] "table" shown

theorem reading_readsBack {ending : Text} (common : ending ∈ commonEndings) :
    (reading ending).ReadsBack := by
  have said : ∀ ending ∈ commonEndings,
      consistsOf (Utf8.encode (readingText ending)) (reading ending).byKey = true := by
    decide +kernel
  exact readsBack_of_entries (reading_written common) (said ending common)

theorem reading_wellTyped (ending : Text) : (reading ending).WellTyped
  | .docspaceKinds => standard_wellTyped .docspaceKinds
  | .maxFileSize => standard_wellTyped .maxFileSize
  | .extensions => ⟨_, rfl, Value.isString_texts [ending]⟩
  | .format => rfl

end Settings

namespace Store

theorem set_extensions_cases {store : Store} {written : Text}
    (done : (store.set "parsing.extensions" written .project).1 = .done) :
    let after := (store.set "parsing.extensions" written .project).2
    ∃ settings changed, store.settings = .ok settings ∧ after.settings = .ok changed ∧
      changed.extensions = Settings.listOf written ∧
      (settings.WellTyped → changed.ReadsBack → ∀ environment user layer,
        Settings.fileLayer .userFile user = .ok layer →
          (Store.new environment user after.project).settings = .ok changed) := by
  intro after
  obtain ⟨settings, setting, changed, text, read, named, taken, valid, toWrite, left⟩ :=
    set_done_cases done
  obtain rfl : Setting.extensions = setting := Except.ok.inj named
  have isAfter : after = (store.keep changed).putFile .project text := congrArg Prod.snd left
  refine ⟨settings, changed, read, by rw [isAfter]; rfl, ?_, ?_⟩
  · cases taken
    rfl
  · intro typed readsBack environment user layer readUser
    rw [isAfter]
    exact Settings.load_byKey (typed.change taken) (readsBack text .projectFile toWrite) readUser
      environment

/-- Every folder gives the files that an accepted list asks for just if no item that a file can end
in is missing in small letters. -/
theorem accepted_extensions_select_iff {store : Store} {written : Text}
    (done : (store.set "parsing.extensions" written .project).1 = .done) :
    let after := (store.set "parsing.extensions" written .project).2
    let items := Settings.splitList written
    ∃ settings changed, store.settings = .ok settings ∧ after.settings = .ok changed ∧
      (settings.WellTyped → changed.ReadsBack → ∀ environment user layer,
        Settings.fileLayer .userFile user = .ok layer →
          (Store.new environment user after.project).settings = .ok changed) ∧
      (Sources.TakesAsked changed items ↔
        ∀ item ∈ items, IsEnding item → Sources.CanEnd item → Text.lower item ∈ items) := by
  intro after items
  obtain ⟨settings, changed, read, kept, listed, alone⟩ := set_extensions_cases done
  refine ⟨settings, changed, read, kept, alone, ?_⟩
  exact Sources.takesAsked_iff listed fun _ member => (Settings.clean_of_splitList member).2.2

theorem set_reading {ending : Text} (common : ending ∈ Settings.commonEndings) :
    (new ⟨[], []⟩ none none).set "parsing.extensions" ending .project =
      (.done, ((new ⟨[], []⟩ none none).keep (Settings.reading ending)).putFile .project
        (Settings.readingText ending)) := by
  have saved : (new ⟨[], []⟩ none none).set "parsing.extensions" ending .project =
      (new ⟨[], []⟩ none none).save (Settings.reading ending) .project := by
    simp only [Settings.commonEndings, List.mem_cons, List.not_mem_nil, or_false] at common
    rcases common with rfl | rfl <;> exact set_of_valid rfl rfl rfl rfl .project
  rw [saved, save, Settings.reading_written common]

theorem settings_after_reading {ending : Text} (common : ending ∈ Settings.commonEndings) :
    let after := ((new ⟨[], []⟩ none none).set "parsing.extensions" ending .project).2
    after.settings = .ok (Settings.reading ending) ∧
      (new ⟨[], []⟩ none after.project).settings = .ok (Settings.reading ending) := by
  intro after
  have isAfter : after = _ := congrArg Prod.snd (set_reading common)
  rw [isAfter]
  refine ⟨rfl, ?_⟩
  exact Settings.load_byKey (Settings.reading_wellTyped ending)
    (Settings.reading_readsBack common _ _ (Settings.reading_written common)) rfl _

/-- An ending in small letters is set, and finds its files. -/
theorem accepted_extensions_select_small :
    let store := new ⟨[], []⟩ none none
    let after := (store.set "parsing.extensions" ".js" .project).2
    (store.set "parsing.extensions" ".js" .project).1 = .done ∧
      (new ⟨[], []⟩ none after.project).settings = .ok (Settings.reading ".js") ∧
      Sources.TakesAsked (Settings.reading ".js") [".js"] := by
  intro store after
  have common : (".js" : Text) ∈ Settings.commonEndings := by decide
  have done : (store.set "parsing.extensions" ".js" .project).1 = .done := by
    rw [set_reading common]
  have kept := (settings_after_reading common).1
  obtain ⟨settings, changed, read, again, alone, takes⟩ := accepted_extensions_select_iff done
  obtain rfl : Settings.standard = settings := Except.ok.inj read
  obtain rfl := Except.ok.inj (kept.symm.trans again)
  refine ⟨done, ?_, takes.mpr ?_⟩
  · exact alone Settings.standard_wellTyped (Settings.reading_readsBack common) _ none [] rfl
  · intro item member _ _
    obtain rfl := List.mem_singleton.mp member
    decide

/-- An ending in capitals is taken over, but no file is ever found by it. -/
theorem capital_extension_unread :
    let store := new ⟨[], []⟩ none none
    let after := (store.set "parsing.extensions" ".JS" .project).2
    (store.set "parsing.extensions" ".JS" .project).1 = .done ∧
      (new ⟨[], []⟩ none after.project).settings = .ok (Settings.reading ".JS") ∧
      Settings.splitList ".JS" = [".JS"] ∧
      Sources.expand (Sources.lone "a.JS") (Settings.reading ".JS") Sources.top ['.'] = .ok [] ∧
      Sources.askedBelow [".JS"] Sources.top (Sources.lone "a.JS").tree =
        [Sources.top.child ["a.JS"]] ∧
      ¬ Sources.TakesAsked (Settings.reading ".JS") [".JS"] := by
  intro store after
  have common : (".JS" : Text) ∈ Settings.commonEndings := by decide
  have asked : Sources.askedBelow [".JS"] Sources.top (Sources.lone "a.JS").tree =
      [Sources.top.child ["a.JS"]] := by decide +kernel
  have found : Sources.below (Settings.reading ".JS") Sources.top (Sources.lone "a.JS").tree = [] :=
    by decide +kernel
  refine ⟨by rw [set_reading common], (settings_after_reading common).2, by decide,
    by decide +kernel, asked, ?_⟩
  intro takes
  have same := takes.lone (show Sources.IsFileName "a.JS" by decide)
  rw [asked, found] at same
  cases same

end Store
end SymbolPath
