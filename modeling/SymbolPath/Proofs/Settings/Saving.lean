import SymbolPath.Proofs.Settings.Precedence
import SymbolPath.Proofs.Settings.Writing

/-!
What a change leaves behind that is done. One setting is as written, the others stay as they are
kept, and all of them are written to the file. A file like this holds every setting, so that nothing
below it is looked at.
-/

namespace SymbolPath

namespace Settings

/-- Every setting has its type: lists of strings, a number, a string. -/
def WellTyped (settings : Settings) : Prop :=
  ∀ setting : Setting, setting.Fits (settings.valueOf setting)

theorem WellTyped.bare {settings : Settings} (typed : settings.WellTyped) (setting : Setting) :
    (settings.valueOf setting).bare = settings.valueOf setting := by
  cases setting with
  | docspaceKinds | maxFileSize | extensions => rfl
  | format => exact (typed .format).bare

theorem standard_wellTyped : standard.WellTyped
  | .docspaceKinds => ⟨_, rfl, Value.isString_texts KindTable.standardDocspaces⟩
  | .maxFileSize => ⟨standardFileSize, rfl⟩
  | .extensions => ⟨_, rfl, Value.isString_texts standardExtensions⟩
  | .format => rfl

theorem strongest_fits (environment : Environment) {user project : Mapping}
    (userShaped : user.Shaped) (projectShaped : project.Shaped) (setting : Setting) :
    setting.Fits (strongest environment user project setting) := by
  unfold strongest
  cases inProject : project.setting? setting with
  | some v => exact Setting.fits_bare (projectShaped.fits setting v inProject)
  | none =>
      cases inUser : user.setting? setting with
      | some v => exact Setting.fits_bare (userShaped.fits setting v inUser)
      | none =>
          cases said : environmental environment setting with
          | some v => exact environmental_fits said
          | none => exact standard_wellTyped setting

theorem load_shaped {environment : Environment} {userFile projectFile : Option Bytes}
    {user project : Mapping} {settings : Settings}
    (readUser : fileLayer .userFile userFile = .ok user)
    (readProject : fileLayer .projectFile projectFile = .ok project) (userShaped : user.Shaped)
    (projectShaped : project.Shaped)
    (loaded : load environment userFile projectFile = .ok settings) :
    settings.WellTyped ∧
      ∀ setting, settings.valueOf setting = strongest environment user project setting := by
  obtain ⟨made, isMade, decided⟩ := ofLayers_shaped environment userShaped projectShaped
  rw [load_of_layers readUser readProject, isMade] at loaded
  split at loaded
  · cases loaded
  · obtain rfl := Except.ok.inj loaded
    refine ⟨?_, decided⟩
    intro setting
    rw [decided]
    exact strongest_fits environment userShaped projectShaped setting

/-! A change of settings. -/

theorem change_size {settings changed : Settings} {written : Text}
    (taken : settings.change .maxFileSize written = .ok changed) :
    ∃ size, Whole.read written = .ok size ∧ changed = { settings with maxFileSize := size } := by
  simp only [change] at taken
  split at taken
  · cases taken
  · split at taken
    · rename_i size known
      cases taken
      exact ⟨size, known, rfl⟩
    · cases taken

theorem valueOf_change {settings changed : Settings} {setting other : Setting} {written : Text}
    (taken : settings.change setting written = .ok changed) (apart : other ≠ setting) :
    changed.valueOf other = settings.valueOf other := by
  cases setting with
  | maxFileSize =>
      obtain ⟨size, _, rfl⟩ := change_size taken
      cases other <;> first | rfl | exact absurd rfl apart
  | docspaceKinds | extensions | format =>
      cases taken
      cases other <;> first | rfl | exact absurd rfl apart

theorem change_error_ne_done {settings : Settings} {setting : Setting} {written : Text}
    {refused : Change} (untaken : settings.change setting written = .error refused) :
    refused ≠ .done := by
  cases setting with
  | maxFileSize =>
      simp only [change] at untaken
      split at untaken
      · cases untaken
        simp
      · split at untaken
        · cases untaken
        · cases untaken
          simp
  | docspaceKinds | extensions | format => cases untaken

theorem change_fits {settings changed : Settings} {setting : Setting} {written : Text}
    (taken : settings.change setting written = .ok changed) :
    setting.Fits (changed.valueOf setting) := by
  cases setting with
  | docspaceKinds =>
      cases taken
      exact ⟨_, rfl, Value.isString_texts (splitList written)⟩
  | maxFileSize => exact ⟨_, rfl⟩
  | extensions =>
      cases taken
      exact ⟨_, rfl, Value.isString_texts (splitList written)⟩
  | format =>
      cases taken
      rfl

theorem WellTyped.change {settings changed : Settings} {setting : Setting} {written : Text}
    (typed : settings.WellTyped) (taken : settings.change setting written = .ok changed) :
    changed.WellTyped := by
  intro other
  by_cases same : other = setting
  · rw [same]
    exact change_fits taken
  · rw [valueOf_change taken same]
    exact typed other

/-! A file that settings were written to. -/

/-- The settings as a file has them: the sections, and the settings in each, in the order of their
names. -/
def byKey (settings : Settings) : Mapping := [
  (.text "display", .map [(.text "format", settings.format)]),
  (.text "parsing", .map [
    (.text "extensions", .list settings.extensions),
    (.text "max_file_size", .int settings.maxFileSize)]),
  (.text "resolver", .map [(.text "docspace_kinds", .list settings.docspaceKinds)])]

/-- What is written of the settings is read as it was. -/
def ReadsBack (settings : Settings) : Prop :=
  ∀ text source, settings.fileText = .ok text →
    fileLayer source (some (Utf8.encode text)) = .ok settings.byKey

theorem byKey_section (settings : Settings) (setting : Setting) :
    ∃ entries, settings.byKey.at? setting.place.1 = some (.map entries) ∧
      Mapping.KeysOnce entries ∧
      Mapping.at? entries setting.place.2 = some (settings.valueOf setting) := by
  cases setting <;> unfold Setting.place byKey valueOf Mapping.KeysOnce <;>
    simp [Mapping.at?_cons, Mapping.sameKey_text]

theorem setting?_byKey (settings : Settings) (setting : Setting) :
    settings.byKey.setting? setting = some (settings.valueOf setting) := by
  obtain ⟨entries, inLayer, _, inSection⟩ := byKey_section settings setting
  rw [Mapping.setting?, inLayer, Option.bind_some, entries?_map, Option.bind_some, inSection]

theorem byKey_shaped {settings : Settings} (typed : settings.WellTyped) :
    settings.byKey.Shaped where
  once := by simp [byKey, Mapping.KeysOnce, Mapping.sameKey_text]
  sections setting value found := by
    obtain ⟨entries, inLayer, once, _⟩ := byKey_section settings setting
    rw [inLayer] at found
    exact Option.some.inj found ▸ ⟨entries, rfl, once⟩
  fits setting value said := by
    rw [setting?_byKey] at said
    exact Option.some.inj said ▸ typed setting

theorem byKey_within {settings : Settings} (typed : settings.WellTyped) :
    settings.byKey.Within 2 := by
  have format : settings.format.entries? = none := (typed .format).noMapping
  have size : (Value.int settings.maxFileSize).entries? = none := rfl
  have items (items : List Value) : (Value.list items).entries? = none := rfl
  simp only [byKey, Mapping.Within, List.forall_mem_cons, entries?_map, Option.some.injEq,
    forall_eq', format, size, items]
  simp

/-- A file that says everything makes the settings, whatever is below it. -/
theorem load_byKey {settings : Settings} (typed : settings.WellTyped) {user project : Option Bytes}
    {layer : Mapping} (readProject : fileLayer .projectFile project = .ok settings.byKey)
    (readUser : fileLayer .userFile user = .ok layer) (environment : Environment) :
    load environment user project = .ok settings := by
  have ends : settings.byKey.Within levelLimit := by
    apply (byKey_within typed).mono
    decide
  have usable : (merge (merge (environmentLayer environment) layer) settings.byKey).Usable := by
    apply usable_merge (byKey_shaped typed)
    · intro setting absent
      obtain ⟨entries, inLayer, _⟩ := byKey_section settings setting
      rw [inLayer] at absent
      cases absent
    · intro setting absent
      rw [setting?_byKey] at absent
      cases absent
  obtain ⟨made, isMade, decided⟩ := ofValue_of_usable usable
  have same : made = settings := by
    apply eq_of_valueOf
    intro setting
    rw [decided, effective, setting?_merge (byKey_shaped typed), setting?_byKey, Option.some_or,
      Option.map_some, Option.getD_some, typed.bare]
  rw [load_of_layers readUser readProject, reaches_above ends, if_neg Bool.false_ne_true, ofLayers,
    isMade, same]

theorem readsBack_of_entries {settings : Settings} {text : Text}
    (toWrite : settings.fileText = .ok text)
    (said : consistsOf (Utf8.encode text) settings.byKey = true) : settings.ReadsBack := by
  intro written source isWritten
  obtain rfl := Except.ok.inj (toWrite.symm.trans isWritten)
  exact fileLayer_of_entries source said

/-- Settings that are standard but for a small size and perhaps the format. -/
def small (format : Text) : Settings :=
  { standard with maxFileSize := 5, format := .text format }

theorem small_wellTyped (format : Text) : (small format).WellTyped
  | .docspaceKinds => standard_wellTyped .docspaceKinds
  | .maxFileSize => ⟨5, rfl⟩
  | .extensions => standard_wellTyped .extensions
  | .format => rfl

def smallText (format : Text) : Text :=
  "display:\n  format: " ++ format ++
    "\nparsing:\n  extensions:\n  - .js\n  - .jsx\n  - .mjs\n  - .cjs\n  max_file_size: 5\n" ++
    "resolver:\n  docspace_kinds:\n  - event\n  - module\n"

theorem small_written {format : Text} (known : format ∈ formats) :
    (small format).fileText = .ok (smallText format) := by
  have shown : Whole.text? 5 = some "5" := by decide +kernel
  have text : ∀ format ∈ formats,
      ((Yaml.Draft.writeEntries [] 0 .empty (draft KindTable.standardDocspaces standardExtensions
        "5" format)).startAt 0).text = smallText format := by decide +kernel
  rw [← text format known]
  exact fileText_of_texts KindTable.standardDocspaces standardExtensions format shown

theorem small_readsBack {format : Text} (known : format ∈ formats) :
    (small format).ReadsBack := by
  have said : ∀ format ∈ formats,
      consistsOf (Utf8.encode (smallText format)) (small format).byKey = true := by decide +kernel
  exact readsBack_of_entries (small_written known) (said format known)

end Settings

namespace Store

/-- A change that is done was read, taken over and found valid, and then all settings were written. -/
theorem set_done_cases {store : Store} {key written : Text} {scope : Scope}
    (done : (store.set key written scope).1 = .done) :
    ∃ settings setting changed text, store.settings = .ok settings ∧
      Setting.ofKey key = .ok setting ∧ settings.change setting written = .ok changed ∧
      changed.validateBeside setting = .ok none ∧ changed.fileText = .ok text ∧
      store.set key written scope = (.done, (store.keep changed).putFile scope text) := by
  unfold set at done ⊢
  cases read : store.settings with
  | error failure => simp [read] at done
  | ok settings =>
      cases named : Setting.ofKey key with
      | error rejection => simp [read, named] at done
      | ok setting =>
          cases taken : settings.change setting written with
          | error refused =>
              simp only [read, named, taken] at done
              exact absurd done (Settings.change_error_ne_done taken)
          | ok changed =>
              simp only [read, named, taken] at done ⊢
              cases checked : changed.validateBeside setting with
              | error failure => simp [checked] at done
              | ok invalid =>
                  cases invalid with
                  | some invalid => simp [checked] at done
                  | none =>
                      simp only [checked, save] at done ⊢
                      cases toWrite : changed.fileText with
                      | error failure => simp [toWrite] at done
                      | ok text =>
                          exact ⟨settings, setting, changed, text, rfl, rfl, taken, checked,
                            toWrite, rfl⟩

theorem set_done_saved {store : Store} {settings : Settings} {key written : Text} {scope : Scope}
    (read : store.settings = .ok settings) (done : (store.set key written scope).1 = .done)
    (readsBack : ∀ changed, (store.set key written scope).2.settings = .ok changed →
      changed.ReadsBack) :
    ∃ setting changed text, Setting.ofKey key = .ok setting ∧
      settings.change setting written = .ok changed ∧
      changed.validateBeside setting = .ok none ∧ changed.fileText = .ok text ∧
      (store.set key written scope).2 = (store.keep changed).putFile scope text ∧
      (store.set key written scope).2.settings = .ok changed ∧
      ∀ source, Settings.fileLayer source ((store.set key written scope).2.file scope) =
        .ok changed.byKey := by
  obtain ⟨former, setting, changed, text, again, named, taken, valid, toWrite, left⟩ :=
    set_done_cases done
  obtain rfl : former = settings := Except.ok.inj (again.symm.trans read)
  have kept : (store.set key written scope).2.settings = .ok changed := by
    rw [left]
    cases scope <;> rfl
  refine ⟨setting, changed, text, named, taken, valid, toWrite, by rw [left], kept, ?_⟩
  intro source
  have file : (store.set key written scope).2.file scope = some (Utf8.encode text) := by
    rw [left]
    cases scope <;> rfl
  rw [file]
  exact readsBack changed kept text source toWrite

theorem set_small (scope : Scope) :
    (new ⟨[], []⟩ none none).set "parsing.max_file_size" "5" scope =
      (.done, ((new ⟨[], []⟩ none none).keep (Settings.small "table")).putFile scope
        (Settings.smallText "table")) := by
  have saved : (new ⟨[], []⟩ none none).set "parsing.max_file_size" "5" scope =
      (new ⟨[], []⟩ none none).save (Settings.small "table") scope :=
    set_of_valid rfl rfl rfl rfl scope
  rw [saved, save, Settings.small_written (by decide)]

end Store
end SymbolPath
