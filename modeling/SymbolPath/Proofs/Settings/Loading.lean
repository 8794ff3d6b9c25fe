import SymbolPath.Proofs.Settings.Answers

/-!
What loading comes to. Layers give settings unless a file cannot be read at all, mappings lie over
each other too deep, or the size is infinite. The settings serve, and are what the layers say
where these say something sound, exactly if nothing malformed is left in the merged mapping and the
size has a text, or if a malformed value brings back the standard settings and nothing sound is
lost by it.
-/

namespace SymbolPath

namespace Mapping

/-- The mapping has a value for the setting, and what is taken over of it has the right type. -/
def Says (data : Mapping) (setting : Setting) (taken : Value) : Prop :=
  ∃ v, data.setting? setting = some v ∧ setting.take v = .ok taken ∧ setting.Fits taken

structure Sound (data : Mapping) : Prop where
  sections : data.HasSections
  values : ∀ (setting : Setting) v, data.setting? setting = some v → ∃ taken, data.Says setting taken

def SizeWritable (data : Mapping) : Prop :=
  ∀ v n, data.setting? .maxFileSize = some v → Settings.sizeOf v = .ok n →
    (Whole.text? n).isSome = true

theorem Sound.takable {data : Mapping} (sound : data.Sound) : data.Takable where
  sections := sound.sections
  values setting v found := by
    obtain ⟨taken, w, again, isTaken, -⟩ := sound.values setting v found
    obtain rfl := Option.some.inj (found.symm.trans again)
    exact ⟨taken, isTaken⟩

end Mapping

namespace Settings

/-! Files and layers. -/

/-- The file is missing, or it is read, or it is refused as malformed. -/
def Readable (source : Source) : Option Bytes → Prop
  | none => True
  | some bytes => ∀ reason,
    Yaml.read source.number (Yaml.Supply.ofBytes bytes) = .error reason → reason = .malformed

def layerOf (source : Source) : Option Bytes → Mapping
  | none => []
  | some bytes =>
    match Yaml.read source.number (Yaml.Supply.ofBytes bytes) with
    | .ok v => v.entries?.getD []
    | .error _ => []

theorem fileLayer_eq_ok_iff {source : Source} {file : Option Bytes} {layer : Mapping} :
    fileLayer source file = .ok layer ↔ Readable source file ∧ layer = layerOf source file := by
  cases file with
  | none => simp [fileLayer, Readable, layerOf, eq_comm]
  | some bytes =>
      simp only [fileLayer, Readable, layerOf]
      generalize Yaml.read source.number (Yaml.Supply.ofBytes bytes) = read
      cases read with
      | ok v => simp [eq_comm]
      | error reason => cases reason <;> simp [eq_comm]

def layered (environment : Environment) (user project : Option Bytes) : Mapping :=
  merge (merge (environmentLayer environment) (layerOf .userFile user))
    (layerOf .projectFile project)

structure Loadable (environment : Environment) (user project : Option Bytes) : Prop where
  readUser : Readable .userFile user
  readProject : Readable .projectFile project
  ends : reaches levelLimit (merge (environmentLayer environment) (layerOf .userFile user))
    (layerOf .projectFile project) = false
  finite : ¬ (layered environment user project).MeetsInfinity

section Load

variable {environment : Environment} {user project : Option Bytes} {settings : Settings}

theorem readable_of_load (loaded : load environment user project = .ok settings) :
    Readable .userFile user ∧ Readable .projectFile project := by
  simp only [load, bind_eq_ok, fileLayer_eq_ok_iff] at loaded
  obtain ⟨_, ⟨readUser, -⟩, _, ⟨readProject, -⟩, -⟩ := loaded
  exact ⟨readUser, readProject⟩

theorem load_readable (readUser : Readable .userFile user)
    (readProject : Readable .projectFile project) :
    load environment user project =
      if reaches levelLimit (merge (environmentLayer environment) (layerOf .userFile user))
        (layerOf .projectFile project) then .error .endless
      else ofLayers (environmentLayer environment) (layerOf .userFile user)
        (layerOf .projectFile project) :=
  load_of_layers (fileLayer_eq_ok_iff.mpr ⟨readUser, rfl⟩)
    (fileLayer_eq_ok_iff.mpr ⟨readProject, rfl⟩) environment

/-- Layers that make no settings are set aside, unless it is infinity that they meet. -/
theorem ofLayers_eq_ok_iff {environment user project : Mapping} :
    ofLayers environment user project = .ok settings ↔
      ¬ (merge (merge environment user) project).MeetsInfinity ∧
        (ofValue (.map (merge (merge environment user) project)) = .ok settings ∨
          ¬ (merge (merge environment user) project).Takable ∧ settings = standard) := by
  unfold ofLayers
  generalize merge (merge environment user) project = data
  rw [← ofValue_eq_infinite_iff, takable_iff]
  cases ofValue (.map data) with
  | ok found => simp
  | error reason => cases reason <;> simp [eq_comm]

theorem load_eq_ok_iff :
    load environment user project = .ok settings ↔ Loadable environment user project ∧
      (ofValue (.map (layered environment user project)) = .ok settings ∨
        ¬ (layered environment user project).Takable ∧ settings = standard) := by
  constructor
  · intro loaded
    obtain ⟨readUser, readProject⟩ := readable_of_load loaded
    rw [load_readable readUser readProject] at loaded
    split at loaded
    · cases loaded
    · rename_i ends
      obtain ⟨finite, made⟩ := ofLayers_eq_ok_iff.mp loaded
      exact ⟨⟨readUser, readProject, Bool.eq_false_iff.mpr ends, finite⟩, made⟩
  · rintro ⟨⟨readUser, readProject, ends, finite⟩, made⟩
    rw [load_readable readUser readProject, ends, if_neg Bool.false_ne_true]
    exact ofLayers_eq_ok_iff.mpr ⟨finite, made⟩

theorem loads_iff :
    (∃ settings, load environment user project = .ok settings) ↔
      Loadable environment user project := by
  simp only [load_eq_ok_iff, exists_and_left]
  refine and_iff_left_of_imp fun _ => ?_
  by_cases takable : (layered environment user project).Takable
  · obtain ⟨settings, made⟩ := takable_iff.mp takable
    exact ⟨settings, .inl made⟩
  · exact ⟨standard, .inr ⟨takable, rfl⟩⟩

end Load

/-! Settings that serve. -/

/-- Settings can be asked for, shown and changed without failure, except over what is written for a
number. -/
structure Serves (settings : Settings) : Prop where
  typed : settings.WellTyped
  asked : ∀ (store : Store) key, store.settings = .ok settings → ∃ v, store.get key = .ok v
  described : ∀ userFile projectFile, ∃ t, settings.describe userFile projectFile = .ok t
  changed : ∀ (store : Store) key written scope failure, store.settings = .ok settings →
    (store.set key written scope).1 = .failed failure →
      key = Setting.maxFileSize.key ∧ ¬ ∃ n, Whole.read written = .ok n

theorem get_of_key {store : Store} {settings : Settings} (read : store.settings = .ok settings)
    (setting : Setting) : store.get setting.key = settings.get setting := by
  have named := Setting.ofKey_eq_ok_iff.mpr (rfl : setting.key = setting.key)
  rw [Store.get, read]
  simp only [named, bind, Except.bind]

theorem sizeHasText_of_get {settings : Settings} {v : Value}
    (shown : settings.get .maxFileSize = .ok v) : settings.SizeHasText := by
  unfold SizeHasText
  rw [get, shown_int] at shown
  cases text : Whole.text? settings.maxFileSize with
  | some t => rfl
  | none =>
      rw [text] at shown
      cases shown

theorem serves_iff {settings : Settings} :
    settings.Serves ↔ settings.WellTyped ∧ settings.SizeHasText := by
  constructor
  · intro serves
    have read : ((Store.new ⟨[], []⟩ none none).keep settings).settings = .ok settings := rfl
    obtain ⟨v, shown⟩ := serves.asked _ Setting.maxFileSize.key read
    rw [get_of_key read] at shown
    exact ⟨serves.typed, sizeHasText_of_get shown⟩
  · rintro ⟨typed, hasText⟩
    refine ⟨typed, ?_, describe_typed typed hasText, ?_⟩
    · intro store key read
      cases named : Setting.ofKey key with
      | error rejection => exact ⟨.null, by simp [Store.get, read, named, bind, Except.bind]; rfl⟩
      | ok setting =>
          obtain rfl := Setting.ofKey_eq_ok_iff.mp named
          rw [get_of_key read]
          exact get_typed typed hasText setting
    · intro store key written scope failure read failed
      rcases (Store.set_failed_iff read typed).mp ⟨failure, failed⟩ with
        ⟨named, row, unread⟩ | ⟨-, -, -, noText, -⟩
      · exact ⟨named, (Whole.read_row_iff row.1 row.2).not.mpr unread⟩
      · exact absurd hasText noText

/-! Settings against the mapping they were made from. -/

/-- What is sound in the mapping is taken over; for the rest, be it missing or malformed, the
settings are the standard ones. -/
structure TakenFrom (settings : Settings) (data : Mapping) : Prop where
  said : ∀ setting taken, data.Says setting taken → settings.valueOf setting = taken
  unsaid : ∀ setting, (¬ ∃ taken, data.Says setting taken) →
    settings.valueOf setting = standard.valueOf setting

theorem standard_sizeHasText : standard.SizeHasText := by
  unfold SizeHasText standard standardFileSize
  decide +kernel

section Made

variable {data : Mapping} {settings : Settings} (made : ofValue (.map data) = .ok settings)
include made

theorem wellTyped_iff_sound : settings.WellTyped ↔ data.Sound := by
  constructor
  · intro typed
    refine ⟨(ofValue_eq_ok_iff.mp made).1, fun setting v found => ?_⟩
    exact ⟨settings.valueOf setting, v, found, taken_of_made made found, typed setting⟩
  · intro sound setting
    cases found : data.setting? setting with
    | none =>
        rw [standard_of_made made found]
        exact standard_wellTyped setting
    | some v =>
        obtain ⟨taken, w, again, isTaken, fits⟩ := sound.values setting v found
        obtain rfl := Option.some.inj (found.symm.trans again)
        obtain rfl := Except.ok.inj ((taken_of_made made found).symm.trans isTaken)
        exact fits

theorem sizeHasText_iff_writable : settings.SizeHasText ↔ data.SizeWritable := by
  unfold SizeHasText Mapping.SizeWritable
  cases found : data.setting? .maxFileSize with
  | none =>
      have size : settings.maxFileSize = standardFileSize :=
        Value.int.inj (standard_of_made made found)
      rw [size]
      exact ⟨fun _ _ _ => nofun, fun _ => standard_sizeHasText⟩
  | some v =>
      obtain ⟨size, isSize, same⟩ := map_eq_ok.mp (taken_of_made made found)
      obtain rfl : size = settings.maxFileSize := Value.int.inj same
      constructor
      · intro hasText w n again isNumber
        obtain rfl := Option.some.inj again
        obtain rfl := Except.ok.inj (isSize.symm.trans isNumber)
        exact hasText
      · intro writable
        exact writable v _ rfl isSize

theorem said_of_made {setting : Setting} {taken : Value} (said : data.Says setting taken) :
    settings.valueOf setting = taken := by
  obtain ⟨v, found, isTaken, -⟩ := said
  exact Except.ok.inj ((taken_of_made made found).symm.trans isTaken)

theorem takenFrom_of_sound (sound : data.Sound) : settings.TakenFrom data where
  said _ _ said := said_of_made made said
  unsaid setting unsaid := by
    cases found : data.setting? setting with
    | none => exact standard_of_made made found
    | some v => exact absurd (sound.values setting v found) unsaid

end Made

theorem standard_takenFrom_iff {data : Mapping} : standard.TakenFrom data ↔
    ∀ setting taken, data.Says setting taken → taken = standard.valueOf setting :=
  ⟨fun same setting taken said => (same.said setting taken said).symm,
    fun said => ⟨fun setting taken found => (said setting taken found).symm, fun _ _ => rfl⟩⟩

theorem standard_serves : standard.Serves :=
  serves_iff.mpr ⟨standard_wellTyped, standard_sizeHasText⟩

/-- Loading gives settings exactly if both files are readable, no mappings lie over each other
as deep as the limit and no infinite size is met. The settings serve, and malformed values count as absent,
exactly if besides nothing is malformed in the merged mapping and its size has a text, or if a
malformed value brings back the standard settings and no other value is lost by that. -/
theorem load_serves_iff (environment : Environment) (user project : Option Bytes) :
    let data := layered environment user project
    ((∃ settings, load environment user project = .ok settings) ↔
        Loadable environment user project) ∧
      ((∃ settings, load environment user project = .ok settings ∧ settings.Serves ∧
          settings.TakenFrom data) ↔
        Loadable environment user project ∧
          (data.Sound ∧ data.SizeWritable ∨ ¬ data.Takable ∧
            ∀ setting taken, data.Says setting taken → taken = standard.valueOf setting)) := by
  intro data
  refine ⟨loads_iff, ?_, ?_⟩
  · rintro ⟨settings, loaded, serves, takenFrom⟩
    obtain ⟨loadable, made | ⟨untakable, rfl⟩⟩ := load_eq_ok_iff.mp loaded
    · -- the settings are those of the merged mapping, so this has what they have
      obtain ⟨typed, hasText⟩ := serves_iff.mp serves
      exact ⟨loadable, .inl ⟨(wellTyped_iff_sound made).mp typed,
        (sizeHasText_iff_writable made).mp hasText⟩⟩
    · -- the mapping was set aside
      exact ⟨loadable, .inr ⟨untakable, standard_takenFrom_iff.mp takenFrom⟩⟩
  · rintro ⟨loadable, ⟨sound, writable⟩ | ⟨untakable, nothingLost⟩⟩
    · obtain ⟨settings, made⟩ := takable_iff.mp sound.takable
      have serves : settings.Serves := serves_iff.mpr
        ⟨(wellTyped_iff_sound made).mpr sound, (sizeHasText_iff_writable made).mpr writable⟩
      exact ⟨settings, load_eq_ok_iff.mpr ⟨loadable, .inl made⟩, serves,
        takenFrom_of_sound made sound⟩
    · exact ⟨standard, load_eq_ok_iff.mpr ⟨loadable, .inr ⟨untakable, rfl⟩⟩, standard_serves,
        standard_takenFrom_iff.mpr nothingLost⟩

theorem only_hasSections (setting : Setting) (v : Value) : (only setting v).HasSections := by
  intro other value found
  obtain rfl := only_section found
  rfl

/-- A file that cannot be decoded keeps everything from being loaded, and a number is taken over for
a format. -/
theorem malformed_file_and_value :
    load ⟨[], []⟩ none (some [0xFF]) =
        .error (.unreadableFile (.undecodable ⟨.invalidStart, 0, [0xFF]⟩)) ∧
      load ⟨[], []⟩ none (some (Utf8.encode "display:\n  format: 5\n")) =
        .ok { standard with format := .int 5 } := by
  constructor
  · rfl
  · have read : fileLayer .projectFile (some (Utf8.encode "display:\n  format: 5\n")) =
        .ok (only .format (.int 5)) :=
      fileLayer_of_entries _ (by decide +kernel)
    have ends : reaches levelLimit [] (only .format (.int 5)) = false := by
      apply reaches_below
      intro entry member
      cases member
    have alone : merge (merge (environmentLayer ⟨[], []⟩) []) (only .format (.int 5)) =
        only .format (.int 5) := rfl
    have made : ofValue (.map (only .format (.int 5))) = .ok { standard with format := .int 5 } := by
      refine ofValue_eq_ok_iff.mpr ⟨only_hasSections .format (.int 5), fun setting => ?_⟩
      rw [offered, setting?_only]
      cases setting <;> rfl
    have nothing : merge (environmentLayer ⟨[], []⟩) [] = [] := rfl
    rw [load_of_layers rfl read, nothing, ends, if_neg Bool.false_ne_true, ofLayers, alone, made]

end Settings
end SymbolPath
