import SymbolPath.Proofs.Settings.Taking

/-!
Which layer a setting comes from. Every setting is looked for on its own: in the file of the project,
in the file of the user, in the environment, and then it is the standard one. What else the layers
hold makes no difference, except that mappings which lie over each other too many levels down, as
those do that contain themselves, leave no settings at all.
-/

namespace SymbolPath

theorem Setting.place_injective {a b : Setting} (same : a.place = b.place) : a = b := by
  cases a <;> cases b <;> first | rfl | exact absurd same (by decide)

namespace Value

/-! One and the same plain value. -/

mutual

/-- Are both texts, whole numbers, lists or mappings, and the same throughout? -/
def samePlain : Value → Value → Bool
  | .text s, .text t => s == t
  | .int m, .int n => m == n
  | .list items, .list others => samePlainItems items others
  | .map entries, .map others => samePlainEntries entries others
  | _, _ => false

def samePlainItems : List Value → List Value → Bool
  | [], [] => true
  | item :: rest, other :: others => samePlain item other && samePlainItems rest others
  | _, _ => false

def samePlainEntries : List (Value × Value) → List (Value × Value) → Bool
  | [], [] => true
  | (key, value) :: rest, (otherKey, otherValue) :: others =>
    samePlain key otherKey && samePlain value otherValue && samePlainEntries rest others
  | _, _ => false

end

mutual

theorem eq_of_samePlain : ∀ {a b : Value}, samePlain a b = true → a = b
  | .text s, .text t, same => by simpa [samePlain] using same
  | .int m, .int n, same => by simpa [samePlain] using same
  | .list items, .list others, same =>
    congrArg Value.list (eq_of_samePlainItems (by simpa [samePlain] using same))
  | .map entries, .map others, same =>
    congrArg Value.map (eq_of_samePlainEntries (by simpa [samePlain] using same))

theorem eq_of_samePlainItems : ∀ {items others : List Value},
    samePlainItems items others = true → items = others
  | [], [], _ => rfl
  | item :: rest, other :: others, same => by
    rw [samePlainItems, Bool.and_eq_true] at same
    rw [eq_of_samePlain same.1, eq_of_samePlainItems same.2]

theorem eq_of_samePlainEntries : ∀ {entries others : List (Value × Value)},
    samePlainEntries entries others = true → entries = others
  | [], [], _ => rfl
  | (key, value) :: rest, (otherKey, otherValue) :: others, same => by
    simp only [samePlainEntries, Bool.and_eq_true] at same
    obtain ⟨⟨keys, values⟩, rests⟩ := same
    rw [eq_of_samePlain keys, eq_of_samePlain values, eq_of_samePlainEntries rests]

end

end Value

namespace Settings

/-! The settings of a mapping. -/

def effective (data : Mapping) (setting : Setting) : Value :=
  ((data.setting? setting).map Value.bare).getD (standard.valueOf setting)

theorem ofValue_of_usable {data : Mapping} (usable : data.Usable) :
    ∃ settings, ofValue (.map data) = .ok settings ∧
      ∀ setting, settings.valueOf setting = effective data setting := by
  have takes (setting : Setting) (v : Value) (found : data.setting? setting = some v) :
      setting.take v = .ok v.bare :=
    Setting.take_of_fits (usable.fits setting v found)
  have takable : data.Takable :=
    ⟨usable.sections, fun setting v found => ⟨v.bare, takes setting v found⟩⟩
  obtain ⟨settings, made⟩ := takable_iff.mp takable
  refine ⟨settings, made, fun setting => ?_⟩
  unfold effective
  cases found : data.setting? setting with
  | none => exact standard_of_made made found
  | some v => exact Except.ok.inj ((taken_of_made made found).symm.trans (takes setting v found))

/-! Files whose entries are known. -/

/-- Does a file consist of just these entries, in plain values and without references? -/
def consistsOf (bytes : Bytes) (layer : Mapping) : Bool :=
  match Yaml.Document.ofTokens (Yaml.Tokens.ofSupply (Yaml.Supply.ofBytes bytes)) with
  | .error _ => false
  | .ok document => !document.hasReferences && match document.value .unlabelled with
    | .error _ => false
    | .ok v => v.samePlain (.map layer)

theorem fileLayer_of_entries {bytes : Bytes} {layer : Mapping} (source : Source)
    (said : consistsOf bytes layer = true) : fileLayer source (some bytes) = .ok layer := by
  unfold consistsOf at said
  cases parsed : Yaml.Document.ofTokens (Yaml.Tokens.ofSupply (Yaml.Supply.ofBytes bytes)) with
  | error reason =>
    rw [parsed] at said
    cases said
  | ok document =>
    simp only [parsed, Bool.and_eq_true, Bool.not_eq_true'] at said
    obtain ⟨unreferred, said⟩ := said
    cases read : document.value .unlabelled with
    | error reason =>
      rw [read] at said
      cases said
    | ok v =>
      rw [read] at said
      obtain rfl := Value.eq_of_samePlain said
      -- the number of the file only goes into labels, and there are none
      have known : Yaml.read source.number (Yaml.Supply.ofBytes bytes) = .ok (.map layer) := by
        rw [Yaml.read, parsed]
        change document.value (if document.hasReferences then _ else _) = _
        rw [unreferred, if_neg Bool.false_ne_true, read]
      simp only [fileLayer, known, entries?_map, Option.getD_some]

/-! Layers of one setting. -/

def only (setting : Setting) (v : Value) : Mapping :=
  [(.text setting.place.1, .map [(.text setting.place.2, v)])]

theorem setting?_only (setting : Setting) (v : Value) (other : Setting) :
    (only setting v).setting? other = if setting = other then some v else none := by
  unfold Mapping.setting? only
  rw [Mapping.at?_cons, Mapping.at?_nil, Mapping.sameKey_text]
  by_cases sameSection : setting.place.1 = other.place.1
  · rw [sameSection, beq_self_eq_true, if_pos rfl, Option.bind_some, entries?_map,
      Option.bind_some, Mapping.at?_cons, Mapping.at?_nil, Mapping.sameKey_text]
    by_cases sameName : setting.place.2 = other.place.2
    · rw [sameName, beq_self_eq_true, if_pos rfl,
        if_pos (Setting.place_injective (Prod.ext sameSection sameName))]
    · rw [beq_false_of_ne sameName, if_neg (by simp),
        if_neg fun same => sameName (congrArg (fun s => s.place.2) same)]
  · rw [beq_false_of_ne sameSection, if_neg (by simp),
      if_neg fun same => sameSection (congrArg (fun s => s.place.1) same)]
    rfl

theorem only_section {setting : Setting} {v value : Value} {part : Text}
    (found : (only setting v).at? part = some value) :
    value = .map [(.text setting.place.2, v)] := by
  rw [only, Mapping.at?_cons, Mapping.at?_nil] at found
  obtain ⟨_, same⟩ := Option.ite_none_right_eq_some.mp found
  exact (Option.some.inj same).symm

theorem only_shaped {setting : Setting} {v : Value} (fits : setting.Fits v) :
    (only setting v).Shaped where
  once := List.pairwise_singleton _ _
  sections other value found := by
    obtain rfl := only_section found
    exact ⟨_, rfl, List.pairwise_singleton _ _⟩
  fits other value said := by
    rw [setting?_only] at said
    obtain ⟨rfl, same⟩ := Option.ite_none_right_eq_some.mp said
    exact Option.some.inj same ▸ fits

theorem only_within {setting : Setting} {v : Value} (fits : setting.Fits v) :
    (only setting v).Within 2 := by
  intro entry member inner found
  obtain rfl := List.mem_singleton.mp member
  cases found
  intro entry member inner found
  obtain rfl := List.mem_singleton.mp member
  rw [fits.noMapping] at found
  cases found

/-! The environment as a layer. -/

def environmental (environment : Environment) : Setting → Option Value
  | .docspaceKinds =>
    if environment.docspaceKinds.isEmpty then none
    else some (.list (listOf environment.docspaceKinds))
  | .format => if environment.format.isEmpty then none else some (.text environment.format)
  | .maxFileSize | .extensions => none

theorem environmentLayer_section (environment : Environment) (setting : Setting) :
    (environmentLayer environment).at? setting.place.1 =
      ((environmental environment setting).map fun v => .map [(.text setting.place.2, v)]) := by
  cases setting <;> unfold environmentLayer environmental Setting.place <;>
    cases environment.docspaceKinds.isEmpty <;> cases environment.format.isEmpty <;>
    simp [Mapping.at?_cons, Mapping.at?_nil, Mapping.sameKey_text]

theorem setting?_environmentLayer (environment : Environment) (setting : Setting) :
    (environmentLayer environment).setting? setting = environmental environment setting := by
  rw [Mapping.setting?, environmentLayer_section]
  generalize setting.place.2 = name
  cases environmental environment setting with
  | none => rfl
  | some v =>
      rw [Option.map_some, Option.bind_some, entries?_map, Option.bind_some, Mapping.at?_cons,
        Mapping.sameKey_text, beq_self_eq_true, if_pos rfl]

theorem environmental_fits {environment : Environment} {setting : Setting} {v : Value}
    (said : environmental environment setting = some v) : setting.Fits v := by
  cases setting with
  | docspaceKinds =>
      simp only [environmental, Option.ite_none_left_eq_some, Option.some.injEq] at said
      exact said.2 ▸ ⟨_, rfl, Value.isString_texts (splitList environment.docspaceKinds)⟩
  | format =>
      simp only [environmental, Option.ite_none_left_eq_some, Option.some.injEq] at said
      exact said.2 ▸ rfl
  | maxFileSize => cases said
  | extensions => cases said

theorem environmentLayer_shaped (environment : Environment) :
    (environmentLayer environment).Shaped where
  once := by
    unfold environmentLayer Mapping.KeysOnce
    cases environment.docspaceKinds.isEmpty <;> cases environment.format.isEmpty <;>
      simp [Mapping.sameKey_text]
  sections setting value found := by
    rw [environmentLayer_section] at found
    obtain ⟨v, _, rfl⟩ := Option.map_eq_some_iff.mp found
    exact ⟨_, rfl, List.pairwise_singleton _ _⟩
  fits setting value said := by
    rw [setting?_environmentLayer] at said
    exact environmental_fits said

theorem environmentLayer_within (environment : Environment) :
    (environmentLayer environment).Within 2 := by
  have text (t : Text) : (Value.text t).entries? = none := rfl
  have items (items : List Value) : (Value.list items).entries? = none := rfl
  unfold environmentLayer
  cases environment.docspaceKinds.isEmpty <;> cases environment.format.isEmpty <;>
    simp [Mapping.Within, entries?_map, text, items]

/-! The layers together. -/

/-- The value from the strongest layer that has one: the file of the project, the file of the user,
the environment, the standard. -/
def strongest (environment : Environment) (user project : Mapping) (setting : Setting) : Value :=
  match project.setting? setting, user.setting? setting, environmental environment setting with
  | some v, _, _ => v.bare
  | none, some v, _ => v.bare
  | none, none, some v => v
  | none, none, none => standard.valueOf setting

theorem environmental_bare {environment : Environment} {setting : Setting} {v : Value}
    (said : environmental environment setting = some v) : v.bare = v := by
  cases setting <;> simp [environmental] at said <;> exact said.2 ▸ rfl

theorem strongest_eq (environment : Environment) (user project : Mapping) (setting : Setting) :
    strongest environment user project setting =
      (((project.setting? setting).or
        ((user.setting? setting).or (environmental environment setting))).map Value.bare).getD
          (standard.valueOf setting) := by
  unfold strongest
  cases project.setting? setting with
  | some v => rfl
  | none =>
      cases user.setting? setting with
      | some v => rfl
      | none =>
          cases said : environmental environment setting with
          | none => rfl
          | some v => exact (environmental_bare said).symm

theorem lower_usable (environment : Environment) {user : Mapping} (shaped : user.Shaped) :
    (merge (environmentLayer environment) user).Usable := by
  have below : (environmentLayer environment).Usable := (environmentLayer_shaped environment).usable
  apply usable_merge shaped
  · exact fun setting _ => below.sections setting
  · exact fun setting _ => below.fits setting

theorem layers_usable (environment : Environment) {user project : Mapping}
    (userShaped : user.Shaped) (projectShaped : project.Shaped) :
    (merge (merge (environmentLayer environment) user) project).Usable := by
  have below := lower_usable environment userShaped
  apply usable_merge projectShaped
  · exact fun setting _ => below.sections setting
  · exact fun setting _ => below.fits setting

theorem ofLayers_shaped (environment : Environment) {user project : Mapping}
    (userShaped : user.Shaped) (projectShaped : project.Shaped) :
    ∃ settings, ofLayers (environmentLayer environment) user project = .ok settings ∧
      ∀ setting, settings.valueOf setting = strongest environment user project setting := by
  obtain ⟨settings, made, decided⟩ :=
    ofValue_of_usable (layers_usable environment userShaped projectShaped)
  refine ⟨settings, by rw [ofLayers, made], ?_⟩
  intro setting
  rw [decided, effective, setting?_merge projectShaped, setting?_merge userShaped,
    setting?_environmentLayer, strongest_eq]

theorem load_of_layers {userFile projectFile : Option Bytes} {user project : Mapping}
    (readUser : fileLayer .userFile userFile = .ok user)
    (readProject : fileLayer .projectFile projectFile = .ok project) (environment : Environment) :
    load environment userFile projectFile =
      if reaches levelLimit (merge (environmentLayer environment) user) project then
        .error .endless
      else ofLayers (environmentLayer environment) user project := by
  simp only [load, readUser, readProject, bind, Except.bind]
  split <;> rfl

/-- Each setting is the one that the strongest layer decides. Files with these layers give the
settings, unless their mappings lie over each other as deep as the limit of levels. -/
theorem strongest_layer_decides (environment : Environment) {user project : Mapping}
    (userShaped : user.Shaped) (projectShaped : project.Shaped) :
    ∃ settings, ofLayers (environmentLayer environment) user project = .ok settings ∧
      (∀ setting, settings.valueOf setting = strongest environment user project setting) ∧
      ∀ userFile projectFile, fileLayer .userFile userFile = .ok user →
        fileLayer .projectFile projectFile = .ok project →
        load environment userFile projectFile =
          if reaches levelLimit (merge (environmentLayer environment) user) project then
            .error .endless
          else .ok settings := by
  obtain ⟨settings, made, decided⟩ := ofLayers_shaped environment userShaped projectShaped
  refine ⟨settings, made, decided, ?_⟩
  intro userFile projectFile readUser readProject
  rw [load_of_layers readUser readProject, made]

/-- The kinds come from the file of the user, the size from that of the project and the format from
the environment; the extensions are standard. -/
theorem strongest_layer_decides_each :
    ∃ user project,
      fileLayer .userFile (some (Utf8.encode "resolver:\n  docspace_kinds: [page]\n")) = .ok user ∧
      fileLayer .projectFile (some (Utf8.encode "parsing:\n  max_file_size: 5\n")) = .ok project ∧
      user.Shaped ∧ project.Shaped ∧
      load ⟨"event", "json"⟩
        (some (Utf8.encode "resolver:\n  docspace_kinds: [page]\n"))
        (some (Utf8.encode "parsing:\n  max_file_size: 5\n")) =
          .ok ⟨[.text "page"], 5, standard.extensions, .text "json"⟩ := by
  have readUser : fileLayer .userFile
      (some (Utf8.encode "resolver:\n  docspace_kinds: [page]\n")) =
        .ok (only .docspaceKinds (.list [.text "page"])) :=
    fileLayer_of_entries _ (by decide +kernel)
  have readProject : fileLayer .projectFile (some (Utf8.encode "parsing:\n  max_file_size: 5\n")) =
      .ok (only .maxFileSize (.int 5)) :=
    fileLayer_of_entries _ (by decide +kernel)
  have kinds : Setting.docspaceKinds.Fits (.list [.text "page"]) :=
    ⟨_, rfl, by simp [Value.IsString, Value.lettering?]⟩
  have size : Setting.maxFileSize.Fits (.int 5) := ⟨5, rfl⟩
  have ends : (only .maxFileSize (.int 5)).Within levelLimit := by
    apply (only_within size).mono
    decide
  obtain ⟨settings, _, decided, loaded⟩ :=
    strongest_layer_decides ⟨"event", "json"⟩ (only_shaped kinds) (only_shaped size)
  refine ⟨_, _, readUser, readProject, only_shaped kinds, only_shaped size, ?_⟩
  rw [loaded _ _ readUser readProject, reaches_above ends, if_neg Bool.false_ne_true,
    Except.ok.injEq]
  apply eq_of_valueOf
  intro setting
  rw [decided]
  cases setting <;> simp [strongest, setting?_only, environmental, valueOf, Value.bare]

end Settings
end SymbolPath
