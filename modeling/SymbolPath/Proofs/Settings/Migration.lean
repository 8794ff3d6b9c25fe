import SymbolPath.Proofs.Settings.Saving

/-!
What a change does to the other settings elsewhere. All settings are written to one file, those too
that come from other layers, and so values move between layers: those of a project into the file of
the user, where other projects find them; those of the user and of the environment into the file of
the project, where they hide what is changed later.
-/

namespace SymbolPath

/-- No two keys agree, neither in the mapping nor in its sections. -/
structure Mapping.Keyed (mapping : Mapping) : Prop where
  once : mapping.KeysOnce
  sections : ∀ (setting : Setting) value entries, mapping.at? setting.place.1 = some value →
    value.entries? = some entries → KeysOnce entries

namespace Settings

/-- The settings are the same, but perhaps for one of them. -/
def AgreeBut (named : Setting) (a b : Settings) : Prop :=
  ∀ setting, setting ≠ named → a.valueOf setting = b.valueOf setting

/-! Two computations side by side. -/

/-- Either both have results, which are related, or both fail for the same reason. -/
def Both {α β : Type} (related : α → β → Prop) : Except Failure α → Except Failure β → Prop
  | .ok a, .ok b => related a b
  | .error reason, .error other => reason = other
  | _, _ => False

namespace Both

variable {α β γ δ : Type} {R : α → β → Prop} {S : γ → δ → Prop}

theorem bind {x : Except Failure α} {y : Except Failure β} {f : α → Except Failure γ}
    {g : β → Except Failure δ} (both : Both R x y) (next : ∀ a b, R a b → Both S (f a) (g b)) :
    Both S (x >>= f) (y >>= g) := by
  cases x with
  | error reason =>
      cases y with
      | error other => exact both
      | ok b => cases both
  | ok a =>
      cases y with
      | error other => cases both
      | ok b => exact next a b both

theorem refl {R : α → α → Prop} (reflexive : ∀ a, R a a) (x : Except Failure α) : Both R x x := by
  cases x with
  | error reason => exact rfl
  | ok a => exact reflexive a

end Both

/-! A mapping laid over two that agree but for one setting. -/

section

variable {layer base other : Mapping} {named : Setting}

theorem section_fails (keyed : layer.Keyed) (base : Mapping) {part : Text} {value : Value}
    (present : layer.at? part = some value) (plain : value.entries? = none) :
    mappingOf (sectionOf (merge base layer) part) = .error .notAMapping := by
  rw [sectionOf, at?_merge keyed.once, present, Option.getD_some, laidOver_plain plain, mappingOf,
    plain]

theorem section_merge (keyed : layer.Keyed) (usable : base.Usable) {setting : Setting}
    (isMapping : ∀ value, layer.at? setting.place.1 = some value → value.entries?.isSome = true) :
    ∃ entries, mappingOf (sectionOf (merge base layer) setting.place.1) = .ok entries := by
  apply mappingOf_section
  exact isMapping_merge keyed.once isMapping fun _ => usable.sections setting

theorem setting?_merge_usable (keyed : layer.Keyed) (usable : base.Usable) {setting : Setting}
    (isMapping : ∀ value, layer.at? setting.place.1 = some value → value.entries?.isSome = true) :
    (merge base layer).setting? setting = (layer.setting? setting).or (base.setting? setting) := by
  unfold Mapping.setting?
  rw [at?_merge keyed.once]
  cases present : layer.at? setting.place.1 with
  | none => rfl
  | some value =>
      obtain ⟨entries, mapping⟩ := Option.isSome_iff_exists.mp (isMapping value present)
      simp only [Option.bind_some, mapping]
      apply at?_laidOver mapping (keyed.sections setting value entries present mapping)
      intro v _
      right
      intro under lower
      cases said : Mapping.at? under setting.place.2 with
      | none => rfl
      | some below =>
          apply (usable.fits setting below _).noMapping
          rw [Mapping.setting?, lower, Option.bind_some, said]

def InSection (layer base other : Mapping) (part : Text) (entries found : Mapping) : Prop :=
  ∀ setting : Setting, setting.place.1 = part →
    entries.at? setting.place.2 = (layer.setting? setting).or (base.setting? setting) ∧
    found.at? setting.place.2 = (layer.setting? setting).or (other.setting? setting)

theorem both_section (keyed : layer.Keyed) (usable : base.Usable) (usableToo : other.Usable)
    (setting : Setting) :
    Both (InSection layer base other setting.place.1)
      (mappingOf (sectionOf (merge base layer) setting.place.1))
      (mappingOf (sectionOf (merge other layer) setting.place.1)) := by
  by_cases isMapping : ∀ value, layer.at? setting.place.1 = some value →
      value.entries?.isSome = true
  · obtain ⟨entries, isSection⟩ := section_merge keyed usable isMapping
    obtain ⟨found, isFound⟩ := section_merge keyed usableToo isMapping
    rw [isSection, isFound]
    intro member same
    rw [← same] at isMapping isSection isFound
    rw [← setting?_merge_usable keyed usable isMapping,
      ← setting?_merge_usable keyed usableToo isMapping]
    exact ⟨at?_of_section member isSection, at?_of_section member isFound⟩
  · -- the layer has something else there, which hides what is below
    obtain ⟨value, notMapping⟩ := Classical.not_forall.mp isMapping
    obtain ⟨present, plain⟩ := Classical.not_imp.mp notMapping
    have none : value.entries? = .none := by simpa using plain
    rw [section_fails keyed base present none, section_fails keyed other present none]
    rfl

theorem itemsOf_found {found : Option Value} (default : List Value)
    (isList : ∀ v, found = some v → ∃ items, v.bare = .list items) :
    ∃ items, itemsOf (found.getD (.list default)) = .ok items ∧
      Value.list items = (found.map Value.bare).getD (.list default) := by
  cases found with
  | none => exact ⟨default, rfl, rfl⟩
  | some v =>
      obtain ⟨items, bare⟩ := isList v rfl
      exact ⟨items, by simp [itemsOf, bare], bare.symm⟩

theorem sizeOf_found {found : Option Value} (default : Int)
    (isInt : ∀ v, found = some v → ∃ n, v = .int n) :
    ∃ n, sizeOf (found.getD (.int default)) = .ok n ∧
      Value.int n = (found.map Value.bare).getD (.int default) := by
  cases found with
  | none => exact ⟨default, rfl, rfl⟩
  | some v =>
      obtain ⟨n, rfl⟩ := isInt v rfl
      exact ⟨n, rfl, rfl⟩

theorem both_read {α : Type} (read : Value → Except Failure α) (inject : α → Value)
    (injective : ∀ a b, inject a = inject b → a = b) {default : Value}
    (upper : Option Value) {below beneath : Option Value} {P : Prop}
    (reads : ∃ a, read (below.getD default) = .ok a ∧
      inject a = (below.map Value.bare).getD default)
    (readsToo : ∃ a, read (beneath.getD default) = .ok a ∧
      inject a = (beneath.map Value.bare).getD default)
    (same : P → (below.map Value.bare).getD default = (beneath.map Value.bare).getD default) :
    Both (fun a b => P → a = b) (read ((upper.or below).getD default))
      (read ((upper.or beneath).getD default)) := by
  cases upper with
  | some v => exact Both.refl (fun _ _ => rfl) _
  | none =>
      obtain ⟨a, isRead, isA⟩ := reads
      obtain ⟨b, isReadToo, isB⟩ := readsToo
      rw [Option.none_or, Option.none_or, isRead, isReadToo]
      intro holds
      apply injective
      rw [isA, isB, same holds]

theorem both_items (usable : base.Usable) (usableToo : other.Usable) (setting : Setting)
    {default : List Value} (isList : ∀ v, setting.Fits v → ∃ items, v.bare = .list items)
    (isDefault : standard.valueOf setting = .list default)
    (same : setting ≠ named → effective base setting = effective other setting) :
    Both (fun a b => setting ≠ named → a = b)
      (itemsOf (((layer.setting? setting).or (base.setting? setting)).getD (.list default)))
      (itemsOf (((layer.setting? setting).or (other.setting? setting)).getD (.list default))) := by
  apply both_read itemsOf .list (fun _ _ => Value.list.inj)
  · exact itemsOf_found default fun v said => isList v (usable.fits setting v said)
  · exact itemsOf_found default fun v said => isList v (usableToo.fits setting v said)
  · intro apart
    have agree := same apart
    rwa [effective, effective, isDefault] at agree

theorem both_size (usable : base.Usable) (usableToo : other.Usable)
    (same : .maxFileSize ≠ named → effective base .maxFileSize = effective other .maxFileSize) :
    Both (fun a b => .maxFileSize ≠ named → a = b)
      (sizeOf (((layer.setting? .maxFileSize).or (base.setting? .maxFileSize)).getD
        (.int standardFileSize)))
      (sizeOf (((layer.setting? .maxFileSize).or (other.setting? .maxFileSize)).getD
        (.int standardFileSize))) := by
  apply both_read sizeOf .int (fun _ _ => Value.int.inj)
  · exact sizeOf_found standardFileSize fun v said => usable.fits .maxFileSize v said
  · exact sizeOf_found standardFileSize fun v said => usableToo.fits .maxFileSize v said
  · exact same

theorem format_found {data : Mapping} (usable : data.Usable) :
    (data.setting? .format).getD standard.format = effective data .format := by
  unfold effective
  cases said : data.setting? .format with
  | none => rfl
  | some v => exact (usable.fits .format v said).bare.symm

theorem both_ofValue (keyed : layer.Keyed) (usable : base.Usable) (usableToo : other.Usable)
    (same : ∀ setting, setting ≠ named → effective base setting = effective other setting) :
    Both (AgreeBut named) (ofValue (.map (merge base layer))) (ofValue (.map (merge other layer))) := by
  have isList : ∀ v, Setting.docspaceKinds.Fits v → ∃ items, v.bare = .list items :=
    fun v fits => fits.imp fun _ both => both.1
  rw [ofValue_of_entries, ofValue_of_entries]
  -- both sides are read step by step, and where one fails the other fails alike
  apply Both.bind (both_section keyed usable usableToo .docspaceKinds)
  intro resolver resolverToo inResolver
  obtain ⟨kindsSaid, kindsSaidToo⟩ := inResolver .docspaceKinds rfl
  unfold Setting.place at kindsSaid kindsSaidToo
  rw [kindsSaid, kindsSaidToo]
  apply Both.bind (both_items usable usableToo .docspaceKinds isList rfl (same .docspaceKinds))
  intro kinds kindsToo sameKinds
  apply Both.bind (both_section keyed usable usableToo .maxFileSize)
  intro parsing parsingToo inParsing
  obtain ⟨sizeSaid, sizeSaidToo⟩ := inParsing .maxFileSize rfl
  obtain ⟨extensionsSaid, extensionsSaidToo⟩ := inParsing .extensions rfl
  unfold Setting.place at sizeSaid sizeSaidToo extensionsSaid extensionsSaidToo
  rw [sizeSaid, sizeSaidToo, extensionsSaid, extensionsSaidToo]
  apply Both.bind (both_size usable usableToo (same .maxFileSize))
  intro size sizeToo sameSize
  apply Both.bind (both_items usable usableToo .extensions isList rfl (same .extensions))
  intro extensions extensionsToo sameExtensions
  apply Both.bind (both_section keyed usable usableToo .format)
  intro display displayToo inDisplay
  obtain ⟨formatSaid, formatSaidToo⟩ := inDisplay .format rfl
  unfold Setting.place at formatSaid formatSaidToo
  rw [formatSaid, formatSaidToo]
  intro setting apart
  cases setting with
  | docspaceKinds => exact congrArg Value.list (sameKinds apart)
  | maxFileSize => exact congrArg Value.int (sameSize apart)
  | extensions => exact congrArg Value.list (sameExtensions apart)
  | format =>
      unfold valueOf
      cases layer.setting? .format with
      | some v => rfl
      | none =>
          rw [Option.none_or, Option.none_or, format_found usable, format_found usableToo]
          exact same .format apart

theorem agreeBut_refl (named : Setting) (settings : Settings) : AgreeBut named settings settings :=
  fun _ _ => rfl

theorem both_ofLayers {environment user later project : Mapping} (keyed : project.Keyed)
    (usable : (merge environment user).Usable) (usableToo : (merge environment later).Usable)
    (same : ∀ setting, setting ≠ named →
      effective (merge environment user) setting = effective (merge environment later) setting) :
    Both (AgreeBut named) (ofLayers environment user project)
      (ofLayers environment later project) := by
  have both := both_ofValue keyed usable usableToo same
  unfold ofLayers
  cases made : ofValue (.map (merge (merge environment user) project)) with
  | ok settings =>
      cases madeToo : ofValue (.map (merge (merge environment later) project)) with
      | ok settingsToo =>
          rw [made, madeToo] at both
          exact both
      | error reason =>
          rw [made, madeToo] at both
          cases both
  | error reason =>
      cases madeToo : ofValue (.map (merge (merge environment later) project)) with
      | ok settingsToo =>
          rw [made, madeToo] at both
          cases both
      | error other =>
          rw [made, madeToo] at both
          obtain rfl : reason = other := both
          cases reason <;> first | rfl | exact agreeBut_refl named standard

end

/-! A file of the user that was saved. -/

/-- Other projects go on as before, but for one setting, with another file of the user. -/
def ElsewhereKept (environment : Environment) (user later : Option Bytes) (named : Setting) : Prop :=
  ∀ file project before, fileLayer .projectFile file = .ok project → project.Keyed →
    load environment user file = .ok before →
    ∃ now, load environment later file = .ok now ∧ AgreeBut named now before

theorem nil_shaped : Mapping.Shaped [] where
  once := List.Pairwise.nil
  sections _ _ found := by cases found
  fits _ _ said := by cases said

theorem nil_keyed : Mapping.Keyed [] where
  once := List.Pairwise.nil
  sections _ _ _ found := by cases found

theorem strongest_nil (environment : Environment) {layer : Mapping} (shaped : layer.Shaped)
    (setting : Setting) :
    strongest environment layer [] setting =
      effective (merge (environmentLayer environment) layer) setting := by
  have silent : Mapping.setting? [] setting = none := rfl
  rw [strongest_eq, silent, Option.none_or, effective, setting?_merge shaped,
    setting?_environmentLayer]

theorem strongest_byKey (environment : Environment) {settings : Settings}
    (typed : settings.WellTyped) (setting : Setting) :
    strongest environment settings.byKey [] setting = settings.valueOf setting := by
  have silent : Mapping.setting? [] setting = none := rfl
  rw [strongest_eq, silent, Option.none_or, setting?_byKey, Option.some_or, Option.map_some,
    Option.getD_some, typed.bare]

theorem load_without_project (environment : Environment) {user : Option Bytes} {layer : Mapping}
    (readUser : fileLayer .userFile user = .ok layer) (shaped : layer.Shaped) :
    ∃ settings, load environment user none = .ok settings ∧
      ∀ setting, settings.valueOf setting = strongest environment layer [] setting := by
  obtain ⟨settings, made, decided⟩ := ofLayers_shaped environment shaped nil_shaped
  refine ⟨settings, ?_, decided⟩
  rw [load_of_layers readUser rfl, made]
  rfl

theorem elsewhereKept_iff (environment : Environment) {user later : Option Bytes} {layer : Mapping}
    {changed : Settings} (readUser : fileLayer .userFile user = .ok layer) (shaped : layer.Shaped)
    (readLater : fileLayer .userFile later = .ok changed.byKey) (typed : changed.WellTyped)
    (named : Setting) :
    ElsewhereKept environment user later named ↔ ∀ setting, setting ≠ named →
      changed.valueOf setting = strongest environment layer [] setting := by
  have laterShaped := byKey_shaped typed
  constructor
  · intro kept setting apart
    obtain ⟨before, isBefore, decided⟩ := load_without_project environment readUser shaped
    obtain ⟨now, isNow, decidedNow⟩ := load_without_project environment readLater laterShaped
    -- it is enough to look at a project without a file
    obtain ⟨again, isAgain, agree⟩ := kept none [] before rfl nil_keyed isBefore
    obtain rfl : now = again := Except.ok.inj (isNow.symm.trans isAgain)
    rw [← decided, ← agree setting apart, decidedNow, strongest_byKey environment typed]
  · intro same file project before readFile keyed loaded
    have both : Both (AgreeBut named)
        (ofLayers (environmentLayer environment) changed.byKey project)
        (ofLayers (environmentLayer environment) layer project) := by
      apply both_ofLayers keyed (lower_usable environment laterShaped)
        (lower_usable environment shaped)
      intro setting apart
      rw [← strongest_nil environment laterShaped, strongest_byKey environment typed,
        same setting apart, strongest_nil environment shaped]
    rw [load_of_layers readUser readFile] at loaded
    split at loaded
    · cases loaded
    · rw [loaded] at both
      -- what was saved is too shallow for the limit, so loading does not fail there
      have ends : (merge (environmentLayer environment) changed.byKey).Within levelLimit := by
        apply (within_merge (environmentLayer_within environment) (byKey_within typed)).mono
        decide
      rw [load_of_layers readLater readFile, reaches_below ends, if_neg Bool.false_ne_true]
      cases made : ofLayers (environmentLayer environment) changed.byKey project with
      | error reason =>
          rw [made] at both
          cases both
      | ok now =>
          rw [made] at both
          exact ⟨now, rfl, both⟩

/-! A file of a project that was saved. -/

/-- What a project says is all that hides later files of the user and environments, but for one
setting, with another file of the project. -/
def BelowHeard (project later : Option Bytes) (held : Mapping) (named : Setting) : Prop :=
  ∀ environment user layer before, fileLayer .userFile user = .ok layer →
    load environment user project = .ok before →
    ∃ now, load environment user later = .ok now ∧ ∀ setting, setting ≠ named →
      held.setting? setting = none → now.valueOf setting = before.valueOf setting

def contrary : Settings := ⟨[], 1, [], .text "json"⟩

theorem contrary_wellTyped : contrary.WellTyped
  | .docspaceKinds => ⟨[], rfl, by simp⟩
  | .maxFileSize => ⟨1, rfl⟩
  | .extensions => ⟨[], rfl, by simp⟩
  | .format => rfl

theorem contrary_ne_standard (setting : Setting) :
    contrary.valueOf setting ≠ standard.valueOf setting := by
  cases setting <;> simp [valueOf, contrary, standard, KindTable.standardDocspaces,
    standardFileSize, standardExtensions]

theorem contrary_read : fileLayer .userFile (some (Utf8.encode (
    "display:\n  format: json\nparsing:\n  extensions: []\n  max_file_size: 1\n" ++
    "resolver:\n  docspace_kinds: []\n"))) = .ok contrary.byKey :=
  fileLayer_of_entries _ (by decide +kernel)

theorem belowHeard_iff {project later : Option Bytes} {layer : Mapping} {changed : Settings}
    (readProject : fileLayer .projectFile project = .ok layer) (shaped : layer.Shaped)
    (readLater : fileLayer .projectFile later = .ok changed.byKey) (typed : changed.WellTyped)
    (named : Setting) :
    BelowHeard project later layer named ↔ ∀ setting, setting ≠ named →
      layer.setting? setting ≠ none := by
  constructor
  · intro heard setting apart silent
    -- what was saved would have to be what any file of the user says
    have saved {user : Option Bytes} {below : Mapping}
        (readUser : fileLayer .userFile user = .ok below) (belowShaped : below.Shaped)
        (within : below.Within 2) :
        changed.valueOf setting = strongest ⟨[], []⟩ below layer setting := by
      obtain ⟨before, made, decided⟩ := ofLayers_shaped ⟨[], []⟩ belowShaped shaped
      have ends : (merge (environmentLayer ⟨[], []⟩) below).Within levelLimit := by
        apply (within_merge (environmentLayer_within _) within).mono
        decide
      have loaded : load ⟨[], []⟩ user project = .ok before := by
        rw [load_of_layers readUser readProject, reaches_below ends, if_neg Bool.false_ne_true, made]
      obtain ⟨now, isNow, agree⟩ := heard ⟨[], []⟩ user below before readUser loaded
      rw [load_byKey typed readLater readUser] at isNow
      obtain rfl := Except.ok.inj isNow
      rw [agree setting apart silent, decided]
    have noFile : fileLayer .userFile none = .ok [] := rfl
    have nothing := saved noFile nil_shaped fun _ member => by cases member
    have other := saved contrary_read (byKey_shaped contrary_wellTyped)
      (byKey_within contrary_wellTyped)
    apply contrary_ne_standard setting
    rw [strongest_eq, silent, Option.none_or, setting?_byKey, Option.some_or, Option.map_some,
      Option.getD_some, contrary_wellTyped.bare] at other
    rw [← other, nothing, strongest_eq, silent]
    cases setting <;> rfl
  · intro full environment user below before readUser _
    refine ⟨changed, load_byKey typed readLater readUser environment, ?_⟩
    intro setting apart silent
    exact absurd silent (full setting apart)

end Settings

namespace Store

/-- Setting one thing changes nothing else exactly if the layers leave no room for it: for the file
of the user, if the project says nothing of its own about the other settings; for the file of the
project, if that holds all other settings already. -/
theorem only_named_changed_iff {environment : Environment} {userFile projectFile : Option Bytes}
    {user project : Mapping} {settings : Settings} {key written : Text} {scope : Scope}
    {setting : Setting} (readUser : Settings.fileLayer .userFile userFile = .ok user)
    (readProject : Settings.fileLayer .projectFile projectFile = .ok project)
    (userShaped : user.Shaped) (projectShaped : project.Shaped)
    (loaded : Settings.load environment userFile projectFile = .ok settings)
    (named : Setting.ofKey key = .ok setting)
    (done : ((Store.new environment userFile projectFile).set key written scope).1 = .done)
    (readsBack : ∀ changed,
      ((Store.new environment userFile projectFile).set key written scope).2.settings =
        .ok changed → changed.ReadsBack) :
    let after := ((Store.new environment userFile projectFile).set key written scope).2
    (scope = .user →
      (Settings.ElsewhereKept environment userFile after.user setting ↔
        ∀ other, other ≠ setting → Settings.strongest environment user project other =
          Settings.strongest environment user [] other)) ∧
    (scope = .project →
      (Settings.BelowHeard projectFile after.project project setting ↔
        ∀ other, other ≠ setting → project.setting? other ≠ none)) := by
  intro after
  have read : (Store.new environment userFile projectFile).settings = .ok settings := loaded
  obtain ⟨found, changed, text, isFound, taken, _, _, _, _, saved⟩ :=
    set_done_saved read done readsBack
  obtain rfl : found = setting := Except.ok.inj (isFound.symm.trans named)
  obtain ⟨typed, decided⟩ :=
    Settings.load_shaped readUser readProject userShaped projectShaped loaded
  constructor
  · rintro rfl
    have savedUser : Settings.fileLayer .userFile after.user = .ok changed.byKey := saved _
    rw [Settings.elsewhereKept_iff environment readUser userShaped savedUser (typed.change taken)]
    refine forall_congr' fun other => imp_congr_right fun apart => ?_
    rw [Settings.valueOf_change taken apart, decided]
  · rintro rfl
    exact Settings.belowHeard_iff readProject projectShaped (saved _) (typed.change taken) _

/-- Where there are no files, a size for the user is all that changes elsewhere. -/
theorem only_named_changed_small :
    let store := Store.new ⟨[], []⟩ none none
    let after := (store.set "parsing.max_file_size" "5" .user).2
    (store.set "parsing.max_file_size" "5" .user).1 = .done ∧
      Settings.ElsewhereKept ⟨[], []⟩ none after.user .maxFileSize := by
  intro store after
  have done : (store.set "parsing.max_file_size" "5" .user).1 = .done := by
    rw [set_small]
  have kept : after.settings = .ok (Settings.small "table") := by
    rw [show after = _ from congrArg Prod.snd (set_small .user)]
    rfl
  have readsBack : ∀ changed, after.settings = .ok changed → changed.ReadsBack := by
    intro changed same
    obtain rfl := Except.ok.inj (kept.symm.trans same)
    exact Settings.small_readsBack (by decide)
  have noFile (source : Settings.Source) : Settings.fileLayer source none = .ok [] := rfl
  have iff := (only_named_changed_iff (noFile _) (noFile _) Settings.nil_shaped Settings.nil_shaped
    rfl rfl done readsBack).1 rfl
  exact ⟨done, iff.mpr fun _ _ => rfl⟩

/-- A size is set in a project, and then a format for the user. The project had no file, yet now it
hides the format. -/
theorem set_hides_later_format :
    let store := Store.new ⟨[], []⟩ none none
    let first := store.set "parsing.max_file_size" "5" .project
    let second := first.2.set "display.format" "json" .user
    first.1 = .done ∧ second.1 = .done ∧
      second.2.reopen.get "display.format" = .ok (.text "table") ∧
      (Store.new ⟨[], []⟩ second.2.user store.project).get "display.format" =
        .ok (.text "json") := by
  intro store first second
  have isFirst : first = _ := set_small .project
  have read : first.2.settings = .ok (Settings.small "table") := by
    rw [isFirst]
    rfl
  have isSecond : second = (.done, (first.2.keep (Settings.small "json")).putFile .user
      (Settings.smallText "json")) := by
    have saved : second = first.2.save (Settings.small "json") .user :=
      set_of_valid read rfl rfl rfl .user
    rw [saved, save, Settings.small_written (by decide)]
  have readUser : Settings.fileLayer .userFile second.2.user = .ok (Settings.small "json").byKey := by
    rw [isSecond]
    exact Settings.small_readsBack (by decide) _ _ (Settings.small_written (by decide))
  have readProject : Settings.fileLayer .projectFile second.2.project =
      .ok (Settings.small "table").byKey := by
    rw [isSecond, isFirst]
    exact Settings.small_readsBack (by decide) _ _ (Settings.small_written (by decide))
  have here : second.2.reopen.settings = .ok (Settings.small "table") :=
    Settings.load_byKey (Settings.small_wellTyped _) readProject readUser _
  obtain ⟨alone, isAlone, decided⟩ := Settings.load_without_project ⟨[], []⟩ readUser
    (Settings.byKey_shaped (Settings.small_wellTyped _))
  have there : (Store.new ⟨[], []⟩ second.2.user store.project).settings =
      .ok (Settings.small "json") := by
    have same : alone = Settings.small "json" := by
      apply Settings.eq_of_valueOf
      intro setting
      rw [decided, Settings.strongest_byKey _ (Settings.small_wellTyped _)]
    rw [← same]
    exact isAlone
  refine ⟨by rw [isFirst], by rw [isSecond], ?_, ?_⟩
  · rw [get, here]
    rfl
  · rw [get, there]
    rfl

end Store
end SymbolPath
