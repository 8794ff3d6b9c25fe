import SymbolPath.Proofs.Settings.Layering

/-!
How a mapping makes settings. Its sections are looked into one after the other, and each setting is
taken over on its own, or is the standard one where the mapping has none. Whatever is no section or
cannot be taken over keeps all settings from being made, and an infinite size does so in a way of
its own.
-/

namespace SymbolPath

namespace Settings

def valueOf (settings : Settings) : Setting → Value
  | .docspaceKinds => .list settings.docspaceKinds
  | .maxFileSize => .int settings.maxFileSize
  | .extensions => .list settings.extensions
  | .format => settings.format

theorem eq_of_valueOf {a b : Settings} (same : ∀ setting, a.valueOf setting = b.valueOf setting) :
    a = b := by
  obtain ⟨kinds, size, extensions, format⟩ := a
  obtain ⟨otherKinds, otherSize, otherExtensions, otherFormat⟩ := b
  have kindsSame := same .docspaceKinds
  have sizeSame := same .maxFileSize
  have extensionsSame := same .extensions
  have formatSame := same .format
  simp only [valueOf, Value.list.injEq, Value.int.injEq] at kindsSame sizeSame extensionsSame formatSame
  rw [kindsSame, sizeSame, extensionsSame, formatSame]

end Settings

namespace Setting

def take : Setting → Value → Except Failure Value
  | .docspaceKinds, v => .list <$> Settings.itemsOf v
  | .maxFileSize, v => .int <$> Settings.sizeOf v
  | .extensions, v => .list <$> Settings.itemsOf v
  | .format, v => .ok v

theorem take_standard (setting : Setting) :
    setting.take (Settings.standard.valueOf setting) = .ok (Settings.standard.valueOf setting) := by
  cases setting <;> rfl

/-- What has the right type is taken over as it is, but for its label. -/
theorem take_of_fits {setting : Setting} {v : Value} (fits : setting.Fits v) :
    setting.take v = .ok v.bare := by
  cases setting with
  | docspaceKinds | extensions =>
      obtain ⟨items, bare, _⟩ := fits
      have isList : Settings.itemsOf v = .ok items := by simp [Settings.itemsOf, bare]
      rw [take, isList, bare]
      rfl
  | maxFileSize =>
      obtain ⟨n, rfl⟩ := fits
      rfl
  | format =>
      have isString : v.IsString := fits
      rw [isString.bare]
      rfl

end Setting

namespace Mapping

def HasSections (data : Mapping) : Prop :=
  ∀ (setting : Setting) value, data.at? setting.place.1 = some value → value.entries?.isSome = true

/-- Every section can be looked into, and every value found there can be taken over. -/
structure Takable (data : Mapping) : Prop where
  sections : data.HasSections
  values : ∀ (setting : Setting) v, data.setting? setting = some v →
    ∃ taken, setting.take v = .ok taken

/-- An infinite size is met before anything else that is malformed. -/
structure MeetsInfinity (data : Mapping) : Prop where
  resolver : ∀ value, data.at? Setting.docspaceKinds.place.1 = some value →
    value.entries?.isSome = true
  kinds : ∀ v, data.setting? .docspaceKinds = some v → ∃ items, Settings.itemsOf v = .ok items
  size : ∃ negative, data.setting? .maxFileSize = some (.float (.infinity negative))

end Mapping

namespace Settings

/-! Computations that may fail. -/

theorem bind_eq_ok {α β : Type} {x : Except Failure α} {f : α → Except Failure β} {b : β} :
    x >>= f = .ok b ↔ ∃ a, x = .ok a ∧ f a = .ok b := by
  cases x with
  | error reason => exact ⟨nofun, nofun⟩
  | ok a => simp [Bind.bind, Except.bind]

theorem bind_eq_error {α β : Type} {x : Except Failure α} {f : α → Except Failure β}
    {reason : Failure} :
    x >>= f = .error reason ↔ x = .error reason ∨ ∃ a, x = .ok a ∧ f a = .error reason := by
  cases x with
  | error other => simp [Bind.bind, Except.bind]
  | ok a => simp [Bind.bind, Except.bind]

theorem map_eq_ok {α β : Type} {x : Except Failure α} {f : α → β} {b : β} :
    f <$> x = .ok b ↔ ∃ a, x = .ok a ∧ f a = b := by
  cases x <;> simp [Functor.map, Except.map]

theorem bind_congr_ok {α β : Type} {x : Except Failure α} {f g : α → Except Failure β}
    (same : ∀ a, x = .ok a → f a = g a) : x >>= f = x >>= g := by
  cases x with
  | error reason => rfl
  | ok a => exact same a rfl

/-! Sections. -/

theorem at?_of_section {data entries : Mapping} (setting : Setting)
    (isSection : mappingOf (sectionOf data setting.place.1) = .ok entries) :
    entries.at? setting.place.2 = data.setting? setting := by
  unfold Mapping.setting? sectionOf at *
  cases present : data.at? setting.place.1 with
  | none =>
      rw [present] at isSection
      obtain rfl := Except.ok.inj isSection
      rfl
  | some value =>
      rw [present, Option.getD_some, mappingOf] at isSection
      cases mapping : value.entries? with
      | none => simp [mapping] at isSection
      | some found =>
          rw [mapping] at isSection
          obtain rfl := Except.ok.inj isSection
          simp [mapping]

theorem mappingOf_section {data : Mapping} {part : Text}
    (isMapping : ∀ value, data.at? part = some value → value.entries?.isSome = true) :
    ∃ entries, mappingOf (sectionOf data part) = .ok entries := by
  unfold sectionOf
  cases present : data.at? part with
  | none => exact ⟨[], rfl⟩
  | some value =>
      obtain ⟨entries, mapping⟩ := Option.isSome_iff_exists.mp (isMapping value present)
      exact ⟨entries, by simp [mappingOf, mapping]⟩

theorem mappingOf_section_iff {data : Mapping} {part : Text} :
    (∃ entries, mappingOf (sectionOf data part) = .ok entries) ↔
      ∀ value, data.at? part = some value → value.entries?.isSome = true := by
  refine ⟨?_, mappingOf_section⟩
  rintro ⟨entries, isSection⟩ value found
  rw [sectionOf, found, Option.getD_some, mappingOf] at isSection
  cases mapping : value.entries? with
  | none => simp [mapping] at isSection
  | some inner => rfl

theorem ofValue_of_entries (data : Mapping) : ofValue (.map data) = (do
    let resolver ← mappingOf (sectionOf data "resolver")
    let kinds ← itemsOf ((resolver.at? "docspace_kinds").getD (.list standard.docspaceKinds))
    let parsing ← mappingOf (sectionOf data "parsing")
    let size ← sizeOf ((parsing.at? "max_file_size").getD (.int standardFileSize))
    let extensions ← itemsOf ((parsing.at? "extensions").getD (.list standard.extensions))
    let display ← mappingOf (sectionOf data "display")
    pure ⟨kinds, size, extensions, (display.at? "format").getD standard.format⟩) := rfl

/-! Values. -/

def offered (data : Mapping) (setting : Setting) : Value :=
  (data.setting? setting).getD (standard.valueOf setting)

theorem take_offered {data : Mapping} (takable : data.Takable) (setting : Setting) :
    ∃ taken, setting.take (offered data setting) = .ok taken := by
  unfold offered
  cases found : data.setting? setting with
  | none => exact ⟨_, setting.take_standard⟩
  | some v => exact takable.values setting v found

theorem ofValue_offered (data : Mapping) : ofValue (.map data) = (do
    let _ ← mappingOf (sectionOf data Setting.docspaceKinds.place.1)
    let kinds ← itemsOf (offered data .docspaceKinds)
    let _ ← mappingOf (sectionOf data Setting.maxFileSize.place.1)
    let size ← sizeOf (offered data .maxFileSize)
    let extensions ← itemsOf (offered data .extensions)
    let _ ← mappingOf (sectionOf data Setting.format.place.1)
    pure ⟨kinds, size, extensions, offered data .format⟩) := by
  unfold offered
  rw [ofValue_of_entries]
  refine bind_congr_ok fun resolver isResolver => ?_
  rw [← at?_of_section .docspaceKinds isResolver]
  refine bind_congr_ok fun kinds _ => bind_congr_ok fun parsing isParsing => ?_
  rw [← at?_of_section .maxFileSize isParsing, ← at?_of_section .extensions isParsing]
  refine bind_congr_ok fun size _ => bind_congr_ok fun extensions _ =>
    bind_congr_ok fun display isDisplay => ?_
  rw [← at?_of_section .format isDisplay]
  rfl

theorem ofValue_eq_ok_iff {data : Mapping} {settings : Settings} :
    ofValue (.map data) = .ok settings ↔ data.HasSections ∧
      ∀ setting : Setting, setting.take (offered data setting) = .ok (settings.valueOf setting) := by
  rw [ofValue_offered]
  simp only [bind_eq_ok]
  constructor
  · rintro ⟨resolver, isResolver, kinds, readKinds, parsing, isParsing, size, readSize, extensions,
      readExtensions, display, isDisplay, made⟩
    cases made
    refine ⟨fun setting => mappingOf_section_iff.mp ?_, fun setting => ?_⟩
    · cases setting with
      | docspaceKinds => exact ⟨resolver, isResolver⟩
      | maxFileSize | extensions => exact ⟨parsing, isParsing⟩
      | format => exact ⟨display, isDisplay⟩
    · cases setting with
      | docspaceKinds => exact map_eq_ok.mpr ⟨kinds, readKinds, rfl⟩
      | maxFileSize => exact map_eq_ok.mpr ⟨size, readSize, rfl⟩
      | extensions => exact map_eq_ok.mpr ⟨extensions, readExtensions, rfl⟩
      | format => rfl
  · rintro ⟨sections, taken⟩
    obtain ⟨resolver, isResolver⟩ := mappingOf_section (sections .docspaceKinds)
    obtain ⟨parsing, isParsing⟩ := mappingOf_section (sections .maxFileSize)
    obtain ⟨display, isDisplay⟩ := mappingOf_section (sections .format)
    obtain ⟨kinds, readKinds, sameKinds⟩ := map_eq_ok.mp (taken .docspaceKinds)
    obtain ⟨size, readSize, sameSize⟩ := map_eq_ok.mp (taken .maxFileSize)
    obtain ⟨extensions, readExtensions, sameExtensions⟩ := map_eq_ok.mp (taken .extensions)
    have sameFormat := Except.ok.inj (taken .format)
    refine ⟨resolver, isResolver, kinds, readKinds, parsing, isParsing, size, readSize, extensions,
      readExtensions, display, isDisplay, congrArg Except.ok (eq_of_valueOf fun setting => ?_)⟩
    cases setting with
    | docspaceKinds => exact sameKinds
    | maxFileSize => exact sameSize
    | extensions => exact sameExtensions
    | format => exact sameFormat

theorem offered_some {data : Mapping} {setting : Setting} {v : Value}
    (found : data.setting? setting = some v) : offered data setting = v := by
  rw [offered, found, Option.getD_some]

section Made

variable {data : Mapping} {settings : Settings} (made : ofValue (.map data) = .ok settings)
include made

theorem taken_of_made {setting : Setting} {v : Value} (found : data.setting? setting = some v) :
    setting.take v = .ok (settings.valueOf setting) := by
  rw [← offered_some found]
  exact (ofValue_eq_ok_iff.mp made).2 setting

theorem standard_of_made {setting : Setting} (absent : data.setting? setting = none) :
    settings.valueOf setting = standard.valueOf setting := by
  have taken := (ofValue_eq_ok_iff.mp made).2 setting
  rw [offered, absent, Option.getD_none, setting.take_standard] at taken
  exact (Except.ok.inj taken).symm

end Made

theorem takable_iff {data : Mapping} :
    data.Takable ↔ ∃ settings, ofValue (.map data) = .ok settings := by
  constructor
  · intro takable
    obtain ⟨_, takenKinds⟩ := take_offered takable .docspaceKinds
    obtain ⟨_, takenSize⟩ := take_offered takable .maxFileSize
    obtain ⟨_, takenExtensions⟩ := take_offered takable .extensions
    obtain ⟨kinds, -, rfl⟩ := map_eq_ok.mp takenKinds
    obtain ⟨size, -, rfl⟩ := map_eq_ok.mp takenSize
    obtain ⟨extensions, -, rfl⟩ := map_eq_ok.mp takenExtensions
    refine ⟨⟨kinds, size, extensions, offered data .format⟩,
      ofValue_eq_ok_iff.mpr ⟨takable.sections, fun setting => ?_⟩⟩
    cases setting with
    | docspaceKinds => exact takenKinds
    | maxFileSize => exact takenSize
    | extensions => exact takenExtensions
    | format => rfl
  · rintro ⟨settings, made⟩
    exact ⟨(ofValue_eq_ok_iff.mp made).1, fun _ _ found => ⟨_, taken_of_made made found⟩⟩

/-! Infinity, which is met only where everything before the size can be taken over. -/

theorem mappingOf_ne_infinite (v : Value) : mappingOf v ≠ .error .infiniteSize := by
  unfold mappingOf
  cases v.entries? <;> simp

theorem itemsOf_ne_infinite (v : Value) : itemsOf v ≠ .error .infiniteSize := by
  unfold itemsOf
  split <;> simp

theorem readSize_ne_infinite (t : Text) : readSize t ≠ .error .infiniteSize := by
  unfold readSize
  intro infinite
  cases read : Whole.read t with
  | ok n =>
      rw [read] at infinite
      cases infinite
  | error reason =>
      rw [read] at infinite
      cases infinite

theorem sizeOf_eq_infinite_iff {v : Value} :
    sizeOf v = .error .infiniteSize ↔ ∃ negative, v = .float (.infinity negative) := by
  constructor
  · intro infinite
    cases v with
    | text t => exact absurd infinite (readSize_ne_infinite t)
    | bytes b =>
        simp only [sizeOf] at infinite
        split at infinite
        · exact absurd infinite (readSize_ne_infinite _)
        · cases infinite
    | float d =>
        cases d with
        | infinity negative => exact ⟨negative, rfl⟩
        | nan | finite _ _ _ => cases infinite
    | null | bool _ | int _ | fragment _ | moment _ | list _ | pair _ _ | set _ | map _
    | shared _ _ _ | again _ => cases infinite
  · rintro ⟨negative, rfl⟩
    rfl

theorem offered_eq_infinite_iff {data : Mapping} {negative : Bool} :
    offered data .maxFileSize = .float (.infinity negative) ↔
      data.setting? .maxFileSize = some (.float (.infinity negative)) := by
  unfold offered
  cases data.setting? .maxFileSize with
  | none => simp [valueOf]
  | some v => simp

theorem itemsOf_offered_iff {data : Mapping} :
    (∃ items, itemsOf (offered data .docspaceKinds) = .ok items) ↔
      ∀ v, data.setting? .docspaceKinds = some v → ∃ items, itemsOf v = .ok items := by
  unfold offered
  cases data.setting? .docspaceKinds with
  | none => exact ⟨nofun, fun _ => ⟨standard.docspaceKinds, rfl⟩⟩
  | some v => simp

theorem ofValue_eq_infinite_iff {data : Mapping} :
    ofValue (.map data) = .error .infiniteSize ↔ data.MeetsInfinity := by
  rw [ofValue_offered]
  -- of all the steps only the one that reads the size can come upon infinity
  simp only [bind_eq_error, mappingOf_ne_infinite, itemsOf_ne_infinite, false_or,
    sizeOf_eq_infinite_iff, offered_eq_infinite_iff, pure, Except.pure, reduceCtorEq, and_false,
    exists_false, or_false]
  constructor
  · rintro ⟨resolver, isResolver, kinds, readKinds, parsing, isParsing, infinite⟩
    exact ⟨mappingOf_section_iff.mp ⟨resolver, isResolver⟩, itemsOf_offered_iff.mp ⟨kinds, readKinds⟩,
      infinite⟩
  · rintro ⟨isResolver, isKinds, negative, infinite⟩
    obtain ⟨resolver, isResolver⟩ := mappingOf_section isResolver
    obtain ⟨kinds, readKinds⟩ := itemsOf_offered_iff.mpr isKinds
    have isParsing : ∀ value, data.at? Setting.maxFileSize.place.1 = some value →
        value.entries?.isSome = true := by
      intro value found
      cases mapping : value.entries? with
      | some inner => rfl
      | none => simp [Mapping.setting?, found, mapping] at infinite
    obtain ⟨parsing, isParsing⟩ := mappingOf_section isParsing
    exact ⟨resolver, isResolver, kinds, readKinds, parsing, isParsing, negative, infinite⟩

end Settings
end SymbolPath
