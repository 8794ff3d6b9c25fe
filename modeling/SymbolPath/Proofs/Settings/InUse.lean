import SymbolPath.Proofs.Settings.Saving

/-!
Well-typed settings in use. They are checked, shown and written without failure, with one exception:
a size of too many digits has no text.
-/

namespace SymbolPath

namespace Value

theorem IsString.cases {v : Value} (isString : v.IsString) :
    (∃ t, v = .text t) ∨ ∃ points, v = .fragment points := by
  cases v with
  | text t => exact .inl ⟨t, rfl⟩
  | fragment points => exact .inr ⟨points, rfl⟩
  | null | bool _ | int _ | float _ | bytes _ | moment _ | list _ | pair _ _ | set _ | map _
  | shared _ _ _ | again _ => cases isString

theorem texts?_of_strings {values : List Value} (strings : ∀ v ∈ values, v.IsString) :
    ∃ texts, texts? values = some texts := by
  induction values with
  | nil => exact ⟨[], rfl⟩
  | cons v rest ih =>
      obtain ⟨first, others⟩ := List.forall_mem_cons.mp strings
      obtain ⟨t, isText⟩ := Option.isSome_iff_exists.mp first
      obtain ⟨texts, areTexts⟩ := ih others
      rw [texts?] at areTexts
      exact ⟨t :: texts, by simp [texts?, isText, areTexts]⟩

end Value

namespace Yaml.Draft

theorem ofValue_string {v : Value} (isString : v.IsString) : ∃ draft, ofValue v = pure draft := by
  obtain ⟨t, rfl⟩ | ⟨points, rfl⟩ := isString.cases
  · exact ⟨_, rfl⟩
  · exact ⟨_, rfl⟩

theorem ofItems_strings {items : List Value} (strings : ∀ item ∈ items, item.IsString) :
    ∃ drafts, ofItems items = pure drafts := by
  induction items with
  | nil => exact ⟨[], rfl⟩
  | cons item rest ih =>
      obtain ⟨first, others⟩ := List.forall_mem_cons.mp strings
      obtain ⟨draft, isDraft⟩ := ofValue_string first
      obtain ⟨drafts, areDrafts⟩ := ih others
      exact ⟨draft :: drafts, by rw [ofItems_cons, isDraft, areDrafts]; rfl⟩

end Yaml.Draft

namespace Settings

section Typed

variable {settings : Settings} (typed : settings.WellTyped)
include typed

theorem WellTyped.kinds : ∀ kind ∈ settings.docspaceKinds, kind.IsString := by
  obtain ⟨items, same, strings⟩ := typed .docspaceKinds
  cases same
  exact strings

theorem WellTyped.extensions : ∀ extension ∈ settings.extensions, extension.IsString := by
  obtain ⟨items, same, strings⟩ := typed .extensions
  cases same
  exact strings

theorem WellTyped.format : settings.format.IsString := typed .format

end Typed

/-! Checking. -/

theorem shown_string {v : Value} (isString : v.IsString) : ∃ t, shown v = .ok t := by
  obtain ⟨t, rfl⟩ | ⟨points, rfl⟩ := isString.cases
  · exact ⟨t, rfl⟩
  · exact ⟨_, rfl⟩

theorem validateKinds_strings {kinds : List Value} (strings : ∀ kind ∈ kinds, kind.IsString) :
    ∃ found, validateKinds kinds = .ok found := by
  induction kinds with
  | nil => exact ⟨none, rfl⟩
  | cons kind rest ih =>
      obtain ⟨first, others⟩ := List.forall_mem_cons.mp strings
      obtain ⟨found, checked⟩ := ih others
      obtain ⟨t, rfl⟩ | ⟨points, rfl⟩ := first.cases
      · cases blank : (Value.text t).isBlank with
        | true => exact ⟨_, by simp only [validateKinds, blank]; rfl⟩
        | false =>
            cases name : isKindName t with
            | true => exact ⟨found, by simp [validateKinds, blank, Value.bare, name, checked]⟩
            | false => exact ⟨_, by simp only [validateKinds, blank, Value.bare, name]; rfl⟩
      · exact ⟨_, rfl⟩

theorem validateExtensions_strings {extensions : List Value}
    (strings : ∀ extension ∈ extensions, extension.IsString) :
    ∃ found, validateExtensions extensions = .ok found := by
  induction extensions with
  | nil => exact ⟨none, rfl⟩
  | cons extension rest ih =>
      obtain ⟨first, others⟩ := List.forall_mem_cons.mp strings
      obtain ⟨found, checked⟩ := ih others
      obtain ⟨t, rfl⟩ | ⟨points, rfl⟩ := first.cases
      all_goals
        rw [validateExtensions]
        split
        · exact ⟨found, checked⟩
        · exact ⟨_, rfl⟩

theorem validateDisplay_string {settings : Settings} (isString : settings.format.IsString) :
    ∃ found, settings.validateDisplay = .ok found := by
  obtain ⟨t, isShown⟩ := shown_string isString
  rw [validateDisplay, isShown]
  split
  · exact ⟨none, rfl⟩
  · exact ⟨_, rfl⟩

/-! The size, of which a text may be wanted. -/

/-- The size has a text: its digits are not too many. -/
def SizeHasText (settings : Settings) : Prop :=
  (Whole.text? settings.maxFileSize).isSome = true

theorem shown_int (n : Int) : shown (.int n) = match Whole.text? n with
    | some t => .ok t
    | none => .error .numberTooLong := by
  have displayed : (Value.int n).display = Whole.text? n := by
    simp only [Value.display, Value.bare, Value.nested]
  cases text : Whole.text? n <;> simp [shown, displayed, text]

theorem validateParsing_low {settings : Settings} (low : settings.maxFileSize ≤ 0) :
    settings.validateParsing = match Whole.text? settings.maxFileSize with
      | some t => .ok (some (.fileSize t))
      | none => .error .numberTooLong := by
  rw [validateParsing, if_pos low, shown_int]
  cases Whole.text? settings.maxFileSize with
  | some t => rfl
  | none => rfl

theorem validateBeside_noText {settings : Settings} {setting : Setting}
    (parsing : setting = .maxFileSize ∨ setting = .extensions) (low : settings.maxFileSize ≤ 0)
    (noText : ¬ settings.SizeHasText) :
    settings.validateBeside setting = .error .numberTooLong := by
  have failed : settings.validateParsing = .error .numberTooLong := by
    rw [validateParsing_low low, Option.not_isSome_iff_eq_none.mp noText]
  rcases parsing with rfl | rfl <;> exact failed

/-- Checking fails only where it has to name a size that has no text. -/
theorem validateParsing_typed {settings : Settings} (typed : settings.WellTyped) :
    (∃ found, settings.validateParsing = .ok found) ∨
      settings.maxFileSize ≤ 0 ∧ ¬ settings.SizeHasText ∧
        settings.validateParsing = .error .numberTooLong := by
  by_cases low : settings.maxFileSize ≤ 0
  · cases text : Whole.text? settings.maxFileSize with
    | some t => exact .inl ⟨_, by rw [validateParsing_low low, text]⟩
    | none =>
        have noText : ¬ settings.SizeHasText := by simp [SizeHasText, text]
        exact .inr ⟨low, noText, validateBeside_noText (.inl rfl) low noText⟩
  · rw [validateParsing, if_neg low]
    exact .inl (validateExtensions_strings typed.extensions)

theorem validateBeside_typed {settings : Settings} (typed : settings.WellTyped)
    (setting : Setting) :
    (∃ found, settings.validateBeside setting = .ok found) ∨
      (setting = .maxFileSize ∨ setting = .extensions) ∧ settings.maxFileSize ≤ 0 ∧
        ¬ settings.SizeHasText ∧ settings.validateBeside setting = .error .numberTooLong := by
  have parsing := validateParsing_typed typed
  cases setting with
  | docspaceKinds => exact .inl (validateKinds_strings typed.kinds)
  | format => exact .inl (validateDisplay_string typed.format)
  | maxFileSize => exact parsing.imp_right fun refused => ⟨.inl rfl, refused⟩
  | extensions => exact parsing.imp_right fun refused => ⟨.inr rfl, refused⟩

/-! Writing. -/

open Yaml.Draft in
theorem isSome_of?_toMapping {settings : Settings} (typed : settings.WellTyped) :
    (of? (.map settings.toMapping)).isSome = (Whole.text? settings.maxFileSize).isSome := by
  obtain ⟨kinds, areKinds⟩ := ofItems_strings typed.kinds
  obtain ⟨extensions, areExtensions⟩ := ofItems_strings typed.extensions
  obtain ⟨format, isFormat⟩ := ofValue_string typed.format
  have parsing {α : Type} (a b : α) :=
    Value.sortBy?_two (s := "max_file_size") (t := "extensions") a b (by decide)
  have sections {α : Type} (a b c : α) :=
    Value.sortBy?_three (s := "resolver") (t := "parsing") (u := "display") a b c (by decide)
      (by decide)
  simp only [of?, toMapping, ofValue_map, ofEntries_cons, ofEntries_nil, inOrder, parsing, sections,
    Value.sortBy?_one, Option.getD_some, List.mapM_cons, List.mapM_nil, ofValue_text, ofValue_list,
    areKinds, areExtensions, isFormat, ofValue_int]
  cases Whole.text? settings.maxFileSize <;> rfl

/-- All that can keep settings from being written is the size. -/
theorem fileText_typed {settings : Settings} (typed : settings.WellTyped) :
    (settings.SizeHasText ∧ ∃ text, settings.fileText = .ok text) ∨
      ¬ settings.SizeHasText ∧ settings.fileText = .error .numberTooLong := by
  have drafted := isSome_of?_toMapping typed
  unfold fileText Yaml.writeMapping? SizeHasText
  cases draft : Yaml.Draft.of? (.map settings.toMapping) with
  | some found =>
      rw [draft] at drafted
      exact .inl ⟨drafted.symm, _, rfl⟩
  | none =>
      rw [draft] at drafted
      exact .inr ⟨by simp [← drafted], rfl⟩

/-! Asking. -/

theorem join_strings (between : Text) {values : List Value}
    (strings : ∀ v ∈ values, v.IsString) : ∃ t, join between values = .ok t := by
  obtain ⟨texts, areTexts⟩ := Value.texts?_of_strings strings
  exact ⟨_, by rw [join, areTexts]⟩

section Asking

variable {settings : Settings} (typed : settings.WellTyped)
include typed

theorem get_typed (hasText : settings.SizeHasText) (setting : Setting) :
    ∃ v, settings.get setting = .ok v := by
  cases setting with
  | docspaceKinds =>
      obtain ⟨t, joined⟩ := join_strings "," typed.kinds
      exact ⟨.text t, by rw [get, joined]; rfl⟩
  | maxFileSize =>
      obtain ⟨t, isText⟩ := Option.isSome_iff_exists.mp hasText
      exact ⟨.text t, by rw [get, shown_int, isText]; rfl⟩
  | extensions =>
      obtain ⟨t, joined⟩ := join_strings "," typed.extensions
      exact ⟨.text t, by rw [get, joined]; rfl⟩
  | format => exact ⟨settings.format, rfl⟩

theorem describe_typed (hasText : settings.SizeHasText) (userFile projectFile : Text) :
    ∃ t, settings.describe userFile projectFile = .ok t := by
  obtain ⟨kinds, kindsJoined⟩ := join_strings ", " typed.kinds
  obtain ⟨size, isText⟩ := Option.isSome_iff_exists.mp hasText
  obtain ⟨extensions, extensionsJoined⟩ := join_strings ", " typed.extensions
  obtain ⟨format, formatShown⟩ := shown_string typed.format
  rw [describe, kindsJoined, shown_int, isText, extensionsJoined, formatShown]
  exact ⟨_, rfl⟩

end Asking

end Settings
end SymbolPath
