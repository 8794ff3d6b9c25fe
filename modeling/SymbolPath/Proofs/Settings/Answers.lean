import SymbolPath.Proofs.Number.DigitRows
import SymbolPath.Proofs.Settings.InUse

/-!
How changes are answered. A change of well-typed settings is done exactly if its key names a
setting, its value can be read and the section accepts what it becomes; otherwise it is rejected
with a message. Two things go unanswered: a row of digits that is no number after all, and a size
that is too long to be written and was not the setting to be changed.
-/

namespace SymbolPath

namespace Setting

def key (setting : Setting) : Text :=
  setting.place.1 ++ "." ++ setting.place.2

theorem place_of_listed {part name : Text} {settings : List (Text × Setting)} {setting : Setting}
    (listed : (part, settings) ∈ sections) (inSection : (name, setting) ∈ settings) :
    setting.place = (part, name) := by
  simp only [sections, List.mem_cons, Prod.mk.injEq, List.not_mem_nil, or_false] at listed
  rcases listed with ⟨rfl, rfl⟩ | ⟨rfl, rfl⟩ | ⟨rfl, rfl⟩ <;>
    simp only [List.mem_cons, Prod.mk.injEq, List.not_mem_nil, or_false] at inSection
  · obtain ⟨rfl, rfl⟩ := inSection
    rfl
  · rcases inSection with ⟨rfl, rfl⟩ | ⟨rfl, rfl⟩ <;> rfl
  · obtain ⟨rfl, rfl⟩ := inSection
    rfl

theorem ofKey_eq_ok_iff {key : Text} {setting : Setting} :
    ofKey key = .ok setting ↔ key = setting.key := by
  constructor
  · intro named
    unfold ofKey at named
    split at named
    · rename_i part name parts
      cases listed : sections.find? fun entry => entry.1 == part with
      | none => simp [listed] at named
      | some entry =>
          obtain ⟨title, settings⟩ := entry
          simp only [listed] at named
          cases inSection : settings.find? fun entry => entry.1 == name with
          | none => simp [inSection] at named
          | some pair =>
              obtain ⟨label, found⟩ := pair
              simp only [inSection, Except.ok.injEq] at named
              subst named
              have isTitle : title = part := by simpa using List.find?_some listed
              have isLabel : label = name := by simpa using List.find?_some inSection
              have place := place_of_listed (List.mem_of_find?_eq_some listed)
                (List.mem_of_find?_eq_some inSection)
              have whole := Text.joinWith_splitOn '.' key
              rw [parts] at whole
              rw [Setting.key, place, isTitle, isLabel, ← whole]
              simp [Text.joinWith]
    · cases named
  · rintro rfl
    exact ofKey_place setting

theorem key_injective {a b : Setting} (same : a.key = b.key) : a = b :=
  Except.ok.inj ((ofKey_eq_ok_iff.mpr rfl).symm.trans (ofKey_eq_ok_iff.mpr same))

end Setting

namespace Settings

/-- The key names a setting, the value can be read for it, and the section accepts it. -/
def Accepts (settings : Settings) (key written : Text) : Prop :=
  ∃ setting changed, key = setting.key ∧ settings.change setting written = .ok changed ∧
    changed.validateBeside setting = .ok none

/-- Is the text a row of digits? Only such a row is tried as a size. -/
def IsRow (written : Text) : Prop :=
  written ≠ [] ∧ ∀ c ∈ written, Text.isDigit c = true

inductive Unanswered (settings : Settings) (key written : Text) : Prop
  /-- The size is a row of digits, but not all of them have a place value, or they are too many. -/
  | digits (named : key = Setting.maxFileSize.key) (row : IsRow written)
      (unread : ¬ ((∀ c ∈ written, Text.isDecimal c = true) ∧
        written.length ≤ Whole.digitLimit))
  /-- Another setting is changed, and a size without a text is to be written or complained of. -/
  | size {setting : Setting} {changed : Settings} (named : key = setting.key)
      (other : setting ≠ .maxFileSize) (taken : settings.change setting written = .ok changed)
      (noText : ¬ settings.SizeHasText)
      (wanted : changed.validateBeside setting = .ok none ∨
        setting = .extensions ∧ settings.maxFileSize ≤ 0)

theorem maxFileSize_change {settings changed : Settings} {setting : Setting} {written : Text}
    (taken : settings.change setting written = .ok changed) (other : setting ≠ .maxFileSize) :
    changed.maxFileSize = settings.maxFileSize := by
  have kept : changed.valueOf .maxFileSize = settings.valueOf .maxFileSize :=
    valueOf_change taken (Ne.symm other)
  exact Value.int.inj kept

theorem sizeHasText_change {settings changed : Settings} {written : Text}
    (taken : settings.change .maxFileSize written = .ok changed) : changed.SizeHasText := by
  obtain ⟨size, read, rfl⟩ := change_size taken
  obtain ⟨t, isText⟩ := Whole.text?_of_read read
  simp [SizeHasText, isText]

/-- Only a size can be refused before it is checked: what is no row of digits is rejected, and a row
that is no number fails. -/
theorem change_error_cases {settings : Settings} {setting : Setting} {written : Text}
    {refused : Change} (untaken : settings.change setting written = .error refused) :
    setting = .maxFileSize ∧
      (¬ IsRow written ∧ refused = .rejected (.notANumber written) ∨
        IsRow written ∧ ∃ reason, Whole.read written = .error reason ∧
          refused = .failed (.unreadableNumber reason)) := by
  have row : (written.isEmpty || !written.all Text.isDigit) = true ↔ ¬ IsRow written := by
    cases written <;> simp [IsRow, imp_iff_not_or]
  cases setting with
  | docspaceKinds | extensions | format => cases untaken
  | maxFileSize =>
      refine ⟨rfl, ?_⟩
      simp only [change] at untaken
      split at untaken
      · rename_i noRow
        cases untaken
        exact .inl ⟨row.mp noRow, rfl⟩
      · rename_i isRow
        split at untaken
        · cases untaken
        · rename_i reason unread
          cases untaken
          exact .inr ⟨not_not.mp fun noRow => isRow (row.mpr noRow), reason, unread, rfl⟩

theorem exists_change (settings : Settings) {setting : Setting} (other : setting ≠ .maxFileSize)
    (written : Text) : ∃ changed, settings.change setting written = .ok changed := by
  cases taken : settings.change setting written with
  | ok changed => exact ⟨changed, rfl⟩
  | error refused => exact absurd (change_error_cases taken).1 other

theorem unanswered_size_iff {settings : Settings} {written : Text} :
    settings.Unanswered Setting.maxFileSize.key written ↔
      IsRow written ∧ ¬ ∃ n, Whole.read written = .ok n := by
  constructor
  · rintro (⟨-, row, unread⟩ | ⟨named, other, -, -, -⟩)
    · exact ⟨row, (Whole.read_row_iff row.1 row.2).not.mpr unread⟩
    · exact absurd (Setting.key_injective named).symm other
  · rintro ⟨row, unread⟩
    exact .digits rfl row ((Whole.read_row_iff row.1 row.2).not.mp unread)

theorem unanswered_other_iff {settings changed : Settings} {setting : Setting} {written : Text}
    (other : setting ≠ .maxFileSize) (taken : settings.change setting written = .ok changed) :
    settings.Unanswered setting.key written ↔
      ¬ settings.SizeHasText ∧ (changed.validateBeside setting = .ok none ∨
        setting = .extensions ∧ settings.maxFileSize ≤ 0) := by
  constructor
  · rintro (⟨named, -, -⟩ | ⟨named, -, again, noText, wanted⟩)
    · exact absurd (Setting.key_injective named) other
    · obtain rfl := Setting.key_injective named
      obtain rfl := Except.ok.inj (taken.symm.trans again)
      exact ⟨noText, wanted⟩
  · rintro ⟨noText, wanted⟩
    exact .size rfl other taken noText wanted

end Settings

namespace Store

section Change

variable {store : Store} {settings changed : Settings} {setting : Setting} {key written : Text}
  {scope : Scope} (read : store.settings = .ok settings)
include read

theorem set_taken (taken : settings.change setting written = .ok changed) :
    (store.set setting.key written scope).1 = match changed.validateBeside setting with
      | .error failure => .failed failure
      | .ok (some invalid) => .rejected (.invalid invalid)
      | .ok none => match changed.fileText with
        | .ok _ => .done
        | .error failure => .failed failure := by
  have named := Setting.ofKey_eq_ok_iff.mpr (rfl : setting.key = setting.key)
  unfold set save
  simp only [read, named, taken]
  cases changed.validateBeside setting with
  | error failure => rfl
  | ok found =>
      cases found with
      | some invalid => rfl
      | none => cases changed.fileText <;> rfl

theorem set_taken_failed_iff (typed : settings.WellTyped)
    (taken : settings.change setting written = .ok changed) :
    (∃ failure, (store.set setting.key written scope).1 = .failed failure) ↔
      ¬ changed.SizeHasText ∧ (changed.validateBeside setting = .ok none ∨
        (setting = .maxFileSize ∨ setting = .extensions) ∧ changed.maxFileSize ≤ 0) := by
  rw [set_taken read taken]
  have checked := Settings.validateBeside_typed (typed.change taken) setting
  have written := Settings.fileText_typed (typed.change taken)
  rcases checked with ⟨none | invalid, checked⟩ | ⟨parsing, low, noText, checked⟩
  · rcases written with ⟨hasText, text, written⟩ | ⟨noText, written⟩
    · simp [checked, written, hasText]
    · simp [checked, written, noText]
  · have other : ¬ (¬ changed.SizeHasText ∧
        ((setting = .maxFileSize ∨ setting = .extensions) ∧ changed.maxFileSize ≤ 0)) := by
      rintro ⟨noText, parsing, low⟩
      rw [Settings.validateBeside_noText parsing low noText] at checked
      cases checked
    simpa [checked] using other
  · simp [checked, low, noText, parsing]

theorem set_taken_done_iff (typed : settings.WellTyped)
    (taken : settings.change setting written = .ok changed) :
    (store.set setting.key written scope).1 = .done ↔
      changed.validateBeside setting = .ok none ∧ changed.SizeHasText := by
  rw [set_taken read taken]
  cases checked : changed.validateBeside setting with
  | error failure => simp
  | ok found =>
      cases found with
      | some invalid => simp
      | none =>
          rcases Settings.fileText_typed (typed.change taken) with
            ⟨hasText, text, written⟩ | ⟨noText, written⟩
          · simp [written, hasText]
          · simp [written, noText]

theorem set_untaken {refused : Change} (untaken : settings.change setting written = .error refused) :
    (store.set setting.key written scope).1 = refused := by
  have named := Setting.ofKey_eq_ok_iff.mpr (rfl : setting.key = setting.key)
  unfold set
  simp only [read, named, untaken]

theorem set_unnamed {rejection : Rejection} (unnamed : Setting.ofKey key = .error rejection) :
    (store.set key written scope).1 = .rejected rejection := by
  unfold set
  simp only [read, unnamed]

theorem set_failed_iff (typed : settings.WellTyped) :
    (∃ failure, (store.set key written scope).1 = .failed failure) ↔
      settings.Unanswered key written := by
  cases named : Setting.ofKey key with
  | error rejection =>
      have noSetting (setting : Setting) : key ≠ setting.key := by
        intro same
        rw [Setting.ofKey_eq_ok_iff.mpr same] at named
        cases named
      rw [set_unnamed read named]
      refine ⟨nofun, ?_⟩
      rintro (⟨same⟩ | ⟨same⟩) <;> exact absurd same (noSetting _)
  | ok setting =>
      obtain rfl := Setting.ofKey_eq_ok_iff.mp named
      by_cases size : setting = .maxFileSize
      · subst size
        rw [Settings.unanswered_size_iff]
        cases taken : settings.change .maxFileSize written with
        | error refused =>
            rw [set_untaken read taken]
            obtain ⟨-, ⟨noRow, rfl⟩ | ⟨row, reason, unread, rfl⟩⟩ :=
              Settings.change_error_cases taken
            · simp [noRow]
            · simp [row, unread]
        | ok changed =>
            obtain ⟨n, isNumber, -⟩ := Settings.change_size taken
            rw [set_taken_failed_iff read typed taken]
            simp [Settings.sizeHasText_change taken, isNumber]
      · obtain ⟨changed, taken⟩ := settings.exists_change size written
        rw [set_taken_failed_iff read typed taken, Settings.unanswered_other_iff size taken]
        simp [Settings.SizeHasText, Settings.maxFileSize_change taken size, size]

theorem set_done_iff (typed : settings.WellTyped) :
    (store.set key written scope).1 = .done ↔
      settings.Accepts key written ∧ ¬ settings.Unanswered key written := by
  constructor
  · intro done
    obtain ⟨former, setting, changed, text, again, named, taken, valid, -, -⟩ := set_done_cases done
    obtain rfl := Except.ok.inj (read.symm.trans again)
    refine ⟨⟨setting, changed, Setting.ofKey_eq_ok_iff.mp named, taken, valid⟩, ?_⟩
    rw [← set_failed_iff read typed]
    rintro ⟨failure, failed⟩
    rw [done] at failed
    cases failed
  · rintro ⟨⟨setting, changed, rfl, taken, valid⟩, answered⟩
    have noFailure : ¬ ∃ failure, (store.set setting.key written scope).1 = .failed failure :=
      (set_failed_iff read typed).not.mpr answered
    rw [set_taken_failed_iff read typed taken] at noFailure
    rw [set_taken_done_iff read typed taken]
    exact ⟨valid, by simpa [valid] using noFailure⟩

end Change

/-- A change of well-typed settings fails exactly if a row of digits is no number or the size has no
text, and it is done exactly if it is accepted and does not fail. -/
theorem set_answers_iff (store : Store) (settings : Settings) (read : store.settings = .ok settings)
    (typed : settings.WellTyped) (key written : Text) (scope : Scope) :
    let reply := (store.set key written scope).1
    ((∃ failure, reply = .failed failure) ↔ settings.Unanswered key written) ∧
      (reply = .done ↔ settings.Accepts key written ∧ ¬ settings.Unanswered key written) :=
  ⟨set_failed_iff read typed, set_done_iff read typed⟩

/-- A digit of another script is as good as one of our own. -/
theorem set_answers_arabic_digit :
    let store := Store.new ⟨[], []⟩ none none
    store.settings = .ok Settings.standard ∧ Settings.standard.WellTyped ∧
      Settings.standard.Accepts "parsing.max_file_size" "٥" ∧
      (store.set "parsing.max_file_size" "٥" .project).1 = .done := by
  intro store
  have read : store.settings = .ok Settings.standard := rfl
  have five : Whole.read "٥" = .ok 5 := by decide +kernel
  have digit : (("٥" : Text).isEmpty || !("٥" : Text).all Text.isDigit) = false := by
    decide +kernel
  have taken : Settings.standard.change .maxFileSize "٥" = .ok (Settings.small "table") := by
    simp only [Settings.change, digit, five, Settings.small]
    rfl
  have accepted : Settings.standard.Accepts "parsing.max_file_size" "٥" :=
    ⟨.maxFileSize, _, rfl, taken, rfl⟩
  have answered : ¬ Settings.standard.Unanswered "parsing.max_file_size" "٥" := by
    have named : ("parsing.max_file_size" : Text) = Setting.maxFileSize.key := rfl
    rw [named, Settings.unanswered_size_iff]
    exact fun unread => unread.2 ⟨5, five⟩
  have answers := set_answers_iff store _ read Settings.standard_wellTyped "parsing.max_file_size"
    "٥" .project
  exact ⟨read, Settings.standard_wellTyped, accepted, answers.2.mpr ⟨accepted, answered⟩⟩

/-- A raised two passes for a digit, but no number can be read from it. -/
theorem raised_digit_unanswered :
    ((new ⟨[], []⟩ none none).set "parsing.max_file_size" "²" .project).1 =
      .failed (.unreadableNumber (.notANumber 10 "'²'")) := by
  decide +kernel

end Store
end SymbolPath
