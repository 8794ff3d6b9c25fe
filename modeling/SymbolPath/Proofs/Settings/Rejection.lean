import SymbolPath.Proofs.Settings.Requests

/-!
What a refused change leaves behind. The files are never touched. The settings kept are touched
exactly when the value was taken over before its section was checked and differs from the value
kept until then, and this is also when a later request can tell that there was a refusal: the value
refused is shown, and the next change of another setting writes it to a file.
-/

namespace SymbolPath.Store

/-- As far as a change is carried out, it sets what is set already. -/
def KeepsSettings (store : Store) (key written : Text) : Prop :=
  ∀ settings setting changed, store.settings = .ok settings → Setting.ofKey key = .ok setting →
    settings.change setting written = .ok changed → changed = settings

/-- A change that its section refuses is kept all the same. -/
theorem set_of_invalid {store : Store} {key : Text} {settings changed : Settings}
    {setting : Setting} {written : Text} {invalid : Invalid} (read : store.settings = .ok settings)
    (named : Setting.ofKey key = .ok setting)
    (taken : settings.change setting written = .ok changed)
    (refused : changed.validateBeside setting = .ok (some invalid)) (scope : Scope) :
    store.set key written scope = (.rejected (.invalid invalid), store.keep changed) := by
  unfold set
  simp only [read, named, taken, refused]

/-- A refused change leaves the settings it was made to: the ones kept before if the key or the
number could not be read, the changed ones if these were checked and found invalid. -/
theorem set_rejected_cases {store : Store} {key written : Text} {scope : Scope}
    {reason : Rejection} (rejected : (store.set key written scope).1 = .rejected reason) :
    ∃ settings, store.settings = .ok settings ∧
      ((store.set key written scope).2 = store.keep settings ∧
          (∀ setting changed, Setting.ofKey key = .ok setting →
            settings.change setting written ≠ .ok changed) ∨
        ∃ setting changed, Setting.ofKey key = .ok setting ∧
          settings.change setting written = .ok changed ∧
          (store.set key written scope).2 = store.keep changed) := by
  unfold set at rejected ⊢
  cases read : store.settings with
  | error failure => simp [read] at rejected
  | ok settings =>
      refine ⟨settings, rfl, ?_⟩
      cases named : Setting.ofKey key with
      | error rejection => exact .inl ⟨rfl, fun _ _ found => nomatch found⟩
      | ok setting =>
          cases taken : settings.change setting written with
          | error refused =>
              refine .inl ⟨by simp only [taken], fun other changed found => ?_⟩
              cases found
              simp [taken]
          | ok changed =>
              refine .inr ⟨setting, changed, rfl, taken, ?_⟩
              simp only [read, named, taken] at rejected ⊢
              cases checked : changed.validateBeside setting with
              | error failure => simp [checked] at rejected
              | ok invalid =>
                  cases invalid with
                  | some invalid => rfl
                  | none =>
                      -- a valid change is saved, and saving refuses nothing
                      simp only [checked, save] at rejected
                      split at rejected <;> simp at rejected

theorem files_of_rejected {store : Store} {key written : Text} {scope : Scope} {reason : Rejection}
    (rejected : (store.set key written scope).1 = .rejected reason) :
    (store.set key written scope).2.environment = store.environment ∧
      (store.set key written scope).2.user = store.user ∧
      (store.set key written scope).2.project = store.project := by
  obtain ⟨settings, _, ⟨left, _⟩ | ⟨_, _, _, _, left⟩⟩ := set_rejected_cases rejected <;>
    rw [left] <;> exact ⟨rfl, rfl, rfl⟩

theorem settings_of_rejected_iff {store : Store} {key written : Text} {scope : Scope}
    {reason : Rejection} (rejected : (store.set key written scope).1 = .rejected reason) :
    (store.set key written scope).2.settings = store.settings ↔
      store.KeepsSettings key written := by
  obtain ⟨settings, read, ⟨left, untaken⟩ | ⟨setting, changed, named, taken, left⟩⟩ :=
    set_rejected_cases rejected
  · have kept : store.KeepsSettings key written := by
      intro former setting changed same named taken
      rw [read] at same
      cases same
      exact absurd taken (untaken setting changed named)
    simp [left, read, kept]
  · rw [left, settings_keep, read]
    constructor
    · intro same former other result again found made
      rw [read] at again
      cases again
      rw [named] at found
      cases found
      rw [taken] at made
      cases made
      exact Except.ok.inj same
    · intro kept
      rw [kept settings setting changed read named taken]

/-- A refused change touches no file. It leaves the settings kept as they were exactly if it sets
what is set already as far as it is carried out, and exactly then no later requests can tell that it
was made, be it by a reply or by a file. -/
theorem rejected_change_traceless_iff (store : Store) (key written : Text) (scope : Scope)
    (reason : Rejection) (rejected : (store.set key written scope).1 = .rejected reason) :
    let after := (store.set key written scope).2
    (after.user = store.user ∧ after.project = store.project) ∧
      (after.settings = store.settings ↔ store.KeepsSettings key written) ∧
      ((∀ later, (after.serve later).2 = (store.serve later).2 ∧
          (after.serve later).1.user = (store.serve later).1.user ∧
          (after.serve later).1.project = (store.serve later).1.project) ↔
        store.KeepsSettings key written) := by
  intro after
  obtain ⟨environment, user, project⟩ := files_of_rejected rejected
  have memory := settings_of_rejected_iff rejected
  refine ⟨⟨user, project⟩, memory, ?_, ?_⟩
  · intro untold
    -- asking for the settings tells
    have replies : [Reply.settings after.settings] = [Reply.settings store.settings] :=
      (untold [.load]).1
    obtain ⟨same, -⟩ := List.cons.inj replies
    exact memory.mp (Reply.settings.inj same)
  · intro kept later
    have same : Alike after store := ⟨environment, user, project, memory.mpr kept⟩
    obtain ⟨replies, last⟩ := same.serve later
    exact ⟨replies, last.user, last.project⟩

/-- The format that is set already may be refused any number of times. -/
theorem rejected_format_again_traceless :
    let kept : Settings := { Settings.standard with format := .text "xml" }
    let store : Store := ⟨⟨[], []⟩, none, none, some kept⟩
    (store.set "display.format" "xml" .project).1 = .rejected (.invalid (.format "xml")) ∧
      store.KeepsSettings "display.format" "xml" ∧
      (store.set "display.format" "xml" .project).2.settings = store.settings := by
  intro settings store
  have rejected : (store.set "display.format" "xml" .project).1 =
      .rejected (.invalid (.format "xml")) := by decide +kernel
  have kept : store.KeepsSettings "display.format" "xml" := by
    rintro settings setting changed ⟨⟩ ⟨⟩ ⟨⟩
    rfl
  have same := (rejected_change_traceless_iff store _ _ _ _ rejected).2.1
  exact ⟨rejected, kept, same.mpr kept⟩

/-- A size of zero is refused, yet it is kept, and saved with the next change of the format. -/
theorem rejected_size_saved_later :
    let store := Store.new ⟨[], []⟩ none none
    let refused := store.set "parsing.max_file_size" "0" .project
    let spoiled : Settings := { Settings.standard with maxFileSize := 0, format := .text "json" }
    refused.1 = .rejected (.invalid (.fileSize "0")) ∧
      refused.2.settings ≠ store.settings ∧
      refused.2.set "display.format" "json" .project = refused.2.save spoiled .project := by
  intro store refused spoiled
  have zero : Value.display (.int 0) = some "0" := by decide +kernel
  have invalid : Settings.validateBeside { Settings.standard with maxFileSize := 0 } .maxFileSize =
      .ok (some (.fileSize "0")) := by
    simp only [Settings.validateBeside, Settings.validateParsing, Settings.shown, zero]
    rfl
  have kept : refused = (.rejected (.invalid (.fileSize "0")),
      store.keep { Settings.standard with maxFileSize := 0 }) :=
    set_of_invalid rfl rfl rfl invalid .project
  rw [kept]
  refine ⟨rfl, ?_, set_of_valid rfl rfl rfl rfl .project⟩
  intro same
  have size := congrArg (Except.map Settings.maxFileSize) same
  cases size

end SymbolPath.Store
