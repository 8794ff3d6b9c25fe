import SymbolPath.Proofs.Settings.Saving

/-!
What is shown of a setting sets it again. After a change of the project that is done, the file alone
gives the settings that are kept, and making the same change from what is shown leaves everything as
it is.
-/

namespace SymbolPath

namespace Settings

/-! Lists written with commas. -/

theorem clean_of_splitList {written item : Text} (member : item ∈ splitList written) :
    Text.Trimmed item ∧ ',' ∉ item ∧ item ≠ [] := by
  obtain ⟨inParts, filled⟩ := List.mem_filter.mp member
  obtain ⟨part, inSplit, rfl⟩ := List.mem_map.mp inParts
  refine ⟨Text.trimmed_trim part, fun comma => ?_, by simpa using filled⟩
  exact Text.not_mem_of_mem_splitOn inSplit (Text.mem_of_mem_trim comma)

theorem splitList_joinWith {items : List Text}
    (clean : ∀ item ∈ items, Text.Trimmed item ∧ ',' ∉ item ∧ item ≠ []) :
    splitList (Text.joinWith "," items) = items := by
  cases items with
  | nil => rfl
  | cons item rest =>
      have parts : Text.splitOn ',' (Text.joinWith "," (item :: rest)) = item :: rest :=
        Text.splitOn_joinWith (by simp) fun part member => (clean part member).2.1
      have trimmed : (item :: rest).map Text.trim = item :: rest :=
        (List.map_congr_left fun part member => (clean part member).1.trim_eq).trans
          (List.map_id _)
      rw [splitList, parts, trimmed, List.filter_eq_self]
      intro part member
      simp [(clean part member).2.2]

theorem listOf_shown (written : Text) :
    listOf (Text.joinWith "," (splitList written)) = listOf written := by
  rw [listOf, listOf, splitList_joinWith fun _ => clean_of_splitList]

theorem texts?_map_text (texts : List Text) : Value.texts? (texts.map .text) = some texts := by
  induction texts with
  | nil => rfl
  | cons t rest ih =>
      rw [Value.texts?] at ih ⊢
      simp [Value.lettering?, ih]

theorem join_listOf (between written : Text) :
    join between (listOf written) = .ok (Text.joinWith between (splitList written)) := by
  rw [join, listOf, texts?_map_text]

theorem positive_of_valid {settings : Settings}
    (valid : settings.validateBeside .maxFileSize = .ok none) : 0 < settings.maxFileSize := by
  apply Int.not_le.mp
  intro low
  rw [validateBeside, validateParsing, if_pos low] at valid
  generalize shown (.int settings.maxFileSize) = text at valid
  cases text <;> cases valid

/-- What is shown of a setting that was taken over is a text, and gives the setting again. -/
theorem change_shown {settings changed : Settings} {setting : Setting} {written : Text}
    (taken : settings.change setting written = .ok changed)
    (valid : changed.validateBeside setting = .ok none) :
    ∃ shown, changed.get setting = .ok (.text shown) ∧ changed.change setting shown = .ok changed := by
  cases setting with
  | docspaceKinds =>
      cases taken
      refine ⟨Text.joinWith "," (splitList written), ?_, ?_⟩
      · rw [get, join_listOf]
        rfl
      · rw [change, listOf_shown]
  | extensions =>
      cases taken
      refine ⟨Text.joinWith "," (splitList written), ?_, ?_⟩
      · rw [get, join_listOf]
        rfl
      · rw [change, listOf_shown]
  | format =>
      cases taken
      exact ⟨written, rfl, rfl⟩
  | maxFileSize =>
      obtain ⟨size, known, rfl⟩ := change_size taken
      obtain ⟨text, isText⟩ := Whole.text?_of_read known
      obtain ⟨filled, digits⟩ := Whole.digits_of_text? (positive_of_valid valid) isText
      refine ⟨text, ?_, ?_⟩
      · simp only [get, shown, Value.display, Value.bare, Value.nested, isText]
        rfl
      · simp only [change, filled, digits, Whole.read_of_text? isText]
        rfl

end Settings

namespace Store

/-- After a change of the project, its file alone decides: with any environment and any file of the
user it gives the settings in memory, and setting what is shown changes nothing. -/
theorem project_save_authoritative {store : Store} {settings : Settings} {key written : Text}
    (read : store.settings = .ok settings) (typed : settings.WellTyped)
    (done : (store.set key written .project).1 = .done)
    (readsBack : ∀ changed, (store.set key written .project).2.settings = .ok changed →
      changed.ReadsBack) :
    let after := (store.set key written .project).2
    ∃ changed, after.settings = .ok changed ∧
      (∀ environment user layer, Settings.fileLayer .userFile user = .ok layer →
        (Store.new environment user after.project).settings = .ok changed) ∧
      ∃ shown, after.get key = .ok (.text shown) ∧
        after.set key shown .project = (.done, after) := by
  intro after
  obtain ⟨setting, changed, text, named, taken, valid, toWrite, left, kept, saved⟩ :=
    set_done_saved read done readsBack
  obtain ⟨shown, isShown, shownTaken⟩ := Settings.change_shown taken valid
  refine ⟨changed, kept, ?_, shown, ?_, ?_⟩
  · intro environment user layer readUser
    exact Settings.load_byKey (typed.change taken) (saved _) readUser environment
  · simp only [get, after, kept, named, isShown, bind, Except.bind]
  · have isAfter : after = (store.keep changed).putFile .project text := left
    have isKept : after.settings = .ok changed := kept
    rw [set_of_valid isKept named shownTaken valid, save, toWrite, isAfter]
    rfl

/-- A size is set; the file of the project then overrules the environment. -/
theorem project_save_authoritative_small :
    let store := Store.new ⟨[], []⟩ none none
    let after := (store.set "parsing.max_file_size" "5" .project).2
    store.settings = .ok Settings.standard ∧ Settings.standard.WellTyped ∧
      (store.set "parsing.max_file_size" "5" .project).1 = .done ∧
      (Settings.small "table").ReadsBack ∧ after.settings = .ok (Settings.small "table") ∧
      (Store.new ⟨"page", "json"⟩ none after.project).settings = .ok (Settings.small "table") ∧
      ∃ shown, after.get "parsing.max_file_size" = .ok (.text shown) ∧
        after.set "parsing.max_file_size" shown .project = (.done, after) := by
  intro store after
  have read : store.settings = .ok Settings.standard := rfl
  have done : (store.set "parsing.max_file_size" "5" .project).1 = .done := by
    rw [set_small]
  have kept : after.settings = .ok (Settings.small "table") := by
    rw [show after = _ from congrArg Prod.snd (set_small .project)]
    rfl
  have back : (Settings.small "table").ReadsBack := Settings.small_readsBack (by decide)
  have readsBack : ∀ other, after.settings = .ok other → other.ReadsBack := by
    intro other same
    obtain rfl := Except.ok.inj (kept.symm.trans same)
    exact back
  obtain ⟨other, same, alone, again⟩ :=
    project_save_authoritative read Settings.standard_wellTyped done readsBack
  obtain rfl := Except.ok.inj (kept.symm.trans same)
  exact ⟨read, Settings.standard_wellTyped, done, back, kept, alone ⟨"page", "json"⟩ none [] rfl,
    again⟩

end Store
end SymbolPath
