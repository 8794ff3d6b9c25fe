import SymbolPath.Proofs.Comment.Rendering
import SymbolPath.Proofs.Resolution.BareName
import SymbolPath.Settings

/-!
The names of kinds that the settings accept, and the schemes that resolution recognizes. Settings of
valid names give a table in which exactly these kinds have a space of their own, so the paths of
their symbols carry the name as a scheme. A name that already carries it is read as one only if all
of the kind is made of scheme characters; letters beyond ASCII and digits are valid in the name of a
kind but not among those.
-/

namespace SymbolPath.Settings

open Resolution SymbolPath.Path

theorem isTitleChar_of_isKindName {kind : Text} (valid : isKindName kind = true) :
    ∀ c ∈ kind, Comment.isTitleChar c = true := by
  obtain ⟨_, letters⟩ := Bool.and_eq_true_iff.mp valid
  intro c member
  by_cases mark : c = '-' ∨ c = '_'
  · rcases mark with rfl | rfl <;> rfl
  · rw [not_or] at mark
    have kept : c ∈ kind.filter fun c => c != '-' && c != '_' := by
      simp [List.mem_filter, member, mark]
    have letter := List.all_eq_true.mp letters c kept
    simp [Comment.isTitleChar, Text.isWordChar, letter]

theorem ne_nil_of_isKindName {kind : Text} (valid : isKindName kind = true) : kind ≠ [] := by
  rintro rfl
  cases valid

theorem not_isSeparator_of_isTitleChar {c : Char} (inTitle : Comment.isTitleChar c = true) :
    isSeparator c = false := by
  rw [Bool.eq_false_iff]
  intro separates
  simp only [isSeparator, isScopeMarker, Bool.or_eq_true, beq_iff_eq] at separates
  rcases separates with rfl | rfl | rfl <;> exact absurd inTitle (by decide)

theorem noBlank_of_isKindName {kind : Text} (valid : isKindName kind = true) :
    ∀ c ∈ kind, Text.isBlank c = false := by
  intro c member
  rw [Bool.eq_false_iff]
  intro blank
  have inTitle := isTitleChar_of_isKindName valid c member
  rw [Comment.not_isTitleChar_of_isBlank blank] at inTitle
  cases inTitle

theorem not_mem_of_isKindName {kind : Text} (valid : isKindName kind = true) {c : Char}
    (other : Comment.isTitleChar c = false) : c ∉ kind := by
  intro member
  rw [isTitleChar_of_isKindName valid c member] at other
  cases other

theorem validateKinds_texts {kinds : List Text}
    (valid : validateKinds (kinds.map .text) = .ok none) : ∀ kind ∈ kinds, isKindName kind = true := by
  induction kinds with
  | nil => simp
  | cons first rest ih =>
    have others : isKindName first = true ∧ validateKinds (rest.map .text) = .ok none := by
      by_cases empty : first = []
      · subst empty
        cases valid
      · cases accepted : isKindName first with
        | true => simpa [validateKinds, Value.isBlank, Value.bare, empty, accepted] using valid
        | false => simp [validateKinds, Value.isBlank, Value.bare, empty, accepted] at valid
    intro kind member
    rcases List.mem_cons.mp member with rfl | later
    · exact others.1
    · exact ih others.2 kind later

theorem distinctKinds_texts (seen kinds : List Text) :
    ∃ titles : List Text,
      distinctKinds (seen.map .text) (kinds.map .text) = .ok (titles.map .text) ∧
        ∀ kind, kind ∈ titles ↔ kind ∈ seen ∨ kind ∈ kinds := by
  induction kinds generalizing seen with
  | nil => exact ⟨seen, rfl, by simp⟩
  | cons first rest ih =>
    have known : (seen.map Value.text).any (Value.sameKey (.text first)) = seen.contains first := by
      have same : Value.sameKey (.text first) ∘ Value.text = (first == ·) :=
        funext (Mapping.sameKey_text first)
      rw [List.any_map, same, List.contains_eq_any_beq]
    simp only [List.map_cons, distinctKinds, Value.isKey, known]
    by_cases among : first ∈ seen
    · obtain ⟨titles, made, members⟩ := ih seen
      refine ⟨titles, by simpa [among] using made, fun kind => ?_⟩
      rw [members, List.mem_cons]
      constructor
      · exact fun given => given.imp id .inr
      · rintro (before | rfl | later)
        · exact .inl before
        · exact .inl among
        · exact .inr later
    · obtain ⟨titles, made, members⟩ := ih (seen ++ [first])
      refine ⟨titles, by simpa [among] using made, fun kind => ?_⟩
      rw [members]
      simp [or_assoc]

theorem kindTable_texts {settings : Settings} {kinds : List Text}
    (listed : settings.docspaceKinds = kinds.map .text) :
    ∃ table, settings.kindTable = .ok table ∧
      ∀ kind, table.isDocspace kind = true ↔ kind ∈ kinds := by
  obtain ⟨titles, made, members⟩ := distinctKinds_texts [] kinds
  have texts : (titles.map Value.text).filterMap Value.text? = titles := by
    simp [List.filterMap_map, Function.comp_def, Value.text?]
  refine ⟨KindTable.ofDocspaces titles, ?_, fun kind => ?_⟩
  · rw [kindTable, listed]
    rw [List.map_nil] at made
    rw [made]
    exact congrArg (fun titles => Except.ok (KindTable.ofDocspaces titles)) texts
  · rw [KindTable.isDocspace_ofDocspaces, members]
    simp

section Written

variable {kind rest : Text} (valid : isKindName kind = true) (bare : Bare rest)
include valid bare

theorem bare_of_written : Bare (kind ++ ':' :: rest) where
  noQuote := by
    have notIn := not_mem_of_isKindName valid (c := '"') (by decide)
    simp [notIn, bare.noQuote]
  noSeparator := by
    intro c member
    rcases List.mem_append.mp member with inKind | behind
    · exact not_isSeparator_of_isTitleChar (isTitleChar_of_isKindName valid c inKind)
    · rcases List.mem_cons.mp behind with rfl | inRest
      · rfl
      · exact bare.noSeparator c inRest

theorem fullName_of_written (noBlank : ∀ c ∈ rest, Text.isBlank c = false) (module : Text)
    {doclet : Doclet} (named : doclet.name = kind ++ ':' :: rest) :
    fullName module doclet = kind ++ ':' :: rest := by
  apply fullName_of_key (bare_of_written valid bare).noSeparator module _ named
  rw [named]
  intro c member
  rcases List.mem_append.mp member with inKind | behind
  · exact noBlank_of_isKindName valid c inKind
  · rcases List.mem_cons.mp behind with rfl | inRest
    · rfl
    · exact noBlank c inRest

end Written

/-- A scheme that a name was written with stays single in the path exactly if the kind is made of
scheme characters. If not, the name keeps what was written and the path has it twice. -/
theorem written_scheme_kept_iff {settings : Settings} {kinds : List Text}
    (listed : settings.docspaceKinds = kinds.map .text)
    (valid : settings.validateResolver = .ok none) :
    ∃ table, settings.kindTable = .ok table ∧
      ∀ (module : Text) {doclet : Doclet} {rest : Text}, doclet.kind ∈ kinds →
        doclet.memberof = [] → rest ≠ [] → Bare rest → (∀ c ∈ rest, Text.isBlank c = false) →
        doclet.name = doclet.kind ++ ':' :: rest →
        let written := doclet.kind ++ ':' :: rest
        let resolved := resolve table module doclet
        (resolved.path = written ∧ resolved.doclet.name = rest ↔
            doclet.kind.all isSchemeChar = true) ∧
          (doclet.kind.all isSchemeChar = false →
            resolved.path = doclet.kind ++ ':' :: written ∧ resolved.doclet.name = written) := by
  obtain ⟨table, made, docspaces⟩ := kindTable_texts listed
  refine ⟨table, made, ?_⟩
  intro module doclet rest isKind untagged given bare noBlank named written resolved
  have accepted : isKindName doclet.kind = true := by
    rw [validateResolver, listed] at valid
    exact validateKinds_texts valid doclet.kind isKind
  have ownSpace : table.isDocspace doclet.kind = true := (docspaces doclet.kind).mpr isKind
  have full : fullName module doclet = written :=
    fullName_of_written accepted bare noBlank module named
  have whole := resolve_bare_untagged table module untagged
    (full ▸ bare_of_written accepted bare)
  have isScheme : schemeOf table doclet.kind = doclet.kind ++ [':'] := if_pos ownSpace
  have isShort : unschemed table doclet.kind written = stripScheme written := if_pos ownSpace
  dsimp only at whole
  rw [full, isScheme, isShort] at whole
  have path : resolved.path = doclet.kind ++ ':' :: stripScheme written := by
    rw [show resolved = _ from whole]
    simp
  have short : resolved.doclet.name = stripScheme written := by
    have some : stripScheme written ≠ [] := stripScheme_ne_nil (by simp [written])
    rw [show resolved = _ from whole]
    exact name_storeUnlessEmpty _ some _
  cases letters : doclet.kind.all isSchemeChar with
  | true =>
    have stripped : stripScheme written = rest :=
      stripScheme_of_scheme (ne_nil_of_isKindName accepted) letters given noBlank
    rw [path, short, stripped]
    simp [written]
  | false =>
    have noColon := not_mem_of_isKindName accepted (c := ':') (by decide)
    have kept : stripScheme written = written := stripScheme_of_other noColon letters rest
    rw [path, short, kept]
    refine ⟨?_, fun _ => ⟨rfl, rfl⟩⟩
    -- the name would be shorter than what was written
    have longer : written ≠ rest := by
      intro same
      have lengths := congrArg List.length same
      simp only [written, List.length_append, List.length_cons] at lengths
      omega
    simp [longer]

/-- A kind with a hyphen, among others that settings name. -/
theorem written_scheme_kept_hyphen :
    let kinds : List Text := [("my-event" : Text), ("event2" : Text)]
    let settings : Settings := { standard with docspaceKinds := kinds.map .text }
    let doclet : Doclet := ⟨[⟨"name", "my-event:ready"⟩, ⟨"isa", "my-event"⟩], 0⟩
    settings.validateResolver = .ok none ∧ doclet.kind ∈ kinds ∧ doclet.memberof = [] ∧
      Bare "ready" ∧ doclet.name = doclet.kind ++ ':' :: ("ready" : Text) ∧
      ∃ table, settings.kindTable = .ok table ∧
        (resolve table [] doclet).path = "my-event:ready" ∧
        (resolve table [] doclet).doclet.name = "ready" := by
  intro kinds settings doclet
  have valid : settings.validateResolver = .ok none := rfl
  have isKind : doclet.kind ∈ kinds := by decide +kernel
  have untagged : doclet.memberof = [] := by decide +kernel
  have bare : Bare "ready" := ⟨by decide, forall_false_iff_any.mpr (by decide)⟩
  have named : doclet.name = doclet.kind ++ ':' :: ("ready" : Text) := by decide +kernel
  have listed : settings.docspaceKinds = kinds.map .text := rfl
  obtain ⟨table, made, keeps⟩ := written_scheme_kept_iff listed valid
  have kept := keeps [] isKind untagged (by decide) bare (forall_false_iff_any.mpr rfl) named
  obtain ⟨path, name⟩ := kept.1.mpr (by decide +kernel)
  exact ⟨valid, isKind, untagged, bare, named, table, made, path.trans (by decide +kernel), name⟩

/-- A kind with a digit is valid, and its scheme is doubled. -/
theorem written_scheme_doubled :
    let settings : Settings := { standard with docspaceKinds := [.text "event2"] }
    let table := KindTable.ofDocspaces [("event2" : Text)]
    let doclet : Doclet := ⟨[⟨"name", "event2:ready"⟩, ⟨"isa", "event2"⟩], 0⟩
    settings.validateResolver = .ok none ∧ settings.kindTable = .ok table ∧
      doclet.kind = "event2" ∧ doclet.memberof = [] ∧
      (resolve table [] doclet).path = "event2:event2:ready" ∧
      (resolve table [] doclet).path ≠ ("event2:ready" : Text) ∧
      (resolve table [] doclet).doclet.name = "event2:ready" := by
  intro settings table doclet
  exact ⟨rfl, rfl, by decide +kernel⟩

end SymbolPath.Settings
