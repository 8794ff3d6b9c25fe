import SymbolPath.Proofs.Resolution.Placement

/-!
Resolving a doclet without a name. No word of a name vanishes where modules and prototypes are
written out, so a path is empty only for want of a word. But want of a word does not make it empty:
the container that was tagged and the scheme of the kind stand in the path by themselves, joined as
if a name were to follow.
-/

namespace SymbolPath.Resolution

open SymbolPath.Path

def Nameless (doclet : Doclet) : Prop :=
  ∀ c ∈ doclet.name, Text.isBlank c = true

instance (doclet : Doclet) : Decidable (Nameless doclet) :=
  decidable_of_iff (doclet.name.all Text.isBlank = true) List.all_eq_true

theorem expandExports_eq_nil_iff {module name : Text} :
    expandExports module name = [] ↔ name = [] := by
  rcases expandExports_cases module name with same | ⟨member, word, same⟩
  · rw [same]
  · rw [same, word]
    simp

theorem foldPrototype_eq_nil_iff {path : Text} : foldPrototype path = [] ↔ path = [] := by
  cases path with
  | nil => simp [foldPrototype, foldPrototypeFrom]
  | cons c rest =>
    rw [foldPrototype, foldPrototypeFrom]
    split <;> simp

theorem fullName_eq_nil_iff {module : Text} {doclet : Doclet} :
    fullName module doclet = [] ↔ Nameless doclet := by
  rw [fullName, foldPrototype_eq_nil_iff, expandExports_eq_nil_iff, Text.firstWord_eq_nil_iff]
  rfl

/-- What is in a path without a name: the container, what joins names to it, and the scheme. -/
def namelessPath (kinds : KindTable) (doclet : Doclet) : Text :=
  join doclet.memberof (schemeOf kinds doclet.kind)

theorem namelessPath_eq_nil_iff {kinds : KindTable} {doclet : Doclet} :
    namelessPath kinds doclet = [] ↔
      doclet.memberof = [] ∧ kinds.isDocspace doclet.kind = false := by
  unfold namelessPath
  by_cases untagged : doclet.memberof = []
  · rw [untagged, show join [] (schemeOf kinds doclet.kind) = schemeOf kinds doclet.kind from rfl,
      schemeOf_eq_nil_iff]
    simp
  · rw [join_eq untagged]
    simp [untagged]

theorem place_nil (doclet : Doclet) : place doclet [] = ⟨doclet, doclet.memberof, []⟩ := by
  by_cases tagged : doclet.memberof = []
  · by_cases isFile : doclet.kind = "file"
    · rw [place_file tagged isFile, tagged]
    · rw [place_untagged tagged isFile, tagged]
      rfl
  · rw [place_tagged tagged, shortUnder]
    simp [Path.split, cut?, marks, marksFrom, cutMarks]

theorem unschemed_nil (kinds : KindTable) (kind : Text) : unschemed kinds kind [] = [] := by
  unfold unschemed
  split <;> rfl

theorem compose_nameless (container scheme : Text) :
    compose [] container scheme [] = join container scheme := by
  by_cases given : container = []
  · subst given
    cases scheme <;> simp [compose_nil, uncontained, join]
  · have other : Text.startsWith container [] = false := by
      obtain ⟨c, rest, rfl⟩ := List.exists_cons_of_ne_nil given
      rfl
    rw [compose_container given, other, if_neg Bool.false_ne_true, join_eq given]
    simp

/-- A doclet without a name resolves to its container and scheme, and nothing but the path is
written. -/
theorem resolve_nameless (kinds : KindTable) (module : Text) {doclet : Doclet}
    (nameless : Nameless doclet) :
    resolve kinds module doclet =
      ⟨storeUnlessEmpty doclet "path" (namelessPath kinds doclet), namelessPath kinds doclet⟩ := by
  have unfolded := resolve_eq kinds module doclet
  dsimp only at unfolded
  rw [fullName_eq_nil_iff.mpr nameless, place_nil] at unfolded
  dsimp only at unfolded
  rw [unschemed_nil, compose_nameless] at unfolded
  exact unfolded

theorem uncontained_eq_nil {full scheme short : Text} (empty : uncontained full scheme short = []) :
    full = [] := by
  cases scheme with
  | nil => exact empty
  | cons c rest => cases empty

theorem compose_eq_nil {full container scheme short : Text}
    (empty : compose full container scheme short = []) : full = [] := by
  by_cases given : container = []
  · rw [given, compose_nil] at empty
    exact uncontained_eq_nil empty
  · rw [compose_container given] at empty
    split at empty
    · exact uncontained_eq_nil empty
    · simp [given] at empty

/-- A doclet resolves to no path exactly if it has no word for a name, no tagged container and a
kind without a scheme. -/
theorem path_eq_nil_iff (kinds : KindTable) (module : Text) (doclet : Doclet) :
    (resolve kinds module doclet).path = [] ↔
      Nameless doclet ∧ doclet.memberof = [] ∧ kinds.isDocspace doclet.kind = false := by
  constructor
  · intro empty
    have nameless : Nameless doclet := fullName_eq_nil_iff.mp (compose_eq_nil empty)
    rw [resolve_nameless kinds module nameless] at empty
    exact ⟨nameless, namelessPath_eq_nil_iff.mp empty⟩
  · rintro ⟨nameless, nothing⟩
    rw [resolve_nameless kinds module nameless]
    exact namelessPath_eq_nil_iff.mpr nothing

theorem resolve_of_no_path {kinds : KindTable} {module : Text} {doclet : Doclet}
    (empty : (resolve kinds module doclet).path = []) :
    (resolve kinds module doclet).doclet = doclet := by
  obtain ⟨nameless, nothing⟩ := (path_eq_nil_iff kinds module doclet).mp empty
  rw [resolve_nameless kinds module nameless, namelessPath_eq_nil_iff.mpr nothing]
  rfl

end SymbolPath.Resolution
