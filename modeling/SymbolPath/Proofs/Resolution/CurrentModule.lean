import SymbolPath.Proofs.Resolution.Placement

/-!
All that resolution asks of the current module is what to write for `exports` where a name begins
with it. A member of `exports` therefore resolves as the member of the module that it names, and any
other name as it does without a module.
-/

namespace SymbolPath.Resolution

def SameButName (first second : Doclet) : Prop :=
  ∀ title : Text, title ≠ "name" → first.values title = second.values title

namespace SameButName

theorem set_name (doclet : Doclet) (name : Text) : SameButName doclet (doclet.set "name" name) :=
  fun _ other => (doclet.values_set_other name other.symm).symm

variable {first second : Doclet} (same : SameButName first second)
include same

theorem value {title : Text} (other : title ≠ "name") : first.value title = second.value title := by
  rw [Doclet.value_eq_head, Doclet.value_eq_head, same title other]

theorem memberof : first.memberof = second.memberof :=
  same.value (by decide)

theorem kind : first.kind = second.kind :=
  same.value (by decide)

theorem set (title value : Text) :
    SameButName (first.set title value) (second.set title value) := by
  intro asked other
  by_cases written : title = asked
  · subst written
    rw [Doclet.values_set_same, Doclet.values_set_same]
  · rw [Doclet.values_set_other _ _ written, Doclet.values_set_other _ _ written]
    exact same asked other

theorem storeUnlessEmpty (title value : Text) :
    SameButName (storeUnlessEmpty first title value) (storeUnlessEmpty second title value) := by
  unfold Resolution.storeUnlessEmpty
  by_cases empty : value.isEmpty = true
  · rw [if_pos empty, if_pos empty]
    exact same
  · rw [if_neg empty, if_neg empty]
    exact same.set title value

theorem stored (container : Text) :
    SameButName (stored first container) (stored second container) := by
  unfold Resolution.stored storeContainer
  split
  · exact same
  · split
    · exact (same.set _ _).set _ _
    · exact same.set _ _

theorem place (full : Text) :
    (place first full).container = (place second full).container ∧
      (place first full).short = (place second full).short ∧
      SameButName (place first full).doclet (place second full).doclet := by
  by_cases tagged : first.memberof = []
  · have alsoTagged : second.memberof = [] := same.memberof ▸ tagged
    by_cases isFile : first.kind = "file"
    · rw [place_file tagged isFile, place_file alsoTagged (same.kind ▸ isFile)]
      exact ⟨rfl, rfl, same⟩
    · rw [place_untagged tagged isFile, place_untagged alsoTagged (same.kind ▸ isFile)]
      exact ⟨rfl, rfl, same.stored _⟩
  · rw [place_tagged tagged, place_tagged (same.memberof ▸ tagged), same.memberof]
    exact ⟨rfl, rfl, same⟩

theorem resolve (kinds : KindTable) {module other : Text}
    (full : fullName module first = fullName other second) :
    (resolve kinds module first).path = (resolve kinds other second).path ∧
      SameButName (resolve kinds module first).doclet (resolve kinds other second).doclet := by
  obtain ⟨container, short, doclets⟩ := same.place (fullName other second)
  rw [resolve_eq, resolve_eq, full, same.kind, container, short]
  exact ⟨rfl, (doclets.storeUnlessEmpty _ _).storeUnlessEmpty _ _⟩

end SameButName

theorem resolve_exports (kinds : KindTable) {module member : Text} {doclet : Doclet}
    (given : module ≠ []) (noBlank : ∀ c ∈ module, Text.isBlank c = false) (named : member ≠ [])
    (exports : Text.firstWord doclet.name = ("exports." : Text) ++ member) :
    let expanded := doclet.set "name" (module ++ '.' :: member)
    (resolve kinds module doclet).path = (resolve kinds [] expanded).path ∧
      SameButName (resolve kinds module doclet).doclet (resolve kinds [] expanded).doclet := by
  intro expanded
  apply (SameButName.set_name doclet _).resolve kinds
  have plain : ∀ c ∈ module ++ '.' :: member, Text.isBlank c = false := by
    intro c among
    rcases List.mem_append.mp among with inModule | behind
    · exact noBlank c inModule
    · rcases List.mem_cons.mp behind with rfl | inMember
      · rfl
      · have inWord : c ∈ Text.firstWord doclet.name := exports ▸ List.mem_append_right _ inMember
        exact Text.noBlank_firstWord inWord
  have renamed : expanded.name = module ++ '.' :: member := Doclet.value_set_same _ _ _
  rw [fullName, fullName, exports, expandExports_member given named, renamed,
    Text.firstWord_of_noBlank plain, expandExports_nil]

theorem expandExports_of_other {name : Text}
    (other : ∀ member, member ≠ [] → name ≠ ("exports." : Text) ++ member) (module : Text) :
    expandExports module name = name := by
  rcases expandExports_cases module name with same | ⟨member, word, _⟩
  · exact same
  · by_cases none : member = []
    · rw [word, none]
      rfl
    · exact absurd word (other member none)

theorem resolve_of_other (kinds : KindTable) {doclet : Doclet}
    (other : ∀ member, member ≠ [] → Text.firstWord doclet.name ≠ ("exports." : Text) ++ member)
    (module another : Text) :
    resolve kinds module doclet = resolve kinds another doclet := by
  have full : fullName module doclet = fullName another doclet := by
    rw [fullName, fullName, expandExports_of_other other, expandExports_of_other other]
  rw [resolve_eq, resolve_eq, full]

end SymbolPath.Resolution
