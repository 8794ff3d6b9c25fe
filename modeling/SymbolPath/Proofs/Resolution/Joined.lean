import Mathlib.Data.List.Infix
import SymbolPath.Proofs.Resolution.Untagged

/-!
Resolving a name that was joined to its container. If neither holds blanks or prototype segments,
nothing of the name is rewritten, the last separator is the one that joins the two, and so the path
is the name as it was given.
-/

namespace SymbolPath.Resolution

open SymbolPath.Path

/-- A name that can be joined to any container: one word of one segment, which does not complete a
prototype segment. -/
structure Joinable (name : Text) : Prop where
  bare : Bare name
  given : name ≠ []
  noBlank : ∀ c ∈ name, Text.isBlank c = false
  noPrototype : Text.startsWith "prototype" name = false

/-- No member of the path is taken for one that the current module exports. -/
def NotExported (module path : Text) : Prop :=
  module = [] ∨ (path ≠ "exports" ∧ Text.startsWith "exports." path = false)

/-- A path that resolution leaves as it is where a name begins with it. -/
structure Container (module path : Text) : Prop where
  noBlank : ∀ c ∈ path, Text.isBlank c = false
  noPrototype : ¬ HasPrototype path
  notExported : NotExported module path

theorem joinable_iff {name : Text} :
    Joinable name ↔ '"' ∉ name ∧ name.any isSeparator = false ∧ name ≠ [] ∧
      name.any Text.isBlank = false ∧ Text.startsWith "prototype" name = false := by
  rw [← forall_false_iff_any, ← forall_false_iff_any]
  constructor
  · rintro ⟨⟨noQuote, noSeparator⟩, given, noBlank, noPrototype⟩
    exact ⟨noQuote, noSeparator, given, noBlank, noPrototype⟩
  · rintro ⟨noQuote, noSeparator, given, noBlank, noPrototype⟩
    exact ⟨⟨noQuote, noSeparator⟩, given, noBlank, noPrototype⟩

instance (name : Text) : Decidable (Joinable name) :=
  decidable_of_iff _ joinable_iff.symm

instance (module path : Text) : Decidable (NotExported module path) :=
  inferInstanceAs (Decidable (_ ∨ _))

theorem container_iff {module path : Text} :
    Container module path ↔
      path.any Text.isBlank = false ∧ ¬ (".prototype" : Text) <:+: path ∧
        NotExported module path := by
  rw [← forall_false_iff_any]
  constructor
  · rintro ⟨noBlank, noPrototype, notExported⟩
    exact ⟨noBlank, noPrototype, notExported⟩
  · rintro ⟨noBlank, noPrototype, notExported⟩
    exact ⟨noBlank, noPrototype, notExported⟩

instance (module path : Text) : Decidable (Container module path) :=
  decidable_of_iff _ container_iff.symm

theorem not_startsWith_exports {path name : Text} {separator : Char}
    (separates : isSeparator separator = true)
    (other : Text.startsWith "exports." path = false) (plain : path = "exports" → separator ≠ '.') :
    Text.startsWith "exports." (path ++ separator :: name) = false := by
  rw [Bool.eq_false_iff]
  intro starts
  rcases exports_prefix_cases separates starts with inPath | ⟨isWord, isDot⟩
  · rw [other] at inPath
    cases inPath
  · exact plain isWord isDot

theorem ne_exports {path name : Text} {separator : Char} (separates : isSeparator separator = true) :
    path ++ separator :: name ≠ "exports" := by
  intro same
  have noSeparator : ("exports" : Text).any isSeparator = false := by decide
  have letter : separator ∈ ("exports" : Text) := same ▸ by simp
  exact List.any_eq_false.mp noSeparator separator letter separates

theorem Container.mark {module path : Text} (container : Container module path) {marker : Char}
    (isMarker : isScopeMarker marker = true) : Container module (path ++ [marker]) where
  noBlank := by
    intro c member
    rcases List.mem_append.mp member with inPath | last
    · exact container.noBlank c inPath
    · obtain rfl := List.mem_singleton.mp last
      rcases Bool.or_eq_true_iff.mp isMarker with hash | tilde
      · obtain rfl := eq_of_beq hash
        rfl
      · obtain rfl := eq_of_beq tilde
        rfl
  noPrototype := not_hasPrototype_append container.noPrototype (by simp [isSeparator, isMarker])
    (fun _ member => nomatch member) rfl
  notExported := by
    rcases container.notExported with none | ⟨plain, other⟩
    · exact .inl none
    · have separates : isSeparator marker = true := by simp [isSeparator, isMarker]
      exact .inr ⟨ne_exports separates,
        not_startsWith_exports separates other fun same => absurd same plain⟩

/-- Where a container and a name are joined stands a separator, which may be the container's own. -/
theorem join_eq_append {container : Text} (given : container ≠ []) (name : Text) :
    ∃ path separator, isSeparator separator = true ∧
      join container name = path ++ separator :: name ∧ path <+: container ∧
        (path = container ∨ separator ≠ '.') := by
  have notEmpty : container.isEmpty = false := by simpa using given
  by_cases marked : endsIn isScopeMarker container = true
  · obtain ⟨front, marker, rfl, isMarker⟩ := eq_append_of_endsIn marked
    refine ⟨front, marker, by simp [isSeparator, isMarker], join_marked isMarker front name,
      List.prefix_append _ _, .inr ?_⟩
    rintro rfl
    exact absurd isMarker (by decide)
  · refine ⟨container, '.', rfl, ?_, List.prefix_refl _, .inl rfl⟩
    simp [join, joiner, notEmpty, marked]

theorem expandExports_of_notExported {module path : Text} (notExported : NotExported module path) :
    expandExports module path = path := by
  rcases notExported with rfl | ⟨_, other⟩
  · exact expandExports_nil path
  · exact expandExports_of_not_startsWith other

theorem NotExported.join {module container : Text} (notExported : NotExported module container)
    (given : container ≠ []) (name : Text) : NotExported module (join container name) := by
  obtain ⟨path, separator, separates, split, inContainer, own⟩ := join_eq_append given name
  rcases notExported with none | ⟨plain, other⟩
  · exact .inl none
  · rw [split]
    refine .inr ⟨ne_exports separates, ?_⟩
    apply not_startsWith_exports separates
    · rw [Bool.eq_false_iff]
      intro starts
      obtain ⟨rest, begins⟩ := Text.startsWith_iff.mp starts
      obtain ⟨more, same⟩ := inContainer
      have further : Text.startsWith "exports." container = true :=
        Text.startsWith_iff.mpr ⟨rest ++ more, by rw [← same, begins, List.append_assoc]⟩
      rw [other] at further
      cases further
    · rintro isExports
      rcases own with rfl | notDot
      · exact absurd isExports plain
      · exact notDot

theorem fullName_of_container {module path : Text} (holds : Container module path) {doclet : Doclet}
    (named : doclet.name = path) : fullName module doclet = path := by
  rw [fullName, named, Text.firstWord_of_noBlank holds.noBlank,
    expandExports_of_notExported holds.notExported, foldPrototype_of_absent holds.noPrototype]

section Joined

variable {module container name : Text} (holds : Container module container)
  (given : container ≠ []) (key : Joinable name)
include holds given key

theorem noBlank_join : ∀ c ∈ join container name, Text.isBlank c = false := by
  intro c member
  have notEmpty : container.isEmpty = false := by simpa using given
  rw [join, notEmpty, if_neg Bool.false_ne_true, joiner] at member
  rcases List.mem_append.mp member with front | last
  · rcases List.mem_append.mp front with inPath | between
    · exact holds.noBlank c inPath
    · split at between
      · cases between
      · obtain rfl := List.mem_singleton.mp between
        rfl
  · exact key.noBlank c last

theorem not_hasPrototype_join : ¬ HasPrototype (join container name) := by
  obtain ⟨path, separator, separates, split, inContainer, _⟩ := join_eq_append given name
  rw [split]
  apply not_hasPrototype_append ?_ separates key.bare.noSeparator key.noPrototype
  intro found
  exact holds.noPrototype (found.trans inContainer.isInfix)

theorem Container.join : Container module (join container name) where
  noBlank := noBlank_join holds given key
  noPrototype := not_hasPrototype_join holds given key
  notExported := holds.notExported.join given name

omit holds in
theorem join_ne_nil : join container name ≠ [] := by
  have notEmpty : container.isEmpty = false := by simpa using given
  rw [join, notEmpty, if_neg Bool.false_ne_true]
  exact List.append_ne_nil_of_right_ne_nil _ key.given

section Resolve

variable {kinds : KindTable} {doclet : Doclet} (named : doclet.name = join container name)
  (untagged : doclet.memberof = []) (notFile : doclet.kind ≠ "file")
  (noSpace : kinds.isDocspace doclet.kind = false)
include named untagged notFile noSpace

/-- A name that begins with its container keeps the full name, which is the same. -/
theorem resolve_join_eq :
    resolve kinds module doclet =
      ⟨storeUnlessEmpty (storeUnlessEmpty (stored doclet container) "name" name) "path"
        (join container name), join container name⟩ := by
  have unfolded := resolve_untagged module untagged notFile noSpace
  dsimp only at unfolded
  rw [fullName_of_container (holds.join given key) named, split_join given key.bare,
    ite_self] at unfolded
  exact unfolded

/-- A name that was joined to its container is the path, and its last segment the short name. -/
theorem resolve_join :
    let resolved := resolve kinds module doclet
    resolved.path = join container name ∧ resolved.doclet.path = join container name ∧
      resolved.doclet.name = name := by
  intro resolved
  have whole : resolved = _ := resolve_join_eq holds given key named untagged notFile noSpace
  refine ⟨congrArg Resolved.path whole, ?_, ?_⟩
  · rw [whole]
    exact value_storeUnlessEmpty _ (join_ne_nil given key)
  · rw [whole]
    exact name_storeUnlessEmpty _ key.given _

theorem access_resolve_join (inner : marksInner container = true) :
    (resolve kinds module doclet).doclet.access = "inner" := by
  rw [resolve_join_eq holds given key named untagged notFile noSpace]
  exact (value_storeUnlessEmpty_other _ _ (by decide)).trans
    ((value_storeUnlessEmpty_other _ _ (by decide)).trans (access_stored inner))

end Resolve

end Joined

end SymbolPath.Resolution
