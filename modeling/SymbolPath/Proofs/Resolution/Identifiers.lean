import SymbolPath.Proofs.Resolution.BareName
import SymbolPath.Proofs.Resolution.Joined

/-!
Resolving identifiers. Nothing of an identifier is rewritten, and no scheme is taken off it. Alone
it is the short name and, behind the scheme of its kind, the path. Behind the path of a class and a
hash it is the short name again: the hash keeps the two from making up a prototype segment, and the
identifier from repeating its container.
-/

namespace SymbolPath.Resolution

open SymbolPath.Path

/-- One word without separators, quotes and colons. -/
structure Identifier (name : Text) : Prop where
  bare : Bare name
  given : name ≠ []
  noBlank : ∀ c ∈ name, Text.isBlank c = false
  noColon : ':' ∉ name

theorem unschemed_of_identifier {name : Text} (identifier : Identifier name) (kinds : KindTable)
    (kind : Text) : unschemed kinds kind name = name := by
  rw [unschemed, stripScheme_of_noColon identifier.noColon, ite_self]

theorem Container.hash {module path : Text} (holds : Container module path) {name : Text}
    (identifier : Identifier name) : Container module (path ++ '#' :: name) where
  noBlank := by
    intro c member
    rcases List.mem_append.mp member with inPath | behind
    · exact holds.noBlank c inPath
    · rcases List.mem_cons.mp behind with rfl | inName
      · rfl
      · exact identifier.noBlank c inName
  noPrototype := by
    rw [hasPrototype_append_marker_iff rfl]
    exact not_or_intro holds.noPrototype
      (not_hasPrototype_of_noSeparator identifier.bare.noSeparator)
  notExported := by
    have marked : isScopeMarker '#' = true := rfl
    rw [← join_marked marked]
    exact (holds.mark marked).notExported.join (by simp) name

section Resolve

variable {kinds : KindTable} {module name : Text} (identifier : Identifier name) {doclet : Doclet}
  (untagged : doclet.memberof = [])
include identifier untagged

theorem resolve_identifier (named : doclet.name = name) :
    (resolve kinds module doclet).path = schemeOf kinds doclet.kind ++ name ∧
      (resolve kinds module doclet).doclet.name = name := by
  have noBlank : ∀ c ∈ doclet.name, Text.isBlank c = false := named ▸ identifier.noBlank
  have full : fullName module doclet = name :=
    fullName_of_key identifier.bare.noSeparator module noBlank named
  have unfolded := resolve_bare_untagged kinds module untagged (full ▸ identifier.bare)
  dsimp only at unfolded
  rw [full, unschemed_of_identifier identifier] at unfolded
  rw [unfolded]
  exact ⟨rfl, name_storeUnlessEmpty _ identifier.given _⟩

theorem resolve_instance {path : Text} (holds : Container module path)
    (notFile : doclet.kind ≠ "file") (named : doclet.name = path ++ '#' :: name) :
    (resolve kinds module doclet).path = path ++ '#' :: (schemeOf kinds doclet.kind ++ name) ∧
      (resolve kinds module doclet).doclet.name = name := by
  have full : fullName module doclet = path ++ '#' :: name :=
    fullName_of_container (holds.hash identifier) named
  have other : Text.startsWith (path ++ ['#']) name = false := by
    rw [Bool.eq_false_iff]
    intro starts
    obtain ⟨rest, rfl⟩ := Text.startsWith_iff.mp starts
    exact absurd (identifier.bare.noSeparator '#' (by simp)) (by decide)
  have unmarked : joiner (path ++ ['#']) = [] := by simp [joiner, endsIn, isScopeMarker]
  have unfolded := resolve_eq kinds module doclet
  dsimp only at unfolded
  rw [full, place_untagged untagged notFile, split_append_marker path rfl identifier.bare]
    at unfolded
  dsimp only at unfolded
  rw [unschemed_of_identifier identifier, compose_container (by simp), other,
    if_neg Bool.false_ne_true, unmarked] at unfolded
  rw [unfolded]
  exact ⟨by simp, name_storeUnlessEmpty _ identifier.given _⟩

end Resolve

/-- No path that ends in an identifier behind a scheme alone has it behind a hash. -/
theorem scheme_ne_instance (kinds : KindTable) (kind path name : Text) :
    schemeOf kinds kind ++ name ≠ path ++ '#' :: name := by
  intro same
  rw [List.append_cons] at same
  have scheme : schemeOf kinds kind = path ++ ['#'] := List.append_cancel_right same
  unfold schemeOf at scheme
  split at scheme
  · exact absurd (List.append_inj' scheme rfl).2 (by decide)
  · exact absurd scheme (by simp)

theorem instance_path_iff {kinds : KindTable} {kind path name : Text} :
    path ++ '#' :: (schemeOf kinds kind ++ name) = path ++ '#' :: name ↔
      kinds.isDocspace kind = false := by
  rw [← schemeOf_eq_nil_iff, List.append_cancel_left_eq, List.cons_inj_right]
  exact List.append_left_eq_self

end SymbolPath.Resolution
