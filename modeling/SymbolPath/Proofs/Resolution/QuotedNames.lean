import SymbolPath.Proofs.Path.Quoted
import SymbolPath.Proofs.Resolution.Footprint
import SymbolPath.Proofs.Resolution.InstanceSpellings
import SymbolPath.Proofs.Resolution.Joined
import SymbolPath.Proofs.Resolution.Nameless

/-!
Resolving a literal that was joined to its container. Separators in the literal do no harm, as it is
masked where the name is split. But the name is cut at its first blank, and prototype segments are
rewritten, before any mask is laid over it: a literal that has either does not come through.
-/

namespace SymbolPath.Resolution

open SymbolPath.Path

theorem name_resolve_cases (kinds : KindTable) (module : Text) (doclet : Doclet) :
    (resolve kinds module doclet).doclet.name = doclet.name ∨
      (resolve kinds module doclet).doclet.name <:+: fullName module doclet := by
  have written := (footprint_resolve kinds module doclet).name
  rw [Doclet.name, Doclet.name, Doclet.value_eq_head, Doclet.value_eq_head, written]
  split
  · exact .inl rfl
  · exact .inr ((isInfix_unschemed _ _ _).trans (isInfix_segment doclet _))

section Quoted

variable {container content : Text} (given : container ≠ [])
include given

theorem join_ne_quoted : join container (quoted content) ≠ quoted content := by
  intro same
  have lengths := congrArg List.length same
  have some : 0 < container.length := List.length_pos_iff.mpr given
  rw [join_eq given, List.length_append, List.length_append] at lengths
  omega

variable (noPrototype : ¬ HasPrototype container)
include noPrototype

theorem hasPrototype_join_quoted :
    HasPrototype (join container (quoted content)) ↔ HasPrototype content := by
  obtain ⟨path, separator, separates, split, within, _⟩ := join_eq_append given (quoted content)
  rw [split]
  apply hasPrototype_append_quoted separates
  exact fun found => noPrototype (found.trans within.isInfix)

omit noPrototype in
theorem blank_join_quoted_iff (noBlank : ∀ c ∈ container, Text.isBlank c = false) :
    (∀ c ∈ join container (quoted content), Text.isBlank c = false) ↔
      ∀ c ∈ content, Text.isBlank c = false := by
  have between : ∀ c ∈ joiner container, Text.isBlank c = false := by
    unfold joiner
    split
    · exact fun c member => nomatch member
    · exact fun c member => List.mem_singleton.mp member ▸ rfl
  have quote : Text.isBlank '"' = false := by decide
  rw [join_eq given, List.forall_mem_append, List.forall_mem_append, quoted, List.forall_mem_cons,
    List.forall_mem_append, List.forall_mem_singleton]
  simp only [quote, true_and, and_true]
  exact ⟨fun all => all.2.2, fun all => ⟨noBlank, between, all⟩⟩

variable (noBlank : ∀ c ∈ container, Text.isBlank c = false) (noQuote : '"' ∉ container)
  (quotable : Quotable content) {kinds : KindTable} {doclet : Doclet}
  (named : doclet.name = join container (quoted content)) (untagged : doclet.memberof = [])
  (notFile : doclet.kind ≠ "file") (noSpace : kinds.isDocspace doclet.kind = false)
include noBlank noQuote quotable named untagged notFile noSpace

theorem resolve_quoted (plain : ∀ c ∈ content, Text.isBlank c = false)
    (absent : ¬ HasPrototype content) :
    (resolve kinds [] doclet).path = join container (quoted content) ∧
      (resolve kinds [] doclet).doclet.name = quoted content := by
  have kept : fullName [] doclet = join container (quoted content) := by
    rw [fullName, named,
      Text.firstWord_of_noBlank ((blank_join_quoted_iff given noBlank).mpr plain), expandExports_nil,
      foldPrototype_of_absent (mt (hasPrototype_join_quoted given noPrototype).mp absent)]
  have other : Text.startsWith container (quoted content) = false := by
    obtain ⟨c, rest, rfl⟩ := List.exists_cons_of_ne_nil given
    have different : c ≠ '"' := fun same => noQuote (same ▸ List.mem_cons_self)
    simp [Text.startsWith, Text.dropStart?, quoted, different]
  have unfolded := resolve_untagged [] untagged notFile noSpace
  dsimp only at unfolded
  rw [kept, split_join_quoted quotable given noQuote] at unfolded
  dsimp only at unfolded
  rw [other, if_neg Bool.false_ne_true] at unfolded
  rw [unfolded]
  exact ⟨rfl, name_storeUnlessEmpty _ (by simp [quoted]) _⟩

/-- A literal comes through, as the short name and the last segment of the path, exactly if it has
neither blanks nor prototype segments. -/
theorem resolve_quoted_iff :
    (resolve kinds [] doclet).path = join container (quoted content) ∧
        (resolve kinds [] doclet).doclet.name = quoted content ↔
      (∀ c ∈ content, Text.isBlank c = false) ∧ ¬ HasPrototype content := by
  constructor
  · rintro ⟨-, short⟩
    have within : quoted content <:+: fullName [] doclet := by
      rcases name_resolve_cases kinds [] doclet with same | part
      · exact absurd (named.symm.trans (same.symm.trans short)) (join_ne_quoted given)
      · rwa [short] at part
    have inFull : content <:+: fullName [] doclet :=
      List.IsInfix.trans ⟨['"'], ['"'], rfl⟩ within
    constructor
    · intro c member
      rw [Bool.eq_false_iff]
      intro blank
      exact absurd (mem_module_of_blank (inFull.subset member) blank) List.not_mem_nil
    · exact fun found => not_hasPrototype_foldPrototype _ (found.trans inFull)
  · rintro ⟨plain, absent⟩
    exact resolve_quoted given noPrototype noBlank noQuote quotable named untagged notFile noSpace
      plain absent

omit noPrototype noBlank noQuote quotable untagged notFile noSpace in
theorem path_ne_nil_of_quoted : (resolve kinds [] doclet).path ≠ [] := by
  intro empty
  have nameless : Nameless doclet := ((path_eq_nil_iff kinds [] doclet).mp empty).1
  have quote : '"' ∈ doclet.name := by
    rw [named, join_eq given]
    simp [quoted]
  exact absurd (nameless '"' quote) (by decide)

end Quoted

end SymbolPath.Resolution
