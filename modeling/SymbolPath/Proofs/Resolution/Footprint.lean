import SymbolPath.Proofs.Resolution.Placement
import SymbolPath.Resolution.Bench

/-!
What resolving touches. It writes into the one doclet that it resolves and nowhere else, and there
under four titles only. The container and the access are written if a container was read off the name,
the name and the path if there is something to write. What is written stands alone under its title
from then on; all other tags stay, in their order.
-/

namespace SymbolPath.Doclet

def tagsBut (d : Doclet) (titles : List Text) : List Tag :=
  d.tags.filter fun tag => tag.title ∉ titles

theorem tagsBut_set {titles : List Text} {title : Text} (among : title ∈ titles) (d : Doclet)
    (value : Text) : (d.set title value).tagsBut titles = d.tagsBut titles := by
  have kept : (d.tags.filter fun tag => tag.title != title).filter
      (fun tag => tag.title ∉ titles) = d.tags.filter fun tag => tag.title ∉ titles := by
    rw [List.filter_filter]
    apply List.filter_congr
    intro tag _
    by_cases same : tag.title = title
    · simp [same, among]
    · simp [same]
  simp only [tagsBut, set, List.filter_append, kept]
  simp [among]

theorem values_of_tagsBut {titles : List Text} {title : Text} (other : title ∉ titles) (d : Doclet) :
    d.values title = ((d.tagsBut titles).filter fun tag => tag.title == title).map Tag.value := by
  unfold values tagsBut
  rw [List.filter_filter]
  congr 1
  apply List.filter_congr
  intro tag _
  by_cases same : tag.title = title
  · simp [same, other]
  · simp [same]

end SymbolPath.Doclet

namespace SymbolPath.Resolution

open SymbolPath.Path

theorem values_storeUnlessEmpty (doclet : Doclet) (title value : Text) :
    (storeUnlessEmpty doclet title value).values title =
      if value = [] then doclet.values title else [value] := by
  unfold storeUnlessEmpty
  by_cases none : value = []
  · simp [none]
  · simp [none]

/-- The container is read off the name: none was tagged, and the name is not that of a file. -/
def SplitsName (doclet : Doclet) : Prop :=
  doclet.memberof = [] ∧ doclet.kind ≠ "file"

instance (doclet : Doclet) : Decidable (SplitsName doclet) :=
  inferInstanceAs (Decidable (_ ∧ _))

theorem place_eq (doclet : Doclet) (full : Text) :
    (place doclet full).short = segment doclet full ∧
      (place doclet full).doclet =
        if SplitsName doclet then stored doclet (split full).1 else doclet := by
  unfold segment halves
  by_cases tagged : doclet.memberof = []
  · by_cases isFile : doclet.kind = "file"
    · have whole : ¬ SplitsName doclet := fun splits => splits.2 isFile
      rw [place_file tagged isFile, if_pos tagged, if_pos isFile, if_neg whole]
      exact ⟨rfl, rfl⟩
    · have splits : SplitsName doclet := ⟨tagged, isFile⟩
      rw [place_untagged tagged isFile, if_pos tagged, if_neg isFile, if_pos splits]
      exact ⟨rfl, rfl⟩
  · have whole : ¬ SplitsName doclet := fun splits => tagged splits.1
    rw [place_tagged tagged, if_neg tagged, if_neg whole]
    exact ⟨rfl, rfl⟩

section Kept

variable {titles : List Text} (doclet : Doclet)

theorem tagsBut_storeUnlessEmpty {title : Text} (among : title ∈ titles) (value : Text) :
    (storeUnlessEmpty doclet title value).tagsBut titles = doclet.tagsBut titles := by
  unfold storeUnlessEmpty
  split
  · rfl
  · exact Doclet.tagsBut_set among doclet value

variable (memberof : ("memberof" : Text) ∈ titles) (access : ("access" : Text) ∈ titles)
include memberof access

theorem tagsBut_stored (container : Text) :
    (stored doclet container).tagsBut titles = doclet.tagsBut titles := by
  unfold stored storeContainer
  split
  · rfl
  · split
    · rw [Doclet.tagsBut_set access, Doclet.tagsBut_set memberof]
    · exact Doclet.tagsBut_set memberof doclet container

theorem tagsBut_place (full : Text) :
    (place doclet full).doclet.tagsBut titles = doclet.tagsBut titles := by
  rw [(place_eq doclet full).2]
  split
  · exact tagsBut_stored doclet memberof access _
  · rfl

end Kept

theorem values_place (doclet : Doclet) (full : Text) {title : Text}
    (other : title ∉ [("memberof" : Text), "access"]) :
    (place doclet full).doclet.values title = doclet.values title := by
  rw [Doclet.values_of_tagsBut other, Doclet.values_of_tagsBut other,
    tagsBut_place doclet (by decide) (by decide)]

/-- What becomes of a doclet that is resolved, by the container in its name, its short name and its
path. -/
structure Footprint (before after : Doclet) (container short path : Text) : Prop where
  line : after.line = before.line
  others : after.tagsBut ["name", "memberof", "access", "path"] =
    before.tagsBut ["name", "memberof", "access", "path"]
  contained : ¬ SplitsName before ∨ container = [] →
    after.tagsBut ["name", "path"] = before.tagsBut ["name", "path"]
  memberof : SplitsName before → container ≠ [] →
    after.values "memberof" = [if marksInner container then container.dropLast else container]
  access : after.values "access" =
    if SplitsName before ∧ marksInner container then [("inner" : Text)] else before.values "access"
  name : after.values "name" = if short = [] then before.values "name" else [short]
  path : after.values "path" = if path = [] then before.values "path" else [path]

theorem footprint_resolve (kinds : KindTable) (module : Text) (doclet : Doclet) :
    let full := fullName module doclet
    let resolved := resolve kinds module doclet
    Footprint doclet resolved.doclet (split full).1
      (unschemed kinds doclet.kind (segment doclet full)) resolved.path := by
  intro full resolved
  obtain ⟨short, placed⟩ := place_eq doclet full
  have whole : resolved.doclet = storeUnlessEmpty (storeUnlessEmpty (place doclet full).doclet "name"
      (unschemed kinds doclet.kind (segment doclet full))) "path" resolved.path := by
    rw [← short]
    rfl
  have kept : ∀ titles : List Text, ("name" : Text) ∈ titles → ("path" : Text) ∈ titles →
      resolved.doclet.tagsBut titles = (place doclet full).doclet.tagsBut titles := by
    intro titles name path
    rw [whole, tagsBut_storeUnlessEmpty _ path, tagsBut_storeUnlessEmpty _ name]
  have keptValues : ∀ title : Text, "path" ≠ title → "name" ≠ title →
      resolved.doclet.values title = (place doclet full).doclet.values title := by
    intro title notPath notName
    rw [whole, values_storeUnlessEmpty_other _ _ notPath, values_storeUnlessEmpty_other _ _ notName]
  -- each write leaves the tags under other titles, so the fields are read off the placed doclet
  constructor
  case line => exact line_resolve kinds module doclet
  case others => rw [kept _ (by decide) (by decide), tagsBut_place doclet (by decide) (by decide)]
  case contained =>
    intro settled
    rw [kept _ (by decide) (by decide), placed]
    rcases settled with contained | none
    · rw [if_neg contained]
    · rw [none]
      exact congrArg (Doclet.tagsBut · _) (ite_self doclet)
  case memberof =>
    intro splits given
    rw [keptValues _ (by decide) (by decide), placed, if_pos splits,
      values_memberof_stored doclet given]
  case access =>
    rw [keptValues _ (by decide) (by decide), placed]
    by_cases splits : SplitsName doclet
    · rw [if_pos splits, values_access_stored]
      simp only [splits, true_and]
    · rw [if_neg splits, if_neg fun both => splits both.1]
  case name =>
    rw [whole, values_storeUnlessEmpty_other _ _ (by decide), values_storeUnlessEmpty,
      values_place doclet full (by decide)]
  case path =>
    rw [whole, values_storeUnlessEmpty, values_storeUnlessEmpty_other _ _ (by decide),
      values_place doclet full (by decide)]

/-- Resolving changes no registry, no module, no kinds and no doclet but the one that is resolved. Of
that, the tags under the four titles it writes are as its footprint has them, and the others stay. -/
theorem resolve_footprint {Node Label : Type} [DecidableEq Node] [DecidableEq Label]
    (bench : Bench Node Label) (seat : Seat) (label : Label) :
    let before := bench.doclet label
    let next := (bench.step seat (.resolve label)).1
    let full := fullName (bench.contextOf seat).module before
    let container := (split full).1
    let short := unschemed (bench.kindsOf seat) before.kind (segment before full)
    (∀ other, next.contextOf other = bench.contextOf other ∧
        next.kindsOf other = bench.kindsOf other) ∧
      (∀ other, other ≠ label → next.doclet other = bench.doclet other) ∧
      ∃ path, (bench.step seat (.resolve label)).2 = .path path ∧
        Footprint before (next.doclet label) container short path := by
  intro before next full container short
  have stored : next = bench.store label
      (resolve (bench.kindsOf seat) (bench.contextOf seat).module before).doclet := rfl
  refine ⟨fun other => ⟨?_, ?_⟩, fun other different => ?_, _, rfl, ?_⟩
  · rw [stored, Bench.contextOf_store]
  · rw [stored, Bench.kindsOf_store]
  · rw [stored, Bench.doclet_store_other _ _ _ (Ne.symm different)]
  · rw [stored, Bench.doclet_store]
    exact footprint_resolve _ _ before

/-- An empty container counts as none, so the one in the name replaces it and the one behind it. -/
example :
    (resolve KindTable.standard [] ⟨[⟨"memberof", ""⟩, ⟨"access", "private"⟩, ⟨"isa", "method"⟩,
      ⟨"name", "outer~helper of it"⟩, ⟨"memberof", "old"⟩, ⟨"desc", "helps"⟩], 3⟩).doclet =
    ⟨[⟨"isa", "method"⟩, ⟨"desc", "helps"⟩, ⟨"memberof", "outer"⟩, ⟨"access", "inner"⟩,
      ⟨"name", "helper"⟩, ⟨"path", "outer~helper"⟩], 3⟩ := by
  decide +kernel

end SymbolPath.Resolution
