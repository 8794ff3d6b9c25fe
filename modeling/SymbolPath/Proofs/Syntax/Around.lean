import SymbolPath.Proofs.Syntax.Order

/-!
What is around a node. A node stands in another if it is at or below it; everything around that
other node is then around it too. Siblings have the same nodes around them, and so has whatever is
reached from a node without entering a container, as far as containers go.
-/

namespace SymbolPath.Syntax

open Cursor

theorem ancestors_of_parent? {c parent : Cursor} (above : c.parent? = some parent) :
    c.ancestors = parent :: parent.ancestors := by
  obtain ⟨focus, up⟩ := c
  cases up with
  | nil => cases above
  | cons crumb up =>
      cases above
      rfl

theorem mem_ancestors_of_parent? {c parent : Cursor} (above : c.parent? = some parent) :
    parent ∈ c.ancestors := by
  rw [ancestors_of_parent? above]
  exact List.mem_cons_self

theorem mem_ancestors_trans {c outer outermost : Cursor} (around : outer ∈ c.ancestors)
    (further : outermost ∈ outer.ancestors) : outermost ∈ c.ancestors := by
  obtain ⟨focus, up⟩ := c
  induction up generalizing focus with
  | nil => cases around
  | cons crumb up ih =>
      rcases List.mem_cons.mp around with rfl | above
      · exact List.mem_cons_of_mem _ further
      · exact List.mem_cons_of_mem _ (ih crumb.parent above)

theorem ancestors_of_mem_laterSiblings {c sibling : Cursor} (follows : sibling ∈ c.laterSiblings) :
    sibling.ancestors = c.ancestors := by
  obtain ⟨focus, up⟩ := c
  cases up with
  | nil => cases follows
  | cons crumb up => exact ancestors_of_parent? (parent?_of_mem_among follows)

theorem eq_or_mem_ancestors_of_mem_below {c d : Cursor} (inside : d ∈ c.below) :
    d = c ∨ c ∈ d.ancestors := by
  induction c using descend with
  | step c ih =>
      rw [below_eq] at inside
      rcases List.mem_cons.mp inside with same | deeper
      · exact .inl same
      · obtain ⟨child, isChild, below⟩ := List.mem_flatMap.mp deeper
        have around : c ∈ child.ancestors := mem_ancestors_of_parent? (parent?_of_mem_children isChild)
        rcases ih child isChild below with rfl | further
        · exact .inr around
        · exact .inr (mem_ancestors_trans further around)

def SameContainers (c d : Cursor) : Prop :=
  ∀ outer ∈ d.ancestors, isContainer outer.kind = true → outer ∈ c.ancestors

theorem SameContainers.refl (c : Cursor) : SameContainers c c :=
  fun _ around _ => around

theorem SameContainers.trans {c d e : Cursor} (first : SameContainers c d)
    (second : SameContainers d e) : SameContainers c e :=
  fun outer around container => first outer (second outer around container) container

theorem sameContainers_child {c child : Cursor} (plain : isContainer c.kind = false)
    (isChild : child ∈ c.children) : SameContainers c child := by
  intro outer around container
  rw [ancestors_of_parent? (parent?_of_mem_children isChild)] at around
  rcases List.mem_cons.mp around with rfl | above
  · rw [plain] at container
    cases container
  · exact above

/-- The second node is at or below the first, with no container between the two. -/
structure InsideOf (c d : Cursor) : Prop where
  below : d ∈ c.below
  around : SameContainers c d

theorem insideOf_self (c : Cursor) : InsideOf c c :=
  ⟨mem_below_self c, SameContainers.refl c⟩

theorem insideOf_child {c child : Cursor} (plain : isContainer c.kind = false)
    (isChild : child ∈ c.children) : InsideOf c child :=
  ⟨mem_below_of_mem_children (mem_below_self c) isChild, sameContainers_child plain isChild⟩

theorem InsideOf.trans {c d e : Cursor} (first : InsideOf c d) (second : InsideOf d e) :
    InsideOf c e :=
  ⟨(below_sublist first.below).subset second.below, first.around.trans second.around⟩

end SymbolPath.Syntax
