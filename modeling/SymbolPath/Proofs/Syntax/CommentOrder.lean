import SymbolPath.Proofs.Syntax.Around

/-!
The comments of a file in document order. They are those among all nodes, in their order, that stand
in no other comment, and no node is met twice. Where the spans of the nodes are in order, the
comments lie one behind the other.
-/

namespace SymbolPath.Syntax

namespace Cursor

theorem up_of_mem_among {parent : Tree} {up : List Crumb} {trees : List Tree} {c : Cursor}
    (member : c ∈ childrenAmong parent up trees) :
    ∃ later, c.up = ⟨parent, later⟩ :: up ∧ later.length < trees.length := by
  induction trees with
  | nil => cases member
  | cons tree later ih =>
      simp only [childrenAmong, List.mem_cons] at member
      rcases member with rfl | among
      · exact ⟨later, rfl, Nat.lt_succ_self _⟩
      · obtain ⟨rest, same, shorter⟩ := ih among
        exact ⟨rest, same, Nat.lt_succ_of_lt shorter⟩

theorem length_up_of_mem_children {c child : Cursor} (isChild : child ∈ c.children) :
    child.up.length = c.up.length + 1 := by
  obtain ⟨_, same, _⟩ := up_of_mem_among isChild
  rw [same, List.length_cons]

theorem pairwise_up_among (parent : Tree) (up : List Crumb) (trees : List Tree) :
    (childrenAmong parent up trees).Pairwise fun first second => first.up ≠ second.up := by
  induction trees with
  | nil => exact .nil
  | cons tree later ih =>
      refine .cons ?_ ih
      intro sibling among same
      -- fewer siblings follow the later of the two
      obtain ⟨rest, above, shorter⟩ := up_of_mem_among among
      have follows : later = rest := by
        rw [above] at same
        cases same
        rfl
      rw [follows] at shorter
      exact Nat.lt_irrefl _ shorter

theorem up_suffix_of_mem_below {c d : Cursor} (inside : d ∈ c.below) : c.up <:+ d.up := by
  induction c using descend with
  | step c ih =>
      rw [below_eq] at inside
      rcases List.mem_cons.mp inside with rfl | deeper
      · exact List.suffix_refl _
      · obtain ⟨child, isChild, below⟩ := List.mem_flatMap.mp deeper
        obtain ⟨later, same, _⟩ := up_of_mem_among isChild
        have above : c.up <:+ child.up := same ▸ List.suffix_cons _ _
        exact above.trans (ih child isChild below)

theorem nodup_below (c : Cursor) : c.below.Nodup := by
  induction c using descend with
  | step c ih =>
      rw [below_eq, List.nodup_cons, List.nodup_flatMap]
      refine ⟨?_, ih, ?_⟩
      · -- what is below a child has a longer way up
        intro again
        obtain ⟨child, isChild, below⟩ := List.mem_flatMap.mp again
        have longer := (up_suffix_of_mem_below below).length_le
        rw [length_up_of_mem_children isChild] at longer
        exact Nat.not_succ_le_self _ longer
      · refine (pairwise_up_among c.focus c.up c.focus.children).imp_of_mem ?_
        intro first second isFirst isSecond different d inFirst inSecond
        have length : first.up.length = second.up.length :=
          (length_up_of_mem_children isFirst).trans (length_up_of_mem_children isSecond).symm
        have suffix : first.up <:+ second.up := List.suffix_of_suffix_length_le
          (up_suffix_of_mem_below inFirst) (up_suffix_of_mem_below inSecond) (Nat.le_of_eq length)
        exact different (suffix.eq_of_length length)

def isOuterComment (c : Cursor) : Bool :=
  isComment c.kind && c.ancestors.all fun outer => !isComment outer.kind

theorem not_isOuterComment {c outer : Cursor} (around : outer ∈ c.ancestors)
    (comment : isComment outer.kind = true) : c.isOuterComment = false := by
  rw [isOuterComment, Bool.and_eq_false_iff, List.all_eq_false]
  exact .inr ⟨outer, around, by simp [comment]⟩

theorem commentsAt_eq_filter (c : Cursor)
    (outside : ∀ outer ∈ c.ancestors, isComment outer.kind = false) :
    commentsAt c.up c.focus = c.below.filter isOuterComment := by
  induction c using descend with
  | step c ih =>
      rw [below_eq]
      cases comment : isComment c.kind with
      | true =>
          have outer : c.isOuterComment = true := by
            rw [isOuterComment, comment, Bool.true_and, List.all_eq_true]
            intro other around
            rw [outside other around]
            rfl
          -- a comment is not searched, and nothing below it counts as an outer one
          have none : (c.children.flatMap below).filter isOuterComment = [] := by
            rw [List.filter_eq_nil_iff]
            intro d deeper
            obtain ⟨child, isChild, below⟩ := List.mem_flatMap.mp deeper
            have inComment : c ∈ d.ancestors := by
              have around := mem_ancestors_of_parent? (parent?_of_mem_children isChild)
              rcases eq_or_mem_ancestors_of_mem_below below with rfl | above
              · exact around
              · exact mem_ancestors_trans above around
            rw [not_isOuterComment inComment comment]
            exact Bool.false_ne_true
          rw [commentsAt_comment c comment, List.filter_cons_of_pos outer, none]
      | false =>
          have dropped : ¬ c.isOuterComment = true := by simp [isOuterComment, comment]
          rw [commentsAt_children c comment, List.filter_cons_of_neg dropped, List.filter_flatMap]
          refine List.flatMap_congr fun child isChild => ih child isChild ?_
          intro outer around
          rw [ancestors_of_parent? (parent?_of_mem_children isChild)] at around
          rcases List.mem_cons.mp around with rfl | above
          · exact comment
          · exact outside outer above

theorem map_focus_childrenAmong (parent : Tree) (up : List Crumb) (trees : List Tree) :
    (childrenAmong parent up trees).map focus = trees := by
  induction trees with
  | nil => rfl
  | cons tree later ih => rw [childrenAmong, List.map_cons, ih]

theorem map_focus_children (c : Cursor) : c.children.map focus = c.focus.children :=
  map_focus_childrenAmong _ _ _

end Cursor

open Cursor

theorem nodup_nodes (tree : Tree) : (nodes tree).Nodup :=
  nodup_below (Cursor.root tree)

theorem comments_eq_filter (tree : Tree) : comments tree = (nodes tree).filter isOuterComment :=
  commentsAt_eq_filter (Cursor.root tree) fun _ around => nomatch around

/-- The children lie within the span of their parent, one behind the other. -/
def Tree.SpansChildren (tree : Tree) : Prop :=
  (∀ child ∈ tree.children, tree.start ≤ child.start ∧ child.stop ≤ tree.stop) ∧
    tree.children.Pairwise fun first second => first.stop ≤ second.start

instance (tree : Tree) : Decidable tree.SpansChildren :=
  inferInstanceAs (Decidable (_ ∧ _))

def Tree.Ordered (tree : Tree) : Prop :=
  ∀ c ∈ nodes tree, c.focus.SpansChildren

instance (tree : Tree) : Decidable tree.Ordered :=
  inferInstanceAs (Decidable (∀ c ∈ nodes tree, c.focus.SpansChildren))

section Ordered

variable {tree : Tree} (ordered : tree.Ordered)
include ordered

theorem within_of_mem_below {c d : Cursor} (member : c ∈ nodes tree) (inside : d ∈ c.below) :
    c.focus.start ≤ d.focus.start ∧ d.focus.stop ≤ c.focus.stop := by
  induction c using descend with
  | step c ih =>
      rw [below_eq] at inside
      rcases List.mem_cons.mp inside with rfl | deeper
      · exact ⟨Nat.le_refl _, Nat.le_refl _⟩
      · obtain ⟨child, isChild, below⟩ := List.mem_flatMap.mp deeper
        have among : child.focus ∈ c.focus.children :=
          map_focus_children c ▸ List.mem_map_of_mem isChild
        obtain ⟨starts, stops⟩ := (ordered c member).1 child.focus among
        obtain ⟨later, earlier⟩ := ih child isChild (mem_nodes_of_mem_children member isChild) below
        exact ⟨Nat.le_trans starts later, Nat.le_trans earlier stops⟩

theorem commentsAt_apart {c : Cursor} (member : c ∈ nodes tree) :
    (commentsAt c.up c.focus).Pairwise fun first second => first.focus.stop ≤ second.focus.start := by
  induction c using descend with
  | step c ih =>
      cases comment : isComment c.kind with
      | true =>
          rw [commentsAt_comment c comment]
          exact List.pairwise_singleton _ _
      | false =>
          rw [commentsAt_children c comment, List.pairwise_flatMap]
          have isNode : ∀ child ∈ c.children, child ∈ nodes tree :=
            fun _ isChild => mem_nodes_of_mem_children member isChild
          refine ⟨fun child isChild => ih child isChild (isNode child isChild), ?_⟩
          have apart := (ordered c member).2
          rw [← map_focus_children, List.pairwise_map] at apart
          refine apart.imp_of_mem ?_
          intro first second isFirst isSecond behind d inFirst e inSecond
          have stops := (within_of_mem_below ordered (isNode first isFirst)
            ((comments_sublist_below first).subset inFirst)).2
          have starts := (within_of_mem_below ordered (isNode second isSecond)
            ((comments_sublist_below second).subset inSecond)).1
          calc d.focus.stop
              _ ≤ first.focus.stop := stops
              _ ≤ second.focus.start := behind
              _ ≤ e.focus.start := starts

/-- Where the spans are in order, the comments lie one behind the other. -/
theorem comments_apart :
    (comments tree).Pairwise fun first second => first.focus.stop ≤ second.focus.start :=
  commentsAt_apart ordered (mem_nodes_root tree)

end Ordered

end SymbolPath.Syntax
