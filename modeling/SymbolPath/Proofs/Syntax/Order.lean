import Mathlib.Data.List.Flatten
import Mathlib.Data.List.Nodup
import SymbolPath.Syntax.Walk

/-!
The nodes of a file in document order: every node before what is below it, and what is below it
before its later siblings. The comments of a file come in this order too, so a comment precedes all
nodes at or below its later siblings.
-/

namespace SymbolPath.Syntax

mutual

def nodesAt (up : List Crumb) : Tree → List Cursor
  | .node kind isNamed start stop field children =>
    let tree := Tree.node kind isNamed start stop field children
    ⟨tree, up⟩ :: nodesAmong tree up children

def nodesAmong (parent : Tree) (up : List Crumb) : List Tree → List Cursor
  | [] => []
  | tree :: later => nodesAt (⟨parent, later⟩ :: up) tree ++ nodesAmong parent up later

end

def nodes (tree : Tree) : List Cursor :=
  nodesAt [] tree

/-- No two nodes agree in kind and span. -/
def Tree.Distinct (tree : Tree) : Prop :=
  ((nodes tree).map Cursor.key).Nodup

instance (tree : Tree) : Decidable tree.Distinct :=
  inferInstanceAs (Decidable (List.Nodup _))

namespace Cursor

def below (c : Cursor) : List Cursor :=
  nodesAt c.up c.focus

def laterSiblings (c : Cursor) : List Cursor :=
  match c.up with
  | [] => []
  | crumb :: up => childrenAmong crumb.parent up crumb.later

def ancestorsOf : List Crumb → List Cursor
  | [] => []
  | crumb :: up => ⟨crumb.parent, up⟩ :: ancestorsOf up

/-- The nodes around a node, the nearest first, the node itself not counted. -/
def ancestors (c : Cursor) : List Cursor :=
  ancestorsOf c.up

end Cursor

theorem nodesAmong_eq (parent : Tree) (up : List Crumb) (trees : List Tree) :
    nodesAmong parent up trees = (Cursor.childrenAmong parent up trees).flatMap Cursor.below := by
  induction trees with
  | nil => rfl
  | cons tree later ih => simp [nodesAmong, Cursor.childrenAmong, Cursor.below, ih]

namespace Cursor

theorem below_eq (c : Cursor) : c.below = c :: c.children.flatMap below := by
  obtain ⟨⟨kind, isNamed, start, stop, field, children⟩, up⟩ := c
  simp [below, nodesAt, nodesAmong_eq, Cursor.children, Tree.children]

theorem mem_below_self (c : Cursor) : c ∈ c.below := by
  rw [below_eq]
  exact List.mem_cons_self

theorem size_le_of_mem_among {parent : Tree} {up : List Crumb} {trees : List Tree} {c : Cursor}
    (member : c ∈ childrenAmong parent up trees) : c.focus.size ≤ Tree.sizeAll trees := by
  induction trees with
  | nil => cases member
  | cons tree later ih =>
      simp only [childrenAmong, List.mem_cons] at member
      simp only [Tree.sizeAll]
      rcases member with rfl | member
      · exact Nat.le_add_right _ _
      · exact Nat.le_trans (ih member) (Nat.le_add_left _ _)

theorem size_lt_of_mem_children {c child : Cursor} (member : child ∈ c.children) :
    child.focus.size < c.focus.size := by
  have bound := size_le_of_mem_among member
  rw [Tree.size_eq c.focus]
  exact Nat.lt_succ_of_le bound

/-- What holds of a node as soon as it holds of its children holds of all nodes. -/
theorem descend {motive : Cursor → Prop}
    (step : ∀ c, (∀ child ∈ c.children, motive child) → motive c) (c : Cursor) : motive c :=
  step c fun child _ => descend step child
termination_by c.focus.size
decreasing_by exact size_lt_of_mem_children ‹_›

theorem below_sublist {c d : Cursor} (member : d ∈ c.below) : d.below.Sublist c.below := by
  induction c using descend with
  | step c ih =>
      rw [below_eq] at member
      rcases List.mem_cons.mp member with rfl | deeper
      · exact List.Sublist.refl _
      · obtain ⟨child, isChild, inside⟩ := List.mem_flatMap.mp deeper
        have head : child.below.Sublist (c.children.flatMap below) :=
          List.sublist_flatten_of_mem (List.mem_map_of_mem isChild)
        rw [below_eq c]
        exact ((ih child isChild inside).trans head).cons c

theorem eq_or_mem_children_of_mem_below {c d : Cursor} (member : d ∈ c.below) :
    d = c ∨ ∃ parent ∈ c.below, d ∈ parent.children := by
  induction c using descend with
  | step c ih =>
      rw [below_eq] at member
      rcases List.mem_cons.mp member with same | deeper
      · exact .inl same
      · obtain ⟨child, isChild, inside⟩ := List.mem_flatMap.mp deeper
        refine .inr ?_
        rcases ih child isChild inside with rfl | ⟨parent, parentInside, isChildOf⟩
        · exact ⟨c, mem_below_self c, isChild⟩
        · refine ⟨parent, ?_, isChildOf⟩
          rw [below_eq]
          exact List.mem_cons_of_mem _ (List.mem_flatMap.mpr ⟨child, isChild, parentInside⟩)

theorem mem_below_of_mem_children {c d child : Cursor} (member : d ∈ c.below)
    (isChild : child ∈ d.children) : child ∈ c.below := by
  have inside : child ∈ d.below := by
    rw [below_eq]
    exact List.mem_cons_of_mem _ (List.mem_flatMap.mpr ⟨child, isChild, mem_below_self child⟩)
  exact (below_sublist member).subset inside

theorem childrenAmong_split {parent : Tree} {up : List Crumb} {trees : List Tree} {c : Cursor}
    (member : c ∈ childrenAmong parent up trees) :
    ∃ earlier, childrenAmong parent up trees = earlier ++ c :: c.laterSiblings := by
  induction trees with
  | nil => cases member
  | cons tree later ih =>
      simp only [childrenAmong, List.mem_cons] at member ⊢
      rcases member with rfl | member
      · exact ⟨[], rfl⟩
      · obtain ⟨earlier, split⟩ := ih member
        exact ⟨⟨tree, ⟨parent, later⟩ :: up⟩ :: earlier, by rw [split]; rfl⟩

theorem parent?_of_mem_among {parent : Tree} {up : List Crumb} {trees : List Tree} {c : Cursor}
    (member : c ∈ childrenAmong parent up trees) : c.parent? = some ⟨parent, up⟩ := by
  induction trees with
  | nil => cases member
  | cons tree later ih =>
      simp only [childrenAmong, List.mem_cons] at member
      rcases member with rfl | member
      · rfl
      · exact ih member

theorem parent?_of_mem_children {c child : Cursor} (member : child ∈ c.children) :
    child.parent? = some c :=
  parent?_of_mem_among member

end Cursor

open Cursor

theorem mem_nodes_root (tree : Tree) : Cursor.root tree ∈ nodes tree :=
  mem_below_self (Cursor.root tree)

theorem mem_nodes_of_mem_below {tree : Tree} {c d : Cursor} (member : c ∈ nodes tree)
    (inside : d ∈ c.below) : d ∈ nodes tree :=
  (below_sublist (c := Cursor.root tree) member).subset inside

theorem mem_nodes_of_mem_children {tree : Tree} {c child : Cursor} (member : c ∈ nodes tree)
    (isChild : child ∈ c.children) : child ∈ nodes tree :=
  mem_below_of_mem_children (c := Cursor.root tree) member isChild

theorem mem_children_of_parent? {tree : Tree} {c parent : Cursor} (member : c ∈ nodes tree)
    (above : c.parent? = some parent) : parent ∈ nodes tree ∧ c ∈ parent.children := by
  rcases eq_or_mem_children_of_mem_below (c := Cursor.root tree) member with
    rfl | ⟨other, inside, isChild⟩
  · cases above
  · have same := parent?_of_mem_children isChild
    rw [above] at same
    cases same
    exact ⟨inside, isChild⟩

theorem mem_below_of_mem_ancestors {tree : Tree} {c outer : Cursor} (member : c ∈ nodes tree)
    (around : outer ∈ c.ancestors) : outer ∈ nodes tree ∧ c ∈ outer.below := by
  obtain ⟨focus, up⟩ := c
  induction up generalizing focus with
  | nil => cases around
  | cons crumb up ih =>
      obtain ⟨parentMember, isChild⟩ := mem_children_of_parent? member rfl
      rcases List.mem_cons.mp around with rfl | further
      · exact ⟨parentMember, mem_below_of_mem_children (mem_below_self _) isChild⟩
      · obtain ⟨outerMember, inside⟩ := ih crumb.parent parentMember further
        exact ⟨outerMember, mem_below_of_mem_children inside isChild⟩

theorem mem_nodes_of_mem_laterSiblings {tree : Tree} {c sibling : Cursor} (member : c ∈ nodes tree)
    (follows : sibling ∈ c.laterSiblings) : sibling ∈ nodes tree := by
  obtain ⟨focus, up⟩ := c
  cases up with
  | nil => cases follows
  | cons crumb up =>
      obtain ⟨parentMember, isChild⟩ := mem_children_of_parent? member rfl
      obtain ⟨earlier, split⟩ := childrenAmong_split isChild
      refine mem_nodes_of_mem_children parentMember ?_
      show sibling ∈ childrenAmong _ _ _
      rw [split]
      simp [follows]

/-- A node comes before everything at or below its later siblings. -/
theorem precedes_later_siblings {tree : Tree} {c sibling d : Cursor} (member : c ∈ nodes tree)
    (follows : sibling ∈ c.laterSiblings) (inside : d ∈ sibling.below) :
    [c, d].Sublist (nodes tree) := by
  cases above : c.parent? with
  | none =>
      obtain ⟨focus, up⟩ := c
      cases up with
      | nil => cases follows
      | cons crumb up => cases above
  | some parent =>
      obtain ⟨parentMember, isChild⟩ := mem_children_of_parent? member above
      obtain ⟨earlier, split⟩ := childrenAmong_split isChild
      have children : parent.children = earlier ++ c :: c.laterSiblings := split
      -- in the nodes below the parent, those of the later siblings come behind the node
      have later : [d].Sublist (c.laterSiblings.flatMap below) :=
        List.singleton_sublist.mpr (List.mem_flatMap.mpr ⟨sibling, follows, inside⟩)
      have first : [c].Sublist c.below := List.singleton_sublist.mpr (mem_below_self c)
      have inOrder : [c, d].Sublist parent.below := by
        rw [below_eq parent, children, List.flatMap_append, List.flatMap_cons]
        exact ((first.append later).trans (List.sublist_append_right _ _)).cons _
      exact inOrder.trans (below_sublist (c := Cursor.root tree) parentMember)

theorem comments_sublist_below (c : Cursor) : (commentsAt c.up c.focus).Sublist c.below := by
  induction c using descend with
  | step c ih =>
      rw [below_eq]
      -- nothing is searched below a comment, which costs nodes but not the order
      by_cases comment : isComment c.kind = true
      · rw [commentsAt_comment c comment]
        exact (List.nil_sublist _).cons_cons c
      · rw [commentsAt_children c (by simpa using comment)]
        exact (List.Sublist.flatMap_right _ ih).cons c

theorem walk_sublist_nodes (tree : Tree) : (walk [Cursor.root tree]).Sublist (nodes tree) := by
  rw [walk_root]
  exact comments_sublist_below (Cursor.root tree)

theorem order_unique {α : Type} {list : List α} (unique : list.Nodup) {a b : α}
    (forth : [a, b].Sublist list) : ¬ [b, a].Sublist list := by
  intro back
  induction list with
  | nil => cases forth
  | cons x rest ih =>
      obtain ⟨fresh, unique⟩ := List.nodup_cons.mp unique
      cases forth with
      | cons _ forth =>
          cases back with
          | cons _ back => exact ih unique forth back
          | cons_cons _ back => exact fresh (forth.subset (by simp))
      | cons_cons _ tail =>
          have later : b ∈ rest := List.singleton_sublist.mp tail
          cases back with
          | cons _ back => exact fresh (back.subset (by simp))
          | cons_cons _ back => exact fresh later

theorem Tree.Distinct.nodup {tree : Tree} (distinct : tree.Distinct) : (nodes tree).Nodup :=
  List.Nodup.of_map _ distinct

theorem Tree.Distinct.eq_of_key {tree : Tree} (distinct : tree.Distinct) {c d : Cursor}
    (member : c ∈ nodes tree) (other : d ∈ nodes tree) (same : c.key = d.key) : c = d :=
  List.inj_on_of_nodup_map distinct member other same

end SymbolPath.Syntax
