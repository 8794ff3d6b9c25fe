import SymbolPath.Syntax.Cursor

/-!
Walking a file for its comments with the nodes still to be looked at in a list, so that a deep tree
costs no deep recursion. The main statement is that the walk meets the comments that the plain
recursion over the tree finds, each once and in the same order.
-/

namespace SymbolPath.Syntax

def pendingSize : List Cursor → Nat
  | [] => 0
  | c :: rest => c.focus.size + pendingSize rest

theorem pendingSize_append (first second : List Cursor) :
    pendingSize (first ++ second) = pendingSize first + pendingSize second := by
  induction first with
  | nil => simp [pendingSize]
  | cons c rest ih =>
    simp only [List.cons_append, pendingSize, ih]
    omega

theorem pendingSize_childrenAmong (parent : Tree) (up : List Crumb) (trees : List Tree) :
    pendingSize (Cursor.childrenAmong parent up trees) = Tree.sizeAll trees := by
  induction trees with
  | nil => rfl
  | cons tree later ih => simp [Cursor.childrenAmong, pendingSize, Tree.sizeAll, ih]

theorem Tree.size_eq (tree : Tree) : tree.size = Tree.sizeAll tree.children + 1 := by
  cases tree
  simp [Tree.size, Tree.children]

theorem pendingSize_children (c : Cursor) : pendingSize c.children + 1 = c.focus.size := by
  rw [Cursor.children, pendingSize_childrenAmong, Tree.size_eq]

/-- The comments among the pending nodes and below. The children of a node come before what is
pending behind it; a comment is not searched for others. -/
def walk : List Cursor → List Cursor
  | [] => []
  | c :: pending =>
    if isComment c.kind then c :: walk pending else walk (c.children ++ pending)
termination_by pending => pendingSize pending
decreasing_by
  all_goals
    have below := pendingSize_children c
    simp only [pendingSize, pendingSize_append]
    omega

theorem commentsAmong_eq (parent : Tree) (up : List Crumb) (trees : List Tree) :
    commentsAmong parent up trees =
      (Cursor.childrenAmong parent up trees).flatMap fun c => commentsAt c.up c.focus := by
  induction trees with
  | nil => rfl
  | cons tree later ih => simp [commentsAmong, Cursor.childrenAmong, ih]

theorem commentsAt_comment (c : Cursor) (comment : isComment c.kind = true) :
    commentsAt c.up c.focus = [c] := by
  obtain ⟨⟨kind, isNamed, start, stop, field, children⟩, up⟩ := c
  have same : isComment kind = true := comment
  simp [commentsAt, same]

theorem commentsAt_children (c : Cursor) (other : isComment c.kind = false) :
    commentsAt c.up c.focus = c.children.flatMap fun child => commentsAt child.up child.focus := by
  obtain ⟨⟨kind, isNamed, start, stop, field, children⟩, up⟩ := c
  have same : isComment kind = false := other
  simp [commentsAt, same, commentsAmong_eq, Cursor.children, Tree.children]

theorem walk_eq_flatMap (pending : List Cursor) :
    walk pending = pending.flatMap fun c => commentsAt c.up c.focus := by
  fun_induction walk pending with
  | case1 => rfl
  | case2 c pending comment ih =>
    rw [List.flatMap_cons, commentsAt_comment c comment, ih]
    rfl
  | case3 c pending other ih =>
    have different : isComment c.kind = false := by simpa using other
    rw [List.flatMap_cons, commentsAt_children c different, ih, List.flatMap_append]

theorem walk_root (tree : Tree) : walk [Cursor.root tree] = comments tree := by
  simp [walk_eq_flatMap, comments, Cursor.root]

end SymbolPath.Syntax
