import SymbolPath.Text

/-!
The kinds of symbols. A kind may have a space of its own in the documentation: the path of such a
symbol carries the kind as a scheme (`Widget.event:changed`). Kinds that are not listed have none.
-/

namespace SymbolPath

structure Kind where
  title : Text
  isDocspace : Bool
deriving DecidableEq, Repr

structure KindTable where
  kinds : List Kind
deriving DecidableEq, Repr

namespace KindTable

def empty : KindTable := ⟨[]⟩

def define (table : KindTable) (title : Text) (isDocspace : Bool) : KindTable :=
  ⟨(table.kinds.filter fun kind => kind.title != title) ++ [⟨title, isDocspace⟩]⟩

def ofDocspaces (titles : List Text) : KindTable :=
  titles.foldl (fun table title => table.define title true) empty

def standardDocspaces : List Text := ["event", "module"]

def standard : KindTable := ofDocspaces standardDocspaces

def find? (table : KindTable) (title : Text) : Option Kind :=
  table.kinds.find? fun kind => kind.title == title

def contains (table : KindTable) (title : Text) : Bool :=
  (table.find? title).isSome

def lookup (table : KindTable) (title : Option Text) : Kind :=
  (title.bind table.find?).getD ⟨title.getD [], false⟩

def isDocspace (table : KindTable) (title : Text) : Bool :=
  (table.lookup (some title)).isDocspace

def docspaces (table : KindTable) : List Text :=
  ((table.kinds.filter Kind.isDocspace).map Kind.title).mergeSort Text.le

theorem find?_define_same (table : KindTable) (title : Text) (isDocspace : Bool) :
    (table.define title isDocspace).find? title = some ⟨title, isDocspace⟩ := by
  have absent : (table.kinds.filter fun kind => kind.title != title).find?
      (fun kind => kind.title == title) = none := by
    rw [List.find?_eq_none]
    intro kind member
    have := (List.mem_filter.mp member).2
    simpa using this
  simp [define, find?, List.find?_append, absent]

theorem find?_define_other (table : KindTable) {title other : Text} (isDocspace : Bool)
    (different : title ≠ other) :
    (table.define title isDocspace).find? other = table.find? other := by
  have keep : (table.kinds.filter fun kind => kind.title != title).find?
      (fun kind => kind.title == other) = table.kinds.find? fun kind => kind.title == other := by
    rw [List.find?_filter]
    congr 1
    funext kind
    by_cases same : kind.title = other
    · simp [same, Ne.symm different]
    · simp [same]
  simp [define, find?, List.find?_append, different, keep]

theorem isDocspace_define_same (table : KindTable) (title : Text) (isDocspace : Bool) :
    (table.define title isDocspace).isDocspace title = isDocspace := by
  simp [KindTable.isDocspace, lookup, find?_define_same]

theorem isDocspace_define_other (table : KindTable) {title other : Text} (isDocspace : Bool)
    (different : title ≠ other) :
    (table.define title isDocspace).isDocspace other = table.isDocspace other := by
  simp [KindTable.isDocspace, lookup, find?_define_other table isDocspace different]

theorem isDocspace_ofDocspaces (titles : List Text) (title : Text) :
    (ofDocspaces titles).isDocspace title = true ↔ title ∈ titles := by
  have among : ∀ table : KindTable,
      (titles.foldl (fun table title => table.define title true) table).isDocspace title = true ↔
        table.isDocspace title = true ∨ title ∈ titles := by
    induction titles with
    | nil => simp
    | cons first rest ih =>
      intro table
      rw [List.foldl_cons, ih]
      by_cases here : first = title
      · simp [here, isDocspace_define_same]
      · simp [isDocspace_define_other table true here, Ne.symm here]
  have start := among empty
  have none : empty.isDocspace title = false := rfl
  rw [none] at start
  simpa [ofDocspaces] using start

end KindTable
end SymbolPath
