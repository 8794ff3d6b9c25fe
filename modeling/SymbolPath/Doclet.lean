import SymbolPath.Text

/-!
Doclets: what one documentation comment says about a symbol, as an ordered list of titled values.
Reading a title gives the first value; setting one replaces all its values by a single one at the
end; adding appends.
-/

namespace SymbolPath

structure Tag where
  title : Text
  value : Text
deriving DecidableEq, Repr

/-- The tags in the order they were written, and the line of the comment, 0 if unknown. A line is a
number that is passed on as given: nothing here counts on it to be one of a file. -/
structure Doclet where
  tags : List Tag
  line : Int
deriving DecidableEq, Repr

namespace Doclet

def ofValues (values : List (Text × Text)) (line : Int) : Doclet :=
  ⟨(values.filter fun (_, value) => !value.isEmpty).map fun (title, value) => ⟨title, value⟩, line⟩

def values (d : Doclet) (title : Text) : List Text :=
  (d.tags.filter fun tag => tag.title == title).map Tag.value

def value (d : Doclet) (title : Text) : Text :=
  match d.tags.find? fun tag => tag.title == title with
  | some tag => tag.value
  | none => []

def has (d : Doclet) (title : Text) : Bool :=
  d.tags.any fun tag => tag.title == title

def set (d : Doclet) (title value : Text) : Doclet :=
  { d with tags := (d.tags.filter fun tag => tag.title != title) ++ [⟨title, value⟩] }

def add (d : Doclet) (title value : Text) : Doclet :=
  { d with tags := d.tags ++ [⟨title, value⟩] }

def name (d : Doclet) : Text := d.value "name"

def memberof (d : Doclet) : Text := d.value "memberof"

def path (d : Doclet) : Text := d.value "path"

def kind (d : Doclet) : Text := d.value "isa"

def access (d : Doclet) : Text := d.value "access"

def isInner (d : Doclet) : Bool :=
  d.has "inner" || d.tags.any fun tag => tag.title == ("access" : Text) && tag.value == ("inner" : Text)

theorem isInner_of_access {d : Doclet} (inner : d.access = "inner") : d.isInner = true := by
  unfold access value at inner
  cases found : d.tags.find? fun tag => tag.title == ("access" : Text) with
  | none =>
      rw [found] at inner
      exact absurd inner (by decide)
  | some tag =>
      rw [found] at inner
      have titled := List.find?_some found
      unfold isInner
      rw [Bool.or_eq_true, List.any_eq_true]
      exact .inr ⟨tag, List.mem_of_find?_eq_some found, by simpa [inner] using titled⟩

theorem value_eq_head (d : Doclet) (title : Text) :
    d.value title = (d.values title).head?.getD [] := by
  simp only [value, values, List.head?_map, List.head?_filter]
  cases d.tags.find? fun tag => tag.title == title <;> rfl

@[simp] theorem values_set_same (d : Doclet) (title value : Text) :
    (d.set title value).values title = [value] := by
  simp [values, set, List.filter_append, List.filter_filter]

theorem values_set_other (d : Doclet) {title other : Text} (value : Text)
    (different : title ≠ other) : (d.set title value).values other = d.values other := by
  have keep : (d.tags.filter fun tag => tag.title != title).filter (fun tag => tag.title == other) =
      d.tags.filter fun tag => tag.title == other := by
    rw [List.filter_filter]
    apply List.filter_congr
    intro tag _
    by_cases same : tag.title = other
    · simp [same, Ne.symm different]
    · simp [same]
  simp [values, set, List.filter_append, different, keep]

@[simp] theorem value_set_same (d : Doclet) (title value : Text) :
    (d.set title value).value title = value := by
  simp [value_eq_head]

theorem value_set_other (d : Doclet) {title other : Text} (value : Text)
    (different : title ≠ other) : (d.set title value).value other = d.value other := by
  rw [value_eq_head, value_eq_head, values_set_other d value different]

end Doclet
end SymbolPath
