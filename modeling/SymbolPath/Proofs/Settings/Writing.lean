import SymbolPath.Settings.Store

/-!
The file that settings are written to. Whatever the order in which settings are kept, the sections,
and the settings in each of them, are written in the order of their names.
-/

namespace SymbolPath

namespace Value

theorem below?_text (s t : Text) : below? (.text s) (.text t) = some (!Text.le t s) := by
  simp [below?, unlabelled, scalarBelow?]

theorem sortBy?_one {α : Type} (key : Value) (a : α) :
    sortBy? Prod.fst [(key, a)] = some [(key, a)] := by
  simp [sortBy?, areComparable]

theorem sortBy?_two {α : Type} {s t : Text} (a b : α) (st : Text.le s t = false) :
    sortBy? Prod.fst [(text s, a), (text t, b)] = some [(text t, b), (text s, a)] := by
  simp [sortBy?, List.mergeSort, List.MergeSort.Internal.splitInTwo, below?_text, areComparable, st]

theorem sortBy?_three {α : Type} {s t u : Text} (a b c : α) (st : Text.le s t = false)
    (tu : Text.le t u = false) :
    sortBy? Prod.fst [(text s, a), (text t, b), (text u, c)] =
      some [(text u, c), (text t, b), (text s, a)] := by
  simp [sortBy?, List.mergeSort, List.MergeSort.Internal.splitInTwo, below?_text, areComparable,
    st, tu]

end Value

namespace Yaml.Draft

section

-- The limit of digits is too large to be computed with, so it must not be looked into.
seal Whole.text?

theorem ofValue_text (t : Text) : ofValue (.text t) = pure (ofText .text t) := rfl

theorem ofValue_int (n : Int) : ofValue (.int n) = (match Whole.text? n with
    | some t => pure (ofText .int t)
    | none => failure) := rfl

theorem ofValue_list (items : List Value) :
    ofValue (.list items) = do return .sequence none .list (← ofItems items) := rfl

theorem ofValue_map (entries : Mapping) :
    ofValue (.map entries) = do return .mapping none .map (← inOrder (ofEntries entries)) := rfl

theorem ofItems_cons (item : Value) (rest : List Value) :
    ofItems (item :: rest) = do return (← ofValue item) :: (← ofItems rest) := rfl

theorem ofEntries_nil : ofEntries [] = [] := rfl

theorem ofEntries_cons (key value : Value) (rest : Mapping) :
    ofEntries ((key, value) :: rest) =
      (key, do return (← ofValue key, ← ofValue value)) :: ofEntries rest := rfl

end

theorem ofItems_text (ts : List Text) :
    ofItems (ts.map .text) = pure (ts.map (ofText .text)) := by
  induction ts with
  | nil => rfl
  | cons t rest ih =>
    rw [List.map_cons, ofItems_cons, ofValue_text, ih]
    rfl

end Yaml.Draft

namespace Settings

open Yaml.Draft

def draft (kinds extensions : List Text) (size format : Text) : List (Yaml.Draft × Yaml.Draft) := [
  (ofText .text "display", .mapping none .map [(ofText .text "format", ofText .text format)]),
  (ofText .text "parsing", .mapping none .map [
    (ofText .text "extensions", .sequence none .list (extensions.map (ofText .text))),
    (ofText .text "max_file_size", .ofText .int size)]),
  (ofText .text "resolver", .mapping none .map [
    (ofText .text "docspace_kinds", .sequence none .list (kinds.map (ofText .text)))])]

theorem of?_toMapping (kinds extensions : List Text) {n : Int} {size : Text} (format : Text)
    (shown : Whole.text? n = some size) :
    of? (.map (toMapping ⟨kinds.map .text, n, extensions.map .text, .text format⟩)) =
      some (.mapping none .map (draft kinds extensions size format)) := by
  have parsing {α : Type} (a b : α) :=
    Value.sortBy?_two (s := "max_file_size") (t := "extensions") a b (by decide)
  have sections {α : Type} (a b c : α) :=
    Value.sortBy?_three (s := "resolver") (t := "parsing") (u := "display") a b c (by decide)
      (by decide)
  simp only [of?, toMapping, ofValue_map, ofEntries_cons, ofEntries_nil, inOrder, parsing, sections,
    Value.sortBy?_one, Option.getD_some, List.mapM_cons, List.mapM_nil, ofValue_text, ofValue_list,
    ofItems_text, ofValue_int, shown, pure_bind]
  rfl

theorem referencesIn_texts (ts : List Text) : referencesIn (ts.map (ofText .text)) = [] := by
  induction ts with
  | nil => rfl
  | cons t rest ih => exact ih

theorem fileText_of_texts (kinds extensions : List Text) {n : Int} {size : Text} (format : Text)
    (shown : Whole.text? n = some size) :
    fileText ⟨kinds.map .text, n, extensions.map .text, .text format⟩ =
      .ok ((writeEntries [] 0 .empty (draft kinds extensions size format)).startAt 0).text := by
  have unreferenced : references (.mapping none .map (draft kinds extensions size format)) = [] := by
    simp [draft, references, referencesOf, ofText, referencesIn_texts]
  have anchors : Yaml.Anchors.ofReferences [] = [] := rfl
  simp only [fileText, Yaml.writeMapping?, of?_toMapping kinds extensions format shown,
    Option.bind_eq_bind, Option.bind_some, unreferenced, anchors]
  rfl

end Settings
end SymbolPath
