/-!
Which doclet documents a syntax node. Registering a node again shadows what was registered before;
the absent node is never registered and never found.
-/

namespace SymbolPath

structure Registry (Node Doc : Type) where
  entries : List (Node × Doc)
deriving Repr

namespace Registry

variable {Node Doc : Type} [DecidableEq Node]

def empty : Registry Node Doc := ⟨[]⟩

def register (registry : Registry Node Doc) (node : Option Node) (doc : Doc) : Registry Node Doc :=
  match node with
  | none => registry
  | some node => ⟨(registry.entries.filter fun entry => entry.1 != node) ++ [(node, doc)]⟩

def find? (registry : Registry Node Doc) (node : Node) : Option Doc :=
  (registry.entries.find? fun entry => entry.1 == node).map Prod.snd

def lookup (registry : Registry Node Doc) (node : Option Node) : Option Doc :=
  node.bind registry.find?

def contains (registry : Registry Node Doc) (node : Option Node) : Bool :=
  (registry.lookup node).isSome

def size (registry : Registry Node Doc) : Nat :=
  registry.entries.length

theorem find?_register_same (registry : Registry Node Doc) (node : Node) (doc : Doc) :
    (registry.register (some node) doc).find? node = some doc := by
  have absent : (registry.entries.filter fun entry => entry.1 != node).find?
      (fun entry => entry.1 == node) = none := by
    rw [List.find?_eq_none]
    intro entry member
    have := (List.mem_filter.mp member).2
    simpa using this
  simp [register, find?, List.find?_append, absent]

theorem find?_register_other (registry : Registry Node Doc) {node other : Node} (doc : Doc)
    (different : node ≠ other) :
    (registry.register (some node) doc).find? other = registry.find? other := by
  have keep : (registry.entries.filter fun entry => entry.1 != node).find?
      (fun entry => entry.1 == other) = registry.entries.find? fun entry => entry.1 == other := by
    rw [List.find?_filter]
    congr 1
    funext entry
    by_cases same : entry.1 = other
    · simp [same, Ne.symm different]
    · simp [same]
  simp [register, find?, List.find?_append, different, keep]

end Registry
end SymbolPath
