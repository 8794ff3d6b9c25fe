import SymbolPath.Registry
import SymbolPath.Text

/-!
What a session of resolution remembers from one doclet to the next: the nodes already documented
and the current module, empty if there is none.
-/

namespace SymbolPath.Resolution

structure Context (Node Doc : Type) where
  registry : Registry Node Doc
  module : Text
deriving Repr

namespace Context

variable {Node Doc : Type}

def empty : Context Node Doc := ⟨Registry.empty, []⟩

def setModule (context : Context Node Doc) (module : Text) : Context Node Doc :=
  { context with module := module }

def register [DecidableEq Node] (context : Context Node Doc) (node : Option Node) (doc : Doc) :
    Context Node Doc :=
  { context with registry := context.registry.register node doc }

def lookup [DecidableEq Node] (context : Context Node Doc) (node : Option Node) : Option Doc :=
  context.registry.lookup node

theorem lookup_register [DecidableEq Node] (context : Context Node Doc) (node other : Node)
    (doc : Doc) :
    (context.register (some node) doc).lookup (some other) =
      if other = node then some doc else context.lookup (some other) := by
  by_cases same : other = node
  · subst same
    simp [lookup, register, Registry.lookup, Registry.find?_register_same]
  · simp [lookup, register, Registry.lookup, same,
      Registry.find?_register_other _ _ (Ne.symm same)]

end Context
end SymbolPath.Resolution
