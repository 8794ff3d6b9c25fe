import Mathlib.Data.List.Dedup
import SymbolPath.Registry

/-!
A registry against the history of what was registered. A history only grows, and is searched from
its end; a registry keeps of it the entries in force, those whose node was not registered again.
However requests follow each other, both answer alike.
-/

namespace SymbolPath.Registry

variable {Node Doc : Type} [DecidableEq Node]

inductive Request (Node Doc : Type) where
  | register (node : Option Node) (doc : Doc)
  | lookup (node : Option Node)
  | contains (node : Option Node)
  | size
  | clear

inductive Reply (Doc : Type) where
  | done
  | found (doc : Option Doc)
  | known (yes : Bool)
  | count (nodes : Nat)

def serve (registry : Registry Node Doc) : Request Node Doc → Registry Node Doc × Reply Doc
  | .register node doc => (registry.register node doc, .done)
  | .lookup node => (registry, .found (registry.lookup node))
  | .contains node => (registry, .known (registry.contains node))
  | .size => (registry, .count registry.size)
  | .clear => (empty, .done)

def replies {State : Type} (serve : State → Request Node Doc → State × Reply Doc) (state : State) :
    List (Request Node Doc) → List (Reply Doc) × State
  | [] => ([], state)
  | request :: rest =>
      let next := serve state request
      let later := replies serve next.1 rest
      (next.2 :: later.1, later.2)

/-- What was registered, the oldest first. -/
abbrev History (Node Doc : Type) := List (Node × Doc)

namespace History

def register (history : History Node Doc) (node : Option Node) (doc : Doc) : History Node Doc :=
  match node with
  | none => history
  | some node => history ++ [(node, doc)]

def scan (history : History Node Doc) (node : Option Node) : Option Doc :=
  (history.reverse.find? fun entry => some entry.1 == node).map Prod.snd

def serve (history : History Node Doc) : Request Node Doc → History Node Doc × Reply Doc
  | .register node doc => (history.register node doc, .done)
  | .lookup node => (history, .found (history.scan node))
  | .contains node => (history, .known (history.scan node).isSome)
  | .size => (history, .count (history.map Prod.fst).dedup.length)
  | .clear => ([], .done)

/-- The entries whose node has no later one. -/
def inForce : History Node Doc → List (Node × Doc)
  | [] => []
  | entry :: later =>
      if entry.1 ∈ later.map Prod.fst then inForce later else entry :: inForce later

theorem inForce_concat (history : History Node Doc) (node : Node) (doc : Doc) :
    inForce (history ++ [(node, doc)]) =
      (inForce history).filter (fun entry => entry.1 != node) ++ [(node, doc)] := by
  induction history with
  | nil => simp [inForce]
  | cons entry later ih =>
      by_cases shadowed : entry.1 ∈ later.map Prod.fst
      · have still : entry.1 ∈ (later ++ [(node, doc)]).map Prod.fst := by
          rw [List.map_append]
          exact List.mem_append_left _ shadowed
        rw [List.cons_append, inForce, if_pos still, ih, inForce, if_pos shadowed]
      · rw [inForce, if_neg shadowed, List.cons_append, inForce, ih]
        -- the new entry puts out of force just the one of its own node
        by_cases same : entry.1 = node
        · simp [same]
        · simp [shadowed, same]

theorem nodes_inForce (history : History Node Doc) :
    (inForce history).map Prod.fst = (history.map Prod.fst).dedup := by
  induction history with
  | nil => rfl
  | cons entry later ih =>
      by_cases shadowed : entry.1 ∈ later.map Prod.fst
      · rw [inForce, if_pos shadowed, ih, List.map_cons, List.dedup_cons_of_mem shadowed]
      · rw [inForce, if_neg shadowed, List.map_cons, List.map_cons, ih,
          List.dedup_cons_of_notMem shadowed]

theorem find?_inForce_eq_none_iff (history : History Node Doc) (node : Node) :
    (inForce history).find? (fun entry => entry.1 == node) = none ↔
      node ∉ history.map Prod.fst := by
  rw [← List.mem_dedup, ← nodes_inForce, List.find?_eq_none]
  constructor
  · intro silent member
    obtain ⟨entry, isEntry, rfl⟩ := List.mem_map.mp member
    exact silent entry isEntry (beq_self_eq_true entry.1)
  · intro absent entry isEntry same
    exact absent (List.mem_map.mpr ⟨entry, isEntry, beq_iff_eq.mp same⟩)

theorem find?_inForce (history : History Node Doc) (node : Node) :
    (inForce history).find? (fun entry => entry.1 == node) =
      history.reverse.find? fun entry => entry.1 == node := by
  induction history with
  | nil => rfl
  | cons entry later ih =>
      rw [List.reverse_cons, List.find?_append, ← ih]
      by_cases same : entry.1 = node
      · by_cases shadowed : entry.1 ∈ later.map Prod.fst
        · -- a later entry of the node answers for it
          have answered := mt (find?_inForce_eq_none_iff later node).mp
            (not_not_intro (same ▸ shadowed))
          rw [inForce, if_pos shadowed, Option.or_of_isSome (Option.isSome_iff_ne_none.mpr answered)]
        · have silent := (find?_inForce_eq_none_iff later node).mpr (same ▸ shadowed)
          rw [inForce, if_neg shadowed, silent]
          simp [same]
      · have passed : [entry].find? (fun entry => entry.1 == node) = none := by simp [same]
        rw [passed, Option.or_none, inForce]
        split
        · rfl
        · simp [same]

end History

/-- The registry holds what is in force of the history, in the order of the last registrations. -/
def Keeps (registry : Registry Node Doc) (history : History Node Doc) : Prop :=
  registry.entries = history.inForce

theorem Keeps.register {registry : Registry Node Doc} {history : History Node Doc}
    (keeps : Keeps registry history) (node : Option Node) (doc : Doc) :
    Keeps (registry.register node doc) (history.register node doc) := by
  cases node with
  | none => exact keeps
  | some node =>
      unfold Keeps at keeps ⊢
      rw [Registry.register, History.register, History.inForce_concat, keeps]

theorem Keeps.lookup {registry : Registry Node Doc} {history : History Node Doc}
    (keeps : Keeps registry history) (node : Option Node) :
    registry.lookup node = history.scan node := by
  cases node with
  | none =>
      have silent : history.reverse.find? (fun entry => some entry.1 == none) = none := by simp
      rw [History.scan, silent]
      rfl
  | some node =>
      simp only [Registry.lookup, Option.bind_some, find?, History.scan, Option.some_beq_some]
      rw [keeps, History.find?_inForce]

theorem Keeps.size {registry : Registry Node Doc} {history : History Node Doc}
    (keeps : Keeps registry history) :
    registry.size = (history.map Prod.fst).dedup.length := by
  rw [Registry.size, keeps, ← History.nodes_inForce, List.length_map]

theorem Keeps.step {registry : Registry Node Doc} {history : History Node Doc}
    (keeps : Keeps registry history) (request : Request Node Doc) :
    (registry.serve request).2 = (history.serve request).2 ∧
      Keeps (registry.serve request).1 (history.serve request).1 := by
  cases request with
  | register node doc => exact ⟨rfl, keeps.register node doc⟩
  | lookup node => exact ⟨congrArg Reply.found (keeps.lookup node), keeps⟩
  | contains node =>
      have known : registry.contains node = (history.scan node).isSome := by
        rw [contains, keeps.lookup]
      exact ⟨congrArg Reply.known known, keeps⟩
  | size => exact ⟨congrArg Reply.count keeps.size, keeps⟩
  | clear => exact ⟨rfl, rfl⟩

theorem Keeps.run {registry : Registry Node Doc} {history : History Node Doc}
    (keeps : Keeps registry history) (requests : List (Request Node Doc)) :
    (replies serve registry requests).1 = (replies History.serve history requests).1 ∧
      Keeps (replies serve registry requests).2 (replies History.serve history requests).2 := by
  induction requests generalizing registry history with
  | nil => exact ⟨rfl, keeps⟩
  | cons request rest ih =>
      obtain ⟨reply, next⟩ := keeps.step request
      obtain ⟨later, after⟩ := ih next
      exact ⟨congrArg₂ List.cons reply later, after⟩

/-- A registry answers as its history does, and holds what is in force in it. -/
theorem replies_from_history (requests : List (Request Node Doc)) :
    (replies serve empty requests).1 = (replies History.serve [] requests).1 ∧
      (replies serve empty requests).2.entries =
        (replies History.serve [] requests).2.inForce := by
  have started : Keeps (empty : Registry Node Doc) [] := rfl
  exact started.run requests

end SymbolPath.Registry
