import SymbolPath.Proofs.Resolution.Joined
import SymbolPath.Resolution.Bench

/-!
Containers in containers. A symbol that is declared in a function, or held by an object literal, is
qualified by the path that was registered for the one around it, resolved, and registered in turn.
At any depth the path is that of the outermost container, extended level by level.
-/

namespace SymbolPath.Resolution

open SymbolPath.Path

inductive Nesting where
  | closure
  | literal
deriving DecidableEq, Repr

def Nesting.extend : Nesting → Text → Text → Text
  | .closure, path, key => path ++ '~' :: key
  | .literal, path, key => join path key

def Nesting.container : Nesting → Text → Text
  | .closure, path => path ++ ['~']
  | .literal, path => path

theorem Nesting.extend_eq_join (nesting : Nesting) (path key : Text) :
    nesting.extend path key = join (nesting.container path) key := by
  cases nesting with
  | closure => exact (join_marked rfl path key).symm
  | literal => rfl

theorem Nesting.container_ne_nil {path : Text} (given : path ≠ []) (nesting : Nesting) :
    nesting.container path ≠ [] := by
  cases nesting with
  | closure => simp [container]
  | literal => exact given

theorem Nesting.container_holds {module path : Text} (holds : Container module path)
    (nesting : Nesting) : Container module (nesting.container path) := by
  cases nesting with
  | closure => exact holds.mark rfl
  | literal => exact holds

theorem Nesting.marksInner_container {path : Text} (given : path ≠ []) :
    marksInner (Nesting.closure.container path) = true := by
  have long : 0 < path.length := List.length_pos_iff.mpr given
  simp [container, marksInner, endsIn, long]

/-- A symbol on its way into a container: where it stands, its key, its doclet so far with the label
that it goes by, and the node that it is registered for. -/
structure Level (Node Label : Type) where
  nesting : Nesting
  site : Site Node
  key : Text
  doclet : Doclet
  label : Label
  node : Node

variable {Node Label : Type}

def Reply.text : Reply Label → Text
  | .name given => given
  | .path given => given
  | _ => []

namespace Level

/-- How the key is qualified: as a symbol of a closure, or as a member of an object literal. -/
def qualify (level : Level Node Label) : Command Node Label :=
  match level.nesting with
  | .closure => .qualifyInner level.key level.site
  | .literal => .qualifyThis level.key level.site level.label

def extend (path : Text) (level : Level Node Label) : Text :=
  level.nesting.extend path level.key

def StandsIn (level : Level Node Label) (outer : Node) : Prop :=
  match level.nesting with
  | .closure => ∃ isNamed, level.site.enclosing = some ⟨outer, isNamed⟩
  | .literal => level.site.objectLiteral = some outer

/-- The doclet is a new one that names no container, of a kind without a space of its own. -/
structure Fits (kinds : KindTable) (outer : Node) (outerLabel : Label) (level : Level Node Label) :
    Prop where
  inside : level.StandsIn outer
  fresh : outerLabel ≠ level.label
  untagged : level.doclet.memberof = []
  notFile : level.doclet.kind ≠ "file"
  noSpace : kinds.isDocspace level.doclet.kind = false
  key : Joinable level.key

end Level

def Nested (kinds : KindTable) : Node → Label → List (Level Node Label) → Prop
  | _, _, [] => True
  | outer, outerLabel, level :: rest =>
    level.Fits kinds outer outerLabel ∧ Nested kinds level.node level.label rest

def innermost : Node → List (Level Node Label) → Node
  | outer, [] => outer
  | _, level :: rest => innermost level.node rest

namespace Bench

variable [DecidableEq Node] [DecidableEq Label]

/-- Qualifies the key of a level, resolves its doclet under that name, and registers it. -/
def nest (seat : Seat) (bench : Bench Node Label) (level : Level Node Label) : Bench Node Label :=
  let placed := (bench.step seat (.place level.label level.doclet)).1
  let name := (placed.step seat level.qualify).2.text
  (placed.run [(seat, .setName level.label name), (seat, .resolve level.label),
    (seat, .register (some level.node) level.label)]).1

section Nest

variable (seat : Seat) (bench : Bench Node Label) (level : Level Node Label)

def qualified : Text :=
  ((bench.store level.label level.doclet).step seat level.qualify).2.text

theorem doclet_nest :
    (bench.nest seat level).doclet level.label =
      (resolve (bench.kindsOf seat) (bench.contextOf seat).module
        (level.doclet.set "name" (bench.qualified seat level))).doclet := by
  simp [nest, run, step, qualified]

theorem contextOf_nest :
    (bench.nest seat level).contextOf seat =
      (bench.contextOf seat).register (some level.node) level.label := by
  simp [nest, run, step]

theorem kindsOf_nest : (bench.nest seat level).kindsOf seat = bench.kindsOf seat := by
  simp [nest, run, step]

end Nest

/-- The doclet registered for a node has the path of a container. -/
structure Reached (bench : Bench Node Label) (seat : Seat) (node : Node) (label : Label)
    (path : Text) : Prop where
  registered : (bench.contextOf seat).lookup (some node) = some label
  written : (bench.doclet label).path = path
  given : path ≠ []
  holds : Container (bench.contextOf seat).module path

section Step

variable {bench : Bench Node Label} {seat : Seat} {outer : Node} {outerLabel : Label} {path : Text}
variable (reached : Reached bench seat outer outerLabel path)
variable {level : Level Node Label} (fits : level.Fits (bench.kindsOf seat) outer outerLabel)
include reached fits

/-- The doclet of what is around is found as it was, the doclet of the level being another. -/
theorem Reached.docletAt :
    (bench.store level.label level.doclet).docletAt seat outer = some (bench.doclet outerLabel) := by
  rw [Bench.docletAt, contextOf_store, reached.registered, Option.map_some,
    doclet_store_other _ _ _ (Ne.symm fits.fresh)]

theorem Reached.qualified : bench.qualified seat level = level.extend path := by
  have found := reached.docletAt fits
  have notEmpty : path.isEmpty = false := by simpa using reached.given
  have inside := fits.inside
  unfold Level.StandsIn at inside
  unfold Bench.qualified Level.qualify Level.extend
  generalize level.nesting = nesting at inside ⊢
  cases nesting with
  | closure =>
      obtain ⟨isNamed, enclosing⟩ := inside
      simp only [step, Reply.text, qualifyInner, closurePath, enclosing, found, reached.written,
        notEmpty]
      rfl
  | literal =>
      have literal : level.site.objectLiteral = some outer := inside
      have kept := foldPrototype_of_absent reached.holds.noPrototype
      simp only [step, Reply.text, qualifyThis, literal, found, reached.written, kept, notEmpty]
      rfl

/-- Nesting a level registers it under the path of what is around it, extended by its key. -/
theorem Reached.nest :
    Reached (bench.nest seat level) seat level.node level.label (level.extend path) ∧
      (level.nesting = .closure → ((bench.nest seat level).doclet level.label).isInner = true) := by
  have joined : level.extend path = join (level.nesting.container path) level.key :=
    level.nesting.extend_eq_join path level.key
  have given := level.nesting.container_ne_nil reached.given
  have holds := level.nesting.container_holds reached.holds
  have named : (level.doclet.set "name" (bench.qualified seat level)).name =
      join (level.nesting.container path) level.key := by
    rw [← joined, ← reached.qualified fits]
    exact Doclet.value_set_same _ _ _
  have untagged : (level.doclet.set "name" (bench.qualified seat level)).memberof = [] :=
    (Doclet.value_set_other _ _ (by decide)).trans fits.untagged
  have kind : (level.doclet.set "name" (bench.qualified seat level)).kind = level.doclet.kind :=
    Doclet.value_set_other _ _ (by decide)
  have notFile := kind ▸ fits.notFile
  have noSpace := kind ▸ fits.noSpace
  constructor
  · constructor
    · rw [contextOf_nest, Context.lookup_register, if_pos rfl]
    · rw [doclet_nest, joined]
      exact (resolve_join holds given fits.key named untagged notFile noSpace).2.1
    · rw [joined]
      exact join_ne_nil given fits.key
    · rw [contextOf_nest, joined]
      exact holds.join given fits.key
  · intro closure
    rw [doclet_nest]
    apply Doclet.isInner_of_access
    apply access_resolve_join holds given fits.key named untagged notFile noSpace
    rw [closure]
    exact Nesting.marksInner_container reached.given

end Step

/-- At any depth, what was nested level by level is registered under the extended path. -/
theorem Reached.run {bench : Bench Node Label} {seat : Seat} {outer : Node} {outerLabel : Label}
    {path : Text} (reached : Reached bench seat outer outerLabel path)
    {levels : List (Level Node Label)} (nested : Nested (bench.kindsOf seat) outer outerLabel levels) :
    let last := levels.foldl (Bench.nest seat) bench
    (∃ label, Reached last seat (innermost outer levels) label (levels.foldl Level.extend path)) ∧
      ∀ level, levels.getLast? = some level →
        (last.doclet level.label).path = levels.foldl Level.extend path ∧
          (level.nesting = .closure → (last.doclet level.label).isInner = true) := by
  induction levels generalizing bench outer outerLabel path with
  | nil => exact ⟨⟨outerLabel, reached⟩, fun _ none => nomatch none⟩
  | cons level rest ih =>
      obtain ⟨fits, further⟩ := nested
      obtain ⟨next, inner⟩ := reached.nest fits
      rw [← bench.kindsOf_nest seat level] at further
      obtain ⟨deepest, lasts⟩ := ih next further
      refine ⟨deepest, fun last isLast => ?_⟩
      cases rest with
      | nil =>
          cases isLast
          exact ⟨next.written, inner⟩
      | cons deeper rest => exact lasts last isLast

end Bench

/-- The path of a symbol nested in a container is the path of the container, extended level by level:
by a tilde and the key for each closure, by joining the key for each object literal. A symbol of a
closure is an inner one. -/
theorem nested_path [DecidableEq Node] [DecidableEq Label] {bench : Bench Node Label} {seat : Seat}
    {outer : Node} {outerLabel : Label}
    (registered : (bench.contextOf seat).lookup (some outer) = some outerLabel)
    (given : (bench.doclet outerLabel).path ≠ [])
    (holds : Container (bench.contextOf seat).module (bench.doclet outerLabel).path)
    {levels : List (Level Node Label)}
    (nested : Nested (bench.kindsOf seat) outer outerLabel levels) :
    let last := levels.foldl (Bench.nest seat) bench
    let path := levels.foldl Level.extend (bench.doclet outerLabel).path
    (last.docletAt seat (innermost outer levels)).map Doclet.path = some path ∧
      ∀ level, levels.getLast? = some level → (last.doclet level.label).path = path ∧
        (level.nesting = .closure → (last.doclet level.label).isInner = true) := by
  intro last path
  have reached : Bench.Reached bench seat outer outerLabel (bench.doclet outerLabel).path :=
    ⟨registered, rfl, given, holds⟩
  obtain ⟨⟨label, deepest⟩, lasts⟩ := reached.run nested
  refine ⟨?_, lasts⟩
  rw [Bench.docletAt, deepest.registered, Option.map_some, Option.map_some, deepest.written]

/-- A function that a module exports declares an object; a method of the object declares a value. -/
theorem nested_path_method :
    let bench : Bench Nat Nat := ((Bench.empty KindTable.standard false).run
      [(.first, .setModule (some "lib")), (.first, .place 0 ⟨[⟨"name", "exports.make"⟩], 0⟩),
        (.first, .resolve 0), (.first, .register (some 7) 0)]).1
    let state : Level Nat Nat := ⟨.closure, ⟨none, some ⟨7, true⟩⟩, "state", ⟨[], 0⟩, 1, 8⟩
    let get : Level Nat Nat := ⟨.literal, ⟨some 8, none⟩, "get", ⟨[⟨"isa", "method"⟩], 0⟩, 2, 9⟩
    let cached : Level Nat Nat := ⟨.closure, ⟨none, some ⟨9, false⟩⟩, "cached", ⟨[], 0⟩, 3, 4⟩
    let last := [state, get, cached].foldl (Bench.nest .first) bench
    (bench.doclet 0).path = "lib.make" ∧
      Nested (bench.kindsOf .first) 7 0 [state, get, cached] ∧
      (last.docletAt .first 4).map Doclet.path = some "lib.make~state.get~cached" ∧
      (last.doclet 3).isInner = true := by
  intro bench state get cached last
  have kinds : bench.kindsOf .first = KindTable.standard := rfl
  have nested : Nested (bench.kindsOf .first) 7 0 [state, get, cached] := by
    rw [kinds]
    refine ⟨⟨⟨true, rfl⟩, by decide, rfl, by decide, by decide, by decide⟩, ?_⟩
    refine ⟨⟨rfl, by decide, rfl, by decide, by decide, by decide⟩, ?_⟩
    refine ⟨⟨⟨false, rfl⟩, by decide, rfl, by decide, by decide, by decide⟩, ?_⟩
    trivial
  have path : (bench.doclet 0).path = "lib.make" := by decide +kernel
  have module : (bench.contextOf .first).module = "lib" := by decide +kernel
  have holds : Container (bench.contextOf .first).module (bench.doclet 0).path := by
    rw [path, module]
    decide +kernel
  have given : (bench.doclet 0).path ≠ [] := by
    rw [path]
    decide
  obtain ⟨found, inner⟩ := nested_path (by decide +kernel) given holds nested
  rw [path] at found
  exact ⟨path, nested, found, (inner cached rfl).2 rfl⟩

end SymbolPath.Resolution
