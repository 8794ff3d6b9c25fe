import SymbolPath.Resolution
import SymbolPath.Resolution.Context
import SymbolPath.Resolution.Site

/-!
Two resolvers at work on one store of doclets. Doclets are known by labels, and a registry holds
labels, so that a later change of a doclet shows wherever its label is found. The second resolver
may share the context of the first; each has a table of kinds of its own.
-/

namespace SymbolPath.Resolution

/-- Which of the two resolvers. -/
inductive Seat where
  | first
  | second
deriving DecidableEq, Repr

structure Session (Node Label : Type) where
  kinds : KindTable
  context : Context Node Label
deriving Repr

structure Bench (Node Label : Type) where
  doclets : Registry Label Doclet
  first : Session Node Label
  second : Session Node Label
  shared : Bool
deriving Repr

inductive Command (Node Label : Type) where
  | setModule (identifier : Option Text)
  | reset
  | define (title : Text) (isDocspace : Bool)
  | place (label : Label) (doclet : Doclet)
  | register (node : Option Node) (label : Label)
  | lookup (node : Option Node)
  | resolve (label : Label)
  | qualifyThis (name : Text) (site : Site Node) (label : Label)
  | qualifyInner (name : Text) (site : Site Node)
  | split (path : Text)
  | setName (label : Label) (name : Text)

inductive Reply (Label : Type) where
  | done
  | found (label : Option Label)
  | path (path : Text)
  | name (name : Text)
  | parts (container short : Text)
deriving Repr

namespace Bench

variable {Node Label : Type}

def empty (kinds : KindTable) (shared : Bool) : Bench Node Label :=
  ⟨Registry.empty, ⟨kinds, Context.empty⟩, ⟨kinds, Context.empty⟩, shared⟩

def kindsOf (bench : Bench Node Label) : Seat → KindTable
  | .first => bench.first.kinds
  | .second => bench.second.kinds

def contextOf (bench : Bench Node Label) : Seat → Context Node Label
  | .first => bench.first.context
  | .second => if bench.shared then bench.first.context else bench.second.context

def setKinds (bench : Bench Node Label) (kinds : KindTable) : Seat → Bench Node Label
  | .first => { bench with first := { bench.first with kinds } }
  | .second => { bench with second := { bench.second with kinds } }

def setContext (bench : Bench Node Label) (context : Context Node Label) : Seat → Bench Node Label
  | .first => { bench with first := { bench.first with context } }
  | .second =>
    if bench.shared then { bench with first := { bench.first with context } }
    else { bench with second := { bench.second with context } }

variable [DecidableEq Node] [DecidableEq Label]

/-- The doclet of a label; a label never placed has a doclet without tags. -/
def doclet (bench : Bench Node Label) (label : Label) : Doclet :=
  (bench.doclets.find? label).getD ⟨[], 0⟩

def store (bench : Bench Node Label) (label : Label) (doclet : Doclet) : Bench Node Label :=
  { bench with doclets := bench.doclets.register (some label) doclet }

def docletAt (bench : Bench Node Label) (seat : Seat) (node : Node) : Option Doclet :=
  ((bench.contextOf seat).lookup (some node)).map bench.doclet

def step (bench : Bench Node Label) (seat : Seat) :
    Command Node Label → Bench Node Label × Reply Label
  | .setModule identifier =>
    (bench.setContext ((bench.contextOf seat).setModule (identifier.getD [])) seat, .done)
  | .reset => (bench.setContext Context.empty seat, .done)
  | .define title isDocspace =>
    (bench.setKinds ((bench.kindsOf seat).define title isDocspace) seat, .done)
  | .place label doclet => (bench.store label doclet, .done)
  | .register node label =>
    (bench.setContext ((bench.contextOf seat).register node label) seat, .done)
  | .lookup node => (bench, .found ((bench.contextOf seat).lookup node))
  | .resolve label =>
    let resolved := resolve (bench.kindsOf seat) (bench.contextOf seat).module (bench.doclet label)
    (bench.store label resolved.doclet, .path resolved.path)
  | .qualifyThis name site label =>
    (bench, .name (qualifyThis (bench.docletAt seat) site name (bench.doclet label)).name)
  | .qualifyInner name site =>
    (bench, .name (qualifyInner (bench.docletAt seat) site name).name)
  | .split path => (bench, .parts (Path.split path).1 (Path.split path).2)
  | .setName label name => (bench.store label ((bench.doclet label).set "name" name), .name name)

def run (bench : Bench Node Label) :
    List (Seat × Command Node Label) → Bench Node Label × List (Reply Label)
  | [] => (bench, [])
  | (seat, command) :: rest =>
    let (next, reply) := bench.step seat command
    let (last, replies) := run next rest
    (last, reply :: replies)

end Bench

namespace Bench

variable {Node Label : Type}

section Parts

variable (bench : Bench Node Label) (kinds : KindTable) (context : Context Node Label)
  (seat other : Seat)

@[simp] theorem contextOf_setContext : (bench.setContext context seat).contextOf seat = context := by
  cases seat with
  | first => rfl
  | second => cases shared : bench.shared <;> simp [setContext, contextOf, shared]

@[simp] theorem kindsOf_setContext :
    (bench.setContext context seat).kindsOf other = bench.kindsOf other := by
  cases seat with
  | first => cases other <;> rfl
  | second => cases shared : bench.shared <;> cases other <;> simp [setContext, kindsOf, shared]

@[simp] theorem doclets_setContext : (bench.setContext context seat).doclets = bench.doclets := by
  cases seat with
  | first => rfl
  | second => cases shared : bench.shared <;> simp [setContext, shared]

@[simp] theorem shared_setContext : (bench.setContext context seat).shared = bench.shared := by
  cases seat with
  | first => rfl
  | second => cases shared : bench.shared <;> simp [setContext, shared]

@[simp] theorem kindsOf_setKinds : (bench.setKinds kinds seat).kindsOf seat = kinds := by
  cases seat <;> rfl

@[simp] theorem contextOf_setKinds :
    (bench.setKinds kinds seat).contextOf other = bench.contextOf other := by
  cases seat <;> cases other <;> rfl

@[simp] theorem doclets_setKinds : (bench.setKinds kinds seat).doclets = bench.doclets := by
  cases seat <;> rfl

@[simp] theorem shared_setKinds : (bench.setKinds kinds seat).shared = bench.shared := by
  cases seat <;> rfl

theorem kindsOf_setKinds_other (different : seat ≠ other) :
    (bench.setKinds kinds seat).kindsOf other = bench.kindsOf other := by
  cases seat <;> cases other <;> first | rfl | exact absurd rfl different

theorem contextOf_setContext_other (separate : bench.shared = false) (different : seat ≠ other) :
    (bench.setContext context seat).contextOf other = bench.contextOf other := by
  cases seat <;> cases other
  · exact absurd rfl different
  · simp [setContext, contextOf, separate]
  · simp [setContext, contextOf, separate]
  · exact absurd rfl different

end Parts

variable [DecidableEq Label]

section Doclets

variable (bench : Bench Node Label) (label : Label) (doclet : Doclet)

@[simp] theorem doclet_setContext (context : Context Node Label) (seat : Seat) :
    (bench.setContext context seat).doclet label = bench.doclet label := by
  rw [Bench.doclet, Bench.doclet, doclets_setContext]

@[simp] theorem doclet_setKinds (kinds : KindTable) (seat : Seat) :
    (bench.setKinds kinds seat).doclet label = bench.doclet label := by
  rw [Bench.doclet, Bench.doclet, doclets_setKinds]

@[simp] theorem doclet_store : (bench.store label doclet).doclet label = doclet := by
  rw [Bench.doclet, store, Registry.find?_register_same]
  rfl

theorem doclet_store_other {other : Label} (different : label ≠ other) :
    (bench.store label doclet).doclet other = bench.doclet other := by
  rw [Bench.doclet, store, Registry.find?_register_other _ _ different]
  rfl

@[simp] theorem contextOf_store (seat : Seat) :
    (bench.store label doclet).contextOf seat = bench.contextOf seat := by
  cases seat <;> rfl

@[simp] theorem kindsOf_store (seat : Seat) :
    (bench.store label doclet).kindsOf seat = bench.kindsOf seat := by
  cases seat <;> rfl

end Doclets

end Bench
end SymbolPath.Resolution
