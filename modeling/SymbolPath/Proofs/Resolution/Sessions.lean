import SymbolPath.Resolution.Bench

/-!
Sessions side by side. As long as two resolvers share no context and are given no doclet in common,
neither notices the other, though they may document the same nodes: in whatever order their commands
come, each gets the replies that its own commands would have had without the other.
-/

namespace SymbolPath.Resolution

variable {Node Label : Type}

def Seat.other : Seat → Seat
  | .first => .second
  | .second => .first

def Command.label? : Command Node Label → Option Label
  | .place label _ => some label
  | .register _ label => some label
  | .resolve label => some label
  | .qualifyThis _ _ label => some label
  | .setName label _ => some label
  | _ => none

def commandsOf (seat : Seat) (commands : List (Seat × Command Node Label)) :
    List (Seat × Command Node Label) :=
  commands.filter fun entry => entry.1 = seat

def repliesOf (seat : Seat) (commands : List (Seat × Command Node Label))
    (replies : List (Reply Label)) : List (Reply Label) :=
  ((commands.zip replies).filter fun entry => entry.1.1 = seat).map Prod.snd

def passedTo (seat : Seat) (commands : List (Seat × Command Node Label)) : List Label :=
  (commandsOf seat commands).filterMap fun entry => entry.2.label?

theorem mem_passedTo {seat : Seat} {command : Command Node Label}
    {commands : List (Seat × Command Node Label)} (given : (seat, command) ∈ commands)
    {label : Label} (passes : command.label? = some label) : label ∈ passedTo seat commands := by
  have own : (seat, command) ∈ commandsOf seat commands := by
    simpa [commandsOf] using given
  exact List.mem_filterMap.mpr ⟨(seat, command), own, passes⟩

section Within

variable [DecidableEq Node] {Own : Label → Prop} {context : Context Node Label}

def Context.Within (Own : Label → Prop) (context : Context Node Label) : Prop :=
  ∀ node label, context.lookup node = some label → Own label

theorem Context.Within.empty : (Context.empty : Context Node Label).Within Own := by
  intro node label found
  cases node <;> cases found

theorem Context.Within.register (within : context.Within Own) (node : Option Node) {label : Label}
    (owned : Own label) : (context.register node label).Within Own := by
  intro other found lookup
  cases node with
  | none => exact within other found lookup
  | some node =>
      cases other with
      | none => cases lookup
      | some other =>
          rw [Context.lookup_register] at lookup
          split at lookup
          · cases lookup
            exact owned
          · exact within (some other) found lookup

end Within

namespace Bench

variable [DecidableEq Node] [DecidableEq Label]

/-- Benches that are the same to one seat: its kinds, its context, and the doclets that it owns. -/
structure Alike (seat : Seat) (Own : Label → Prop) (a b : Bench Node Label) : Prop where
  kinds : a.kindsOf seat = b.kindsOf seat
  context : a.contextOf seat = b.contextOf seat
  within : (a.contextOf seat).Within Own
  doclet : ∀ label, Own label → a.doclet label = b.doclet label

section Alike

variable {seat : Seat} {Own : Label → Prop} {a b : Bench Node Label} (alike : Alike seat Own a b)
include alike

theorem Alike.docletAt : a.docletAt seat = b.docletAt seat := by
  funext node
  unfold Bench.docletAt
  rw [← alike.context]
  cases found : (a.contextOf seat).lookup (some node) with
  | none => rfl
  | some label => exact congrArg some (alike.doclet label (alike.within _ label found))

theorem Alike.setContext {context : Context Node Label} (within : context.Within Own) :
    Alike seat Own (a.setContext context seat) (b.setContext context seat) where
  kinds := by simpa using alike.kinds
  context := by simp
  within := by simpa using within
  doclet := by simpa using alike.doclet

theorem Alike.setKinds (kinds : KindTable) :
    Alike seat Own (a.setKinds kinds seat) (b.setKinds kinds seat) where
  kinds := by simp
  context := by simpa using alike.context
  within := by simpa using alike.within
  doclet := by simpa using alike.doclet

theorem Alike.store (label : Label) (doclet : Doclet) :
    Alike seat Own (a.store label doclet) (b.store label doclet) where
  kinds := by simpa using alike.kinds
  context := by simpa using alike.context
  within := by simpa using alike.within
  doclet := by
    intro other owned
    by_cases same : label = other
    · subst same
      simp
    · rw [doclet_store_other _ _ _ same, doclet_store_other _ _ _ same]
      exact alike.doclet other owned

theorem Alike.step_own (command : Command Node Label)
    (owned : ∀ label, command.label? = some label → Own label) :
    (a.step seat command).2 = (b.step seat command).2 ∧
      Alike seat Own (a.step seat command).1 (b.step seat command).1 := by
  cases command with
  | setModule identifier =>
      refine ⟨rfl, ?_⟩
      simp only [step, ← alike.context]
      exact alike.setContext alike.within
  | reset => exact ⟨rfl, alike.setContext .empty⟩
  | define title isDocspace =>
      refine ⟨rfl, ?_⟩
      simp only [step, ← alike.kinds]
      exact alike.setKinds _
  | place label doclet => exact ⟨rfl, alike.store label doclet⟩
  | register node label =>
      refine ⟨rfl, ?_⟩
      simp only [step, ← alike.context]
      exact alike.setContext (alike.within.register node (owned label rfl))
  | lookup node =>
      refine ⟨?_, alike⟩
      simp only [step, alike.context]
  | resolve label =>
      have same : resolve (a.kindsOf seat) (a.contextOf seat).module (a.doclet label) =
          resolve (b.kindsOf seat) (b.contextOf seat).module (b.doclet label) := by
        rw [alike.kinds, alike.context, alike.doclet label (owned label rfl)]
      refine ⟨congrArg (fun resolved : Resolved => Reply.path resolved.path) same, ?_⟩
      simp only [step, same]
      exact alike.store label _
  | qualifyThis name site label =>
      refine ⟨?_, alike⟩
      simp only [step, alike.docletAt, alike.doclet label (owned label rfl)]
  | qualifyInner name site =>
      refine ⟨?_, alike⟩
      simp only [step, alike.docletAt]
  | split path => exact ⟨rfl, alike⟩
  | setName label name =>
      refine ⟨rfl, ?_⟩
      simp only [step, alike.doclet label (owned label rfl)]
      exact alike.store label _

section Foreign

variable (separate : a.shared = false) {other : Seat} (different : other ≠ seat)
include separate different

theorem Alike.setContext_other (context : Context Node Label) :
    Alike seat Own (a.setContext context other) b where
  kinds := by simpa using alike.kinds
  context := by simpa [contextOf_setContext_other _ _ _ _ separate different] using alike.context
  within := by simpa [contextOf_setContext_other _ _ _ _ separate different] using alike.within
  doclet := by simpa using alike.doclet

omit separate in
theorem Alike.setKinds_other (kinds : KindTable) : Alike seat Own (a.setKinds kinds other) b where
  kinds := (kindsOf_setKinds_other _ _ _ _ different).trans alike.kinds
  context := by simpa using alike.context
  within := by simpa using alike.within
  doclet := by simpa using alike.doclet

omit separate different in
theorem Alike.store_other {label : Label} (foreign : ¬ Own label) (doclet : Doclet) :
    Alike seat Own (a.store label doclet) b where
  kinds := by simpa using alike.kinds
  context := by simpa using alike.context
  within := by simpa using alike.within
  doclet := by
    intro own owned
    have apart : label ≠ own := by
      rintro rfl
      exact foreign owned
    rw [doclet_store_other _ _ _ apart]
    exact alike.doclet own owned

/-- A command of the other seat leaves the bench the same to this one, as long as it is given no
doclet of this one. -/
theorem Alike.step_other (command : Command Node Label)
    (foreign : ∀ label, command.label? = some label → ¬ Own label) :
    Alike seat Own (a.step other command).1 b := by
  cases command with
  | setModule identifier => exact alike.setContext_other separate different _
  | reset => exact alike.setContext_other separate different _
  | define title isDocspace => exact alike.setKinds_other different _
  | place label doclet => exact alike.store_other (foreign label rfl) doclet
  | register node label => exact alike.setContext_other separate different _
  | lookup node => exact alike
  | resolve label => exact alike.store_other (foreign label rfl) _
  | qualifyThis name site label => exact alike
  | qualifyInner name site => exact alike
  | split path => exact alike
  | setName label name => exact alike.store_other (foreign label rfl) _

end Foreign

end Alike

theorem shared_step (bench : Bench Node Label) (seat : Seat) (command : Command Node Label) :
    (bench.step seat command).1.shared = bench.shared := by
  cases command <;> first | rfl | exact shared_setContext _ _ _ | exact shared_setKinds _ _ _

theorem run_cons (bench : Bench Node Label) (seat : Seat) (command : Command Node Label)
    (rest : List (Seat × Command Node Label)) :
    bench.run ((seat, command) :: rest) =
      (((bench.step seat command).1.run rest).1,
        (bench.step seat command).2 :: ((bench.step seat command).1.run rest).2) := rfl

theorem Alike.run {seat : Seat} {Own : Label → Prop} {a b : Bench Node Label}
    (alike : Alike seat Own a b) (separate : a.shared = false)
    (commands : List (Seat × Command Node Label))
    (owned : ∀ entry ∈ commands, ∀ label, entry.2.label? = some label →
      (Own label ↔ entry.1 = seat)) :
    repliesOf seat commands (a.run commands).2 = (b.run (commandsOf seat commands)).2 ∧
      Alike seat Own (a.run commands).1 (b.run (commandsOf seat commands)).1 := by
  induction commands generalizing a b with
  | nil => exact ⟨rfl, alike⟩
  | cons entry rest ih =>
      obtain ⟨giver, command⟩ := entry
      have here := owned (giver, command) List.mem_cons_self
      have later := fun entry among => owned entry (List.mem_cons_of_mem _ among)
      have still : (a.step giver command).1.shared = false :=
        (shared_step a giver command).trans separate
      -- a command of the other seat falls out of the run beside it
      by_cases own : giver = seat
      · subst own
        obtain ⟨reply, after⟩ :=
          alike.step_own command fun label passes => (here label passes).mpr rfl
        obtain ⟨replies, last⟩ := ih after still later
        have kept : commandsOf giver ((giver, command) :: rest) =
            (giver, command) :: commandsOf giver rest := by simp [commandsOf]
        rw [kept, run_cons, run_cons]
        refine ⟨?_, last⟩
        dsimp only
        rw [← replies, ← reply]
        simp [repliesOf]
      · have after := alike.step_other separate own command fun label passes owns =>
          own ((here label passes).mp owns)
        obtain ⟨replies, last⟩ := ih after still later
        have skipped : commandsOf seat ((giver, command) :: rest) = commandsOf seat rest := by
          simp [commandsOf, own]
        rw [skipped, run_cons]
        refine ⟨?_, last⟩
        rw [← replies]
        simp [repliesOf, own]

end Bench

section Apart

variable [DecidableEq Node]

/-- Two sessions with nothing in common: the contexts are separate, no doclet is passed to both, and
none that is registered with one of them is passed to the other. -/
structure Apart (bench : Bench Node Label) (commands : List (Seat × Command Node Label)) : Prop where
  separate : bench.shared = false
  passed : ∀ label ∈ passedTo .first commands, label ∉ passedTo .second commands
  registered : ∀ seat : Seat,
    (bench.contextOf seat).Within fun label => label ∉ passedTo seat.other commands

variable {bench : Bench Node Label} {commands : List (Seat × Command Node Label)}

theorem Apart.owned (apart : Apart bench commands) (seat : Seat)
    {entry : Seat × Command Node Label} (among : entry ∈ commands) {label : Label}
    (passes : entry.2.label? = some label) :
    label ∉ passedTo seat.other commands ↔ entry.1 = seat := by
  obtain ⟨giver, command⟩ := entry
  have passed := mem_passedTo among passes
  constructor
  · intro owned
    cases seat <;> cases giver
    · rfl
    · exact absurd passed owned
    · exact absurd passed owned
    · rfl
  · rintro rfl other
    cases giver with
    | first => exact apart.passed label passed other
    | second => exact apart.passed label other passed

theorem Apart.of_empty (separate : bench.shared = false)
    (none : ∀ seat : Seat, bench.contextOf seat = Context.empty)
    (passed : ∀ label ∈ passedTo .first commands, label ∉ passedTo .second commands) :
    Apart bench commands := by
  refine ⟨separate, passed, fun seat => ?_⟩
  rw [none seat]
  exact .empty

/-- However the commands are interleaved, each session has the replies, the context and the kinds
that its own commands alone give it, and so have its doclets their tags. -/
theorem sessions_independent [DecidableEq Label] (apart : Apart bench commands) (seat : Seat) :
    let whole := bench.run commands
    let alone := bench.run (commandsOf seat commands)
    repliesOf seat commands whole.2 = alone.2 ∧
      whole.1.contextOf seat = alone.1.contextOf seat ∧
      whole.1.kindsOf seat = alone.1.kindsOf seat ∧
      ∀ label, label ∉ passedTo seat.other commands →
        whole.1.doclet label = alone.1.doclet label := by
  intro whole alone
  have alike : Bench.Alike seat (fun label => label ∉ passedTo seat.other commands) bench bench :=
    ⟨rfl, rfl, apart.registered seat, fun _ _ => rfl⟩
  obtain ⟨replies, last⟩ := alike.run apart.separate commands
    fun entry among label passes => apart.owned seat among passes
  exact ⟨replies, last.context, last.kinds, last.doclet⟩

end Apart

/-- Both sessions document the same function, under modules and kinds of their own. -/
theorem sessions_independent_function :
    let site : Site Nat := ⟨none, some ⟨7, true⟩⟩
    let commands : List (Seat × Command Nat Nat) :=
      [(.first, .setModule (some "left")), (.second, .setModule (some "right")),
        (.second, .define "method" true), (.first, .place 0 ⟨[⟨"name", "exports.f"⟩], 0⟩),
        (.second, .place 1 ⟨[⟨"name", "exports.f"⟩, ⟨"isa", "method"⟩], 0⟩),
        (.second, .resolve 1), (.first, .resolve 0), (.first, .register (some 7) 0),
        (.second, .register (some 7) 1), (.first, .qualifyInner "x" site), (.second, .reset)]
    let bench : Bench Nat Nat := Bench.empty KindTable.standard false
    let whole := (bench.run commands).1
    let alone := (bench.run (commandsOf .first commands)).1
    Apart bench commands ∧ whole.contextOf .first = alone.contextOf .first ∧
      (whole.doclet 0).path = "left.f" ∧ (whole.doclet 1).path = "right.method:f" ∧
      whole.doclet 0 = alone.doclet 0 := by
  intro site commands bench whole alone
  have apart : Apart bench commands := by
    apply Apart.of_empty rfl ?_ (by decide)
    intro seat
    cases seat <;> rfl
  obtain ⟨_, context, _, doclets⟩ := sessions_independent apart .first
  exact ⟨apart, context, by decide +kernel, by decide +kernel, doclets 0 (by decide)⟩

end SymbolPath.Resolution
