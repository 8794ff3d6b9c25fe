import SymbolPath.Proofs.Syntax.Around
import SymbolPath.Syntax.Code

/-!
Looking around in a file without equal nodes. Every node stands for itself there, so what a look
finds does not depend on what was seen before, and it leads from a statement to nodes at or below
it.
-/

namespace SymbolPath.Syntax

open Cursor

def Sightings.Of (tree : Tree) (seen : Sightings) : Prop :=
  ∀ c ∈ seen.cursors, c ∈ nodes tree

/-- Whatever was seen before in the file, the look finds the same, and what it finds is as said. -/
def Finds {α : Type} (tree : Tree) (look : Browse α) (said : α → Prop) : Prop :=
  ∃ found, said found ∧ ∀ seen : Sightings, seen.Of tree →
    ∃ next : Sightings, look.run seen = (found, next) ∧ next.Of tree

def Browse.glance {α : Type} (look : Browse α) : α :=
  (look.run Sightings.empty).1

theorem of_empty (tree : Tree) : Sightings.empty.Of tree :=
  fun _ member => nomatch member

section Rules

variable {α β : Type} {tree : Tree} {look : Browse α} {said : α → Prop}

theorem Finds.pure {found : α} (holds : said found) : Finds tree (Pure.pure found) said :=
  ⟨found, holds, fun seen inFile => ⟨seen, rfl, inFile⟩⟩

theorem Finds.bind {further : α → Browse β} {saidNext : β → Prop} (first : Finds tree look said)
    (next : ∀ found, said found → Finds tree (further found) saidNext) :
    Finds tree (look >>= further) saidNext := by
  obtain ⟨found, holds, runs⟩ := first
  obtain ⟨result, holdsNext, runsNext⟩ := next found holds
  refine ⟨result, holdsNext, fun seen inFile => ?_⟩
  obtain ⟨middle, run, middleInFile⟩ := runs seen inFile
  obtain ⟨last, runNext, lastInFile⟩ := runsNext middle middleInFile
  refine ⟨last, ?_, lastInFile⟩
  rw [StateT.run_bind, run]
  exact runNext

theorem Finds.map {f : α → β} {saidNext : β → Prop} (first : Finds tree look said)
    (next : ∀ found, said found → saidNext (f found)) : Finds tree (f <$> look) saidNext := by
  rw [map_eq_pure_bind]
  exact first.bind fun found holds => Finds.pure (next found holds)

theorem Finds.imp {weaker : α → Prop} (finds : Finds tree look said)
    (weaken : ∀ found, said found → weaker found) : Finds tree look weaker := by
  obtain ⟨found, holds, runs⟩ := finds
  exact ⟨found, weaken found holds, runs⟩

theorem Finds.run (finds : Finds tree look said) {seen : Sightings} (inFile : seen.Of tree) :
    ∃ next : Sightings, look.run seen = (look.glance, next) ∧ next.Of tree := by
  obtain ⟨found, _, runs⟩ := finds
  obtain ⟨_, atOnce, _⟩ := runs Sightings.empty (of_empty tree)
  have same : look.glance = found := by rw [Browse.glance, atOnce]
  rw [same]
  exact runs seen inFile

theorem Finds.glance (finds : Finds tree look said) : said look.glance := by
  obtain ⟨found, holds, runs⟩ := finds
  obtain ⟨_, atOnce, _⟩ := runs Sightings.empty (of_empty tree)
  have same : look.glance = found := by rw [Browse.glance, atOnce]
  rwa [same]

end Rules

theorem mem_of_findAmong {accept : Tree → Bool} {parent : Tree} {up : List Crumb}
    {trees : List Tree} {c : Cursor} (found : Cursor.findAmong accept parent up trees = some c) :
    c ∈ Cursor.childrenAmong parent up trees := by
  induction trees with
  | nil => cases found
  | cons tree later ih =>
      by_cases taken : accept tree = true
      · simp only [Cursor.findAmong, taken, if_true, Option.some.injEq] at found
        exact List.mem_cons.mpr (.inl found.symm)
      · simp only [Cursor.findAmong, if_neg taken] at found
        exact List.mem_cons_of_mem _ (ih found)

theorem accepted_of_findAmong {accept : Tree → Bool} {parent : Tree} {up : List Crumb}
    {trees : List Tree} {c : Cursor} (found : Cursor.findAmong accept parent up trees = some c) :
    accept c.focus = true := by
  induction trees with
  | nil => cases found
  | cons tree later ih =>
      by_cases taken : accept tree = true
      · simp only [Cursor.findAmong, taken, if_true, Option.some.injEq] at found
        subst found
        exact taken
      · simp only [Cursor.findAmong, if_neg taken] at found
        exact ih found

theorem mem_children_of_firstChild? {accept : Tree → Bool} {c child : Cursor}
    (found : c.firstChild? accept = some child) : child ∈ c.children :=
  mem_of_findAmong found

theorem mem_children_of_field? {name : Text} {c child : Cursor}
    (found : c.field? name = some child) : child ∈ c.children :=
  mem_of_findAmong found

theorem mem_laterSiblings_of_nextSibling? {accept : Tree → Bool} {c sibling : Cursor}
    (found : c.nextSibling? accept = some sibling) : sibling ∈ c.laterSiblings := by
  obtain ⟨focus, up⟩ := c
  cases up with
  | nil => cases found
  | cons crumb up => exact mem_of_findAmong found

theorem mem_ancestors_of_functionAbove {up : List Crumb} {function : Cursor}
    (found : Cursor.functionAbove up = some function) : function ∈ Cursor.ancestorsOf up := by
  induction up with
  | nil => cases found
  | cons crumb up ih =>
      by_cases here : isFunction crumb.parent.kind = true
      · simp only [Cursor.functionAbove, here, if_true, Option.some.injEq] at found
        exact List.mem_cons.mpr (.inl found.symm)
      · simp only [Cursor.functionAbove, if_neg here] at found
        exact List.mem_cons_of_mem _ (ih found)

section Distinct

variable {tree : Tree} (distinct : tree.Distinct)
include distinct

theorem finds_settle {c : Cursor} (member : c ∈ nodes tree) : Finds tree (settle c) (· = c) := by
  refine ⟨c, rfl, fun seen inFile => ?_⟩
  cases found : seen.find? c.key with
  | none =>
      refine ⟨⟨c :: seen.cursors⟩, ?_, ?_⟩
      · simp [settle, StateT.run, found]
      · intro d seenBefore
        rcases List.mem_cons.mp seenBefore with rfl | old
        · exact member
        · exact inFile d old
  | some first =>
      -- the node that stands for `c` has its key, so it is `c`
      have key : first.key = c.key := by simpa using List.find?_some found
      have same : first = c :=
        distinct.eq_of_key (inFile first (List.mem_of_find?_eq_some found)) member key
      subst same
      exact ⟨seen, by simp [settle, StateT.run, found], inFile⟩

theorem finds_settle? {c? : Option Cursor} (member : ∀ c, c? = some c → c ∈ nodes tree) :
    Finds tree (settle? c?) (· = c?) := by
  cases c? with
  | none => exact Finds.pure rfl
  | some c => exact (finds_settle distinct (member c rfl)).map fun _ same => congrArg some same

theorem finds_lookInto (name : Text) {c : Cursor} (member : c ∈ nodes tree) :
    Finds tree (lookInto name c) (· = c.field? name) :=
  finds_settle? distinct fun _ found =>
    mem_nodes_of_mem_children member (mem_children_of_field? found)

theorem finds_unwrap (steps : Nat) {c : Cursor} (member : c ∈ nodes tree) :
    Finds tree (unwrap steps c) (InsideOf c) := by
  induction steps generalizing c with
  | zero => exact Finds.pure (insideOf_self c)
  | succ steps ih =>
      unfold unwrap
      split
      · rename_i isExport
        have plain : isContainer c.kind = false := eq_of_beq isExport ▸ rfl
        -- the step into an export leads to a child, and what is found from there is inside it
        have through : ∀ inner ∈ c.children, Finds tree (unwrap steps inner) (InsideOf c) :=
          fun inner isChild => (ih (mem_nodes_of_mem_children member isChild)).imp fun d deeper =>
            (insideOf_child plain isChild).trans deeper
        refine (finds_lookInto distinct "declaration" member).bind fun found same => ?_
        subst same
        cases declared : c.field? "declaration" with
        | some inner => exact through inner (mem_children_of_field? declared)
        | none =>
            refine (finds_lookInto distinct "value" member).bind fun found same => ?_
            subst same
            cases given : c.field? "value" with
            | some inner => exact through inner (mem_children_of_field? given)
            | none => exact Finds.pure (insideOf_self c)
      · split
        · rename_i isStatement
          have plain : isContainer c.kind = false := eq_of_beq isStatement ▸ rfl
          cases first : c.firstChild? Tree.isNamed with
          | none => exact Finds.pure (insideOf_self c)
          | some child =>
              have isChild := mem_children_of_firstChild? first
              refine (finds_settle distinct (mem_nodes_of_mem_children member isChild)).imp ?_
              rintro _ rfl
              exact insideOf_child plain isChild
        · exact Finds.pure (insideOf_self c)

end Distinct

/-- The code stands at or below a node, and so does its value. -/
structure Code.Under (code : Code) (c : Cursor) : Prop where
  node : code.node ∈ c.below
  value : ∀ value, code.value = some value → value ∈ c.below

theorem Code.Under.mono {code : Code} {c outer : Cursor} (under : code.Under c)
    (inside : c ∈ outer.below) : code.Under outer :=
  ⟨(below_sublist inside).subset under.node,
    fun value given => (below_sublist inside).subset (under.value value given)⟩

def FoundUnder (c : Cursor) (code? : Option Code) : Prop :=
  ∀ code, code? = some code → code.Under c

structure Code.From (code : Code) (c : Cursor) : Prop extends code.Under c where
  around : SameContainers c code.node

theorem Code.From.within {code : Code} {c outer : Cursor} (starts : code.From c)
    (inside : InsideOf outer c) : code.From outer :=
  ⟨starts.toUnder.mono inside.below, inside.around.trans starts.around⟩

def FoundFrom (c : Cursor) (code? : Option Code) : Prop :=
  ∀ code, code? = some code → code.From c

theorem foundFrom_none (c : Cursor) : FoundFrom c none :=
  fun _ found => nomatch found

/-- Code that was found, if any, is reached from a later sibling of a comment. -/
def FoundAfter (tree : Tree) (comment : Cursor) (code? : Option Code) : Prop :=
  ∀ code, code? = some code →
    ∃ sibling ∈ comment.laterSiblings, sibling ∈ nodes tree ∧ code.From sibling

theorem foundUnder_none (c : Cursor) : FoundUnder c none :=
  fun _ found => nomatch found

theorem from_of_field {c : Cursor} {field : Text} {code : Code} (node : code.node = c)
    (value : code.value = c.field? field) : code.From c where
  node := node ▸ mem_below_self c
  value := by
    intro v given
    rw [value] at given
    exact mem_below_of_mem_children (mem_below_self c) (mem_children_of_field? given)
  around := node ▸ SameContainers.refl c

def isConstructor (source : Source) (c : Cursor) : Bool :=
  c.kind == ("method_definition" : Text) &&
    (c.field? "name").any fun key => source.text key == ("constructor" : Text)

def constructorAt (source : Source) (classNode : Cursor) : Option Cursor :=
  (classNode.field? "body").bind fun body => body.namedChildren.find? (isConstructor source)

theorem mem_below_of_constructorAt {source : Source} {classNode method : Cursor}
    (found : constructorAt source classNode = some method) : method ∈ classNode.below := by
  obtain ⟨body, held, among⟩ := Option.bind_eq_some_iff.mp found
  have inside := mem_below_of_mem_children (mem_below_self classNode) (mem_children_of_field? held)
  exact mem_below_of_mem_children inside (List.mem_of_mem_filter (List.mem_of_find?_eq_some among))

theorem kind_of_constructorAt {source : Source} {classNode method : Cursor}
    (found : constructorAt source classNode = some method) : method.kind = "method_definition" := by
  obtain ⟨body, _, among⟩ := Option.bind_eq_some_iff.mp found
  have tells := List.find?_some among
  unfold isConstructor at tells
  exact eq_of_beq (Bool.and_eq_true_iff.mp tells).1

section Distinct

variable {tree : Tree} (distinct : tree.Distinct) (source : Source)
include distinct

theorem finds_keyed {c : Cursor} (member : c ∈ nodes tree) (key value : Text)
    (make : Cursor → Option Cursor → Code) (node : ∀ k v, (make k v).node = c)
    (given : ∀ k v, (make k v).value = v) :
    Finds tree (do
      match ← lookInto key c with
      | none => pure none
      | some k =>
        let v ← lookInto value c
        pure (some (make k v))) (FoundFrom c) := by
  refine (finds_lookInto distinct key member).bind fun k _ => ?_
  cases k with
  | none => exact Finds.pure (foundFrom_none c)
  | some k =>
      refine (finds_lookInto distinct value member).bind fun v same => Finds.pure ?_
      rintro code ⟨⟩
      exact from_of_field (node k v) ((given k v).trans same)

theorem finds_inspectAssignment {c : Cursor} (member : c ∈ nodes tree) :
    Finds tree (inspectAssignment source c) (FoundFrom c) :=
  finds_keyed distinct member "left" "right"
    (fun left value => ⟨Text.compact (source.text left), c, value, false, false⟩)
    (fun _ _ => rfl) (fun _ _ => rfl)

theorem finds_inspectField {c : Cursor} (member : c ∈ nodes tree) :
    Finds tree (inspectField source c) (FoundFrom c) :=
  finds_keyed distinct member "property" "value"
    (fun key value => ⟨keyText source key, c, value, true, hasStaticKeyword c⟩)
    (fun _ _ => rfl) (fun _ _ => rfl)

theorem finds_inspectPair {c : Cursor} (member : c ∈ nodes tree) :
    Finds tree (inspectPair source c) (FoundFrom c) :=
  finds_keyed distinct member "key" "value"
    (fun key value => ⟨keyText source key, c, value, false, false⟩)
    (fun _ _ => rfl) (fun _ _ => rfl)

theorem finds_inspectDefinition {c : Cursor} (member : c ∈ nodes tree) :
    Finds tree (inspectDefinition source c) (FoundFrom c) := by
  refine (finds_lookInto distinct "name" member).bind fun name same => ?_
  cases name with
  | none => exact Finds.pure (foundFrom_none _)
  | some name =>
      refine Finds.pure ?_
      rintro code ⟨⟩
      exact ⟨⟨mem_below_self c, fun value given => Option.some.inj given ▸ mem_below_self c⟩,
        SameContainers.refl c⟩

theorem finds_inspectVariables {c : Cursor} (member : c ∈ nodes tree)
    (plain : isContainer c.kind = false) :
    Finds tree (inspectVariables source c) (FoundFrom c) := by
  unfold inspectVariables
  dsimp only
  split
  · exact Finds.pure (foundFrom_none _)
  · rename_i child found
    have isChild := mem_children_of_firstChild? found
    have childMember := mem_nodes_of_mem_children member isChild
    refine (finds_settle distinct childMember).bind fun declarator same => ?_
    subst same
    refine (finds_lookInto distinct "name" childMember).bind fun name _ => ?_
    cases name with
    | none => exact Finds.pure (foundFrom_none _)
    | some name =>
        refine (finds_lookInto distinct "value" childMember).bind fun value same => Finds.pure ?_
        rintro code ⟨⟩
        exact (from_of_field rfl same).within (insideOf_child plain isChild)

theorem finds_inspect {statement : Cursor} (member : statement ∈ nodes tree) :
    Finds tree (inspect source statement) (FoundFrom statement) := by
  refine (finds_unwrap distinct _ member).bind fun c inside => ?_
  have within := mem_nodes_of_mem_below member inside.below
  have lift : ∀ {look : Browse (Option Code)},
      Finds tree look (FoundFrom c) → Finds tree look (FoundFrom statement) :=
    fun finds => finds.imp fun _ starts code found => (starts code found).within inside
  dsimp only
  split
  · exact lift (finds_inspectAssignment distinct source within)
  · split
    · rename_i declares
      have plain : isContainer c.kind = false := by
        rcases Bool.or_eq_true_iff.mp declares with same | same <;> exact eq_of_beq same ▸ rfl
      exact lift (finds_inspectVariables distinct source within plain)
    · split
      · exact lift (finds_inspectDefinition distinct source within)
      · split
        · exact lift (finds_inspectField distinct source within)
        · split
          · exact lift (finds_inspectPair distinct source within)
          · exact Finds.pure (foundFrom_none _)

theorem finds_decorated {comment : Cursor} (member : comment ∈ nodes tree) :
    Finds tree (decorated source comment) (FoundAfter tree comment) := by
  unfold decorated
  split
  · exact Finds.pure (fun _ found => nomatch found)
  · rename_i sibling found
    have follows := mem_laterSiblings_of_nextSibling? found
    have siblingMember := mem_nodes_of_mem_laterSiblings member follows
    refine (finds_settle distinct siblingMember).bind fun c same => ?_
    subst same
    exact (finds_inspect distinct source siblingMember).imp fun _ under code found =>
      ⟨c, follows, siblingMember, under code found⟩

theorem finds_findConstructor (members : List Cursor) (inFile : ∀ c ∈ members, c ∈ nodes tree) :
    Finds tree (findConstructor source members) (· = members.find? (isConstructor source)) := by
  induction members with
  | nil => exact Finds.pure rfl
  | cons child rest ih =>
      have skip := ih fun c later => inFile c (List.mem_cons_of_mem _ later)
      have childMember := inFile child List.mem_cons_self
      unfold findConstructor
      rw [List.find?_cons]
      cases method : child.kind == ("method_definition" : Text) with
      | true =>
          have tells : isConstructor source child = (child.field? "name").any
              fun key => source.text key == ("constructor" : Text) := by
            simp only [isConstructor, method, Bool.true_and]
          rw [if_pos rfl, tells]
          refine (finds_settle distinct childMember).bind fun _ same => ?_
          subst same
          refine (finds_lookInto distinct "name" childMember).bind fun key same => ?_
          rw [← same]
          cases key with
          | none => exact skip
          | some key =>
              simp only [Option.any_some]
              cases source.text key == ("constructor" : Text) with
              | true => exact Finds.pure rfl
              | false => exact skip
      | false =>
          have tells : isConstructor source child = false := by
            simp only [isConstructor, method, Bool.false_and]
          rw [if_neg Bool.false_ne_true, tells]
          exact skip

theorem finds_constructorOf {c : Cursor} (member : c ∈ nodes tree) :
    Finds tree (constructorOf source c) (· = constructorAt source c) := by
  refine (finds_lookInto distinct "body" member).bind fun body same => ?_
  unfold constructorAt
  rw [← same]
  cases body with
  | none => exact Finds.pure rfl
  | some body =>
      have bodyMember := mem_nodes_of_mem_children member (mem_children_of_field? same.symm)
      exact finds_findConstructor distinct source body.namedChildren fun d among =>
        mem_nodes_of_mem_children bodyMember (List.mem_of_mem_filter among)

end Distinct

end SymbolPath.Syntax
