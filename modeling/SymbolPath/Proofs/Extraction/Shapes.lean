import SymbolPath.Proofs.Extraction.Pinning

/-!
The shapes of code. Whatever was seen before, code is read off its node in one of few ways: a function
or a class is its own value, and all other code has its value in a field of its node. A look may lead
to another node than the one looked for, but only to one that agrees with it in kind and span, and so
in its text.
-/

namespace SymbolPath.Extraction

open Syntax Resolution

section Rules

variable {α β : Type}

theorem Always.andThen {look : Browse α} {further : α → Browse β} {saidFirst : α → Prop}
    {said : β → Prop} (first : Always look saidFirst)
    (next : ∀ found, saidFirst found → Always (further found) said) :
    Always (look >>= further) said := by
  intro seen
  rw [StateT.run_bind]
  exact next _ (first seen) _

end Rules

/-- What a look may take for a node: one of its kind and its span. -/
def StandsFor (c? : Option Cursor) (d? : Option Cursor) : Prop :=
  d?.map Cursor.key = c?.map Cursor.key

theorem always_settle (c : Cursor) : Always (settle c) fun d => d.key = c.key :=
  fun seen => key_settle c seen

theorem always_settle? (c? : Option Cursor) : Always (settle? c?) (StandsFor c?) := by
  cases c? with
  | none => exact Always.pure rfl
  | some c =>
      have look : settle? (some c) = settle c >>= fun d => pure (some d) := map_eq_pure_bind _ _
      rw [look]
      exact (always_settle c).andThen fun d same => Always.pure (congrArg some same)

theorem always_lookInto (name : Text) (c : Cursor) :
    Always (lookInto name c) (StandsFor (c.field? name)) :=
  always_settle? _

theorem keyText_of_key (source : Source) {c d : Cursor} (same : c.key = d.key) :
    keyText source c = keyText source d := by
  have kind : c.kind = d.kind := congrArg Key.kind same
  have start : c.focus.start = d.focus.start := congrArg Key.start same
  have stop : c.focus.stop = d.focus.stop := congrArg Key.stop same
  unfold keyText Source.text
  rw [kind, start, stop]

theorem StandsFor.keyText {c? d? : Option Cursor} (stands : StandsFor c? d?) (source : Source) :
    d?.map (keyText source) = c?.map (keyText source) := by
  unfold StandsFor at stands
  cases c? <;> cases d? <;> simp only [Option.map_none, Option.map_some, Option.some.injEq,
    reduceCtorEq] at stands ⊢
  exact keyText_of_key source stands

inductive Shape (source : Source) (code : Code) : Prop
  | definition (kind : isFunction code.node.kind = true ∨ isClass code.node.kind = true)
      (value : code.value = some code.node)
      (called : (code.node.field? "name").map (keyText source) = some code.name)
      (member : code.isMember = isMethodOfClass code.node)
  | pair (kind : code.node.kind = "pair")
      (value : StandsFor (code.node.field? "value") code.value)
      (called : (code.node.field? "key").map (keyText source) = some code.name)
      (free : code.isMember = false)
  | held (field : Text)
      (kind : code.node.kind ∈
        [("assignment_expression" : Text), "variable_declarator", "field_definition"])
      (value : StandsFor (code.node.field? field) code.value)

def FoundShape (source : Source) (code? : Option Code) : Prop :=
  ∀ code, code? = some code → Shape source code

theorem foundShape_none (source : Source) : FoundShape source none :=
  fun _ found => nomatch found

theorem foundShape_some {source : Source} {code : Code} (shape : Shape source code) :
    FoundShape source (some code) :=
  fun _ same => Option.some.inj same ▸ shape

section Inspect

variable (source : Source) {c : Cursor}

theorem shape_keyed (key value : Text) {make : Cursor → Option Cursor → Code}
    (shapes : ∀ k v, StandsFor (c.field? key) (some k) → StandsFor (c.field? value) v →
      Shape source (make k v)) :
    Always (do
      match ← lookInto key c with
      | none => pure none
      | some k =>
        let v ← lookInto value c
        pure (some (make k v))) (FoundShape source) := by
  refine (always_lookInto key c).andThen fun k named => ?_
  cases k with
  | none => exact Always.pure (foundShape_none source)
  | some k =>
      refine (always_lookInto value c).andThen fun v given => Always.pure ?_
      exact foundShape_some (shapes k v named given)

theorem shape_inspectVariables : Always (inspectVariables source c) (FoundShape source) := by
  unfold inspectVariables
  dsimp only
  split
  · exact Always.pure (foundShape_none source)
  · rename_i child found
    refine (always_settle child).andThen fun declarator same => ?_
    have declares : child.kind = "variable_declarator" := by
      have accepted := accepted_of_findAmong found
      exact eq_of_beq (Bool.and_eq_true_iff.mp accepted).2
    have kind : declarator.kind = "variable_declarator" := (congrArg Key.kind same).trans declares
    refine shape_keyed source "name" "value" fun _ _ _ given => .held "value" ?_ given
    rw [kind]
    decide

theorem shape_inspectDefinition (kind : isFunction c.kind = true ∨ isClass c.kind = true) :
    Always (inspectDefinition source c) (FoundShape source) := by
  refine (always_lookInto "name" c).andThen fun name stands => ?_
  cases name with
  | none => exact Always.pure (foundShape_none source)
  | some name =>
      refine Always.pure (foundShape_some (.definition kind rfl ?_ rfl))
      exact (stands.keyText source).symm

theorem shape_inspect (statement : Cursor) :
    Always (inspect source statement) (FoundShape source) := by
  refine Always.bind fun c => ?_
  dsimp only
  split
  · rename_i assigns
    refine shape_keyed source "left" "right" fun _ _ _ given => .held "right" ?_ given
    rw [eq_of_beq assigns]
    decide
  · split
    · exact shape_inspectVariables source
    · split
      · rename_i defines
        exact shape_inspectDefinition source (Bool.or_eq_true_iff.mp defines)
      · split
        · rename_i isField
          refine shape_keyed source "property" "value" fun _ _ _ given => .held "value" ?_ given
          rw [eq_of_beq isField]
          decide
        · split
          · rename_i isPair
            refine shape_keyed source "key" "value" fun k _ named given => ?_
            exact .pair (eq_of_beq isPair) given (named.keyText source).symm rfl
          · exact Always.pure (foundShape_none source)

theorem shape_decorated (comment : Cursor) :
    Always (decorated source comment) (FoundShape source) := by
  unfold decorated
  split
  · exact Always.pure (foundShape_none source)
  · exact Always.bind fun sibling => shape_inspect source sibling

theorem shape_codeFor (comment : Cursor) (doclet : Doclet) :
    Always (codeFor source comment doclet) (FoundShape source) := by
  unfold codeFor
  split
  · exact Always.pure (foundShape_none source)
  · exact shape_decorated source comment

end Inspect

theorem shape_of_codeIn {source : Source} {comment : Cursor} {seen : Sightings} {code : Code}
    (found : (codeIn source comment seen).1 = some code) : Shape source code :=
  shape_codeFor source _ _ _ code found

theorem shape_of_codeOf {source : Source} {comment : Cursor} {code : Code}
    (found : codeOf source comment = some code) : Shape source code :=
  shape_codeFor source comment _ Sightings.empty code found

end SymbolPath.Extraction
