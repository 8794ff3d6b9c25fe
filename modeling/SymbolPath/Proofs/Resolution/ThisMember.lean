import SymbolPath.Proofs.Path.Masking
import SymbolPath.Proofs.Resolution.ThisContainer

/-!
Members assigned through `this`. Inside a method they stand beside the method, behind the separator
that its own last segment stands behind; inside a constructor they are instance members of what it
constructs. In both cases the qualified name splits again at the separator where it was put together.
-/

namespace SymbolPath.Resolution

open SymbolPath.Path

section Owner

variable {owner : Doclet} (owns : owner.isInner = false) (member : Text)
include owns

theorem thisOwner_eq : thisOwner (some owner) = owner.path := by
  simp only [thisOwner, owns, Bool.false_eq_true, if_false]

theorem memberOfThis_of_cut? (method : owner.kind ≠ "constructor") {cut : Cut}
    (found : cut? owner.path = some cut) :
    memberOfThis (some owner) member = cut.before ++ cut.separator :: member := by
  have notConstructor : (owner.kind == ("constructor" : Text)) = false :=
    beq_eq_false_iff_ne.mpr method
  have container : dropLast owner.path = cut.before ++ [cut.separator] := by
    rw [dropLast, found]
  have ends : endsIn isSeparator (cut.before ++ [cut.separator]) = true := by
    simp [endsIn, isSeparator_of_cut? found]
  unfold memberOfThis
  simp only [thisOwner_eq owns, notConstructor, Bool.false_eq_true, if_false, container, ends,
    Bool.or_true, if_true, List.append_nil]
  rw [List.append_assoc, List.singleton_append]

theorem memberOfThis_of_constructor (constructs : owner.kind = "constructor")
    (given : owner.path ≠ []) (unmarked : endsIn isSeparator owner.path = false) :
    memberOfThis (some owner) member = owner.path ++ '#' :: member := by
  have isConstructor : (owner.kind == ("constructor" : Text)) = true := beq_iff_eq.mpr constructs
  have notEmpty : owner.path.isEmpty = false := by simpa using given
  unfold memberOfThis
  simp only [thisOwner_eq owns, isConstructor, if_true, notEmpty, unmarked, Bool.or_false,
    Bool.false_eq_true, if_false]
  rw [List.append_assoc, List.singleton_append]

end Owner

/-- Inside a documented function that owns `this`, the name is a member of what the function hangs
off. -/
theorem qualifyThis_of_owner {Node : Type} {lookup : Node → Option Doclet} {site : Site Node}
    {function : Enclosing Node} {owner doclet : Doclet} (outside : site.objectLiteral = none)
    (within : site.enclosing = some function) (found : lookup function.node = some owner)
    (owns : owner.isInner = false) (given : owner.path ≠ [])
    (implicit : hasExplicitContainer doclet = false) (member : Text) :
    qualifyThis lookup site (thisStart ++ member) doclet =
      ⟨memberOfThis (some owner) member, none⟩ := by
  have begins : Text.dropStart? thisStart (thisStart ++ member) = some member :=
    Text.dropStart?_eq_some_iff.mpr rfl
  have notEmpty : owner.path.isEmpty = false := by simpa using given
  simp only [qualifyThis, outside, begins, implicit, within, found, thisOwner_eq owns, notEmpty,
    Option.isSome_some, Option.bind_some, Bool.and_false, Bool.false_eq_true, if_false]

/-- Inside a function that has no doclet, `this` stands for nothing and comes off the name. -/
theorem qualifyThis_of_undocumented {Node : Type} {lookup : Node → Option Doclet} {site : Site Node}
    {function : Enclosing Node} {doclet : Doclet} (outside : site.objectLiteral = none)
    (within : site.enclosing = some function) (found : lookup function.node = none)
    (implicit : hasExplicitContainer doclet = false) (member : Text) :
    (qualifyThis lookup site (thisStart ++ member) doclet).name = member := by
  have begins : Text.dropStart? thisStart (thisStart ++ member) = some member :=
    Text.dropStart?_eq_some_iff.mpr rfl
  simp only [qualifyThis, outside, begins, implicit, within, found, thisOwner, List.isEmpty_nil,
    Option.isSome_some, Option.bind_some, Bool.and_self, Bool.false_eq_true, if_false, if_true]

theorem hasExplicitContainer_of_this {doclet : Doclet}
    (implicit : doclet.memberof = [] ∨ doclet.memberof = "this") :
    hasExplicitContainer doclet = false := by
  rcases implicit with none | this
  · exact hasExplicitContainer_none none
  · exact hasExplicitContainer_this this

/-- A member of `this` splits off as what it is: in a method from the container of the method, in a
constructor from the instance mark behind the path of the class. -/
theorem this_member_splits {Node : Type} [DecidableEq Node] (context : Context Node Doclet)
    {site : Site Node} {function : Enclosing Node} {owner doclet : Doclet}
    (outside : site.objectLiteral = none) (within : site.enclosing = some function)
    (registered : context.lookup (some function.node) = some owner)
    (owns : owner.isInner = false)
    (implicit : doclet.memberof = [] ∨ doclet.memberof = "this")
    {member : Text} (bare : Bare member) :
    let name := (qualifyThis context.registry.find? site (thisStart ++ member) doclet).name
    (owner.kind ≠ "constructor" → (∃ c ∈ masked owner.path, isSeparator c = true) →
        split name = ((split owner.path).1, member)) ∧
      (owner.kind = "constructor" → owner.path ≠ [] → endsIn isSeparator owner.path = false →
        split name = (owner.path ++ ['#'], member)) := by
  intro name
  have qualified : owner.path ≠ [] → name = memberOfThis (some owner) member := by
    intro given
    exact congrArg Qualified.name (qualifyThis_of_owner outside within registered owns given
      (hasExplicitContainer_of_this implicit) member)
  constructor
  · rintro method ⟨c, shown, separates⟩
    cases found : cut? owner.path with
    | none =>
        have plain := cut?_eq_none_iff.mp found c shown
        rw [separates] at plain
        cases plain
    | some cut =>
        have given : owner.path ≠ [] := by
          rw [← chars_cut? found]
          simp
        rw [qualified given, memberOfThis_of_cut? owns member method found, split,
          cut?_append cut.before (isSeparator_of_cut? found) bare, split, found]
  · intro constructs given unmarked
    rw [qualified given, memberOfThis_of_constructor owns member constructs given unmarked]
    exact split_append_marker owner.path rfl bare

/-- The quote that the namespace opens is closed by nothing in its members, so the dot behind it
separates; the one in the literal does not. -/
theorem this_member_splits_quote :
    let method : Doclet := ⟨[⟨"isa", "method"⟩, ⟨"path", "\"lib.Klass~run"⟩], 0⟩
    let maker : Doclet := ⟨[⟨"isa", "constructor"⟩, ⟨"path", "\"a.b\".Klass"⟩], 0⟩
    let context : Context Nat Doclet :=
      (Context.empty.register (some 0) method).register (some 1) maker
    let inMethod : Site Nat := ⟨none, some ⟨0, true⟩⟩
    let inMaker : Site Nat := ⟨none, some ⟨1, true⟩⟩
    let doclet : Doclet := ⟨[⟨"memberof", "this"⟩], 0⟩
    let nameAt (site : Site Nat) : Text :=
      (qualifyThis context.registry.find? site (thisStart ++ ("speed" : Text)) doclet).name
    Bare "speed" ∧ split (nameAt inMethod) = (("\"lib.Klass~" : Text), ("speed" : Text)) ∧
      split (nameAt inMaker) = (("\"a.b\".Klass#" : Text), ("speed" : Text)) := by
  intro method maker context inMethod inMaker doclet nameAt
  have bare : Bare "speed" := ⟨by decide, forall_false_iff_any.mpr (by decide)⟩
  have implicit : doclet.memberof = [] ∨ doclet.memberof = "this" := .inr (by decide +kernel)
  have hasMethod : context.lookup (some 0) = some method := by decide +kernel
  have hasMaker : context.lookup (some 1) = some maker := by decide +kernel
  have outside : inMethod.objectLiteral = none := rfl
  have alsoOutside : inMaker.objectLiteral = none := rfl
  obtain ⟨beside, _⟩ :=
    this_member_splits context outside rfl hasMethod (by decide +kernel) implicit bare
  obtain ⟨_, below⟩ :=
    this_member_splits context alsoOutside rfl hasMaker (by decide +kernel) implicit bare
  have shows : '~' ∈ masked method.path := by decide +kernel
  refine ⟨bare, (beside (by decide +kernel) ⟨'~', shows, rfl⟩).trans ?_, ?_⟩
  · decide +kernel
  · refine (below (by decide +kernel) (by decide +kernel) (by decide +kernel)).trans ?_
    decide +kernel

end SymbolPath.Resolution
