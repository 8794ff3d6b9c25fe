import Mathlib.Data.List.Basic
import SymbolPath.Proofs.Resolution.Joined
import SymbolPath.Proofs.Resolution.Placement
import SymbolPath.Resolution.Context
import SymbolPath.Resolution.Site

/-!
The word `this` as a tagged container. Qualifying a name through `this` takes such a tag for none.
Resolving does not: it is a container like any other, and the path begins with it. So the tag shows
in the path, unless the qualified name is one segment below `this` already, or its short name begins
with the word and had no other container.
-/

namespace SymbolPath.Resolution

open SymbolPath.Path

def withoutContainer (doclet : Doclet) : Doclet :=
  { doclet with tags := doclet.tags.filter fun tag => tag.title != ("memberof" : Text) }

theorem memberof_withoutContainer (doclet : Doclet) : (withoutContainer doclet).memberof = [] := by
  have absent : (withoutContainer doclet).values "memberof" = [] := by
    simp [withoutContainer, Doclet.values, List.filter_filter]
  unfold Doclet.memberof
  rw [Doclet.value_eq_head, absent]
  rfl

theorem value_withoutContainer (doclet : Doclet) {title : Text} (other : title ≠ "memberof") :
    (withoutContainer doclet).value title = doclet.value title := by
  have kept : (withoutContainer doclet).values title = doclet.values title := by
    unfold Doclet.values withoutContainer
    rw [List.filter_filter]
    congr 1
    apply List.filter_congr
    intro tag _
    by_cases same : tag.title = title
    · have kept : (title != ("memberof" : Text)) = true := bne_iff_ne.mpr other
      rw [same, kept, Bool.and_true]
    · simp [same]
  rw [Doclet.value_eq_head, Doclet.value_eq_head, kept]

section Named

variable (doclet : Doclet) (name : Text)

theorem memberof_set_name : (doclet.set "name" name).memberof = doclet.memberof :=
  Doclet.value_set_other _ _ (by decide)

theorem kind_set_name : (doclet.set "name" name).kind = doclet.kind :=
  Doclet.value_set_other _ _ (by decide)

theorem fullName_set_name (other : Doclet) (module : Text) :
    fullName module (doclet.set "name" name) = fullName module (other.set "name" name) := by
  unfold fullName Doclet.name
  rw [Doclet.value_set_same, Doclet.value_set_same]

end Named

/-- A name that is one segment below `this`. -/
def BelowThis (full : Text) : Prop :=
  full = ("this." : Text) ++ (split full).2

section Below

variable {full : Text}

theorem split_of_belowThis (below : BelowThis full) : (split full).1 = "this" := by
  unfold BelowThis at below
  unfold split at below ⊢
  cases found : cut? full with
  | none =>
      have lengths := congrArg List.length below
      simp only [found, List.length_append] at lengths
      have five : ("this." : Text).length = 5 := by decide
      omega
  | some cut =>
      have whole := chars_cut? found
      simp only [found] at below ⊢
      rw [below, List.append_cons] at whole
      obtain ⟨before, dot⟩ := List.append_inj' (List.append_cancel_right whole :
        cut.before ++ [cut.separator] = ("this" : Text) ++ ['.']) rfl
      rw [List.singleton_inj.mp dot, before]
      rfl

theorem belowThis_of_split (container : (split full).1 = "this") : BelowThis full := by
  unfold BelowThis
  unfold split at container ⊢
  cases found : cut? full with
  | none => simp [found] at container
  | some cut =>
      have whole := chars_cut? found
      simp only [found] at container ⊢
      by_cases marker : isScopeMarker cut.separator = true
      · -- no letter of the word is a scope marker
        rw [if_pos marker] at container
        have letter : cut.separator ∈ ("this" : Text) := container ▸ by simp
        have none : ("this" : Text).any isScopeMarker = false := by decide
        exact absurd marker (List.any_eq_false.mp none _ letter)
      · rw [if_neg marker] at container
        have dot : cut.separator = '.' := by
          simpa [isSeparator, marker] using isSeparator_of_cut? found
        rw [← whole, container, dot]
        rfl

theorem container_prefix (full : Text) : (split full).1 <+: full := by
  unfold split
  cases found : cut? full with
  | none => exact List.nil_prefix
  | some cut =>
      have whole := chars_cut? found
      by_cases marker : isScopeMarker cut.separator = true
      · simp only [if_pos marker]
        exact ⟨cut.after, by rw [List.append_assoc, List.singleton_append, whole]⟩
      · simp only [if_neg marker]
        exact ⟨cut.separator :: cut.after, whole⟩

theorem startsWith_this_of_dotted {rest : Text} (dotted : full = ("this." : Text) ++ rest) :
    Text.startsWith "this" full = true :=
  Text.startsWith_iff.mpr ⟨'.' :: rest, dotted⟩

end Below

theorem startsWith_this_of_join {container t u : Text} (given : container ≠ [])
    (same : join container t = ("this." : Text) ++ u) :
    Text.startsWith "this" container = true := by
  obtain ⟨path, separator, separates, joined, inContainer, _⟩ := join_eq_append given t
  have starts : ("this" : Text) <+: path ++ separator :: t := by
    rw [← joined, same]
    exact ⟨'.' :: u, rfl⟩
  have noLetter : ("this" : Text).any isSeparator = false := by decide
  -- the word ends within the container: it has no separator that could stand behind it
  rcases prefix_append_cons starts with inPath | beyond
  · obtain ⟨rest, whole⟩ := inPath.trans inContainer
    exact Text.startsWith_iff.mpr ⟨rest, whole.symm⟩
  · have letter : separator ∈ ("this" : Text) := beyond.subset (by simp)
    exact absurd separates (List.any_eq_false.mp noLetter separator letter)

theorem eq_this_of_join {container t : Text} (given : container ≠ [])
    (same : join container t = ("this." : Text) ++ t) : container = "this" := by
  rw [join_eq given, ← List.append_assoc] at same
  have ends : container ++ joiner container = ("this" : Text) ++ ['.'] :=
    List.append_cancel_right same
  unfold joiner at ends
  by_cases marked : endsIn isScopeMarker container = true
  · rw [if_pos marked, List.append_nil] at ends
    rw [ends] at marked
    exact absurd marked (by decide)
  · rw [if_neg marked] at ends
    exact (List.append_inj' ends rfl).1

theorem scheme_ne_behind_this (kind t u : Text) :
    kind ++ [':'] ++ t ≠ ("this." : Text) ++ (kind ++ [':'] ++ u) := by
  intro same
  have inScheme : ':' ∈ kind ++ [':'] := by simp
  have notBefore : ':' ∉ ("this." : Text) := by decide
  -- the first colon stands five characters further on the right
  have places := congrArg (List.idxOf ':') same
  rw [List.idxOf_append_of_mem inScheme, List.idxOf_append_of_notMem notBefore,
    List.idxOf_append_of_mem inScheme] at places
  have five : ("this." : Text).length = 5 := by decide
  omega

/-- The tag `this` leaves no trace: the name is one segment below `this` anyway (a file with a space
of its own apart, whose name has no container), or the short name begins with the word and the path
`bare` without the tag has no container either. -/
def Traceless (kinds : KindTable) (kind full bare : Text) : Prop :=
  (BelowThis full ∧ ¬ (kind = "file" ∧ kinds.isDocspace kind = true)) ∨
    (Text.startsWith "this" (unschemed kinds kind (shortUnder "this" full)) = true ∧
      bare = uncontained full (schemeOf kinds kind)
        (unschemed kinds kind (shortUnder "this" full)))

section Compared

variable (kinds : KindTable) (kind full : Text)

-- What resolving makes of a qualified name with the tag, and without it.
def pathUnderThis : Text :=
  compose full "this" (schemeOf kinds kind) (unschemed kinds kind (shortUnder "this" full))

def pathAlone : Text :=
  compose full (halves kind full).1 (schemeOf kinds kind) (unschemed kinds kind (halves kind full).2)

variable {kinds kind full}

theorem pathUnderThis_eq : pathUnderThis kinds kind full =
    if Text.startsWith "this" (unschemed kinds kind (shortUnder "this" full)) then
      uncontained full (schemeOf kinds kind) (unschemed kinds kind (shortUnder "this" full))
    else ("this." : Text) ++
      (schemeOf kinds kind ++ unschemed kinds kind (shortUnder "this" full)) := by
  unfold pathUnderThis
  rw [compose_container (by decide)]
  have dot : ("this" : Text) ++ joiner "this" = "this." := by decide
  rw [dot, List.append_assoc]

theorem shortUnder_of_startsWith (starts : Text.startsWith "this" full = true) :
    shortUnder "this" full = (split full).2 := if_pos starts

theorem pathUnderThis_of_belowThis (below : BelowThis full)
    (contained : ¬ (kind = "file" ∧ kinds.isDocspace kind = true)) :
    pathUnderThis kinds kind full = pathAlone kinds kind full := by
  have isShort := shortUnder_of_startsWith (startsWith_this_of_dotted below)
  by_cases isFile : kind = "file"
  · -- a file has no container of its own, so it resolves to the whole name
    have noSpace : kinds.isDocspace kind = false := by
      rw [Bool.eq_false_iff]
      exact fun ownSpace => contained ⟨isFile, ownSpace⟩
    have noScheme : schemeOf kinds kind = [] := if_neg (by simp [noSpace])
    have plain : ∀ short, unschemed kinds kind short = short := fun short =>
      if_neg (by simp [noSpace])
    rw [pathUnderThis_eq, pathAlone, halves, if_pos isFile, compose_nil, noScheme, plain, plain,
      isShort]
    unfold uncontained
    split
    · rfl
    · exact below.symm
  · rw [pathUnderThis, pathAlone, halves, if_neg isFile, split_of_belowThis below, isShort]

-- A path without a container is the name itself: a scheme cannot stand behind `this`.
theorem belowThis_of_uncontained {short : Text}
    (same : uncontained full (schemeOf kinds kind) short = ("this." : Text) ++
      (schemeOf kinds kind ++ unschemed kinds kind (shortUnder "this" full))) :
    BelowThis full ∧ ¬ (kind = "file" ∧ kinds.isDocspace kind = true) := by
  unfold uncontained schemeOf unschemed at same
  cases ownSpace : kinds.isDocspace kind with
  | true =>
      simp only [ownSpace, if_true] at same
      have notEmpty : (kind ++ [':']).isEmpty = false := by simp
      rw [notEmpty, if_neg Bool.false_ne_true] at same
      exact absurd same (scheme_ne_behind_this kind short _)
  | false =>
      simp only [ownSpace, Bool.false_eq_true, if_false, List.isEmpty_nil, if_true,
        List.nil_append] at same
      rw [shortUnder_of_startsWith (startsWith_this_of_dotted same)] at same
      exact ⟨same, fun both => Bool.noConfusion both.2⟩

theorem belowThis_of_alone
    (same : pathAlone kinds kind full = ("this." : Text) ++
      (schemeOf kinds kind ++ unschemed kinds kind (shortUnder "this" full))) :
    BelowThis full ∧ ¬ (kind = "file" ∧ kinds.isDocspace kind = true) := by
  unfold pathAlone at same
  by_cases none : (halves kind full).1 = []
  · rw [none, compose_nil] at same
    exact belowThis_of_uncontained same
  rw [compose_container none] at same
  split at same
  · exact belowThis_of_uncontained same
  -- the container of the name must be `this` itself
  have notFile : kind ≠ "file" := by
    intro isFile
    exact none (by rw [halves, if_pos isFile])
  rw [halves, if_neg notFile] at none same
  have joined : join (split full).1 (schemeOf kinds kind ++ unschemed kinds kind (split full).2) =
      ("this." : Text) ++
        (schemeOf kinds kind ++ unschemed kinds kind (shortUnder "this" full)) := by
    rw [join_eq none, ← same]
    simp
  obtain ⟨rest, begins⟩ := Text.startsWith_iff.mp (startsWith_this_of_join none joined)
  obtain ⟨more, whole⟩ := container_prefix full
  have starts : Text.startsWith "this" full = true :=
    Text.startsWith_iff.mpr ⟨rest ++ more, by rw [← whole, begins, List.append_assoc]⟩
  rw [shortUnder_of_startsWith starts] at joined
  exact ⟨belowThis_of_split (eq_this_of_join none joined), fun both => notFile both.1⟩

theorem pathUnderThis_eq_alone_iff :
    pathUnderThis kinds kind full = pathAlone kinds kind full ↔
      Traceless kinds kind full (pathAlone kinds kind full) := by
  unfold Traceless
  constructor
  · intro same
    rw [pathUnderThis_eq] at same
    split at same
    · rename_i begins
      exact .inr ⟨begins, same.symm⟩
    · exact .inl (belowThis_of_alone same.symm)
  · rintro (⟨below, contained⟩ | ⟨begins, bare⟩)
    · exact pathUnderThis_of_belowThis below contained
    · rw [pathUnderThis_eq, if_pos begins, bare]

end Compared

theorem qualifyThis_of_explicit {Node : Type} (lookup : Node → Option Doclet) (site : Site Node)
    (name : Text) {doclet other : Doclet}
    (same : hasExplicitContainer doclet = hasExplicitContainer other) :
    qualifyThis lookup site name doclet = qualifyThis lookup site name other := by
  simp only [qualifyThis, same]

theorem hasExplicitContainer_this {doclet : Doclet} (tagged : doclet.memberof = "this") :
    hasExplicitContainer doclet = false := by
  unfold hasExplicitContainer
  rw [tagged]
  decide

theorem hasExplicitContainer_none {doclet : Doclet} (untagged : doclet.memberof = []) :
    hasExplicitContainer doclet = false := by
  unfold hasExplicitContainer
  rw [untagged]
  rfl

/-- A doclet tagged with the container `this` is qualified like the same doclet without the tag, but
resolves to the same path exactly if the tag leaves no trace. Where the short name does not begin with
the word, the path begins with `this.` instead. -/
theorem this_container_traceless_iff {Node : Type} [DecidableEq Node] (kinds : KindTable)
    (context : Context Node Doclet) (site : Site Node) (given : Text) {doclet : Doclet}
    (tagged : doclet.memberof = "this") :
    let look := context.registry.find?
    let bare := withoutContainer doclet
    let name := (qualifyThis look site given doclet).name
    let bareName := (qualifyThis look site given bare).name
    let full := fullName context.module (doclet.set "name" name)
    let short := unschemed kinds doclet.kind (shortUnder "this" full)
    let path := (resolve kinds context.module (doclet.set "name" name)).path
    let barePath := (resolve kinds context.module (bare.set "name" bareName)).path
    bareName = name ∧
      (path = barePath ↔ Traceless kinds doclet.kind full barePath) ∧
      (Text.startsWith "this" short = false →
        path = ("this." : Text) ++ (schemeOf kinds doclet.kind ++ short)) := by
  intro look bare name bareName full short path barePath
  -- qualifying asks only whether a container was given, and `this` counts as none
  have sameName : bareName = name := by
    have alike := qualifyThis_of_explicit look site given
      ((hasExplicitContainer_none (memberof_withoutContainer doclet)).trans
        (hasExplicitContainer_this tagged).symm)
    exact congrArg Qualified.name alike
  have underThis : path = pathUnderThis kinds doclet.kind full := by
    have named : (doclet.set "name" name).memberof = "this" :=
      (memberof_set_name doclet name).trans tagged
    have whole := path_tagged kinds context.module (named ▸ (by decide) :
      (doclet.set "name" name).memberof ≠ [])
    rw [named, kind_set_name] at whole
    exact whole
  have alone : barePath = pathAlone kinds doclet.kind full := by
    have untagged : (bare.set "name" name).memberof = [] :=
      (memberof_set_name bare name).trans (memberof_withoutContainer doclet)
    have kind : (bare.set "name" name).kind = doclet.kind :=
      (kind_set_name bare name).trans (value_withoutContainer doclet (by decide))
    have whole := path_untagged kinds context.module untagged
    dsimp only at whole
    rw [kind, fullName_set_name bare name doclet] at whole
    show (resolve kinds context.module (bare.set "name" bareName)).path = _
    rw [sameName]
    exact whole
  refine ⟨sameName, ?_, fun other => ?_⟩
  · rw [underThis, alone]
    exact pathUnderThis_eq_alone_iff
  · rw [underThis, pathUnderThis_eq, other, if_neg Bool.false_ne_true]

/-- A method that hangs off `this` itself: its members do too, with or without the tag. -/
theorem this_container_traceless_method :
    let method : Doclet := ⟨[⟨"isa", "method"⟩, ⟨"path", "this.run"⟩], 0⟩
    let context : Context Nat Doclet := Context.empty.register (some 0) method
    let site : Site Nat := ⟨none, some ⟨0, true⟩⟩
    let doclet : Doclet := ⟨[⟨"memberof", "this"⟩, ⟨"isa", "property"⟩], 0⟩
    let bare := withoutContainer doclet
    doclet.memberof = "this" ∧
      (qualifyThis context.registry.find? site "this.speed" doclet).name = "this.speed" ∧
      (resolve KindTable.standard [] (doclet.set "name" "this.speed")).path =
        (resolve KindTable.standard [] (bare.set "name" "this.speed")).path := by
  intro method context site doclet bare
  have tagged : doclet.memberof = "this" := by decide +kernel
  have name : (qualifyThis context.registry.find? site "this.speed" doclet).name = "this.speed" := by
    decide +kernel
  have below : BelowThis (fullName [] (doclet.set "name" "this.speed")) := by
    unfold BelowThis
    decide +kernel
  have notFile : ¬ (doclet.kind = "file" ∧ KindTable.standard.isDocspace doclet.kind = true) := by
    decide +kernel
  obtain ⟨bareName, same, _⟩ :=
    this_container_traceless_iff KindTable.standard context site "this.speed" tagged
  rw [bareName, name] at same
  exact ⟨tagged, name, same.mpr (.inl ⟨below, notFile⟩)⟩

/-- In a method of a class, the tag goes in front of the path that the name has without it. -/
theorem this_container_shows :
    let method : Doclet := ⟨[⟨"isa", "method"⟩, ⟨"path", "Klass#method"⟩], 0⟩
    let context : Context Nat Doclet := Context.empty.register (some 0) method
    let site : Site Nat := ⟨none, some ⟨0, true⟩⟩
    let doclet : Doclet := ⟨[⟨"memberof", "this"⟩], 0⟩
    let bare := withoutContainer doclet
    let name := (qualifyThis context.registry.find? site "this.x" doclet).name
    let bareName := (qualifyThis context.registry.find? site "this.x" bare).name
    context.lookup (some 0) = some method ∧ method.path ≠ [] ∧ doclet.memberof = "this" ∧
      bare.has "memberof" = false ∧ name = "Klass#x" ∧ bareName = "Klass#x" ∧
      (resolve KindTable.standard context.module (doclet.set "name" name)).path = "this.Klass#x" ∧
      (resolve KindTable.standard context.module (bare.set "name" bareName)).path = "Klass#x" := by
  decide +kernel

end SymbolPath.Resolution
