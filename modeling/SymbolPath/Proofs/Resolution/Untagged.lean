import SymbolPath.Proofs.Path.Cutting
import SymbolPath.Proofs.Resolution.FullName

/-!
Resolving a doclet whose comment names no container. The container is read off the name, and what
is written down, the container, its mark and the short name, makes up the path again. The path is
the name, less a needless dot; the dot is not dropped where the short name happens to begin with
the whole container, for which the name must run over the end of a line.
-/

namespace SymbolPath.Resolution

open SymbolPath.Path

theorem compose_unscoped (full container short : Text) :
    compose full container [] short =
      if Text.startsWith container short then full else join container short := by
  unfold compose
  cases starts : Text.startsWith container short with
  | true => simp
  | false =>
      have notEmpty : container.isEmpty = false := by
        cases container with
        | nil => cases starts
        | cons c rest => rfl
      simp [notEmpty, join]

def marksInner (container : Text) : Bool :=
  container.length > 1 && endsIn (· == '~') container

def stored (doclet : Doclet) (container : Text) : Doclet :=
  if container.isEmpty then doclet else storeContainer doclet container

theorem resolve_untagged {kinds : KindTable} (module : Text) {doclet : Doclet}
    (untagged : doclet.memberof = []) (notFile : doclet.kind ≠ "file")
    (noSpace : kinds.isDocspace doclet.kind = false) :
    let full := fullName module doclet
    let container := (split full).1
    let short := (split full).2
    let path := if Text.startsWith container short then full else join container short
    resolve kinds module doclet =
      ⟨storeUnlessEmpty (storeUnlessEmpty (stored doclet container) "name" short) "path" path,
        path⟩ := by
  have noneTagged : (!doclet.memberof.isEmpty) = false := by rw [untagged]; rfl
  have isFile : (doclet.kind == ("file" : Text)) = false := beq_eq_false_iff_ne.mpr notFile
  simp only [resolve, place, noneTagged, isFile, noSpace, schemeOf, stored, Bool.false_eq_true,
    if_false, compose_unscoped]

theorem dropLast_of_marksInner {container : Text} (inner : marksInner container = true) :
    container = container.dropLast ++ ['~'] := by
  obtain ⟨_, ends⟩ := Bool.and_eq_true_iff.mp inner
  obtain ⟨front, last, rfl, tilde⟩ := eq_append_of_endsIn ends
  obtain rfl := eq_of_beq tilde
  rw [List.dropLast_concat]

theorem joiner_of_marksInner {container : Text} (inner : marksInner container = true) :
    joiner container = [] := by
  rw [dropLast_of_marksInner inner]
  simp [joiner, endsIn, isScopeMarker]

section Stored

variable (doclet : Doclet)

theorem values_memberof_stored {container : Text} (given : container ≠ []) :
    (stored doclet container).values "memberof" =
      [if marksInner container then container.dropLast else container] := by
  have notEmpty : container.isEmpty = false := by simpa using given
  unfold stored storeContainer marksInner
  rw [notEmpty, if_neg Bool.false_ne_true]
  split
  · exact (Doclet.values_set_other _ _ (by decide)).trans (Doclet.values_set_same _ _ _)
  · exact Doclet.values_set_same _ _ _

theorem values_access_stored (container : Text) :
    (stored doclet container).values "access" =
      if marksInner container then [("inner" : Text)] else doclet.values "access" := by
  unfold stored storeContainer
  by_cases none : container = []
  · subst none
    rfl
  · have notEmpty : container.isEmpty = false := by simpa using none
    rw [notEmpty, if_neg Bool.false_ne_true]
    unfold marksInner
    split
    · exact Doclet.values_set_same _ _ _
    · exact Doclet.values_set_other _ _ (by decide)

end Stored

theorem memberof_stored {doclet : Doclet} {container : Text} (given : container ≠ []) :
    (stored doclet container).memberof =
      if marksInner container then container.dropLast else container := by
  rw [Doclet.memberof, Doclet.value_eq_head, values_memberof_stored doclet given]
  rfl

theorem access_stored {doclet : Doclet} {container : Text} (inner : marksInner container = true) :
    (stored doclet container).access = "inner" := by
  rw [Doclet.access, Doclet.value_eq_head, values_access_stored, if_pos inner]
  rfl

/-- The tags that say where a symbol hangs make up its path. -/
def Consistent (doclet : Doclet) (container : Text) : Prop :=
  if marksInner container then
    container = doclet.memberof ++ ['~'] ∧ doclet.access = "inner" ∧
      doclet.path = doclet.memberof ++ '~' :: doclet.name
  else
    doclet.memberof = container ∧
      doclet.path = doclet.memberof ++ joiner doclet.memberof ++ doclet.name

theorem consistent_of_join {doclet : Doclet} {container : Text} (given : container ≠ [])
    (memberof : doclet.memberof = if marksInner container then container.dropLast else container)
    (access : marksInner container = true → doclet.access = "inner")
    (path : doclet.path = join container doclet.name) : Consistent doclet container := by
  have notEmpty : container.isEmpty = false := by simpa using given
  unfold Consistent
  cases inner : marksInner container with
  | true =>
      have ending := dropLast_of_marksInner inner
      rw [inner, if_pos rfl] at memberof
      rw [if_pos rfl, memberof]
      refine ⟨ending, access inner, ?_⟩
      rw [path, join, notEmpty, if_neg Bool.false_ne_true, joiner_of_marksInner inner,
        List.append_nil]
      calc container ++ doclet.name
          = container.dropLast ++ ['~'] ++ doclet.name := congrArg (· ++ doclet.name) ending
        _ = container.dropLast ++ '~' :: doclet.name := by simp
  | false =>
      rw [inner, if_neg Bool.false_ne_true] at memberof
      rw [if_neg Bool.false_ne_true, memberof, path, join, notEmpty, if_neg Bool.false_ne_true]
      exact ⟨rfl, rfl⟩

/-- A name keeps a needless dot only if the current module has a line feed. -/
theorem lineFeed_mem_module {module : Text} {doclet : Doclet}
    (repeats : Text.startsWith (split (fullName module doclet)).1
      (split (fullName module doclet)).2 = true)
    (needless : fullName module doclet ≠ undotted (fullName module doclet)) :
    '\n' ∈ module := by
  refine @mem_module_of_blank module doclet '\n' ?_ (by decide)
  generalize fullName module doclet = full at repeats needless ⊢
  unfold split at repeats
  unfold undotted at needless
  cases found : cut? full with
  | none => simp [found] at needless
  | some cut =>
      obtain ⟨before, separator, after⟩ := cut
      simp only [found] at repeats needless
      have dropped : separator = '.' ∧ endsIn isScopeMarker before = true := by
        refine Decidable.byContradiction fun other => ?_
        rw [if_neg other] at needless
        exact needless rfl
      obtain ⟨rfl, marked⟩ := dropped
      obtain ⟨front, marker, rfl, isMarker⟩ := eq_append_of_endsIn marked
      have plain : isScopeMarker '.' = false := rfl
      rw [plain, if_neg Bool.false_ne_true] at repeats
      obtain ⟨rest, same⟩ := Text.startsWith_iff.mp repeats
      obtain rfl : after = front ++ marker :: rest := by simpa using same
      obtain rfl : front ++ marker :: '.' :: (front ++ marker :: rest) = full := by
        simpa using chars_cut? found
      exact List.mem_append_left _ (lineFeed_mem_of_repeated isMarker found)

/-- Without a tagged container the path is the name, less a needless dot, unless the short name
begins with the container, which takes a module with a line feed. The short name is a single
segment, and the tags written make up the path. -/
theorem untagged_path (kinds : KindTable) (module : Text) {doclet : Doclet}
    (untagged : doclet.memberof = []) (notFile : doclet.kind ≠ "file")
    (noSpace : kinds.isDocspace doclet.kind = false) :
    let full := fullName module doclet
    let container := (split full).1
    let short := (split full).2
    let resolved := resolve kinds module doclet
    resolved.path = (if Text.startsWith container short then full else undotted full) ∧
      (resolved.path ≠ undotted full → '\n' ∈ module) ∧ cut? short = none ∧
      (container ≠ [] → short ≠ [] → resolved.path = undotted full →
        resolved.doclet.path = resolved.path ∧ resolved.doclet.name = short ∧
          Consistent resolved.doclet container) := by
  intro full container short resolved
  have unfolded : resolved = _ := resolve_untagged module untagged notFile noSpace
  have joined : Text.startsWith container short = false → join container short = undotted full := by
    intro other
    refine join_split fun none => ?_
    have isNil : container = [] := none
    rw [isNil] at other
    cases other
  have path : resolved.path = if Text.startsWith container short then full else undotted full := by
    rw [unfolded]
    show (if Text.startsWith container short then full else join container short) = _
    cases starts : Text.startsWith container short with
    | true => rfl
    | false => simp only [Bool.false_eq_true, if_false, joined starts]
  refine ⟨path, ?_, cut?_split full, ?_⟩
  · intro kept
    cases starts : Text.startsWith container short with
    -- the short name begins with the container, which only a line feed makes possible
    | true =>
        rw [path, starts, if_pos rfl] at kept
        exact lineFeed_mem_module starts kept
    | false =>
        rw [path, starts, if_neg Bool.false_ne_true] at kept
        exact absurd rfl kept
  · intro given named same
    have whole : resolved.path = join container short := same.trans (join_split given).symm
    have hasPath : resolved.path ≠ [] := by
      have notEmpty : container.isEmpty = false := by simpa using given
      rw [whole, join, notEmpty, if_neg Bool.false_ne_true]
      exact List.append_ne_nil_of_right_ne_nil _ named
    have written : resolved.doclet.path = resolved.path := path_of_resolve kinds module doclet hasPath
    have name : resolved.doclet.name = short := by
      rw [unfolded]
      exact (value_storeUnlessEmpty_other _ _ (by decide)).trans (value_storeUnlessEmpty _ named)
    have kept : ∀ title : Text, "path" ≠ title → "name" ≠ title →
        resolved.doclet.value title = (stored doclet container).value title := by
      intro title notPath notName
      rw [unfolded]
      exact (value_storeUnlessEmpty_other _ _ notPath).trans
        (value_storeUnlessEmpty_other _ _ notName)
    refine ⟨written, name, consistent_of_join given ?_ ?_ ?_⟩
    · exact (kept "memberof" (by decide) (by decide)).trans (memberof_stored given)
    · exact fun inner => (kept "access" (by decide) (by decide)).trans (access_stored inner)
    · rw [written, name, whole]

/-- The dot behind the tilde goes, and the tilde marks the helper as an inner symbol. -/
theorem untagged_path_helper :
    let doclet : Doclet := ⟨[⟨"name", "outer~.helper"⟩], 0⟩
    let resolved := resolve KindTable.standard [] doclet
    doclet.memberof = [] ∧ doclet.kind ≠ "file" ∧
      KindTable.standard.isDocspace doclet.kind = false ∧ resolved.path = "outer~helper" ∧
      resolved.doclet.path = resolved.path ∧ resolved.doclet.name = "helper" ∧
      Consistent resolved.doclet "outer~" := by
  intro doclet resolved
  have untagged : doclet.memberof = [] := by decide +kernel
  have notFile : doclet.kind ≠ "file" := by decide +kernel
  have noSpace : KindTable.standard.isDocspace doclet.kind = false := by decide +kernel
  have halves : split (fullName [] doclet) = (("outer~" : Text), ("helper" : Text)) := by decide +kernel
  have dotless : undotted (fullName [] doclet) = "outer~helper" := by decide +kernel
  obtain ⟨path, _, _, tags⟩ := untagged_path KindTable.standard [] untagged notFile noSpace
  rw [halves, dotless] at path tags
  have same : resolved.path = "outer~helper" := path
  obtain ⟨written, name, consistent⟩ := tags (by decide) (by decide) same
  exact ⟨untagged, notFile, noSpace, same, written, name, consistent⟩

/-- Over the end of a line, the short name may begin with its container, and the dot stays. -/
theorem needless_dot_kept :
    let module : Text := "\n\"#.\n\"#"
    let doclet : Doclet := ⟨[⟨"name", "exports.x\""⟩], 0⟩
    let full := fullName module doclet
    doclet.memberof = [] ∧ doclet.kind ≠ "file" ∧
      KindTable.standard.isDocspace doclet.kind = false ∧
      cut? full = some ⟨"\n\"#", '.', "\n\"#.x\""⟩ ∧
      endsIn isScopeMarker "\n\"#" = true ∧
      (resolve KindTable.standard module doclet).path ≠ ("\n\"#\n\"#.x\"" : Text) := by
  decide +kernel

end SymbolPath.Resolution
