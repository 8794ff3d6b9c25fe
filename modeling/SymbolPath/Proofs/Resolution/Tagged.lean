import SymbolPath.Proofs.Resolution.Untagged

/-!
Resolving a doclet whose comment names its container. The container is left as it was tagged, and
the path is the container joined to the short name. A name that repeats the container is first cut
down to its last segment, so the path need not be the name any more: what stood between container
and segment is lost, and so is a separator other than the one that joins the two.
-/

namespace SymbolPath.Resolution

open SymbolPath.Path

def shortUnder (container full : Text) : Text :=
  if Text.startsWith container full then (split full).2 else full

/-- The path under a tagged container. A short name that begins with the container leaves the full
name as it is. -/
def pathUnder (container full : Text) : Text :=
  if Text.startsWith container (shortUnder container full) then full
  else join container (shortUnder container full)

theorem resolve_tagged {kinds : KindTable} (module : Text) {doclet : Doclet}
    (tagged : doclet.memberof ≠ []) (noSpace : kinds.isDocspace doclet.kind = false) :
    let full := fullName module doclet
    let path := pathUnder doclet.memberof full
    resolve kinds module doclet =
      ⟨storeUnlessEmpty (storeUnlessEmpty doclet "name" (shortUnder doclet.memberof full)) "path"
        path, path⟩ := by
  have isTagged : (!doclet.memberof.isEmpty) = true := by simpa using tagged
  simp only [resolve, place, isTagged, if_true, noSpace, schemeOf, Bool.false_eq_true, if_false,
    compose_unscoped, pathUnder, shortUnder]
  rfl

theorem values_storeUnlessEmpty_other (doclet : Doclet) {title other : Text} (value : Text)
    (different : title ≠ other) :
    (storeUnlessEmpty doclet title value).values other = doclet.values other := by
  unfold storeUnlessEmpty
  split
  · rfl
  · exact doclet.values_set_other value different

theorem join_eq {container : Text} (given : container ≠ []) (name : Text) :
    join container name = container ++ (joiner container ++ name) := by
  have notEmpty : container.isEmpty = false := by simpa using given
  rw [join, notEmpty, if_neg Bool.false_ne_true, List.append_assoc]

theorem startsWith_of_shortUnder {container full : Text}
    (begins : Text.startsWith container (shortUnder container full) = true) :
    Text.startsWith container full = true := by
  unfold shortUnder at begins
  split at begins
  · assumption
  · exact begins

theorem pathUnder_ne_nil {container : Text} (given : container ≠ []) (full : Text) :
    pathUnder container full ≠ [] := by
  unfold pathUnder
  split
  · rename_i begins
    obtain ⟨rest, rfl⟩ := Text.startsWith_iff.mp (startsWith_of_shortUnder begins)
    simp [given]
  · rw [join_eq given]
    simp [given]

theorem shortUnder_of_endsInKey {container full key : Text} (bare : Bare key)
    (ends : EndsInKey key full) :
    shortUnder container full = key ↔ Text.startsWith container full = true := by
  unfold shortUnder
  cases begins : Text.startsWith container full with
  | true => simpa using ends.split bare
  | false => simpa using ends.ne

section Key

variable {container full key : Text} (other : Text.startsWith container key = false)
include other

theorem shortUnder_of_key (same : full = key) : shortUnder container full = key := by
  unfold shortUnder
  rw [same, other, if_neg Bool.false_ne_true]

/-- The path of a tagged container and a key comes out exactly if the key is the short name. -/
theorem pathUnder_eq_join_iff (given : container ≠ []) (bare : Bare key) :
    pathUnder container full = join container key ↔ shortUnder container full = key := by
  unfold pathUnder
  cases begins : Text.startsWith container (shortUnder container full) with
  | false =>
      rw [if_neg Bool.false_ne_true, join_eq given, join_eq given, List.append_cancel_left_eq,
        List.append_cancel_left_eq]
  | true =>
      rw [if_pos rfl]
      have notKey : shortUnder container full ≠ key := by
        intro same
        rw [same, other] at begins
        cases begins
      refine ⟨fun joined => ?_, fun same => absurd same notKey⟩
      have repeats : Text.startsWith container full = true :=
        Text.startsWith_iff.mpr ⟨joiner container ++ key, by rw [joined, join_eq given]⟩
      unfold shortUnder
      rw [repeats, if_pos rfl, joined, split_join given bare]

end Key

def Between (container separator : Text) : Prop :=
  (∃ c, isSeparator c = true ∧ separator = [c]) ∨
    (separator = [] ∧ endsIn isScopeMarker container = true)

/-- Joining a container and a last segment gives back the name only by the separator that joins. -/
theorem join_eq_iff {container separator rest short : Text} (given : container ≠ [])
    (between : Between container separator) (single : cut? short = none) :
    join container short = container ++ separator ++ rest ↔
      separator = joiner container ∧ rest = short := by
  rw [join_eq given, List.append_assoc, List.append_cancel_left_eq]
  unfold joiner
  rcases between with ⟨c, separates, rfl⟩ | ⟨rfl, marked⟩
  · by_cases marked : endsIn isScopeMarker container = true
    · rw [if_pos marked]
      constructor
      · intro same
        have begins : short = c :: rest := same
        exact absurd (begins ▸ single) (cut?_ne_none_of_begins separates rest)
      · rintro ⟨none, _⟩
        cases none
    · rw [if_neg marked]
      constructor
      · intro same
        obtain ⟨dot, shortRest⟩ := List.cons.inj same
        exact ⟨by rw [dot], shortRest.symm⟩
      · rintro ⟨dot, rfl⟩
        rw [dot]
  · rw [if_pos marked]
    exact ⟨fun same => ⟨rfl, same.symm⟩, fun both => both.2.symm⟩

/-- A name that repeats its tagged container resolves to itself exactly if the rest is a single
segment behind the separator that joins, or the last segment begins with the container as well;
else to the container joined to the last segment. The container stays as it was tagged. -/
theorem qualified_path_kept_iff (kinds : KindTable) (module : Text) {doclet : Doclet}
    (tagged : doclet.memberof ≠ []) (noSpace : kinds.isDocspace doclet.kind = false)
    {separator rest : Text} (between : Between doclet.memberof separator)
    (qualified : fullName module doclet = doclet.memberof ++ separator ++ rest) :
    let full := fullName module doclet
    let short := (split full).2
    let resolved := resolve kinds module doclet
    (resolved.path = full ↔ Text.startsWith doclet.memberof short = true ∨
        (separator = joiner doclet.memberof ∧ rest = short)) ∧
      (resolved.path = full ∨ resolved.path = join doclet.memberof short) ∧
      resolved.doclet.values "memberof" = doclet.values "memberof" := by
  intro full short resolved
  have repeats : Text.startsWith doclet.memberof full = true :=
    Text.startsWith_iff.mpr ⟨separator ++ rest, by rw [← List.append_assoc, ← qualified]⟩
  -- a name that repeats the container is cut to its last segment
  have isShort : shortUnder doclet.memberof full = short := if_pos repeats
  have unfolded := resolve_tagged module tagged noSpace
  dsimp only at unfolded
  have path : resolved.path =
      if Text.startsWith doclet.memberof short then full else join doclet.memberof short := by
    rw [← isShort]
    exact congrArg Resolved.path unfolded
  refine ⟨?_, ?_, ?_⟩
  · rw [path]
    cases begins : Text.startsWith doclet.memberof short with
    | true => simp
    | false =>
        have joined := @join_eq_iff doclet.memberof separator rest short tagged between
          (cut?_split full)
        rw [← qualified] at joined
        simpa using joined
  · rw [path]
    split
    · exact .inl rfl
    · exact .inr rfl
  · rw [show resolved = _ from unfolded]
    exact (values_storeUnlessEmpty_other _ _ (by decide)).trans
      (values_storeUnlessEmpty_other _ _ (by decide))

/-- Behind a scope marker of the container, a single segment keeps its path. -/
theorem qualified_path_kept_marker :
    let doclet : Doclet := ⟨[⟨"name", "Foo#bar"⟩, ⟨"memberof", "Foo#"⟩], 0⟩
    let resolved := resolve KindTable.standard [] doclet
    doclet.memberof ≠ [] ∧ KindTable.standard.isDocspace doclet.kind = false ∧
      Between doclet.memberof [] ∧
      fullName [] doclet = doclet.memberof ++ ([] : Text) ++ ("bar" : Text) ∧
      resolved.path = fullName [] doclet ∧ resolved.doclet.values "memberof" = [("Foo#" : Text)] := by
  intro doclet resolved
  have tagged : doclet.memberof ≠ [] := by decide +kernel
  have noSpace : KindTable.standard.isDocspace doclet.kind = false := by decide +kernel
  have between : Between doclet.memberof [] := .inr ⟨rfl, by decide +kernel⟩
  have qualified : fullName [] doclet = doclet.memberof ++ ([] : Text) ++ ("bar" : Text) := by
    decide +kernel
  obtain ⟨kept, _, container⟩ :=
    qualified_path_kept_iff KindTable.standard [] tagged noSpace between qualified
  have single : ("bar" : Text) = (split (fullName [] doclet)).2 := by decide +kernel
  exact ⟨tagged, noSpace, between, qualified, kept.mpr (.inr ⟨by decide +kernel, single⟩),
    container.trans (by decide +kernel)⟩

/-- A hash behind a container without a marker turns into a dot. -/
theorem qualified_path_lost :
    let doclet : Doclet := ⟨[⟨"name", "Foo#bar"⟩, ⟨"memberof", "Foo"⟩], 0⟩
    doclet.memberof = "Foo" ∧ KindTable.standard.isDocspace doclet.kind = false ∧
      fullName [] doclet = doclet.memberof ++ ['#'] ++ ("bar" : Text) ∧
      (resolve KindTable.standard [] doclet).path = "Foo.bar" := by
  decide +kernel

end SymbolPath.Resolution
