import SymbolPath.Proofs.Path.RoundTrip
import SymbolPath.Proofs.Path.Schemes
import SymbolPath.Proofs.Resolution.Placement

/-!
Resolving a name of one segment. Without a container the path is the name, for kinds with a space of
their own behind the scheme. Under a tagged container the path is the container joined to that: the
segment cannot repeat the container. It may however begin with the letters of the container. It is
then taken for a name that holds its container already, and the path is left without one.
-/

namespace SymbolPath.Resolution

open SymbolPath.Path

theorem shortUnder_of_bare (container : Text) {name : Text} (bare : Bare name) :
    shortUnder container name = name := by
  have alone : (split name).2 = name := by rw [split, cut?_of_bare bare]
  unfold shortUnder
  rw [alone, ite_self]

theorem unschemed_ne_nil (kinds : KindTable) (kind : Text) {short : Text} (given : short ≠ []) :
    unschemed kinds kind short ≠ [] := by
  unfold unschemed
  split
  · exact stripScheme_ne_nil given
  · exact given

/-- Without a container in front, a path is the scheme and the short name: the full name stands in
only for kinds whose scheme is empty. -/
theorem uncontained_unschemed (kinds : KindTable) (kind full : Text) :
    uncontained full (schemeOf kinds kind) (unschemed kinds kind full) =
      schemeOf kinds kind ++ unschemed kinds kind full := by
  unfold uncontained schemeOf unschemed
  cases kinds.isDocspace kind <;> simp

theorem place_of_bare {doclet : Doclet} (untagged : doclet.memberof = []) {name : Text}
    (bare : Bare name) : place doclet name = ⟨doclet, [], name⟩ := by
  by_cases isFile : doclet.kind = "file"
  · exact place_file untagged isFile name
  · have alone : split name = ([], name) := by rw [split, cut?_of_bare bare]
    rw [place_untagged untagged isFile, alone]
    rfl

theorem resolve_bare_untagged (kinds : KindTable) (module : Text) {doclet : Doclet}
    (untagged : doclet.memberof = []) (bare : Bare (fullName module doclet)) :
    let short := unschemed kinds doclet.kind (fullName module doclet)
    let path := schemeOf kinds doclet.kind ++ short
    resolve kinds module doclet =
      ⟨storeUnlessEmpty (storeUnlessEmpty doclet "name" short) "path" path, path⟩ := by
  have unfolded := resolve_eq kinds module doclet
  dsimp only at unfolded
  rw [place_of_bare untagged bare] at unfolded
  dsimp only at unfolded
  rw [compose_nil, uncontained_unschemed] at unfolded
  exact unfolded

/-- A bare name stands behind its tagged container in the path exactly if it does not begin, less a
scheme, with the container. If it does, the container is left out, though it stays tagged. -/
theorem bare_name_joined_iff (kinds : KindTable) (module : Text) {doclet : Doclet}
    (tagged : doclet.memberof ≠ []) (given : fullName module doclet ≠ [])
    (bare : Bare (fullName module doclet)) :
    let container := doclet.memberof
    let scheme := schemeOf kinds doclet.kind
    let short := unschemed kinds doclet.kind (fullName module doclet)
    let resolved := resolve kinds module doclet
    (resolved.path = container ++ joiner container ++ scheme ++ short ↔
        Text.startsWith container short = false) ∧
      (Text.startsWith container short = true → resolved.path = scheme ++ short) ∧
      resolved.doclet.path = resolved.path ∧ resolved.doclet.name = short ∧
      resolved.doclet.values "memberof" = doclet.values "memberof" := by
  intro container scheme short resolved
  have named : short ≠ [] := unschemed_ne_nil kinds doclet.kind given
  have whole : resolved =
      ⟨storeUnlessEmpty (storeUnlessEmpty doclet "name" short) "path"
        (compose (fullName module doclet) container scheme short),
        compose (fullName module doclet) container scheme short⟩ := by
    have unfolded := resolve_eq kinds module doclet
    dsimp only at unfolded
    rw [place_tagged tagged, shortUnder_of_bare _ bare] at unfolded
    exact unfolded
  have path : resolved.path = if Text.startsWith container short then scheme ++ short
      else container ++ joiner container ++ scheme ++ short := by
    rw [whole]
    show compose (fullName module doclet) container scheme short = _
    rw [compose_container tagged, uncontained_unschemed]
  refine ⟨?_, fun begins => by rw [path, if_pos begins], ?_, ?_, ?_⟩
  · rw [path]
    cases begins : Text.startsWith container short with
    | false => simp
    | true =>
        -- with the container the path would be longer
        have longer : scheme ++ short ≠ container ++ joiner container ++ scheme ++ short := by
          intro same
          have lengths := congrArg List.length same
          have some : 0 < container.length := List.length_pos_iff.mpr tagged
          simp only [List.length_append] at lengths
          omega
        simpa using longer
  · apply path_of_resolve
    show resolved.path ≠ []
    rw [path]
    split <;> simp [named]
  · rw [whole]
    exact name_storeUnlessEmpty _ named _
  · rw [whole]
    exact (values_storeUnlessEmpty_other _ _ (by decide)).trans
      (values_storeUnlessEmpty_other _ _ (by decide))

/-- An event whose name brings its scheme, under a container that ends in a scope marker. -/
theorem bare_name_joined_event :
    let doclet : Doclet := ⟨[⟨"name", "event:changed"⟩, ⟨"isa", "event"⟩, ⟨"memberof", "Foo#"⟩], 0⟩
    let resolved := resolve KindTable.standard [] doclet
    doclet.memberof ≠ [] ∧ fullName [] doclet = "event:changed" ∧ Bare (fullName [] doclet) ∧
      resolved.path = "Foo#event:changed" ∧ resolved.doclet.name = "changed" ∧
      resolved.doclet.values "memberof" = [("Foo#" : Text)] := by
  intro doclet resolved
  have tagged : doclet.memberof ≠ [] := by decide +kernel
  have full : fullName [] doclet = "event:changed" := by decide +kernel
  have bare : Bare (fullName [] doclet) := by
    rw [full]
    exact ⟨by decide, forall_false_iff_any.mpr (by decide)⟩
  have given : fullName [] doclet ≠ [] := by rw [full]; decide
  obtain ⟨joined, _, _, name, container⟩ :=
    bare_name_joined_iff KindTable.standard [] tagged given bare
  exact ⟨tagged, full, bare, (joined.mpr (by decide +kernel)).trans (by decide +kernel),
    name.trans (by decide +kernel), container.trans (by decide +kernel)⟩

/-- The name begins with the letters of its container, and the path loses the container. -/
theorem bare_name_not_joined :
    let doclet : Doclet := ⟨[⟨"name", "FooBar"⟩, ⟨"memberof", "Foo"⟩], 0⟩
    let resolved := resolve KindTable.standard [] doclet
    doclet.memberof = "Foo" ∧ fullName [] doclet = "FooBar" ∧
      ("FooBar" : Text).any isSeparator = false ∧ '"' ∉ ("FooBar" : Text) ∧
      KindTable.standard.isDocspace doclet.kind = false ∧
      resolved.path = "FooBar" ∧ resolved.path ≠ ("Foo.FooBar" : Text) ∧
      resolved.doclet.memberof = "Foo" := by
  decide +kernel

end SymbolPath.Resolution
