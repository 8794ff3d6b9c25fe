import SymbolPath.Proofs.Resolution.Placement

/-!
Resolving a doclet whose kind may have a space of its own. The scheme of the kind leaves the name and
goes into the path, behind the container. A container read off the name is written down in any case,
but it stands in the path of such a symbol only if the short name does not happen to begin with it:
there is no full name to fall back on that would still hold the container.
-/

namespace SymbolPath.Resolution

open SymbolPath.Path

/-- A symbol with a scheme keeps the container of its name in the path exactly if its short name,
less a scheme, does not begin with the container. If it does, the path is scheme and short name
alone, though the tags still say where the symbol hangs. -/
theorem docspace_container_kept_iff (kinds : KindTable) (module : Text) {doclet : Doclet}
    (untagged : doclet.memberof = []) (notFile : doclet.kind ≠ "file")
    (ownSpace : kinds.isDocspace doclet.kind = true) :
    let full := fullName module doclet
    let container := (split full).1
    let short := stripScheme (split full).2
    let resolved := resolve kinds module doclet
    container ≠ [] → short ≠ [] →
      (resolved.path = container ++ joiner container ++ doclet.kind ++ ':' :: short ↔
        Text.startsWith container short = false) ∧
      (Text.startsWith container short = true → resolved.path = doclet.kind ++ ':' :: short) ∧
      resolved.doclet.path = resolved.path ∧ resolved.doclet.name = short ∧
      resolved.doclet.memberof = if marksInner container then container.dropLast else container := by
  intro full container short resolved given named
  have isShort : unschemed kinds doclet.kind (split full).2 = short := if_pos ownSpace
  have isScheme : schemeOf kinds doclet.kind = doclet.kind ++ [':'] := if_pos ownSpace
  have whole : resolved =
      ⟨storeUnlessEmpty (storeUnlessEmpty (stored doclet container) "name" short) "path"
        (compose full container (doclet.kind ++ [':']) short),
        compose full container (doclet.kind ++ [':']) short⟩ := by
    have unfolded := resolve_eq kinds module doclet
    dsimp only at unfolded
    rw [place_untagged untagged notFile, isScheme] at unfolded
    rw [← isShort]
    exact unfolded
  have path : resolved.path = if Text.startsWith container short then doclet.kind ++ ':' :: short
      else container ++ joiner container ++ doclet.kind ++ ':' :: short := by
    rw [whole]
    show compose full container (doclet.kind ++ [':']) short = _
    rw [compose_container given]
    simp [uncontained]
  refine ⟨?_, fun begins => by rw [path, if_pos begins], ?_, ?_, ?_⟩
  · rw [path]
    cases begins : Text.startsWith container short with
    | false => simp
    | true =>
        -- with the container the path would be longer
        have longer : doclet.kind ++ ':' :: short ≠
            container ++ joiner container ++ doclet.kind ++ ':' :: short := by
          intro same
          have lengths := congrArg List.length same
          have some : 0 < container.length := List.length_pos_iff.mpr given
          simp only [List.length_append, List.length_cons] at lengths
          omega
        simpa using longer
  · apply path_of_resolve
    show resolved.path ≠ []
    rw [path]
    split <;> simp
  · rw [whole]
    exact (value_storeUnlessEmpty_other _ _ (by decide)).trans (value_storeUnlessEmpty _ named)
  · rw [whole]
    exact (value_storeUnlessEmpty_other _ _ (by decide)).trans
      ((value_storeUnlessEmpty_other _ _ (by decide)).trans (memberof_stored given))

/-- The scheme moves behind the container, whose mark joins the two. -/
theorem docspace_container_kept_scheme :
    let doclet : Doclet := ⟨[⟨"name", "Widget#event:changed"⟩, ⟨"isa", "event"⟩], 0⟩
    let resolved := resolve KindTable.standard [] doclet
    doclet.memberof = [] ∧ doclet.kind ≠ "file" ∧
      KindTable.standard.isDocspace doclet.kind = true ∧
      split (fullName [] doclet) = (("Widget#" : Text), ("event:changed" : Text)) ∧
      resolved.path = "Widget#event:changed" ∧ resolved.doclet.name = "changed" ∧
      resolved.doclet.memberof = "Widget#" := by
  intro doclet resolved
  have untagged : doclet.memberof = [] := by decide +kernel
  have notFile : doclet.kind ≠ "file" := by decide +kernel
  have ownSpace : KindTable.standard.isDocspace doclet.kind = true := by decide +kernel
  have halves : split (fullName [] doclet) = (("Widget#" : Text), ("event:changed" : Text)) := by
    decide +kernel
  have keeps := docspace_container_kept_iff KindTable.standard [] untagged notFile ownSpace
  dsimp only at keeps
  rw [halves] at keeps
  obtain ⟨kept, _, _, name, memberof⟩ := keeps (by decide) (by decide +kernel)
  exact ⟨untagged, notFile, ownSpace, halves, kept.mpr (by decide +kernel), name, memberof⟩

/-- The short name begins with the word that is its container, and the path loses it. -/
theorem docspace_container_lost :
    let doclet : Doclet := ⟨[⟨"name", "Data.DataLoaded"⟩, ⟨"isa", "event"⟩], 0⟩
    let resolved := resolve KindTable.standard [] doclet
    doclet.memberof = [] ∧ doclet.kind ≠ "file" ∧
      KindTable.standard.isDocspace doclet.kind = true ∧
      split (fullName [] doclet) = (("Data" : Text), ("DataLoaded" : Text)) ∧
      stripScheme "DataLoaded" = ("DataLoaded" : Text) ∧
      resolved.path = "event:DataLoaded" ∧ resolved.path ≠ ("Data.event:DataLoaded" : Text) ∧
      resolved.doclet.memberof = "Data" := by
  decide +kernel

end SymbolPath.Resolution
