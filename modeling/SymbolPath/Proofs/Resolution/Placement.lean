import SymbolPath.Proofs.Resolution.Tagged

/-!
Resolution in two stages, for doclets of every kind: where a name is placed, under the container that
was tagged or under the one it brings along, and what path is composed of its container, its scheme
and its short name.
-/

namespace SymbolPath.Resolution

open SymbolPath.Path

/-- The short name as it is written down: less a scheme, for kinds with a space of their own. -/
def unschemed (kinds : KindTable) (kind short : Text) : Text :=
  if kinds.isDocspace kind then stripScheme short else short

theorem schemeOf_eq_nil_iff {kinds : KindTable} {kind : Text} :
    schemeOf kinds kind = [] ↔ kinds.isDocspace kind = false := by
  unfold schemeOf
  cases kinds.isDocspace kind <;> simp

/-- The path that has no container to stand behind. -/
def uncontained (full scheme short : Text) : Text :=
  if scheme.isEmpty then full else scheme ++ short

theorem compose_nil (full scheme short : Text) :
    compose full [] scheme short = uncontained full scheme short := by
  cases scheme <;> rfl

theorem compose_container {container : Text} (given : container ≠ []) (full scheme short : Text) :
    compose full container scheme short =
      if Text.startsWith container short then uncontained full scheme short
      else container ++ joiner container ++ scheme ++ short := by
  have notEmpty : container.isEmpty = false := by simpa using given
  unfold compose uncontained
  cases starts : Text.startsWith container short <;> cases scheme <;> simp [notEmpty]

theorem resolve_eq (kinds : KindTable) (module : Text) (doclet : Doclet) :
    let full := fullName module doclet
    let placed := place doclet full
    let short := unschemed kinds doclet.kind placed.short
    let path := compose full placed.container (schemeOf kinds doclet.kind) short
    resolve kinds module doclet =
      ⟨storeUnlessEmpty (storeUnlessEmpty placed.doclet "name" short) "path" path, path⟩ := rfl

theorem place_untagged {doclet : Doclet} (untagged : doclet.memberof = [])
    (notFile : doclet.kind ≠ "file") (full : Text) :
    place doclet full = ⟨stored doclet (split full).1, (split full).1, (split full).2⟩ := by
  have noneTagged : (!doclet.memberof.isEmpty) = false := by rw [untagged]; rfl
  have isFile : (doclet.kind == ("file" : Text)) = false := beq_eq_false_iff_ne.mpr notFile
  simp only [place, noneTagged, isFile, stored, Bool.false_eq_true, if_false]

theorem place_file {doclet : Doclet} (untagged : doclet.memberof = [])
    (isFile : doclet.kind = "file") (full : Text) : place doclet full = ⟨doclet, [], full⟩ := by
  have noneTagged : (!doclet.memberof.isEmpty) = false := by rw [untagged]; rfl
  have same : (doclet.kind == ("file" : Text)) = true := beq_iff_eq.mpr isFile
  simp only [place, noneTagged, same, Bool.false_eq_true, if_false, if_true]

theorem place_tagged {doclet : Doclet} (tagged : doclet.memberof ≠ []) (full : Text) :
    place doclet full = ⟨doclet, doclet.memberof, shortUnder doclet.memberof full⟩ := by
  have isTagged : (!doclet.memberof.isEmpty) = true := by simpa using tagged
  simp only [place, isTagged, if_true, shortUnder]

theorem path_tagged (kinds : KindTable) (module : Text) {doclet : Doclet}
    (tagged : doclet.memberof ≠ []) :
    let full := fullName module doclet
    (resolve kinds module doclet).path =
      compose full doclet.memberof (schemeOf kinds doclet.kind)
        (unschemed kinds doclet.kind (shortUnder doclet.memberof full)) := by
  intro full
  rw [resolve_eq, place_tagged tagged]

/-- The container that a name brings along, and its short name; the name of a file has none. -/
def halves (kind full : Text) : Text × Text :=
  if kind = "file" then ([], full) else split full

theorem path_untagged (kinds : KindTable) (module : Text) {doclet : Doclet}
    (untagged : doclet.memberof = []) :
    let full := fullName module doclet
    (resolve kinds module doclet).path =
      compose full (halves doclet.kind full).1 (schemeOf kinds doclet.kind)
        (unschemed kinds doclet.kind (halves doclet.kind full).2) := by
  intro full
  rw [resolve_eq]
  unfold halves
  by_cases isFile : doclet.kind = "file"
  · rw [place_file untagged isFile, if_pos isFile]
  · rw [place_untagged untagged isFile, if_neg isFile]

section Parts

variable (doclet : Doclet) (full : Text)

/-- The container that the path is to stand behind: the tagged one, or the one in the name. -/
def holder : Text :=
  if doclet.memberof = [] then (halves doclet.kind full).1 else doclet.memberof

def segment : Text :=
  if doclet.memberof = [] then (halves doclet.kind full).2 else shortUnder doclet.memberof full

end Parts

theorem path_eq_compose (kinds : KindTable) (module : Text) (doclet : Doclet) :
    let full := fullName module doclet
    (resolve kinds module doclet).path =
      compose full (holder doclet full) (schemeOf kinds doclet.kind)
        (unschemed kinds doclet.kind (segment doclet full)) := by
  intro full
  unfold holder segment
  by_cases tagged : doclet.memberof = []
  · rw [if_pos tagged, if_pos tagged]
    exact path_untagged kinds module tagged
  · rw [if_neg tagged, if_neg tagged]
    exact path_tagged kinds module tagged

end SymbolPath.Resolution
