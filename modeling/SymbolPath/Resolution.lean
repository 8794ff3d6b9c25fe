import SymbolPath.Doclet
import SymbolPath.KindTable
import SymbolPath.Path.Basic
import SymbolPath.Path.Prototype
import SymbolPath.Path.Scheme
import SymbolPath.Text.Blank

/-!
Resolving a doclet: from the name, container and kind that a comment gives to the path of the
symbol, which is written back together with the container and the short name.

No doclet fails to resolve; one without a name resolves to the empty path. The registry of nodes
plays no part here, only the current module and the table of kinds.
-/

namespace SymbolPath.Resolution

/-- A name that starts with `exports.` names a member of the current module, if there is one. -/
def expandExports (module name : Text) : Text :=
  match Text.dropStart? "exports." name with
  | some (c :: member) => if module.isEmpty then name else module ++ '.' :: c :: member
  | _ => name

/-- The name that resolution starts from: the first word, its module and prototypes written out. -/
def fullName (module : Text) (doclet : Doclet) : Text :=
  Path.foldPrototype (expandExports module (Text.firstWord doclet.name))

/-- Writes down a container found in the name. A trailing tilde, unless it is all there is, marks
the symbol as local to a closure and is not part of the container's own path. -/
def storeContainer (doclet : Doclet) (container : Text) : Doclet :=
  if container.length > 1 && Path.endsIn (· == '~') container then
    (doclet.set "memberof" container.dropLast).set "access" "inner"
  else doclet.set "memberof" container

structure Placed where
  doclet : Doclet
  container : Text
  short : Text
deriving DecidableEq, Repr

/-- The tagged container wins. A name that repeats it is cut down to its last segment. Without one
the container is read off the name, unless the doclet describes a file. -/
def place (doclet : Doclet) (full : Text) : Placed :=
  if !doclet.memberof.isEmpty then
    ⟨doclet, doclet.memberof,
      if Text.startsWith doclet.memberof full then (Path.split full).2 else full⟩
  else if doclet.kind == ("file" : Text) then ⟨doclet, [], full⟩
  else
    let (container, short) := Path.split full
    ⟨if container.isEmpty then doclet else storeContainer doclet container, container, short⟩

/-- The scheme of a kind, with its colon; empty for kinds without a space of their own. -/
def schemeOf (kinds : KindTable) (kind : Text) : Text :=
  if kinds.isDocspace kind then kind ++ [':'] else []

/-- The path made of a container, a scheme and a short name. The container is left out where the
short name already begins with it; if nothing is added the full name stands as it is. -/
def compose (full container scheme short : Text) : Text :=
  if !container.isEmpty && !Text.startsWith container short then
    container ++ Path.joiner container ++ scheme ++ short
  else if !scheme.isEmpty then scheme ++ short
  else full

def storeUnlessEmpty (doclet : Doclet) (title value : Text) : Doclet :=
  if value.isEmpty then doclet else doclet.set title value

structure Resolved where
  doclet : Doclet
  path : Text
deriving DecidableEq, Repr

def resolve (kinds : KindTable) (module : Text) (doclet : Doclet) : Resolved :=
  let full := fullName module doclet
  let placed := place doclet full
  let kind := doclet.kind
  let short := if kinds.isDocspace kind then Path.stripScheme placed.short else placed.short
  let named := storeUnlessEmpty placed.doclet "name" short
  let path := compose full placed.container (schemeOf kinds kind) short
  ⟨storeUnlessEmpty named "path" path, path⟩

theorem value_storeUnlessEmpty (doclet : Doclet) {title value : Text} (given : value ≠ []) :
    (storeUnlessEmpty doclet title value).value title = value := by
  rw [storeUnlessEmpty, if_neg (by simpa using given), Doclet.value_set_same]

theorem value_storeUnlessEmpty_other (doclet : Doclet) {title other : Text} (value : Text)
    (different : title ≠ other) :
    (storeUnlessEmpty doclet title value).value other = doclet.value other := by
  unfold storeUnlessEmpty
  split
  · rfl
  · exact doclet.value_set_other value different

theorem name_storeUnlessEmpty (doclet : Doclet) {name : Text} (given : name ≠ []) (path : Text) :
    (storeUnlessEmpty (storeUnlessEmpty doclet "name" name) "path" path).name = name :=
  (value_storeUnlessEmpty_other _ path (by decide)).trans (value_storeUnlessEmpty doclet given)

theorem path_of_resolve (kinds : KindTable) (module : Text) (doclet : Doclet)
    (resolves : (resolve kinds module doclet).path ≠ []) :
    (resolve kinds module doclet).doclet.path = (resolve kinds module doclet).path :=
  value_storeUnlessEmpty _ resolves

theorem kind_resolve (kinds : KindTable) (module : Text) (doclet : Doclet) :
    (resolve kinds module doclet).doclet.kind = doclet.kind := by
  have placed : (place doclet (fullName module doclet)).doclet.kind = doclet.kind := by
    unfold place storeContainer
    dsimp only
    split
    · rfl
    · split
      · rfl
      · split
        · rfl
        · split
          · exact (Doclet.value_set_other _ _ (by decide)).trans
              (Doclet.value_set_other _ _ (by decide))
          · exact Doclet.value_set_other _ _ (by decide)
  exact (value_storeUnlessEmpty_other _ _ (by decide)).trans
    ((value_storeUnlessEmpty_other _ _ (by decide)).trans placed)

theorem line_storeUnlessEmpty (doclet : Doclet) (title value : Text) :
    (storeUnlessEmpty doclet title value).line = doclet.line := by
  unfold storeUnlessEmpty
  split <;> rfl

theorem line_place (doclet : Doclet) (full : Text) : (place doclet full).doclet.line = doclet.line := by
  unfold place storeContainer
  dsimp only
  split
  · rfl
  · split
    · rfl
    · split
      · rfl
      · split <;> rfl

theorem line_resolve (kinds : KindTable) (module : Text) (doclet : Doclet) :
    (resolve kinds module doclet).doclet.line = doclet.line :=
  (line_storeUnlessEmpty _ _ _).trans ((line_storeUnlessEmpty _ _ _).trans (line_place doclet _))

end SymbolPath.Resolution
