import SymbolPath.Proofs.Extraction.Turns
import SymbolPath.Proofs.Resolution.CurrentModule

/-!
The current module while a file is read. A doclet of a module makes its path the current module for
the comments behind it, up to the next such doclet; each file begins without a module. What the
module is to the doclets of these comments is said by resolution alone.
-/

namespace SymbolPath.Extraction

open Syntax Resolution

def lastModule (documented : List Documented) : Text :=
  match (documented.filter fun one => one.doclet.kind == ("module" : Text)).getLast? with
  | some last => last.doclet.path
  | none => []

theorem lastModule_snoc (documented : List Documented) (one : Documented) :
    lastModule (documented ++ [one]) =
      if one.doclet.kind == ("module" : Text) then one.doclet.path else lastModule documented := by
  unfold lastModule
  cases isModule : one.doclet.kind == ("module" : Text) with
  | true =>
      simp only [List.filter_append, List.filter_cons, List.filter_nil, isModule, if_true,
        List.getLast?_concat]
  | false =>
      simp only [List.filter_append, List.filter_cons, List.filter_nil, isModule,
        Bool.false_eq_true, if_false, List.append_nil]

theorem Session.after_module (session : Session) (source : Source) (comments : List Cursor) :
    (session.after source comments).context.module =
      lastModule ((session.yields source comments).map Prod.snd) := by
  induction comments using List.reverseRecOn with
  | nil => rfl
  | append_singleton before comment ih =>
      obtain ⟨nodes, step⟩ := session.turn_step source before comment
      rw [yields_snoc, List.map_append]
      cases step with
      | dropped nothing _ same =>
          rw [same, nothing, Option.map_none, Option.toList_none, List.map_nil, List.append_nil]
          exact ih
      | documented documented gives _ registered =>
          rw [registered, module_registerAll, gives, Option.map_some, Option.toList_some,
            List.map_singleton, lastModule_snoc, ← ih]
          unfold enter
          split <;> rfl

/-- A comment is processed under the module of the last doclet of a module before it. Under a module
a member of `exports` resolves as the member of the module does without one, and any other name
resolves under all modules alike. -/
theorem module_scoping (session : Session) :
    (∀ {source : Source} {before after : List Cursor} {comment : Cursor},
      docComments source = before ++ comment :: after →
      let earlier := (session.yields source before).map Prod.snd
      (session.after source before).context.module = lastModule earlier ∧
        ∃ later, (session.extractSource source).2.documented =
          earlier ++ (session.turn source before comment).documented.toList ++ later) ∧
    (∀ (kinds : KindTable) {module member : Text} {doclet : Doclet}, module ≠ [] →
      (∀ c ∈ module, Text.isBlank c = false) → member ≠ [] →
      Text.firstWord doclet.name = ("exports." : Text) ++ member →
      let expanded := doclet.set "name" (module ++ '.' :: member)
      (resolve kinds module doclet).path = (resolve kinds [] expanded).path ∧
        SameButName (resolve kinds module doclet).doclet (resolve kinds [] expanded).doclet) ∧
    ∀ (kinds : KindTable) {doclet : Doclet},
      (∀ member, member ≠ [] → Text.firstWord doclet.name ≠ ("exports." : Text) ++ member) →
      ∀ module another, resolve kinds module doclet = resolve kinds another doclet := by
  refine ⟨?_, resolve_exports, resolve_of_other⟩
  intro source before after comment order earlier
  exact ⟨session.after_module source before, session.extractSource_split source order⟩

/-- A member of `exports` behind the comment of a module, and a property named like the word. -/
theorem module_scoping_member :
    let comment (start stop : Nat) : Tree := .node "comment" true start stop none []
    let tree : Tree := .node "program" true 0 38 none [comment 0 16, comment 16 38]
    let source : Source :=
      ⟨⟨.relative, ["a.js"]⟩, Utf8.encode "/** @module a *//** @name exports.x */", tree⟩
    let session := Session.start KindTable.standard defaultLimit
    let first : Cursor := ⟨comment 0 16, [⟨tree, [comment 16 38]⟩]⟩
    let second : Cursor := ⟨comment 16 38, [⟨tree, []⟩]⟩
    let member := docletOf source second
    docComments source = [first] ++ second :: [] ∧
      (session.after source [first]).context.module = "module:a" ∧
      (resolve session.kinds "module:a" member).path = "module:a.x" ∧
      (resolve session.kinds [] (member.set "name" "module:a.x")).path = "module:a.x" ∧
      resolve session.kinds "module:a" ⟨[⟨"name", "exports"⟩], 0⟩ =
        resolve session.kinds [] ⟨[⟨"name", "exports"⟩], 0⟩ := by
  intro comment tree source session first second member
  have order : docComments source = [first] ++ second :: [] :=
    docComments_of_all rfl (by decide +kernel)
  obtain ⟨scope, exports, other⟩ := module_scoping session
  obtain ⟨module, _⟩ := scope order
  obtain ⟨path, _⟩ := @exports session.kinds "module:a" "x" member (by decide)
    (forall_false_iff_any.mpr rfl) (by decide) (by decide +kernel)
  have resolved : (resolve session.kinds "module:a" member).path = "module:a.x" := by
    decide +kernel
  refine ⟨order, module.trans (by decide +kernel), resolved, path.symm.trans resolved, ?_⟩
  apply other
  intro member named same
  have dotted : Text.startsWith "exports." "exports" = true := Text.startsWith_iff.mpr ⟨member, same⟩
  exact absurd dotted (by decide)

end SymbolPath.Extraction
