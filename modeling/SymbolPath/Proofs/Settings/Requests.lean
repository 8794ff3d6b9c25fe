import SymbolPath.Settings.Store

/-!
A store in use: requests are served one after the other, each from the store that the one before it
left. Stores with the same environment, the same files and the same settings give the same replies
from then on, whether or not they have read their layers yet.
-/

namespace SymbolPath

/-- What a store may be asked for. To reopen it is to forget the settings kept. -/
inductive Request where
  | load
  | get (key : Text)
  | set (key written : Text) (scope : Scope)
  | describe (userFile projectFile : Text)
  | reopen

inductive Reply where
  | settings (read : Except Failure Settings)
  | value (read : Except Failure Value)
  | change (change : Change)
  | text (shown : Except Failure Text)
  | reopened

namespace Store

def answer (store : Store) : Request → Store × Reply
  | .load => (store.load, .settings store.settings)
  | .get key => (store.load, .value (store.get key))
  | .set key written scope =>
    ((store.set key written scope).2, .change (store.set key written scope).1)
  | .describe userFile projectFile =>
    (store.load, .text (store.settings.bind fun settings => settings.describe userFile projectFile))
  | .reopen => (store.reopen, .reopened)

def serve (store : Store) : List Request → Store × List Reply
  | [] => (store, [])
  | request :: rest =>
    let (next, reply) := store.answer request
    let (last, replies) := next.serve rest
    (last, reply :: replies)

/-- Two stores that differ at most in having read their layers. -/
structure Alike (a b : Store) : Prop where
  environment : a.environment = b.environment
  user : a.user = b.user
  project : a.project = b.project
  settings : a.settings = b.settings

theorem alike_refl (store : Store) : Alike store store :=
  ⟨rfl, rfl, rfl, rfl⟩

@[simp] theorem settings_keep (store : Store) (settings : Settings) :
    (store.keep settings).settings = .ok settings := rfl

theorem settings_load (store : Store) : store.load.settings = store.settings := by
  unfold load
  cases read : store.settings with
  | ok settings => rfl
  | error failure => exact read

theorem alike_load (store : Store) : Alike store.load store where
  environment := by unfold load; split <;> rfl
  user := by unfold load; split <;> rfl
  project := by unfold load; split <;> rfl
  settings := settings_load store

theorem Alike.symm {a b : Store} (same : Alike a b) : Alike b a :=
  ⟨same.environment.symm, same.user.symm, same.project.symm, same.settings.symm⟩

theorem Alike.trans {a b c : Store} (first : Alike a b) (second : Alike b c) : Alike a c :=
  ⟨first.environment.trans second.environment, first.user.trans second.user,
    first.project.trans second.project, first.settings.trans second.settings⟩

theorem Alike.keep {a b : Store} (same : Alike a b) (settings : Settings) :
    a.keep settings = b.keep settings := by
  obtain ⟨environment, user, project, _⟩ := same
  unfold Store.keep
  rw [environment, user, project]

theorem Alike.reopen {a b : Store} (same : Alike a b) : a.reopen = b.reopen := by
  obtain ⟨environment, user, project, _⟩ := same
  unfold Store.reopen
  rw [environment, user, project]

theorem Alike.get {a b : Store} (same : Alike a b) (key : Text) : a.get key = b.get key := by
  unfold Store.get
  rw [same.settings]

theorem Alike.set {a b : Store} (same : Alike a b) (key written : Text) (scope : Scope) :
    (a.set key written scope).1 = (b.set key written scope).1 ∧
      Alike (a.set key written scope).2 (b.set key written scope).2 := by
  unfold Store.set
  rw [same.settings]
  cases b.settings with
  | error failure => exact ⟨rfl, same⟩
  | ok settings =>
      simp only [Store.save, same.keep, true_and]
      exact alike_refl _

theorem Alike.answer {a b : Store} (same : Alike a b) (request : Request) :
    (a.answer request).2 = (b.answer request).2 ∧
      Alike (a.answer request).1 (b.answer request).1 := by
  have loaded : Alike a.load b.load := (alike_load a).trans (same.trans (alike_load b).symm)
  cases request with
  | load => exact ⟨by rw [Store.answer, Store.answer, same.settings], loaded⟩
  | get key => exact ⟨by rw [Store.answer, Store.answer, same.get], loaded⟩
  | set key written scope =>
      obtain ⟨change, next⟩ := same.set key written scope
      exact ⟨congrArg Reply.change change, next⟩
  | describe userFile projectFile =>
      exact ⟨by rw [Store.answer, Store.answer, same.settings], loaded⟩
  | reopen =>
      refine ⟨rfl, ?_⟩
      simp only [Store.answer, same.reopen]
      exact alike_refl _

theorem Alike.serve {a b : Store} (same : Alike a b) (requests : List Request) :
    (a.serve requests).2 = (b.serve requests).2 ∧
      Alike (a.serve requests).1 (b.serve requests).1 := by
  induction requests generalizing a b with
  | nil => exact ⟨rfl, same⟩
  | cons request rest ih =>
      obtain ⟨reply, next⟩ := same.answer request
      obtain ⟨replies, last⟩ := ih next
      simp only [Store.serve]
      exact ⟨by rw [reply, replies], last⟩

end Store
end SymbolPath
