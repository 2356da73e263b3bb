import Caulk.PromptRegistry
import Caulk.Foundation.Timeline

namespace Caulk
namespace PromptRegistry

open Caulk.Core
open Foundation

/-!
# Concurrent calls to one filesystem registry

Any number of `get` calls share a registry.  Between two atomic steps a call
holds only its key, the modification time it saw and perhaps the content it
read; that is the whole of `Call`.  An action is one atomic step of one call,
or `clear_cache`.  An action whose call is not waiting for it does nothing, so
every list of actions is an interleaving and every interleaving is such a
list.

What an action can do is said once, by `CallMoves` for the call and by
`act_registry` for the shared registry.  Everything proved later about runs
goes through these two inversions.
-/

/-- Each call has a number of its own; a repeated call gets a new one. -/
abbrev CallId := Nat

/-- A `get` call between two of its atomic steps, with its local variables. -/
inductive Call where
  | idle
  | looking (key : PromptKey) (mtime : SystemTime)
  | reading (key : PromptKey) (mtime : SystemTime)
  | inserting (key : PromptKey) (mtime : SystemTime) (content : String)
  | returned (key : PromptKey) (result : Except FormeError String)

namespace Call

/-- The call has handed its result to the caller. -/
def isReturned : Call -> Bool
  | returned _ _ => true
  | _ => false

/-- After `stat`: look into the cache, or return the error. -/
def afterStat (key : PromptKey) : Except FormeError SystemTime -> Call
  | .ok mtime => looking key mtime
  | .error error => returned key (.error error)

/-- After `lookup`: return the hit, or read the file. -/
def afterLookup (key : PromptKey) (mtime : SystemTime) : Option String -> Call
  | some content => returned key (.ok content)
  | none => reading key mtime

/-- After `read`: cache the content, or return the error. -/
def afterRead (key : PromptKey) (mtime : SystemTime) : Except FormeError String -> Call
  | .ok content => inserting key mtime content
  | .error error => returned key (.error error)

end Call

inductive Action where
  | stat (id : CallId) (key : PromptKey)
  | lookup (id : CallId)
  | read (id : CallId)
  | insert (id : CallId)
  | clearCache

/-- The call that takes the step, if it is one call's step. -/
def Action.actor : Action -> Option CallId
  | stat id _ => some id
  | lookup id => some id
  | read id => some id
  | insert id => some id
  | clearCache => none

/-- A registry and the calls in flight on it. -/
structure Service where
  registry : FsRegistry
  calls : CallId -> Call

namespace Service

def new (root : PathBuf) : Service where
  registry := FsRegistry.new root
  calls := fun _ => .idle

def setCall (service : Service) (id : CallId) (call : Call) : Service :=
  { service with calls := Function.update service.calls id call }

/-- One atomic step, with the operating system's answers at that instant. -/
def act (files : FileSystem) (service : Service) : Action -> Service
  | .stat id key =>
      match service.calls id with
      | .idle => service.setCall id (.afterStat key (service.registry.stat files key))
      | _ => service
  | .lookup id =>
      match service.calls id with
      | .looking key mtime =>
          service.setCall id (.afterLookup key mtime (service.registry.lookup key mtime))
      | _ => service
  | .read id =>
      match service.calls id with
      | .reading key mtime =>
          service.setCall id (.afterRead key mtime (service.registry.read files key))
      | _ => service
  | .insert id =>
      match service.calls id with
      | .inserting key mtime content =>
          { service.setCall id (.returned key (.ok content)) with
            registry := service.registry.insert key content mtime }
      | _ => service
  | .clearCache => { service with registry := service.registry.clearCache }

@[simp] theorem setCall_registry (service : Service) (id : CallId) (call : Call) :
    (service.setCall id call).registry = service.registry :=
  rfl

@[simp] theorem setCall_same (service : Service) (id : CallId) (call : Call) :
    (service.setCall id call).calls id = call := by
  unfold setCall
  exact Function.update_self id call service.calls

theorem setCall_other (service : Service) {id other : CallId} (call : Call)
    (different : other ≠ id) : (service.setCall id call).calls other = service.calls other := by
  unfold setCall
  exact Function.update_of_ne different call service.calls

end Service

/-- The moves of one call, each with what it learns from the registry. -/
inductive CallMoves (files : FileSystem) (registry : FsRegistry) (id : CallId) :
    Action -> Call -> Call -> Prop where
  | stat {key : PromptKey} {mtime : SystemTime} (seen : registry.stat files key = .ok mtime) :
      CallMoves files registry id (.stat id key) .idle (.looking key mtime)
  | statFails {key : PromptKey} {error : FormeError} (failed : registry.stat files key = .error error) :
      CallMoves files registry id (.stat id key) .idle (.returned key (.error error))
  | hit {key : PromptKey} {mtime : SystemTime} {content : String}
      (found : registry.lookup key mtime = some content) :
      CallMoves files registry id (.lookup id) (.looking key mtime) (.returned key (.ok content))
  | miss {key : PromptKey} {mtime : SystemTime} (absent : registry.lookup key mtime = none) :
      CallMoves files registry id (.lookup id) (.looking key mtime) (.reading key mtime)
  | read {key : PromptKey} {mtime : SystemTime} {content : String}
      (loaded : registry.read files key = .ok content) :
      CallMoves files registry id (.read id) (.reading key mtime) (.inserting key mtime content)
  | readFails {key : PromptKey} {mtime : SystemTime} {error : FormeError}
      (failed : registry.read files key = .error error) :
      CallMoves files registry id (.read id) (.reading key mtime) (.returned key (.error error))
  | insert {key : PromptKey} {mtime : SystemTime} {content : String} :
      CallMoves files registry id (.insert id) (.inserting key mtime content)
        (.returned key (.ok content))

namespace CallMoves

variable {files : FileSystem} {registry : FsRegistry} {id : CallId} {action : Action}
  {before after : Call}

/-- Only its own steps move a call. -/
theorem actor_eq (moves : CallMoves files registry id action before after) :
    action.actor = some id := by
  cases moves <;> rfl

/-- A call that has moved has started. -/
theorem started (moves : CallMoves files registry id action before after) : after ≠ .idle := by
  intro idle
  cases moves <;> cases idle

end CallMoves

namespace Service

/-- An action leaves the calls of others alone. -/
theorem act_calls_other (files : FileSystem) (service : Service) {action : Action} {id : CallId}
    (other : action.actor ≠ some id) :
    (service.act files action).calls id = service.calls id := by
  have different : forall actor, action.actor = some actor -> id ≠ actor := by
    intro actor acts same
    apply other
    rw [same]
    exact acts
  cases action with
  | stat actor key =>
      cases now : service.calls actor <;> simp only [act, now]
      exact setCall_other service _ (different actor rfl)
  | lookup actor =>
      cases now : service.calls actor <;> simp only [act, now]
      exact setCall_other service _ (different actor rfl)
  | read actor =>
      cases now : service.calls actor <;> simp only [act, now]
      exact setCall_other service _ (different actor rfl)
  | insert actor =>
      cases now : service.calls actor <;> simp only [act, now]
      exact setCall_other service _ (different actor rfl)
  | clearCache => rfl

/-- A call that an `act` changes has made one of its moves. -/
theorem act_calls (files : FileSystem) (service : Service) (action : Action) (id : CallId) :
    (service.act files action).calls id = service.calls id ∨
    CallMoves files service.registry id action (service.calls id)
      ((service.act files action).calls id) := by
  by_cases mine : action.actor = some id
  · cases action with
    | stat actor key =>
        cases mine
        cases now : service.calls id <;> simp only [act, now, true_or]
        case idle =>
          right
          rw [setCall_same]
          cases seen : service.registry.stat files key with
          | ok mtime => exact .stat seen
          | error error => exact .statFails seen
    | lookup actor =>
        cases mine
        cases now : service.calls id <;> simp only [act, now, true_or]
        case looking key mtime =>
          right
          rw [setCall_same]
          cases found : service.registry.lookup key mtime with
          | some content => exact .hit found
          | none => exact .miss found
    | read actor =>
        cases mine
        cases now : service.calls id <;> simp only [act, now, true_or]
        case reading key mtime =>
          right
          rw [setCall_same]
          cases loaded : service.registry.read files key with
          | ok content => exact .read loaded
          | error error => exact .readFails loaded
    | insert actor =>
        cases mine
        cases now : service.calls id <;> simp only [act, now, true_or]
        case inserting key mtime content =>
          right
          have done : (service.setCall id (.returned key (.ok content))).calls id =
              .returned key (.ok content) := setCall_same _ _ _
          rw [done]
          exact .insert
    | clearCache => cases mine
  · exact Or.inl (act_calls_other files service mine)

/-- The registry changes only by a clear, or by the insertion of a call that
was about to make it. -/
theorem act_registry (files : FileSystem) (service : Service) (action : Action) :
    (service.act files action).registry = service.registry ∨
    (action = .clearCache ∧ (service.act files action).registry = service.registry.clearCache) ∨
    ∃ id key mtime content, action = .insert id ∧
      service.calls id = .inserting key mtime content ∧
      (service.act files action).registry = service.registry.insert key content mtime := by
  cases action with
  | stat actor key =>
      left
      cases now : service.calls actor <;> simp only [act, now, setCall_registry]
  | lookup actor =>
      left
      cases now : service.calls actor <;> simp only [act, now, setCall_registry]
  | read actor =>
      left
      cases now : service.calls actor <;> simp only [act, now, setCall_registry]
  | insert actor =>
      cases now : service.calls actor <;> simp only [act, now, true_or]
      case inserting key mtime content =>
        right; right
        exact ⟨actor, key, mtime, content, rfl, now, rfl⟩
  | clearCache =>
      right; left
      exact ⟨rfl, rfl⟩

@[simp] theorem act_root (files : FileSystem) (service : Service) (action : Action) :
    (service.act files action).registry.root = service.registry.root := by
  rcases service.act_registry files action with same | ⟨_, cleared⟩ | ⟨_, _, _, _, _, _, inserted⟩
  · rw [same]
  · rw [cleared, FsRegistry.clearCache_root]
  · rw [inserted, FsRegistry.insert_root]

@[simp] theorem act_poisoned (files : FileSystem) (service : Service) (action : Action) :
    (service.act files action).registry.cache.poisoned = service.registry.cache.poisoned := by
  rcases service.act_registry files action with same | ⟨_, cleared⟩ | ⟨_, _, _, _, _, _, inserted⟩
  · rw [same]
  · rw [cleared, FsRegistry.clearCache_poisoned]
  · rw [inserted, FsRegistry.insert_poisoned]

/-- A cached entry was there before, or the call inserting it was. -/
theorem act_entry {files : FileSystem} {service : Service} {action : Action} {key : PromptKey}
    {content : String} {mtime : SystemTime}
    (entry : (service.act files action).registry.cache.value key = some (content, mtime)) :
    service.registry.cache.value key = some (content, mtime) ∨
    ∃ id, action = .insert id ∧ service.calls id = .inserting key mtime content := by
  rcases service.act_registry files action with
    same | ⟨_, cleared⟩ | ⟨id, inserted, time, text, isInsert, ready, changed⟩
  · rw [same] at entry
    exact Or.inl entry
  · rw [cleared] at entry
    exact Or.inl (FsRegistry.clearCache_entry entry)
  · rw [changed] at entry
    rcases FsRegistry.insert_entry entry with ⟨sameKey, sameContent, sameTime⟩ | older
    · subst sameKey sameContent sameTime
      exact Or.inr ⟨id, isInsert, ready⟩
    · exact Or.inl older

/-! ## A call that is not interrupted -/

/-- The four atomic steps of one call. -/
def callSteps (id : CallId) (key : PromptKey) : List Action :=
  [.stat id key, .lookup id, .read id, .insert id]

/-- Without interference the four steps are exactly `FsRegistry::get`. -/
theorem callSteps_eq_get (files : FileSystem) (service : Service) (id : CallId) (key : PromptKey)
    (fresh : service.calls id = .idle) :
    let result := service.registry.get files key
    let final := (callSteps id key).foldl (act files) service
    final.registry = result.2 ∧ final.calls id = .returned key result.1 := by
  simp only [callSteps, List.foldl_cons, List.foldl_nil]
  cases seen : service.registry.stat files key with
  | error error =>
      simp [act, fresh, seen, FsRegistry.get, Call.afterStat]
  | ok mtime =>
      cases found : service.registry.lookup key mtime with
      | some content =>
          simp [act, fresh, seen, found, FsRegistry.get, Call.afterStat, Call.afterLookup]
      | none =>
          cases loaded : service.registry.read files key with
          | error error =>
              simp [act, fresh, seen, found, loaded, FsRegistry.get, Call.afterStat,
                Call.afterLookup, Call.afterRead]
          | ok content =>
              simp [act, fresh, seen, found, loaded, FsRegistry.get, Call.afterStat,
                Call.afterLookup, Call.afterRead]

end Service

end PromptRegistry
end Caulk
