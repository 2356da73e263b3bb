import Caulk.PromptRegistry.CachedPairs

namespace Caulk
namespace PromptRegistry

open Caulk.Core
open Foundation

/-!
# Every call finishes

A call takes its four steps whatever the others do: no step waits for another
call, for a write or for a clear.  So a call that has begun has returned by
the time it has been given its three remaining steps, in any interleaving and
with no assumption about the writes.

It returns once, for the key it began with, and what it returns is honest: a
content is one that the key's file had at the return or earlier, and an error
is "not found" for this key, with the file missing at the very step that
returned it.  How old the content may be is another matter, on which nothing
can be said without an assumption about the modification times.
-/

namespace Call

/-- How many steps of its own a call may still need. -/
def remaining : Call -> Nat
  | idle => 4
  | looking _ _ => 3
  | reading _ _ => 2
  | inserting _ _ _ => 1
  | returned _ _ => 0

/-- The key that a call is for, once it has begun. -/
def subject : Call -> Option PromptKey
  | idle => none
  | looking key _ | reading key _ | inserting key _ _ | returned key _ => some key

theorem remaining_afterStat (key : PromptKey) (seen : Except FormeError SystemTime) :
    (afterStat key seen).remaining ≤ 3 := by
  cases seen <;> simp [afterStat, remaining]

theorem remaining_afterLookup (key : PromptKey) (mtime : SystemTime) (found : Option String) :
    (afterLookup key mtime found).remaining ≤ 2 := by
  cases found <;> simp [afterLookup, remaining]

theorem remaining_afterRead (key : PromptKey) (mtime : SystemTime) (loaded : Except FormeError String) :
    (afterRead key mtime loaded).remaining ≤ 1 := by
  cases loaded <;> simp [afterRead, remaining]

theorem remaining_eq_zero_iff (call : Call) : call.remaining = 0 <-> call.isReturned = true := by
  cases call <;> simp [remaining, isReturned]

end Call

/-- How many steps a call may still need after this one of its steps. -/
def Action.leaves : Action -> Nat
  | stat _ _ => 3
  | lookup _ => 2
  | read _ => 1
  | insert _ => 0
  | clearCache => 4

namespace CallMoves

variable {files : FileSystem} {registry : FsRegistry} {id : CallId} {action : Action}
  {before after : Call}

/-- A move is made when the call waits for it, and it leaves fewer steps. -/
theorem remaining_eq (moves : CallMoves files registry id action before after) :
    before.remaining = action.leaves + 1 ∧ after.remaining ≤ action.leaves := by
  cases moves <;> simp [Call.remaining, Action.leaves]

/-- A call keeps its key. -/
theorem subject_eq (moves : CallMoves files registry id action before after)
    (begun : before ≠ .idle) : after.subject = before.subject := by
  cases moves with
  | stat seen => exact absurd rfl begun
  | statFails failed => exact absurd rfl begun
  | hit found => rfl
  | miss absent => rfl
  | read loaded => rfl
  | readFails failed => rfl
  | insert => rfl

/-- A call that has returned makes no move. -/
theorem not_returned (moves : CallMoves files registry id action before after) :
    before.isReturned = false := by
  cases moves <;> rfl

end CallMoves

namespace Service

/-- A step that a call waits for is taken. -/
theorem act_waited (files : FileSystem) (service : Service) (action : Action) {id : CallId}
    (own : action.actor = some id) (waits : (service.calls id).remaining = action.leaves + 1) :
    ((service.act files action).calls id).remaining ≤ action.leaves := by
  cases action with
  | clearCache => cases own
  | stat actor key =>
      cases own
      cases now : service.calls id <;> rw [now] at waits <;> cases waits
      simp only [act, now, setCall_same]
      exact Call.remaining_afterStat key _
  | lookup actor =>
      cases own
      cases now : service.calls id <;> rw [now] at waits <;> cases waits
      simp only [act, now, setCall_same]
      exact Call.remaining_afterLookup _ _ _
  | read actor =>
      cases own
      cases now : service.calls id <;> rw [now] at waits <;> cases waits
      simp only [act, now, setCall_same]
      exact Call.remaining_afterRead _ _ _
  | insert actor =>
      cases own
      cases now : service.calls id <;> rw [now] at waits <;> cases waits
      simp only [act, now]
      exact Nat.le_of_eq (congrArg Call.remaining (setCall_same _ _ _))

/-- And one that it has passed changes nothing: either way it lies behind. -/
theorem act_remaining (files : FileSystem) (service : Service) (action : Action) {id : CallId}
    (own : action.actor = some id) (near : (service.calls id).remaining ≤ action.leaves + 1) :
    ((service.act files action).calls id).remaining ≤ action.leaves := by
  rcases Nat.lt_or_eq_of_le near with passed | waits
  · rcases service.act_calls files action id with same | moves
    · rw [same]
      exact Nat.le_of_lt_succ passed
    · exact moves.remaining_eq.2
  · exact service.act_waited files action own waits

end Service

namespace Interleaving

variable {File : Type} [DecidableEq File] {history : Interleaving File}

/-- No event sets a call back. -/
theorem remaining_succ {instant : Nat} {event : WorldEvent File}
    (occurs : history.events[instant]? = some event) (id : CallId) :
    (history.callAt (instant + 1) id).remaining ≤ (history.callAt instant id).remaining := by
  rcases callAt_succ occurs id with same | ⟨action, _, moves⟩
  · rw [same]
  · rcases moves.remaining_eq with ⟨before, after⟩
    rw [before]
    exact Nat.le_succ_of_le after

theorem remaining_later (id : CallId) {early late : Nat} (ordered : early ≤ late)
    (bound : late ≤ history.timeline.length) :
    (history.callAt late id).remaining ≤ (history.callAt early id).remaining := by
  apply history.timeline.induction_from
    (fun instant => (history.callAt instant id).remaining ≤ (history.callAt early id).remaining)
    (Nat.le_refl _) _ late ordered bound
  intro instant event _ occurs ih
  exact Nat.le_trans (remaining_succ occurs id) ih

/-- A step of the call is behind it afterwards, once the steps before it are. -/
theorem remaining_own {instant : Nat} {action : Action} {id : CallId}
    (occurs : history.events[instant]? = some (.call action)) (own : action.actor = some id)
    (near : (history.callAt instant id).remaining ≤ action.leaves + 1) :
    (history.callAt (instant + 1) id).remaining ≤ action.leaves := by
  unfold callAt at near ⊢
  rw [service_call occurs]
  exact Service.act_remaining _ _ action own near

/-- Given its remaining three steps, a call has returned. -/
theorem returned_after_own_steps {id : CallId} {key : PromptKey} {start looked read inserted : Nat}
    (began : history.Began id key start) (first : start < looked) (second : looked < read)
    (third : read < inserted)
    (looks : history.events[looked]? = some (.call (.lookup id)))
    (reads : history.events[read]? = some (.call (.read id)))
    (inserts : history.events[inserted]? = some (.call (.insert id))) :
    (history.callAt (inserted + 1) id).isReturned = true := by
  have statted : (history.callAt (start + 1) id).remaining ≤ 3 := by
    apply remaining_own began.1 rfl
    rw [began.2]
    exact Nat.le_refl 4
  have bound : inserted ≤ history.timeline.length :=
    Nat.le_of_lt (history.timeline.lt_length inserts)
  have atLookup := Nat.le_trans (remaining_later id first (by omega)) statted
  have afterLookup := remaining_own looks rfl atLookup
  have atRead := Nat.le_trans (remaining_later id second (by omega)) afterLookup
  have afterRead := remaining_own reads rfl atRead
  have atInsert := Nat.le_trans (remaining_later id third (by omega)) afterRead
  have afterInsert := remaining_own inserts rfl atInsert
  exact (Call.remaining_eq_zero_iff _).mp (Nat.le_zero.mp afterInsert)

/-! ## What a call returns -/

theorem callAt_late {instant : Nat} (late : history.timeline.length ≤ instant) (id : CallId) :
    history.callAt instant id = history.callAt history.timeline.length id := by
  unfold callAt worldAt
  rw [history.timeline.stateAt_of_length_le late]

/-- A call that has returned stays as it is. -/
theorem returned_later {early late : Nat} {id : CallId} (ordered : early ≤ late)
    (returned : (history.callAt early id).isReturned = true) :
    history.callAt late id = history.callAt early id := by
  have within : forall instant, early ≤ instant -> instant ≤ history.timeline.length ->
      history.callAt instant id = history.callAt early id := by
    apply history.timeline.induction_from
      (fun instant => history.callAt instant id = history.callAt early id) rfl
    intro instant event _ occurs ih
    rcases callAt_succ occurs id with same | ⟨action, _, moves⟩
    · exact same.trans ih
    · have running := moves.not_returned
      rw [ih, returned] at running
      cases running
  rcases Nat.le_total late history.timeline.length with before | after
  · exact within late ordered before
  · rw [callAt_late after]
    rcases Nat.le_total early history.timeline.length with past | beyond
    · exact within _ past (Nat.le_refl _)
    · exact (callAt_late beyond id).symm

/-- A call keeps the key it began with. -/
theorem subject_later {id : CallId} {key : PromptKey} {start : Nat}
    (began : history.Began id key start) :
    forall late, start + 1 ≤ late -> late ≤ history.timeline.length ->
      (history.callAt late id).subject = some key := by
  apply history.timeline.induction_from
    (fun instant => (history.callAt instant id).subject = some key)
  · have statted := remaining_own began.1 rfl (Nat.le_of_eq (congrArg Call.remaining began.2))
    rcases callAt_succ began.1 id with same | ⟨action, isCall, moves⟩
    · rw [same, began.2] at statted
      exact absurd statted (Nat.not_succ_le_self 3)
    · cases isCall
      rw [began.2] at moves
      generalize history.callAt (start + 1) id = after at moves
      cases moves with
      | stat seen => rfl
      | statFails failed => rfl
  · intro instant event later occurs ih
    rcases callAt_succ occurs id with same | ⟨action, _, moves⟩
    · rw [same]
      exact ih
    · rw [moves.subject_eq, ih]
      intro idle
      rw [idle] at ih
      cases ih

/-- What a returned result says about the key's file. -/
def Honest (history : Interleaving File) (key : PromptKey) (start instant : Nat) :
    Except FormeError String -> Prop
  | .ok content => ∃ seen, seen ≤ instant ∧ history.Had seen key content
  | .error error => error = .registryNotFound key ∧ start ≤ instant ∧ history.versionAt instant key = none

theorem honest_of_moves {instant start : Nat} {id : CallId} {key : PromptKey} {action : Action}
    {result : Except FormeError String} (sourced : history.Sourced instant) (later : start ≤ instant)
    (moves : history.Moves instant id action (history.callAt instant id) (.returned key result)) :
    history.Honest key start instant result := by
  have inFlight := sourced.calls id
  generalize history.callAt instant id = before at moves inFlight
  cases moves with
  | statFails failed =>
      have gone := missing_of_stat failed
      rw [World.stat_eq, ← versionAt, gone] at failed
      exact ⟨(Except.error.inj failed).symm, later, gone⟩
  | hit found =>
      rcases sourced.entries key _ _ (FsRegistry.lookup_eq_some found) with ⟨_, _, seen, before, recorded⟩
      exact ⟨seen, Nat.le_of_lt before, recorded.had⟩
  | readFails failed =>
      have gone := missing_of_read failed
      rw [World.read_eq, ← versionAt, gone] at failed
      exact ⟨(Except.error.inj failed).symm, later, gone⟩
  | insert =>
      rcases inFlight with ⟨_, seen, before, recorded⟩
      exact ⟨seen, Nat.le_of_lt before, recorded.had⟩

/-- A return is a step of the call. -/
theorem Returns.moves {id : CallId} {key : PromptKey} {result : Except FormeError String}
    {instant : Nat} (returns : history.Returns id key result instant) :
    ∃ action, history.Moves instant id action (history.callAt instant id) (.returned key result) := by
  rcases history.timeline.event_at returns.occurs with ⟨event, occurs⟩
  rcases callAt_succ occurs id with unmoved | ⟨action, _, moves⟩
  · have running := returns.1
    rw [← unmoved, returns.2] at running
    cases running
  · rw [returns.2] at moves
    exact ⟨action, moves⟩

/-- A return is final. -/
theorem Returns.stays {id : CallId} {key : PromptKey} {result : Except FormeError String}
    {instant late : Nat} (returns : history.Returns id key result instant) (after : instant < late) :
    history.callAt late id = .returned key result := by
  have ended : (history.callAt (instant + 1) id).isReturned = true := by
    rw [returns.2]
    rfl
  rw [returned_later (Nat.succ_le_of_lt after) ended, returns.2]

/-- The return of a call is for its key and honest. -/
theorem Returns.total {id : CallId} {key other : PromptKey} {result : Except FormeError String}
    {start instant : Nat} (began : history.Began id key start) (later : start ≤ instant)
    (returns : history.Returns id other result instant) :
    other = key ∧ history.Honest key start instant result := by
  have bound := returns.occurs
  have subject := subject_later began (instant + 1) (Nat.succ_le_succ later) bound
  rw [returns.2] at subject
  have same : other = key := Option.some.inj subject
  subst same
  rcases returns.moves with ⟨action, moves⟩
  exact ⟨rfl, honest_of_moves (sourced history instant (Nat.le_of_lt bound)) later moves⟩

theorem Returns.not_later {id : CallId} {key other : PromptKey}
    {result result' : Except FormeError String} {instant instant' : Nat}
    (returns : history.Returns id key result instant) (after : instant < instant') :
    ¬ history.Returns id other result' instant' := by
  intro again
  have running := again.1
  rw [returns.stays after] at running
  cases running

/-- A call returns at most once. -/
theorem Returns.unique {id : CallId} {key other : PromptKey} {result result' : Except FormeError String}
    {instant instant' : Nat} (returns : history.Returns id key result instant)
    (again : history.Returns id other result' instant') : instant' = instant := by
  rcases Nat.lt_trichotomy instant' instant with earlier | same | later
  · exact absurd returns (again.not_later earlier)
  · exact same
  · exact absurd again (returns.not_later later)

/-- In every interleaving a call that has begun and is given its three
remaining steps returns by the last of them, once and for all, for its key and
with an honest result. -/
theorem call_returns_once_after_own_steps (history : Interleaving File) (id : CallId)
    (key : PromptKey) (start looked read inserted : Nat) (began : history.Began id key start)
    (first : start < looked) (second : looked < read) (third : read < inserted)
    (looks : history.events[looked]? = some (.call (.lookup id)))
    (reads : history.events[read]? = some (.call (.read id)))
    (inserts : history.events[inserted]? = some (.call (.insert id))) :
    ∃ instant result, start ≤ instant ∧ instant ≤ inserted ∧
      history.Returns id key result instant ∧ history.Honest key start instant result ∧
      (forall late, instant < late -> history.callAt late id = .returned key result) ∧
      (forall other result' instant', history.Returns id other result' instant' -> instant' = instant) := by
  have returned := returned_after_own_steps began first second third looks reads inserts
  have idle : ¬ (history.callAt start id).isReturned = true := by
    rw [began.2]
    simp [Call.isReturned]
  rcases history.timeline.exists_gain
      (fun world => (world.service.calls id).isReturned = true) (by omega) idle returned with
    ⟨instant, later, earlier, running, done⟩
  change ¬ (history.callAt instant id).isReturned = true at running
  change (history.callAt (instant + 1) id).isReturned = true at done
  have shape : ∃ other result, history.callAt (instant + 1) id = .returned other result := by
    cases now : history.callAt (instant + 1) id with
    | returned other result => exact ⟨other, result, rfl⟩
    | idle | looking _ _ | reading _ _ | inserting _ _ _ =>
        rw [now] at done
        cases done
  rcases shape with ⟨other, result, now⟩
  have returns : history.Returns id other result instant := ⟨by simpa using running, now⟩
  rcases returns.total began later with ⟨same, honest⟩
  subst same
  refine ⟨instant, result, later, Nat.le_of_lt_succ earlier, returns, honest, ?_, ?_⟩
  · intro late after
    exact returns.stays after
  · intro other' result' instant' again
    exact returns.unique again

/-- The first of two overlapping calls, across a write. -/
theorem restamped_first_call_returns :
    ∃ instant result, 0 ≤ instant ∧ instant ≤ 5 ∧
      restamped.Returns 0 ⟨"StateA", "Ev"⟩ result instant ∧
      restamped.Honest ⟨"StateA", "Ev"⟩ 0 instant result ∧
      (forall late, instant < late -> restamped.callAt late 0 = .returned ⟨"StateA", "Ev"⟩ result) ∧
      (forall other result' instant', restamped.Returns 0 other result' instant' -> instant' = instant) :=
  call_returns_once_after_own_steps restamped 0 ⟨"StateA", "Ev"⟩ 0 3 4 5 ⟨rfl, rfl⟩
    (by decide) (by decide) (by decide) rfl rfl rfl

end Interleaving

end PromptRegistry
end Caulk
