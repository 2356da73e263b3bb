import Caulk.PromptRegistry.CachedPairs

namespace Caulk
namespace PromptRegistry

open Caulk.Core
open Foundation

/-!
# Writes with ever larger modification times

A cached pair records a time that the file had at some instant and a content
that it had at that instant or later, so it may mix two versions.  It is still
harmless when no modification time ever returns: a call that finds its own
time in the cache either started before the cached content was read, and then
the content was current during the call, or after it, and then the file has
not changed between the two.
-/

namespace Interleaving

variable {File : Type} [DecidableEq File] {history : Interleaving File}

/-- The observation of one key's file is freshly stamped. -/
theorem StrictlyStamped.fresh (stamped : history.StrictlyStamped) (key : PromptKey) :
    history.timeline.FreshlyStamped (fun world => world.version history.locate key) Version.mtime := by
  intro instant early
  rcases history.timeline.event_at early with ⟨event, occurs⟩
  cases event with
  | call action => exact Or.inl (versionAt_call occurs key)
  | write file version =>
      have next := versionAt_write occurs key
      by_cases named : history.locate
          ((history.worldAt instant).service.registry.resolvePath key) = file
      · right; right
        rw [if_pos named] at next
        refine ⟨version, next, ?_⟩
        intro earlier old before observed
        apply stamped instant file version occurs earlier old before
        rw [← named, resolvePath_worldAt, ← resolvePath_worldAt earlier]
        exact observed
      · rw [if_neg named] at next
        exact Or.inl next
  | delete file =>
      have next := versionAt_delete occurs key
      split at next
      · exact Or.inr (Or.inl next)
      · exact Or.inl next

/-- A file with one modification time at two instants has not changed between
them. -/
theorem StrictlyStamped.had_later (stamped : history.StrictlyStamped) {key : PromptKey}
    {mtime : SystemTime} {content : String} {early between late : Nat}
    (bound : late ≤ history.timeline.length) (later : early ≤ between) (earlier : between ≤ late)
    (first : history.HadTime early key mtime) (last : history.HadTime late key mtime)
    (had : history.Had between key content) : history.Had late key content := by
  rcases first with ⟨version, observedFirst, timeFirst⟩
  rcases last with ⟨version', observedLast, timeLast⟩
  rcases had with ⟨seen, observed, sameContent⟩
  have steady := fun instant lower upper =>
    (stamped.fresh key).steady Int.lt_irrefl (Nat.le_trans later earlier) bound observedFirst observedLast
      (timeFirst.trans timeLast.symm) instant lower upper
  have middle : history.versionAt between key = some version := steady between later earlier
  have final : history.versionAt late key = some version :=
    steady late (Nat.le_trans later earlier) (Nat.le_refl late)
  have same : version = seen := Option.some.inj (middle.symm.trans observed)
  rw [same] at final
  exact ⟨seen, final, sameContent⟩

/-- What a call's local variables say about the history up to an instant. -/
def Explained (history : Interleaving File) (instant : Nat) (id : CallId) : Call -> Prop
  | .idle => True
  | .looking key mtime => ∃ start, start < instant ∧ history.Statted id key mtime start
  | .reading key mtime => ∃ start, start < instant ∧ history.Statted id key mtime start
  | .inserting key mtime content =>
      ∃ start seen, start ≤ seen ∧ seen < instant ∧ history.Statted id key mtime start ∧
        history.Had seen key content
  | .returned key (.ok content) =>
      ∃ start seen, start ≤ seen ∧ seen < instant ∧ history.Began id key start ∧
        history.Had seen key content
  | .returned key (.error _) =>
      ∃ start seen, start ≤ seen ∧ seen < instant ∧ history.Began id key start ∧
        history.versionAt seen key = none

/-- A cached pair: the time was observed no later than the content. -/
def EntryObserved (history : Interleaving File) (instant : Nat) : Prop :=
  forall key content mtime, history.cacheAt instant key = some (content, mtime) ->
    ∃ stamped seen, stamped ≤ seen ∧ seen < instant ∧ history.HadTime stamped key mtime ∧
      history.Had seen key content

/-- The invariant of a whole history. -/
structure Provenance (history : Interleaving File) (instant : Nat) : Prop where
  entries : history.EntryObserved instant
  calls : forall id, history.Explained instant id (history.callAt instant id)

theorem Explained.later {instant : Nat} {id : CallId} {call : Call}
    (explained : history.Explained instant id call) : history.Explained (instant + 1) id call := by
  have weaken : forall {moment : Nat}, moment < instant -> moment < instant + 1 :=
    fun before => Nat.lt_succ_of_lt before
  cases call with
  | idle => trivial
  | looking key mtime =>
      rcases explained with ⟨start, before, statted⟩
      exact ⟨start, weaken before, statted⟩
  | reading key mtime =>
      rcases explained with ⟨start, before, statted⟩
      exact ⟨start, weaken before, statted⟩
  | inserting key mtime content =>
      rcases explained with ⟨start, seen, ordered, before, facts⟩
      exact ⟨start, seen, ordered, weaken before, facts⟩
  | returned key result =>
      cases result with
      | ok content =>
          rcases explained with ⟨start, seen, ordered, before, facts⟩
          exact ⟨start, seen, ordered, weaken before, facts⟩
      | error error =>
          rcases explained with ⟨start, seen, ordered, before, facts⟩
          exact ⟨start, seen, ordered, weaken before, facts⟩

/-- Observations of a call in flight explain it. -/
theorem InFlight.explained {instant : Nat} {id : CallId} {call : Call}
    (recorded : history.InFlight instant id call) (running : call.isReturned = false) :
    history.Explained instant id call := by
  cases call with
  | idle => trivial
  | looking key mtime => exact recorded
  | reading key mtime => exact recorded
  | inserting key mtime content =>
      rcases recorded with ⟨taken, seen, before, facts⟩
      exact ⟨taken, seen, Nat.le_of_lt facts.ordered, before, ⟨facts.began, facts.time⟩, facts.had⟩
  | returned key result => cases running

theorem Sourced.entryObserved {instant : Nat} (sourced : history.Sourced instant) :
    history.EntryObserved instant := by
  intro key content mtime entry
  rcases sourced.entries key content mtime entry with ⟨id, taken, seen, before, recorded⟩
  exact ⟨taken, seen, Nat.le_of_lt recorded.ordered, before, recorded.time, recorded.had⟩

/-- The move lemma for calls that return.  Only a cache hit needs the writes to
be stamped. -/
private theorem explained_of_return (stamped : history.StrictlyStamped) {instant : Nat}
    {id : CallId} {action : Action} {before after : Call}
    (occurs : history.events[instant]? = some (.call action))
    (now : history.callAt instant id = before) (recorded : history.InFlight instant id before)
    (observed : history.EntryObserved instant) (returned : after.isReturned = true)
    (moves : history.Moves instant id action before after) :
    history.Explained (instant + 1) id after := by
  cases moves with
  | stat seen => cases returned
  | statFails failed =>
      exact ⟨instant, instant, Nat.le_refl _, Nat.lt_succ_self _, ⟨occurs, now⟩,
        missing_of_stat failed⟩
  | @hit key mtime content found =>
      rcases recorded with ⟨start, started, began, time⟩
      rcases observed key content mtime (FsRegistry.lookup_eq_some found) with
        ⟨taken, seen, ordered, before, takenTime, had⟩
      rcases Nat.le_total start seen with during | earlier
      · exact ⟨start, seen, during, Nat.lt_succ_of_lt before, began, had⟩
      · have bound : start ≤ history.timeline.length :=
          Nat.le_of_lt (Nat.lt_trans started (history.timeline.lt_length occurs))
        exact ⟨start, start, Nat.le_refl _, Nat.lt_succ_of_lt started, began,
          stamped.had_later bound ordered earlier takenTime time had⟩
  | miss absent => cases returned
  | read loaded => cases returned
  | readFails failed =>
      rcases recorded with ⟨start, started, began, _⟩
      exact ⟨start, instant, Nat.le_of_lt started, Nat.lt_succ_self _, began,
        missing_of_read failed⟩
  | insert =>
      rcases recorded with ⟨start, seen, before, facts⟩
      exact ⟨start, seen, Nat.le_of_lt facts.ordered, Nat.lt_succ_of_lt before, facts.began,
        facts.had⟩

/-- One event keeps every call explained. -/
private theorem explained_step (stamped : history.StrictlyStamped) {instant : Nat}
    {event : WorldEvent File} (occurs : history.events[instant]? = some event) (id : CallId)
    (explained : history.Explained instant id (history.callAt instant id)) :
    history.Explained (instant + 1) id (history.callAt (instant + 1) id) := by
  have early := history.timeline.lt_length occurs
  rcases callAt_succ occurs id with same | ⟨action, isCall, moves⟩
  · rw [same]
    exact explained.later
  · subst isCall
    have before := sourced history instant (Nat.le_of_lt early)
    cases returned : (history.callAt (instant + 1) id).isReturned with
    | true =>
        exact explained_of_return stamped occurs rfl (before.calls id) before.entryObserved returned
          moves
    | false => exact ((sourced history (instant + 1) early).calls id).explained returned

/-- The invariant holds at every instant of a history with stamped writes. -/
theorem StrictlyStamped.provenance (stamped : history.StrictlyStamped) (instant : Nat)
    (bound : instant ≤ history.timeline.length) : history.Provenance instant where
  entries := (sourced history instant bound).entryObserved
  calls id := by
    apply history.timeline.induction
      (fun moment => history.Explained moment id (history.callAt moment id)) _ _ instant bound
    · rw [callAt_zero]
      trivial
    · intro moment event occurs explained
      exact explained_step stamped occurs id explained

/-- Under stamped writes every interleaved call returns what its file had
while it ran: a content the file had between the call's `stat` and its
return, and "not found" only if the file was missing in between. -/
theorem get_returns_what_the_file_had (history : Interleaving File)
    (stamped : history.StrictlyStamped) :
    (forall id key content instant, history.Returns id key (.ok content) instant ->
      ∃ start seen, history.Began id key start ∧ start ≤ seen ∧ seen ≤ instant ∧
        history.Had seen key content) ∧
    (forall id key missing instant,
      history.Returns id key (.error (.registryNotFound missing)) instant ->
      ∃ start seen, history.Began id key start ∧ start ≤ seen ∧ seen ≤ instant ∧
        history.versionAt seen key = none) := by
  constructor
  · intro id key content instant returns
    have explained := (stamped.provenance (instant + 1) returns.occurs).calls id
    rw [returns.2] at explained
    rcases explained with ⟨start, seen, ordered, before, began, had⟩
    exact ⟨start, seen, began, ordered, Nat.le_of_lt_succ before, had⟩
  · intro id key missing instant returns
    have explained := (stamped.provenance (instant + 1) returns.occurs).calls id
    rw [returns.2] at explained
    rcases explained with ⟨start, seen, ordered, before, began, gone⟩
    exact ⟨start, seen, began, ordered, Nat.le_of_lt_succ before, gone⟩

/-- The write that both calls overlap has a larger time than the file had. -/
theorem restamped_strictlyStamped : restamped.StrictlyStamped := by
  intro instant file version occurs earlier old before observed
  have early : instant < 7 := restamped.timeline.lt_length occurs
  have write : instant = 2 ∧ version = ⟨"second", 2⟩ := by
    interval_cases instant <;> cases occurs
    exact ⟨rfl, rfl⟩
  rw [write.1] at before
  have initial : (restamped.worldAt earlier).files file = some ⟨"first", 1⟩ := by
    interval_cases earlier <;> rfl
  rw [observed] at initial
  rw [Option.some.inj initial, write.2]
  decide

/-- The second call returns the new content, which the file had by then. -/
theorem restamped_returns_what_the_file_had :
    restamped.StrictlyStamped ∧
    ∃ start seen, restamped.Began 1 ⟨"StateA", "Ev"⟩ start ∧ start ≤ seen ∧ seen ≤ 6 ∧
      restamped.Had seen ⟨"StateA", "Ev"⟩ "second" :=
  ⟨restamped_strictlyStamped,
    (get_returns_what_the_file_had restamped restamped_strictlyStamped).1 1 ⟨"StateA", "Ev"⟩
      "second" 6 ⟨rfl, rfl⟩⟩

end Interleaving

end PromptRegistry
end Caulk
