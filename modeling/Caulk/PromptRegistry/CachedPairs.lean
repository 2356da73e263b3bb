import Caulk.PromptRegistry.Interleaving
import Mathlib.Tactic.IntervalCases

namespace Caulk
namespace PromptRegistry

open Caulk.Core
open Foundation

/-!
# What a cached pair records

A call asks for the modification time in one step and for the content in a
later one, and a write may come between the two.  So a cached pair need not be
a version of the file; it records two observations that one call made, the
time first.  The pair is a version unless the file was changed between them
and had another time by the second.  Nothing is assumed about the writes, which
may also bring an earlier modification time back.
-/

namespace Interleaving

variable {File : Type} [DecidableEq File]

/-- A call that has started: its `stat` happened here and saw this time. -/
def Statted (history : Interleaving File) (id : CallId) (key : PromptKey) (mtime : SystemTime)
    (instant : Nat) : Prop :=
  history.Began id key instant ∧ history.HadTime instant key mtime

/-- One call took the time of the key's file at one instant and its content at
a later one, when it was waiting to read with this time in hand. -/
structure Recorded (history : Interleaving File) (key : PromptKey) (content : String)
    (mtime : SystemTime) (id : CallId) (taken seen : Nat) : Prop where
  ordered : taken < seen
  began : history.Began id key taken
  reads : history.events[seen]? = some (.call (.read id))
  waits : history.callAt seen id = .reading key mtime
  time : history.HadTime taken key mtime
  had : history.Had seen key content

/-- What the local variables of a call in flight record. -/
def InFlight (history : Interleaving File) (instant : Nat) (id : CallId) : Call -> Prop
  | .looking key mtime | .reading key mtime =>
      ∃ taken, taken < instant ∧ history.Statted id key mtime taken
  | .inserting key mtime content =>
      ∃ taken seen, seen < instant ∧ history.Recorded key content mtime id taken seen
  | .idle | .returned _ _ => True

/-- Every entry of the cache and every call in flight records observations. -/
structure Sourced (history : Interleaving File) (instant : Nat) : Prop where
  entries : forall key content mtime, history.cacheAt instant key = some (content, mtime) ->
    ∃ id taken seen, seen < instant ∧ history.Recorded key content mtime id taken seen
  calls : forall id, history.InFlight instant id (history.callAt instant id)

variable {history : Interleaving File}

theorem InFlight.later {instant : Nat} {id : CallId} {call : Call}
    (recorded : history.InFlight instant id call) : history.InFlight (instant + 1) id call := by
  cases call with
  | idle => trivial
  | looking key mtime =>
      rcases recorded with ⟨taken, before, statted⟩
      exact ⟨taken, Nat.lt_succ_of_lt before, statted⟩
  | reading key mtime =>
      rcases recorded with ⟨taken, before, statted⟩
      exact ⟨taken, Nat.lt_succ_of_lt before, statted⟩
  | inserting key mtime content =>
      rcases recorded with ⟨taken, seen, before, facts⟩
      exact ⟨taken, seen, Nat.lt_succ_of_lt before, facts⟩
  | returned key result => trivial

/-- The move lemma. -/
private theorem inFlight_of_moves {instant : Nat} {id : CallId} {action : Action}
    {before after : Call} (occurs : history.events[instant]? = some (.call action))
    (now : history.callAt instant id = before) (recorded : history.InFlight instant id before)
    (moves : history.Moves instant id action before after) :
    history.InFlight (instant + 1) id after := by
  cases moves with
  | stat seen => exact ⟨instant, Nat.lt_succ_self _, ⟨occurs, now⟩, hadTime_of_stat seen⟩
  | statFails failed => trivial
  | hit found => trivial
  | miss absent =>
      rcases recorded with ⟨taken, earlier, statted⟩
      exact ⟨taken, Nat.lt_succ_of_lt earlier, statted⟩
  | read loaded =>
      rcases recorded with ⟨taken, earlier, statted⟩
      exact ⟨taken, instant, Nat.lt_succ_self _, earlier, statted.1, occurs, now, statted.2,
        had_of_read loaded⟩
  | readFails failed => trivial
  | insert => trivial

/-- One event keeps the invariant. -/
private theorem sourced_step {instant : Nat} {event : WorldEvent File}
    (occurs : history.events[instant]? = some event) (sourced : history.Sourced instant) :
    history.Sourced (instant + 1) := by
  constructor
  · intro key content mtime entry
    rcases cacheAt_succ occurs entry with older | ⟨id, _, ready⟩
    · rcases sourced.entries key content mtime older with ⟨id, taken, seen, before, recorded⟩
      exact ⟨id, taken, seen, Nat.lt_succ_of_lt before, recorded⟩
    · have inserting := sourced.calls id
      rw [ready] at inserting
      rcases inserting with ⟨taken, seen, before, recorded⟩
      exact ⟨id, taken, seen, Nat.lt_succ_of_lt before, recorded⟩
  · intro id
    rcases callAt_succ occurs id with same | ⟨action, isCall, moves⟩
    · rw [same]
      exact (sourced.calls id).later
    · subst isCall
      exact inFlight_of_moves occurs rfl (sourced.calls id) moves

theorem sourced (history : Interleaving File) (instant : Nat)
    (bound : instant ≤ history.timeline.length) : history.Sourced instant := by
  apply history.timeline.induction history.Sourced _ _ instant bound
  · constructor
    · intro key content mtime entry
      rw [cacheAt_zero] at entry
      cases entry
    · intro id
      rw [callAt_zero]
      trivial
  · intro instant event occurs before
    exact sourced_step occurs before

/-! ## Files that are left alone -/

/-- The file that a key's path names, in every world of the history. -/
def fileOf (history : Interleaving File) (key : PromptKey) : File :=
  history.locate ((FsRegistry.new history.root).resolvePath key)

/-- The event writes or deletes the file. -/
def Changes (file : File) : WorldEvent File -> Prop
  | .call _ => False
  | .write written _ => written = file
  | .delete deleted => deleted = file

theorem versionAt_succ {instant : Nat} {event : WorldEvent File} {key : PromptKey}
    (occurs : history.events[instant]? = some event)
    (other : ¬ Changes (history.fileOf key) event) :
    history.versionAt (instant + 1) key = history.versionAt instant key := by
  have named := congrArg history.locate (@resolvePath_worldAt _ _ history instant key)
  cases event with
  | call action => exact versionAt_call occurs key
  | write file version =>
      rw [versionAt_write occurs key, if_neg]
      exact fun same => other (same.symm.trans named)
  | delete file =>
      rw [versionAt_delete occurs key, if_neg]
      exact fun same => other (same.symm.trans named)

/-- A file keeps its version while no event changes it. -/
theorem versionAt_steady {key : PromptKey} {early late : Nat} (ordered : early ≤ late)
    (bound : late ≤ history.timeline.length)
    (quiet : forall between event, early ≤ between -> between < late ->
      history.events[between]? = some event -> ¬ Changes (history.fileOf key) event) :
    history.versionAt late key = history.versionAt early key := by
  induction late, ordered using Nat.le_induction with
  | base => rfl
  | succ late ordered ih =>
      rcases history.timeline.event_at (Nat.lt_of_succ_le bound) with ⟨event, occurs⟩
      rw [versionAt_succ occurs (quiet late event ordered (Nat.lt_succ_self late) occurs)]
      apply ih (Nat.le_of_succ_le bound)
      intro between event' later earlier
      exact quiet between event' later (Nat.lt_succ_of_lt earlier)

/-- A recorded pair is a version, or the file was changed in between and had
another time when the content was read. -/
theorem Recorded.version_or_changed {key : PromptKey} {content : String} {mtime : SystemTime}
    {id : CallId} {taken seen : Nat} (recorded : history.Recorded key content mtime id taken seen) :
    history.versionAt seen key = some ⟨content, mtime⟩ ∨
    (¬ history.HadTime seen key mtime ∧
      ∃ between event, taken < between ∧ between < seen ∧
        history.events[between]? = some event ∧ Changes (history.fileOf key) event) := by
  by_cases same : history.HadTime seen key mtime
  · left
    rcases same with ⟨version, atRead, time⟩
    rcases recorded.had with ⟨version', atRead', text⟩
    rw [atRead] at atRead'
    rw [atRead, ← text, ← time, Option.some.inj atRead']
  · right
    refine ⟨same, ?_⟩
    by_contra quiet
    have bound : seen ≤ history.timeline.length :=
      Nat.le_of_lt (history.timeline.lt_length recorded.reads)
    have steady : history.versionAt seen key = history.versionAt taken key := by
      apply versionAt_steady (Nat.le_of_lt recorded.ordered) bound
      intro between event later earlier occurs changes
      rcases Nat.lt_or_eq_of_le later with after | first
      · exact quiet ⟨between, event, after, earlier, occurs, changes⟩
      · rw [← first, recorded.began.1] at occurs
        rw [← Option.some.inj occurs] at changes
        exact changes
    rcases recorded.time with ⟨version, atStat, time⟩
    exact same ⟨version, steady.trans atStat, time⟩

/-- In every interleaving, every pair ever cached for a key was observed by one
call on that key: its `stat` saw the time, and its later `read`, for which it
was waiting with this time in hand, the content.  When the content was read the
file had both, unless it was written or deleted in between and had another time
by then. -/
theorem cached_pair_observed_by_one_call (history : Interleaving File) :
    forall instant key content mtime, history.cacheAt instant key = some (content, mtime) ->
      ∃ id taken seen, taken < seen ∧ seen < instant ∧
        history.Began id key taken ∧ history.events[seen]? = some (.call (.read id)) ∧
        history.callAt seen id = .reading key mtime ∧
        history.HadTime taken key mtime ∧ history.Had seen key content ∧
        (history.versionAt seen key = some ⟨content, mtime⟩ ∨
          (¬ history.HadTime seen key mtime ∧
            ∃ between event, taken < between ∧ between < seen ∧
              history.events[between]? = some event ∧ Changes (history.fileOf key) event)) := by
  intro instant key content mtime entry
  have source : ∃ id taken seen, seen < instant ∧
      history.Recorded key content mtime id taken seen := by
    rcases Nat.le_total instant history.timeline.length with early | late
    · exact (sourced history instant early).entries key content mtime entry
    · rw [cacheAt, worldAt, history.timeline.stateAt_of_length_le late] at entry
      rcases (sourced history _ (Nat.le_refl _)).entries key content mtime entry with
        ⟨id, taken, seen, before, recorded⟩
      exact ⟨id, taken, seen, Nat.lt_of_lt_of_le before late, recorded⟩
  rcases source with ⟨id, taken, seen, before, recorded⟩
  exact ⟨id, taken, seen, recorded.ordered, before, recorded.began, recorded.reads, recorded.waits,
    recorded.time, recorded.had, recorded.version_or_changed⟩

/-- Two calls overlap a write.  The one that started first reads the new
content and caches it; the other finds it there under the old time. -/
def restamped : Interleaving Unit where
  locate := fun _ => ()
  root := "/srv/prompts"
  files := fun _ => some ⟨"first", 1⟩
  events :=
    [.call (.stat 0 ⟨"StateA", "Ev"⟩), .call (.stat 1 ⟨"StateA", "Ev"⟩), .write () ⟨"second", 2⟩,
      .call (.lookup 0), .call (.read 0), .call (.insert 0), .call (.lookup 1)]

/-- The pair that is cached across the write. -/
theorem restamped_pair_observed_by_one_call :
    ∃ id taken seen, taken < seen ∧ seen < 7 ∧
      restamped.Began id ⟨"StateA", "Ev"⟩ taken ∧
      restamped.events[seen]? = some (.call (.read id)) ∧
      restamped.callAt seen id = .reading ⟨"StateA", "Ev"⟩ 1 ∧
      restamped.HadTime taken ⟨"StateA", "Ev"⟩ 1 ∧ restamped.Had seen ⟨"StateA", "Ev"⟩ "second" ∧
      (restamped.versionAt seen ⟨"StateA", "Ev"⟩ = some ⟨"second", 1⟩ ∨
        (¬ restamped.HadTime seen ⟨"StateA", "Ev"⟩ 1 ∧
          ∃ between event, taken < between ∧ between < seen ∧
            restamped.events[between]? = some event ∧
            Changes (restamped.fileOf ⟨"StateA", "Ev"⟩) event)) :=
  cached_pair_observed_by_one_call restamped 7 ⟨"StateA", "Ev"⟩ "second" 1 rfl

/-- It holds the new content under the old time, and the file never had both. -/
theorem restamped_pair_never_a_version :
    restamped.cacheAt 6 ⟨"StateA", "Ev"⟩ = some ("second", 1) ∧
    forall instant, restamped.versionAt instant ⟨"StateA", "Ev"⟩ ≠ some ⟨"second", 1⟩ := by
  refine ⟨rfl, ?_⟩
  have early : forall instant, instant ≤ 7 ->
      restamped.versionAt instant ⟨"StateA", "Ev"⟩ ≠ some ⟨"second", 1⟩ := by
    intro instant bound
    interval_cases instant <;> decide
  intro instant
  rcases Nat.le_total instant 7 with before | late
  · exact early instant before
  · rw [versionAt, worldAt, restamped.timeline.stateAt_of_length_le late]
    exact early 7 (Nat.le_refl 7)

end Interleaving

end PromptRegistry
end Caulk
