import Caulk.PromptRegistry.Progress
import Mathlib.Tactic.IntervalCases

namespace Caulk
namespace PromptRegistry

open Caulk.Core
open Foundation

/-!
# When a file settles

Modification times need not grow for a registry to catch up with its files in
the end.  It is enough that the last write of a file gives it a time that the
file has not had before: then every call that begins after that write returns
what was written, whatever the cache holds and whatever calls are still in
flight.  After a deletion nothing is needed at all.

The reason is that a cached pair carries a time seen before its content was
read.  If it carries the time of the last write, it was made after it.
-/

namespace Interleaving

variable {File : Type} [DecidableEq File] {history : Interleaving File}

/-- From an instant on the key's file stays as it is, and if it exists then
its modification time was never seen before. -/
structure Settled (history : Interleaving File) (key : PromptKey) (settle : Nat)
    (final : Option Version) : Prop where
  steady : forall instant, settle ≤ instant -> history.versionAt instant key = final
  unseen : forall version, final = some version -> forall instant old, instant < settle ->
    history.versionAt instant key = some old -> old.mtime ≠ version.mtime

/-- What a call for a settled key returns. -/
def settledResult (key : PromptKey) : Option Version -> Except FormeError String
  | some version => .ok version.content
  | none => .error (.registryNotFound key)

/-- A call begins once. -/
theorem Began.unique {id : CallId} {key other : PromptKey} {start start' : Nat}
    (began : history.Began id key start) (again : history.Began id other start') : start' = start := by
  have apart : forall early late first second, early < late -> history.Began id first early ->
      ¬ history.Began id second late := by
    intro early late first second before one two
    have statted : (history.callAt (early + 1) id).remaining ≤ 3 :=
      remaining_own one.1 rfl (Nat.le_of_eq (congrArg Call.remaining one.2))
    have bound := Nat.le_of_lt (history.timeline.lt_length two.1)
    have later := Nat.le_trans (remaining_later id (Nat.succ_le_of_lt before) bound) statted
    rw [two.2] at later
    exact absurd later (Nat.not_succ_le_self 3)
  rcases Nat.lt_trichotomy start' start with earlier | same | later
  · exact absurd began (apart start' start other key earlier again)
  · exact same
  · exact absurd again (apart start start' key other later began)

/-- A call returns after it has begun. -/
theorem Began.le_return {id : CallId} {key other : PromptKey} {result : Except FormeError String}
    {start instant : Nat} (began : history.Began id key start)
    (returns : history.Returns id other result instant) : start ≤ instant := by
  by_contra before
  have still := returns.stays (Nat.lt_of_not_le before)
  rw [began.2] at still
  cases still

/-- A time seen after settling is that of the settled file, which exists. -/
theorem Settled.time_eq {key : PromptKey} {settle taken : Nat} {final : Option Version}
    {mtime : SystemTime} (settled : history.Settled key settle final) (after : settle ≤ taken)
    (seen : history.HadTime taken key mtime) : ∃ version, final = some version ∧ version.mtime = mtime := by
  rcases seen with ⟨version, now, same⟩
  rw [settled.steady taken after] at now
  exact ⟨version, now, same⟩

/-- And its time was seen only after it settled. -/
theorem Settled.time_after {key : PromptKey} {settle taken : Nat} {version : Version}
    (settled : history.Settled key settle (some version))
    (seen : history.HadTime taken key version.mtime) : settle ≤ taken := by
  by_contra before
  rcases seen with ⟨old, found, same⟩
  exact settled.unseen version rfl taken old (Nat.lt_of_not_le before) found same

theorem Settled.content_eq {key : PromptKey} {settle seen : Nat} {version : Version} {content : String}
    (settled : history.Settled key settle (some version)) (after : settle ≤ seen)
    (had : history.Had seen key content) : content = version.content := by
  rcases had with ⟨found, now, same⟩
  rw [settled.steady seen after] at now
  rw [← same, Option.some.inj now]

/-- A recorded pair with a time that the settled file has holds its content. -/
theorem Settled.recorded_eq {key : PromptKey} {settle taken seen : Nat} {final : Option Version}
    {id : CallId} {content : String} {mtime : SystemTime} {start : Nat}
    (settled : history.Settled key settle final) (after : settle ≤ start)
    (time : history.HadTime start key mtime)
    (recorded : history.Recorded key content mtime id taken seen) :
    Except.ok content = settledResult key final := by
  rcases settled.time_eq after time with ⟨version, exists', same⟩
  subst exists'
  rw [← same] at recorded
  have late := settled.time_after recorded.time
  have content_eq := settled.content_eq (Nat.le_of_lt (Nat.lt_of_le_of_lt late recorded.ordered)) recorded.had
  rw [content_eq]
  rfl

/-- The last step of a call that began after its file settled. -/
theorem result_of_settled {key : PromptKey} {settle start instant : Nat} {final : Option Version}
    {id : CallId} {action : Action} {result : Except FormeError String}
    (settled : history.Settled key settle final) (began : history.Began id key start)
    (after : settle ≤ start) (later : start ≤ instant) (sourced : history.Sourced instant)
    (moves : history.Moves instant id action (history.callAt instant id) (.returned key result)) :
    result = settledResult key final := by
  have honest := honest_of_moves sourced later moves
  have failing : forall error, result = .error error -> result = settledResult key final := by
    intro error failed
    rw [failed] at honest
    have gone := honest.2.2
    rw [settled.steady instant (Nat.le_trans after later)] at gone
    rw [failed, gone, honest.1]
    rfl
  have inFlight := sourced.calls id
  generalize history.callAt instant id = before at moves inFlight
  cases moves with
  | statFails failed => exact failing _ rfl
  | readFails failed => exact failing _ rfl
  | hit found =>
      rcases inFlight with ⟨taken, _, own, time⟩
      rw [began.unique own] at time
      rcases sourced.entries key _ _ (FsRegistry.lookup_eq_some found) with ⟨_, _, _, _, recorded⟩
      exact settled.recorded_eq after time recorded
  | insert =>
      rcases inFlight with ⟨taken, seen, _, recorded⟩
      have time := recorded.time
      rw [began.unique recorded.began] at time
      exact settled.recorded_eq after time recorded

/-- Every call that begins after its file has settled returns what the file
then holds, or that it is missing. -/
theorem calls_agree_after_settling (history : Interleaving File) (key : PromptKey) (settle : Nat)
    (final : Option Version) (settled : history.Settled key settle final) :
    forall id start other result instant, history.Began id key start -> settle ≤ start ->
      history.Returns id other result instant ->
      other = key ∧ result = settledResult key final := by
  intro id start other result instant began after returns
  have later := began.le_return returns
  have same := (returns.total began later).1
  subst same
  rcases returns.moves with ⟨action, moves⟩
  exact ⟨rfl, result_of_settled settled began after later
    (sourced history instant (Nat.le_of_lt returns.occurs)) moves⟩

/-- A file is written twice while a call caches a mixture of the two versions;
the later call finds neither time nor content of the mixture. -/
def rewritten : Interleaving Unit where
  locate := fun _ => ()
  root := "/srv/prompts"
  files := fun _ => some ⟨"first", 5⟩
  events :=
    [.call (.stat 0 ⟨"StateA", "Ev"⟩), .write () ⟨"second", 3⟩, .call (.lookup 0), .call (.read 0),
      .call (.insert 0), .write () ⟨"third", 4⟩, .call (.stat 1 ⟨"StateA", "Ev"⟩), .call (.lookup 1),
      .call (.read 1), .call (.insert 1)]

theorem rewritten_settled : rewritten.Settled ⟨"StateA", "Ev"⟩ 6 (some ⟨"third", 4⟩) := by
  have late : forall instant, 6 ≤ instant -> instant ≤ 10 ->
      rewritten.versionAt instant ⟨"StateA", "Ev"⟩ = some ⟨"third", 4⟩ := by
    intro instant after before
    interval_cases instant <;> rfl
  constructor
  · intro instant after
    rcases Nat.le_total instant 10 with before | beyond
    · exact late instant after before
    · rw [versionAt, worldAt, rewritten.timeline.stateAt_of_length_le beyond]
      exact late 10 (by decide) (Nat.le_refl 10)
  · intro version same instant old before found
    cases same
    have times : forall instant, instant < 6 ->
        (rewritten.versionAt instant ⟨"StateA", "Ev"⟩).map Version.mtime ≠ some 4 := by
      decide
    intro equal
    apply times instant before
    rw [found, Option.map_some, equal]

/-- The call that begins after the last write returns what was written. -/
theorem rewritten_agrees :
    rewritten.callAt 10 1 = .returned ⟨"StateA", "Ev"⟩
      (settledResult ⟨"StateA", "Ev"⟩ (some ⟨"third", 4⟩)) := by
  have began : rewritten.Began 1 ⟨"StateA", "Ev"⟩ 6 := ⟨rfl, rfl⟩
  have returns : rewritten.Returns 1 ⟨"StateA", "Ev"⟩ (.ok "third") 9 := ⟨rfl, rfl⟩
  have agreed := calls_agree_after_settling rewritten ⟨"StateA", "Ev"⟩ 6 (some ⟨"third", 4⟩)
    rewritten_settled 1 6 ⟨"StateA", "Ev"⟩ (.ok "third") 9 began (Nat.le_refl 6) returns
  rw [← agreed.2]
  exact returns.2

end Interleaving

end PromptRegistry
end Caulk
