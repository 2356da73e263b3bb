import Caulk.PromptRegistry.Interleaving
import Mathlib.Tactic.IntervalCases

namespace Caulk
namespace PromptRegistry

open Caulk.Core
open Foundation

/-!
# What a cleared cache guarantees

`clear_cache` is the way to make a registry forget contents whose replacement
carries the same modification time.  It empties the cache but does not reach
the calls in flight: a call that has read a file before the clear inserts what
it read after it.

The condition under which clearing works is therefore about insertions: none
may put in a content that its file has not had since the clear.  It is exact.
A single insertion that breaks it can be followed by one ordinary write and
one ordinary call that returns the forgotten content.
-/

namespace Interleaving

variable {File : Type} [DecidableEq File]

section Statements

variable (history : Interleaving File)

/-- The event at the instant is a `clear_cache`. -/
def Cleared (instant : Nat) : Prop :=
  history.events[instant]? = some (.call .clearCache)

/-- The file had the content before the clear, and not since. -/
def Superseded (cleared last : Nat) (key : PromptKey) (content : String) : Prop :=
  (∃ earlier, earlier < cleared ∧ history.Had earlier key content) ∧
    forall instant, cleared ≤ instant -> instant ≤ last -> ¬ history.Had instant key content

/-- No call that starts after a clear returns a superseded content. -/
def ClearsRespected : Prop :=
  forall cleared start instant id key content, history.Cleared cleared ->
    history.Began id key start -> cleared < start ->
    history.Returns id key (.ok content) instant ->
    ¬ history.Superseded cleared instant key content

/-- The event at the instant inserts a content that its file has not had since
some earlier clear. -/
def StaleInsert (instant : Nat) : Prop :=
  ∃ id key mtime content cleared, history.events[instant]? = some (.call (.insert id)) ∧
    history.callAt instant id = .inserting key mtime content ∧
    history.Cleared cleared ∧ cleared < instant ∧
    forall moment, cleared ≤ moment -> moment ≤ instant -> ¬ history.Had moment key content

/-- Had at some instant from the clear on. -/
def HadSince (cleared instant : Nat) (key : PromptKey) (content : String) : Prop :=
  ∃ moment, cleared ≤ moment ∧ moment < instant ∧ history.Had moment key content

/-- The same history up to an instant, then other events. -/
def continueWith (instant : Nat) (more : List (WorldEvent File)) : Interleaving File :=
  { history with events := history.events.take instant ++ more }

end Statements

variable {history : Interleaving File}

/-! ## Calls over time -/

/-- A call is never idle again once it has started. -/
theorem idle_before {early late : Nat} {id : CallId} (ordered : early ≤ late)
    (bound : late ≤ history.timeline.length) (idle : history.callAt late id = .idle) :
    history.callAt early id = .idle := by
  by_contra started
  rcases history.timeline.exists_gain (fun world => world.service.calls id = .idle)
    ordered started idle with ⟨instant, _, before, busy, again⟩
  rcases history.timeline.event_at (Nat.lt_of_lt_of_le before bound) with ⟨event, occurs⟩
  rcases callAt_succ occurs id with same | ⟨action, _, moves⟩
  · exact busy (same.symm.trans again)
  · exact moves.started again

/-- A content about to be inserted was read from the file. -/
theorem had_of_inserting {instant : Nat} {id : CallId} {key : PromptKey} {mtime : SystemTime}
    {content : String} (bound : instant ≤ history.timeline.length)
    (ready : history.callAt instant id = .inserting key mtime content) :
    ∃ seen, seen < instant ∧ history.Had seen key content := by
  rcases history.timeline.exists_gain
    (fun world => world.service.calls id = .inserting key mtime content)
    (Nat.zero_le instant) (by intro begun; cases begun) ready with
    ⟨seen, _, before, notYet, gained⟩
  rcases history.timeline.event_at (Nat.lt_of_lt_of_le before bound) with ⟨event, occurs⟩
  rcases callAt_succ occurs id with same | ⟨action, _, moves⟩
  · exact absurd (same.symm.trans gained) notYet
  · have now : history.callAt (seen + 1) id = .inserting key mtime content := gained
    rw [now] at moves
    generalize history.callAt seen id = previous at moves
    cases moves with
    | read loaded => exact ⟨seen, before, had_of_read loaded⟩

/-- Finitely many events start finitely many calls. -/
theorem exists_idle (history : Interleaving File) (instant : Nat) :
    ∃ id, history.callAt instant id = .idle := by
  have bounded : ∃ limit, forall id, limit ≤ id ->
      (history.worldAt instant).service.calls id = .idle := by
    apply history.timeline.invariant
      (fun world => ∃ limit, forall id, limit ≤ id -> world.service.calls id = .idle)
    · exact ⟨0, fun _ _ => rfl⟩
    · rintro world event ⟨limit, idle⟩
      cases event with
      | write file version => exact ⟨limit, idle⟩
      | delete file => exact ⟨limit, idle⟩
      | call action =>
          refine ⟨max limit (action.actor.elim 0 (fun actor => actor + 1)), ?_⟩
          intro id large
          have before := idle id (Nat.le_trans (Nat.le_max_left _ _) large)
          rcases Service.act_calls (World.fileSystem history.locate world.files) world.service
            action id with same | moves
          · exact same.trans before
          · -- the acting call itself lies below the new limit
            have above := Nat.le_trans (Nat.le_max_right _ _) large
            rw [moves.actor_eq] at above
            exact absurd above (Nat.not_succ_le_self id)
  rcases bounded with ⟨limit, idle⟩
  exact ⟨limit, idle limit (Nat.le_refl limit)⟩

/-! ## Current insertions suffice -/

/-- What holds from a clear on, if no insertion is stale: the cache, and the
calls that had not started at the clear, hold only contents had since. -/
structure ForgetsPast (history : Interleaving File) (cleared instant : Nat) : Prop where
  entries : forall key content mtime, history.cacheAt instant key = some (content, mtime) ->
    history.HadSince cleared instant key content
  inserting : forall id key mtime content, history.callAt cleared id = .idle ->
    history.callAt instant id = .inserting key mtime content ->
    history.HadSince cleared instant key content
  returned : forall id key content, history.callAt cleared id = .idle ->
    history.callAt instant id = .returned key (.ok content) ->
    history.HadSince cleared instant key content

theorem HadSince.later {cleared instant : Nat} {key : PromptKey} {content : String}
    (since : history.HadSince cleared instant key content) :
    history.HadSince cleared (instant + 1) key content := by
  rcases since with ⟨moment, after, before, had⟩
  exact ⟨moment, after, Nat.lt_succ_of_lt before, had⟩

private theorem forgetsPast_start {cleared : Nat} (clear : history.Cleared cleared) :
    history.ForgetsPast cleared (cleared + 1) := by
  have unchanged : forall id, history.callAt (cleared + 1) id = history.callAt cleared id := by
    intro id
    rw [callAt, service_call clear]
    rfl
  constructor
  · intro key content mtime entry
    have empty : history.cacheAt (cleared + 1) key = none := by
      rw [cacheAt, service_call clear]
      exact FsRegistry.clearCache_empty (unpoisoned cleared) key
    rw [empty] at entry
    cases entry
  · intro id key mtime content idle ready
    rw [unchanged, idle] at ready
    cases ready
  · intro id key content idle done
    rw [unchanged, idle] at done
    cases done

private theorem forgetsPast_step (current : forall instant, ¬ history.StaleInsert instant)
    {cleared instant : Nat} (clear : history.Cleared cleared) (after : cleared + 1 ≤ instant)
    {event : WorldEvent File} (occurs : history.events[instant]? = some event)
    (forgets : history.ForgetsPast cleared instant) : history.ForgetsPast cleared (instant + 1) := by
  constructor
  · intro key content mtime entry
    rcases cacheAt_succ occurs entry with older | ⟨id, isInsert, ready⟩
    · exact (forgets.entries key content mtime older).later
    · by_contra never
      apply current instant
      subst isInsert
      refine ⟨id, key, mtime, content, cleared, occurs, ready, clear, after, ?_⟩
      intro moment later earlier had
      exact never ⟨moment, later, Nat.lt_succ_of_le earlier, had⟩
  · intro id key mtime content idle ready
    rcases callAt_succ occurs id with same | ⟨action, _, moves⟩
    · rw [same] at ready
      exact (forgets.inserting id key mtime content idle ready).later
    · rw [ready] at moves
      generalize history.callAt instant id = previous at moves
      cases moves with
      | read loaded =>
          exact ⟨instant, Nat.le_of_succ_le after, Nat.lt_succ_self _, had_of_read loaded⟩
  · intro id key content idle done
    rcases callAt_succ occurs id with same | ⟨action, _, moves⟩
    · rw [same] at done
      exact (forgets.returned id key content idle done).later
    · rw [done] at moves
      generalize now : history.callAt instant id = previous at moves
      cases moves with
      | hit found =>
          exact (forgets.entries key content _ (FsRegistry.lookup_eq_some found)).later
      | insert => exact (forgets.inserting id key _ content idle now).later

/-- Without stale insertions every call after a clear returns a content that
its file has had since the clear. -/
theorem clearsRespected_of_current (current : forall instant, ¬ history.StaleInsert instant) :
    history.ClearsRespected := by
  intro cleared start instant id key content clear began after returns superseded
  have bound : instant + 1 ≤ history.timeline.length := returns.occurs
  have during : start ≤ instant := by
    by_contra early
    have idle := idle_before (Nat.lt_of_not_le early)
      (Nat.le_of_lt (history.timeline.lt_length began.1)) began.2
    rw [returns.2] at idle
    cases idle
  have idle : history.callAt cleared id = .idle :=
    idle_before (Nat.le_of_lt after) (Nat.le_of_lt (history.timeline.lt_length began.1)) began.2
  have forgets : history.ForgetsPast cleared (instant + 1) := by
    apply history.timeline.induction_from (history.ForgetsPast cleared)
      (forgetsPast_start clear) _ (instant + 1) (by omega) bound
    intro moment event later occurs holds
    exact forgetsPast_step current clear later occurs holds
  rcases forgets.returned id key content idle returns.2 with ⟨moment, since, before, had⟩
  exact superseded.2 moment since (Nat.le_of_lt_succ before) had

/-! ## A stale insertion can always be made visible -/

section Continuation

variable {cut : Nat} (more : List (WorldEvent File))

theorem worldAt_continueWith (bound : cut ≤ history.timeline.length) {instant : Nat}
    (past : instant ≤ cut) :
    (history.continueWith cut more).worldAt instant = history.worldAt instant :=
  history.timeline.continueWith_stateAt more bound past

theorem had_continueWith (bound : cut ≤ history.timeline.length) {instant : Nat}
    (past : instant ≤ cut) (key : PromptKey) (content : String) :
    (history.continueWith cut more).Had instant key content <-> history.Had instant key content := by
  unfold Had versionAt
  rw [worldAt_continueWith more bound past]
  exact Iff.rfl

end Continuation

/-- The call that inserts leaves its entry in the cache. -/
private theorem cacheAt_insert {instant : Nat} {id : CallId} {key : PromptKey}
    {mtime : SystemTime} {content : String}
    (occurs : history.events[instant]? = some (.call (.insert id)))
    (ready : history.callAt instant id = .inserting key mtime content) :
    history.cacheAt (instant + 1) key = some (content, mtime) := by
  have now : (history.worldAt instant).service.calls id = .inserting key mtime content := ready
  rw [cacheAt, service_call occurs]
  simp only [Service.act, now]
  exact FsRegistry.insert_entry_same key content mtime (unpoisoned instant)

/-- One write with the old modification time, then one undisturbed call. -/
def probe (history : Interleaving File) (newcomer : CallId) (key : PromptKey) (content : String)
    (mtime : SystemTime) : List (WorldEvent File) :=
  [.write (history.locate ((FsRegistry.new history.root).resolvePath key)) ⟨content ++ "!", mtime⟩,
    .call (.stat newcomer key), .call (.lookup newcomer)]

/-- A call that is not interrupted returns the cached content, if the file has
the cached modification time. -/
private theorem returns_cached {history : Interleaving File} {start : Nat} {id : CallId}
    {key : PromptKey} {content : String} {version : Version}
    (statted : history.events[start]? = some (.call (.stat id key)))
    (lookedUp : history.events[start + 1]? = some (.call (.lookup id)))
    (idle : history.callAt start id = .idle)
    (present : history.versionAt start key = some version)
    (cached : history.cacheAt start key = some (content, version.mtime)) :
    history.Returns id key (.ok content) (start + 1) := by
  have waiting : (history.worldAt start).service.calls id = .idle := idle
  have looking : (history.worldAt (start + 1)).service.calls id = .looking key version.mtime := by
    have answer := World.stat_eq history.locate (history.worldAt start) key
    rw [show (history.worldAt start).version history.locate key = _ from present] at answer
    rw [service_call statted]
    simp [Service.act, waiting, answer, Call.afterStat]
  have entry : history.cacheAt (start + 1) key = some (content, version.mtime) := by
    rw [cacheAt, service_call statted]
    simp only [Service.act, waiting, Service.setCall_registry]
    exact cached
  have returned : (history.worldAt (start + 2)).service.calls id = .returned key (.ok content) := by
    have sound : (history.worldAt (start + 1)).service.registry.cache.poisoned = false :=
      unpoisoned (start + 1)
    have hit := FsRegistry.lookup_of_entry sound entry
    rw [service_call lookedUp]
    simp [Service.act, looking, hit, Call.afterLookup]
  exact ⟨congrArg Call.isReturned looking, returned⟩

section Probe

variable (cut : Nat) (newcomer : CallId) (key : PromptKey) (content : String) (mtime : SystemTime)

/-- The history up to the cut, and then the probe. -/
abbrev probed (history : Interleaving File) : Interleaving File :=
  history.continueWith cut (history.probe newcomer key content mtime)

omit [DecidableEq File] in
private theorem not_insert_of_mem_probe {event : WorldEvent File}
    (member : event ∈ history.probe newcomer key content mtime) (id : CallId) :
    event ≠ .call (.insert id) := by
  intro inserts
  subst inserts
  simp [probe] at member

variable {cut} (bound : cut ≤ history.timeline.length)

include bound

private theorem probe_writes :
    (history.probed cut newcomer key content mtime).events[cut]? = some (.write
      (history.locate ((FsRegistry.new history.root).resolvePath key)) ⟨content ++ "!", mtime⟩) :=
  history.timeline.continueWith_event_new _ bound 0

private theorem probe_stats :
    (history.probed cut newcomer key content mtime).events[cut + 1]? =
      some (.call (.stat newcomer key)) :=
  history.timeline.continueWith_event_new _ bound 1

private theorem versionAt_probe :
    (history.probed cut newcomer key content mtime).versionAt (cut + 1) key =
      some ⟨content ++ "!", mtime⟩ := by
  rw [versionAt_write (probe_writes newcomer key content mtime bound), resolvePath_worldAt]
  exact if_pos rfl

/-- After the write the file has another content. -/
private theorem not_had_probe {instant : Nat} (later : cut < instant) (earlier : instant ≤ cut + 2) :
    ¬ (history.probed cut newcomer key content mtime).Had instant key content := by
  have now := versionAt_probe newcomer key content mtime bound
  have still := (versionAt_call (probe_stats newcomer key content mtime bound) key).trans now
  have written : (history.probed cut newcomer key content mtime).versionAt instant key =
      some ⟨content ++ "!", mtime⟩ := by
    rcases Nat.lt_or_eq_of_le earlier with first | second
    · have atFirst : instant = cut + 1 := by omega
      rw [atFirst]
      exact now
    · rw [second]
      exact still
  rintro ⟨version, observed, same⟩
  rw [written] at observed
  have equal : content ++ "!" = content :=
    (congrArg Version.content (Option.some.inj observed)).trans same
  have lengths := congrArg (fun text => text.toList.length) equal
  simp [String.toList_append] at lengths

/-- The probe finds a cached content whatever the file has now. -/
private theorem probe_returns (idle : history.callAt cut newcomer = .idle)
    (cached : history.cacheAt cut key = some (content, mtime)) :
    (history.probed cut newcomer key content mtime).Began newcomer key (cut + 1) ∧
      (history.probed cut newcomer key content mtime).Returns newcomer key (.ok content)
        (cut + 2) := by
  have statted := probe_stats newcomer key content mtime bound
  have lookedUp : (history.probed cut newcomer key content mtime).events[cut + 2]? =
      some (.call (.lookup newcomer)) :=
    history.timeline.continueWith_event_new _ bound 2
  have sameService : ((history.probed cut newcomer key content mtime).worldAt (cut + 1)).service =
      (history.worldAt cut).service := by
    rw [service_write (probe_writes newcomer key content mtime bound),
      worldAt_continueWith _ bound (Nat.le_refl cut)]
  have waiting : (history.probed cut newcomer key content mtime).callAt (cut + 1) newcomer =
      .idle := by
    rw [callAt, sameService]
    exact idle
  refine ⟨⟨statted, waiting⟩, ?_⟩
  apply returns_cached statted lookedUp waiting (versionAt_probe newcomer key content mtime bound)
  rw [cacheAt, sameService]
  exact cached

end Probe

/-- After a stale insertion, one write and one call make the registry return a
superseded content. -/
theorem stale_insert_visible {instant : Nat} (stale : history.StaleInsert instant) :
    ∃ more, (forall event, event ∈ more -> forall id, event ≠ .call (.insert id)) ∧
      ¬ (history.continueWith (instant + 1) more).ClearsRespected := by
  rcases stale with ⟨id, key, mtime, content, cleared, occurs, ready, clear, before, never⟩
  have bound : instant + 1 ≤ history.timeline.length := history.timeline.lt_length occurs
  rcases history.exists_idle (instant + 1) with ⟨newcomer, idle⟩
  refine ⟨history.probe newcomer key content mtime,
    fun _ member => not_insert_of_mem_probe newcomer key content mtime member, ?_⟩
  intro respected
  rcases probe_returns newcomer key content mtime bound idle (cacheAt_insert occurs ready) with
    ⟨began, returns⟩
  have clearedNext : (history.probed (instant + 1) newcomer key content mtime).Cleared cleared :=
    (history.timeline.continueWith_event_past _ bound (Nat.lt_succ_of_lt before)).trans clear
  apply respected cleared _ _ newcomer key content clearedNext began (by omega) returns
  constructor
  · rcases had_of_inserting (Nat.le_of_succ_le bound) ready with ⟨seen, earlier, had⟩
    refine ⟨seen, ?_, ?_⟩
    · by_contra late
      exact never seen (Nat.le_of_not_lt late) (Nat.le_of_lt earlier) had
    · exact (had_continueWith _ bound (by omega) key content).mpr had
  · intro moment later earlier had
    rcases Nat.lt_trichotomy moment (instant + 1) with past | atCut | future
    · exact never moment later (Nat.le_of_lt_succ past)
        ((had_continueWith _ bound (Nat.le_of_lt past) key content).mp had)
    · subst atCut
      have hadCut := (had_continueWith _ bound (Nat.le_refl _) key content).mp had
      unfold Had at hadCut
      rw [versionAt_call occurs] at hadCut
      exact never instant (Nat.le_of_lt before) (Nat.le_refl _) hadCut
    · exact not_had_probe newcomer key content mtime bound future earlier had

/-- Clearing works in every history without stale insertions, and a history
with one can be continued, without further insertions, to a call that returns
a superseded content. -/
theorem clear_respected_unless_stale_insert (history : Interleaving File) :
    ((forall instant, ¬ history.StaleInsert instant) -> history.ClearsRespected) ∧
    (forall instant, history.StaleInsert instant ->
      ∃ more, (forall event, event ∈ more -> forall id, event ≠ .call (.insert id)) ∧
        ¬ (history.continueWith (instant + 1) more).ClearsRespected) :=
  ⟨clearsRespected_of_current, fun _ stale => stale_insert_visible stale⟩

/-- A call reads `first`, the file becomes `second` within the same clock
tick, the cache is cleared, and then the call inserts what it read. -/
def overtakenClear : Interleaving Unit where
  locate := fun _ => ()
  root := "/srv/prompts"
  files := fun _ => some ⟨"first", 1⟩
  events :=
    [.call (.stat 0 ⟨"StateA", "Ev"⟩), .call (.lookup 0), .call (.read 0),
      .write () ⟨"second", 1⟩, .call .clearCache, .call (.insert 0),
      .call (.stat 1 ⟨"StateA", "Ev"⟩), .call (.lookup 1)]

/-- The next call returns `first` from the cleared cache. -/
theorem overtakenClear_not_respected : ¬ overtakenClear.ClearsRespected := by
  intro respected
  apply respected 4 6 7 1 ⟨"StateA", "Ev"⟩ "first" rfl ⟨rfl, rfl⟩ (by decide) ⟨rfl, rfl⟩
  constructor
  · exact ⟨0, by decide, ⟨"first", 1⟩, rfl, rfl⟩
  · rintro instant later earlier ⟨version, observed, same⟩
    have second : overtakenClear.versionAt instant ⟨"StateA", "Ev"⟩ = some ⟨"second", 1⟩ := by
      interval_cases instant <;> rfl
    rw [second] at observed
    cases observed
    exact absurd same (by decide)

end Interleaving

end PromptRegistry
end Caulk
