import Caulk.PromptRegistry
import Caulk.Foundation.ValidatedCache

namespace Caulk
namespace PromptRegistry

open Caulk.Core
open Foundation

/-!
# Calls one after the other, over files that change at will

Nothing is assumed about the files here: between two calls they may change in
any way, with any modification times.  A registry used by one task is then a
cache validated by a stamp, the stamp being the modification time, and the
only way in which it can differ from a registry without a cache is that a
replaced content carries the time of the content it replaces.

A file system that does not report modification times is the extreme case.
Every file then carries the Unix epoch, so the first content found for a key is
returned until `clear_cache` is called, whatever the file holds by then.
-/

/-- A registry and the files that its next call would find. -/
structure Session where
  files : FileSystem
  registry : FsRegistry

namespace Session

inductive Event where
  | get (key : PromptKey)
  | clearCache
  | change (files : FileSystem)

def step (session : Session) : Event -> Session
  | .get key => { session with registry := (session.registry.get session.files key).2 }
  | .clearCache => { session with registry := session.registry.clearCache }
  | .change files => { session with files := files }

/-- The result of a `get` in this state. -/
def result (session : Session) (key : PromptKey) : Except FormeError String :=
  (session.registry.get session.files key).1

/-- A session that starts with a new registry. -/
def timeline (root : PathBuf) (files : FileSystem) (events : List Event) : Timeline Session Event where
  step := step
  start := { files := files, registry := FsRegistry.new root }
  events := events

end Session

/-- What a registry without a cache would return. -/
def uncached (root : PathBuf) (files : FileSystem) (key : PromptKey) : Except FormeError String :=
  ((FsRegistry.new root).get files key).1

/-! ## The registry as a validated cache -/

/-- The two questions that a registry asks the operating system. -/
def sourceOf (root : PathBuf) (files : FileSystem) :
    Source PromptKey SystemTime String FormeError where
  stamp := (FsRegistry.new root).stat files
  load := (FsRegistry.new root).read files

theorem uncached_eq_direct (root : PathBuf) (files : FileSystem) (key : PromptKey) :
    uncached root files key = (sourceOf root files).direct key := by
  have missed : forall mtime, (FsRegistry.new root).lookup key mtime = none := fun _ => rfl
  unfold uncached FsRegistry.get Source.direct
  simp only [sourceOf, missed]
  cases (FsRegistry.new root).stat files key with
  | error error => rfl
  | ok mtime =>
      simp only
      cases (FsRegistry.new root).read files key with
      | error error => rfl
      | ok content => rfl

namespace Session

/-- The session and the cache hold the same, and the lock is sound. -/
structure Embodies (root : PathBuf) (session : Session)
    (cache : ValidatedCache PromptKey SystemTime String FormeError) : Prop where
  sameRoot : session.registry.root = root
  sound : session.registry.cache.poisoned = false
  source : cache.source = sourceOf root session.files
  memory : cache.memory = session.registry.cache.value

def Event.translate (root : PathBuf) :
    Event -> ValidatedCache.Event PromptKey SystemTime String FormeError
  | .get key => .fetch key
  | .clearCache => .forget
  | .change files => .change (sourceOf root files)

namespace Embodies

variable {root : PathBuf} {session : Session}
  {cache : ValidatedCache PromptKey SystemTime String FormeError}

theorem stat_eq (embodies : Embodies root session cache) (key : PromptKey) :
    session.registry.stat session.files key = cache.source.stamp key := by
  have samePath : session.registry.resolvePath key = (FsRegistry.new root).resolvePath key :=
    FsRegistry.resolvePath_congr embodies.sameRoot key
  rw [embodies.source]
  simp only [FsRegistry.stat, sourceOf, samePath]

theorem read_eq (embodies : Embodies root session cache) (key : PromptKey) :
    session.registry.read session.files key = cache.source.load key := by
  have samePath : session.registry.resolvePath key = (FsRegistry.new root).resolvePath key :=
    FsRegistry.resolvePath_congr embodies.sameRoot key
  rw [embodies.source]
  simp only [FsRegistry.read, sourceOf, samePath]

theorem lookup_eq (embodies : Embodies root session cache) (key : PromptKey) (mtime : SystemTime) :
    session.registry.lookup key mtime = cache.remembered key mtime := by
  simp only [FsRegistry.lookup, ValidatedCache.remembered, RwLock.read_of_sound embodies.sound,
    embodies.memory]
  cases session.registry.cache.value key with
  | none => rfl
  | some entry => rfl

theorem result_eq (embodies : Embodies root session cache) (key : PromptKey) :
    session.result key = cache.answer key := by
  unfold result FsRegistry.get ValidatedCache.answer
  rw [embodies.stat_eq]
  cases cache.source.stamp key with
  | error error => rfl
  | ok mtime =>
      simp only [embodies.lookup_eq, embodies.read_eq]
      cases cache.remembered key mtime with
      | some content => rfl
      | none =>
          cases cache.source.load key with
          | error error => rfl
          | ok content => rfl

/-- A call leaves the two in the same relation. -/
theorem get (embodies : Embodies root session cache) (key : PromptKey) :
    Embodies root (session.step (.get key)) (cache.step (.fetch key)) := by
  unfold step FsRegistry.get ValidatedCache.step ValidatedCache.remember
  simp only [embodies.stat_eq]
  cases cache.source.stamp key with
  | error error => exact embodies
  | ok mtime =>
      simp only [embodies.lookup_eq, embodies.read_eq]
      cases cache.remembered key mtime with
      | some content => exact embodies
      | none =>
          cases cache.source.load key with
          | error error => exact embodies
          | ok content =>
              constructor
              · exact embodies.sameRoot
              · simp only [FsRegistry.insert_poisoned, embodies.sound]
              · exact embodies.source
              · simp only [FsRegistry.insert, RwLock.writeIfOk_of_sound _ embodies.sound, embodies.memory]

theorem step (embodies : Embodies root session cache) (event : Event) :
    Embodies root (session.step event) (cache.step (event.translate root)) := by
  cases event with
  | get key => exact embodies.get key
  | change files => exact ⟨embodies.sameRoot, embodies.sound, rfl, embodies.memory⟩
  | clearCache =>
      constructor
      · exact embodies.sameRoot
      · exact (FsRegistry.clearCache_poisoned session.registry).trans embodies.sound
      · exact embodies.source
      · exact (RwLock.writeIfOk_of_sound (fun _ => HashMap.empty) embodies.sound).symm

end Embodies

/-- The cache that a session is compared with. -/
abbrev abstraction (root : PathBuf) (files : FileSystem) (events : List Event) :
    Timeline (ValidatedCache PromptKey SystemTime String FormeError)
      (ValidatedCache.Event PromptKey SystemTime String FormeError) :=
  ValidatedCache.fresh (sourceOf root files) (events.map (Event.translate root))

section Histories

variable (root : PathBuf) (files : FileSystem) (events : List Event)

/-- The session before the event of an instant. -/
def sessionAt (instant : Nat) : Session :=
  (timeline root files events).stateAt instant

/-- The modification time that a call at this instant sees. -/
def statAt (instant : Nat) (key : PromptKey) : Except FormeError SystemTime :=
  (FsRegistry.new root).stat (sessionAt root files events instant).files key

/-- The content that a call at this instant would read. -/
def readAt (instant : Nat) (key : PromptKey) : Except FormeError String :=
  (FsRegistry.new root).read (sessionAt root files events instant).files key

/-- A call for the key, at which its file had this content and this time. -/
structure Served (instant : Nat) (key : PromptKey) (content : String) (mtime : SystemTime) : Prop where
  called : events[instant]? = some (.get key)
  time : statAt root files events instant key = .ok mtime
  content : readAt root files events instant key = .ok content

/-- A call sees the time that the last successful reading saw, but by now the
file does not have the content of then.  `clear_cache` was not called since. -/
structure Overlooks (instant : Nat) (key : PromptKey) (content : String) (mtime : SystemTime)
    (first : Nat) : Prop where
  called : events[instant]? = some (.get key)
  time : statAt root files events instant key = .ok mtime
  changed : readAt root files events instant key ≠ .ok content
  before : first < instant
  served : Served root files events first key content mtime
  kept : forall between, first < between -> between < instant -> events[between]? ≠ some .clearCache
  silent : forall between found seen, first < between -> between < instant ->
    ¬ Served root files events between key found seen

end Histories

variable {root : PathBuf} {files : FileSystem} {events : List Event}

theorem embodies_at (instant : Nat) :
    Embodies root (sessionAt root files events instant) ((abstraction root files events).stateAt instant) := by
  apply Timeline.simulates (timeline root files events) (abstraction root files events)
    (Event.translate root) (Embodies root)
  · rfl
  · exact ⟨rfl, rfl, rfl, rfl⟩
  · intro session cache event embodies
    exact embodies.step event

theorem translated_event (instant : Nat) :
    (abstraction root files events).events[instant]? = (events[instant]?).map (Event.translate root) :=
  List.getElem?_map

theorem fetched_iff (instant : Nat) (key : PromptKey) :
    (abstraction root files events).events[instant]? = some (.fetch key) <->
      events[instant]? = some (.get key) := by
  rw [translated_event]
  cases events[instant]? with
  | none => simp
  | some event => cases event <;> simp [Event.translate]

theorem forgotten_iff (instant : Nat) :
    (abstraction root files events).events[instant]? = some .forget <->
      events[instant]? = some .clearCache := by
  rw [translated_event]
  cases events[instant]? with
  | none => simp
  | some event => cases event <;> simp [Event.translate]

theorem source_at (instant : Nat) :
    ((abstraction root files events).stateAt instant).source =
      sourceOf root (sessionAt root files events instant).files :=
  (embodies_at instant).source

theorem offered_iff (instant : Nat) (key : PromptKey) (content : String) (mtime : SystemTime) :
    ValidatedCache.Offered (abstraction root files events) instant key content mtime <->
      Served root files events instant key content mtime := by
  constructor
  · rintro ⟨fetched, stamped, loaded⟩
    rw [source_at] at stamped loaded
    exact ⟨(fetched_iff instant key).mp fetched, stamped, loaded⟩
  · rintro ⟨called, time, content⟩
    refine ⟨(fetched_iff instant key).mpr called, ?_, ?_⟩
    · rw [source_at]
      exact time
    · rw [source_at]
      exact content

theorem collision_iff (instant : Nat) (key : PromptKey) (content : String) (mtime : SystemTime) :
    ValidatedCache.Collision (abstraction root files events) instant key content mtime <->
      ∃ first, Overlooks root files events instant key content mtime first := by
  constructor
  · rintro ⟨fetched, stamped, ⟨first, before, offered, undisturbed⟩, changed⟩
    rw [source_at] at stamped changed
    refine ⟨first, (fetched_iff instant key).mp fetched, stamped, changed, before,
      (offered_iff first key content mtime).mp offered, ?_, ?_⟩
    · intro between later earlier cleared
      exact undisturbed.kept between later earlier ((forgotten_iff between).mpr cleared)
    · intro between found seen later earlier served
      exact undisturbed.silent between found seen later earlier ((offered_iff between key found seen).mpr served)
  · rintro ⟨first, overlooks⟩
    refine ⟨(fetched_iff instant key).mpr overlooks.called, ?_, ?_, ?_⟩
    · rw [source_at]
      exact overlooks.time
    · refine ⟨first, overlooks.before, (offered_iff first key content mtime).mpr overlooks.served, ?_, ?_⟩
      · intro between later earlier forgotten
        exact overlooks.kept between later earlier ((forgotten_iff between).mp forgotten)
      · intro between found seen later earlier offered
        exact overlooks.silent between found seen later earlier ((offered_iff between key found seen).mp offered)
    · rw [source_at]
      exact overlooks.changed

theorem transparent_iff (instant : Nat) :
    ValidatedCache.Transparent (abstraction root files events) instant <->
      forall key, events[instant]? = some (.get key) ->
        (sessionAt root files events instant).result key =
          uncached root (sessionAt root files events instant).files key := by
  constructor
  · intro transparent key called
    rw [(embodies_at instant).result_eq, uncached_eq_direct, ← source_at]
    exact transparent key ((fetched_iff instant key).mpr called)
  · intro agrees key fetched
    rw [← (embodies_at instant).result_eq, source_at, ← uncached_eq_direct]
    exact agrees key ((fetched_iff instant key).mp fetched)

/-- In every session the cache shows in a result for the first time where a
call overlooks a change, and only there. -/
theorem results_uncached_iff_nothing_overlooked (root : PathBuf) (files : FileSystem)
    (events : List Event) (bound : Nat) :
    (forall instant key, instant < bound -> events[instant]? = some (.get key) ->
      (sessionAt root files events instant).result key =
        uncached root (sessionAt root files events instant).files key) <->
    forall instant key content mtime first, instant < bound ->
      ¬ Overlooks root files events instant key content mtime first := by
  have general := ValidatedCache.transparent_iff_no_collision (sourceOf root files)
    (events.map (Event.translate root)) bound
  constructor
  · intro agrees instant key content mtime first before overlooks
    apply general.mp _ instant key content mtime before ((collision_iff instant key content mtime).mpr ⟨first, overlooks⟩)
    intro earlier less
    exact (transparent_iff earlier).mpr (fun key called => agrees earlier key less called)
  · intro none instant key before called
    apply (transparent_iff instant).mp _ key called
    apply general.mpr _ instant before
    intro earlier key content mtime less collision
    rcases (collision_iff earlier key content mtime).mp collision with ⟨first, overlooks⟩
    exact none earlier key content mtime first less overlooks

/-! ## Files without modification times -/

/-- No file reports a modification time. -/
def TimesUnsupported (files : FileSystem) : Prop :=
  forall path metadata, files.metadata path = .ok metadata -> ∃ error, metadata.modified = .error error

theorem stat_of_timesUnsupported {files : FileSystem} (unsupported : TimesUnsupported files)
    {registry : FsRegistry} {key : PromptKey} {mtime : SystemTime}
    (seen : registry.stat files key = .ok mtime) : mtime = unixEpoch := by
  unfold FsRegistry.stat at seen
  cases asked : files.metadata (registry.resolvePath key) with
  | error error =>
      rw [asked] at seen
      cases seen
  | ok metadata =>
      rcases unsupported _ metadata asked with ⟨error, failed⟩
      simp only [asked, failed] at seen
      exact (Except.ok.inj seen).symm

/-- What holds of the first files and of every change holds of the files at
every instant. -/
theorem files_all (holds : FileSystem -> Prop) (first : holds files)
    (changes : forall next, .change next ∈ events -> holds next) (instant : Nat) :
    holds (sessionAt root files events instant).files := by
  have early : forall instant, instant ≤ (timeline root files events).length ->
      holds (sessionAt root files events instant).files := by
    apply Timeline.induction
    · exact first
    · intro instant event occurs ih
      have moved := Timeline.stateAt_succ (timeline root files events) occurs
      unfold sessionAt at ih ⊢
      rw [moved]
      cases event with
      | get key => exact ih
      | clearCache => exact ih
      | change next => exact changes next (List.mem_of_getElem? occurs)
  rcases Nat.le_total instant (timeline root files events).length with before | after
  · exact early instant before
  · unfold sessionAt
    rw [Timeline.stateAt_of_length_le _ after]
    exact early _ (Nat.le_refl _)

/-- Then the only time that a key can have is the one that stands in for a
missing time. -/
theorem epoch_of_stamp (unsupported : TimesUnsupported files)
    (always : forall next, .change next ∈ events -> TimesUnsupported next) {instant : Nat}
    {key : PromptKey} {mtime : SystemTime}
    (seen : ((abstraction root files events).stateAt instant).source.stamp key = .ok mtime) :
    mtime = unixEpoch := by
  rw [source_at] at seen
  exact stat_of_timesUnsupported (files_all TimesUnsupported unsupported always instant) seen

/-- A call with a content has seen a time. -/
theorem stamp_of_result {instant : Nat} {key : PromptKey} {content : String}
    (answered : ((abstraction root files events).stateAt instant).answer key = .ok content) :
    ∃ mtime, ((abstraction root files events).stateAt instant).source.stamp key = .ok mtime := by
  cases seen : ((abstraction root files events).stateAt instant).source.stamp key with
  | ok mtime => exact ⟨mtime, rfl⟩
  | error error =>
      simp only [ValidatedCache.answer, seen] at answered
      cases answered

/-- Without modification times the first content found for a key is returned
until the next `clear_cache`, as long as the file exists. -/
theorem first_content_stays (root : PathBuf) (files : FileSystem) (events : List Event)
    (unsupported : TimesUnsupported files)
    (always : forall next, .change next ∈ events -> TimesUnsupported next) (first last : Nat)
    {key : PromptKey} {content : String}
    (called : events[first]? = some (.get key))
    (found : (sessionAt root files events first).result key = .ok content)
    (later : first < last) (again : last ≤ events.length)
    (kept : forall between, first < between -> between < last -> events[between]? ≠ some .clearCache) :
    (sessionAt root files events last).result key =
      (statAt root files events last key).map (fun _ => content) := by
  have present := (@embodies_at root files events first).result_eq key
  rw [found] at present
  rcases stamp_of_result present.symm with ⟨mtime, seen⟩
  have epoch := epoch_of_stamp unsupported always seen
  have constant : forall instant other,
      ((abstraction root files events).stateAt instant).source.stamp key = .ok other ->
      other = mtime := by
    intro instant other asked
    exact (epoch_of_stamp unsupported always asked).trans epoch.symm
  have bound : last ≤ (abstraction root files events).length := by
    simpa [Timeline.length, abstraction, ValidatedCache.fresh] using again
  have entry := ValidatedCache.memory_of_constant_stamp ((fetched_iff first key).mpr called) seen
    present.symm constant last later bound
    (fun between after before forgotten => kept between after before ((forgotten_iff between).mp forgotten))
  have asked : ((abstraction root files events).stateAt last).source.stamp key =
      statAt root files events last key := by
    rw [source_at]
    rfl
  rw [(embodies_at last).result_eq]
  cases now : statAt root files events last key with
  | error error =>
      simp only [ValidatedCache.answer, asked, now]
      rfl
  | ok latest =>
      rw [now] at asked
      rw [← constant last latest asked] at entry
      exact ValidatedCache.answer_of_memory entry asked

/-- A disk that holds one text in all files and reports no times. -/
def untimed (content : String) : FileSystem where
  metadata := fun _ => .ok ⟨.error ⟨.other, "modification time not available on this platform"⟩⟩
  readToString := fun _ => .ok content

theorem untimed_unsupported (content : String) : TimesUnsupported (untimed content) := by
  intro path metadata reported
  cases reported
  exact ⟨_, rfl⟩

/-- A prompt edited between two calls is not seen by the second. -/
theorem first_content_stays_after_edit :
    (sessionAt "prompts" (untimed "old")
        [.get ⟨"Idle", "greet"⟩, .change (untimed "new"), .get ⟨"Idle", "greet"⟩] 2).result
      ⟨"Idle", "greet"⟩ = .ok "old" := by
  have kept : forall between, 0 < between -> between < 2 ->
      ([.get ⟨"Idle", "greet"⟩, .change (untimed "new"), .get ⟨"Idle", "greet"⟩] : List Event)[between]? ≠
        some .clearCache := by
    intro between later earlier
    have middle : between = 1 := by omega
    rw [middle]
    simp
  have always : forall next, Event.change next ∈
      ([.get ⟨"Idle", "greet"⟩, .change (untimed "new"), .get ⟨"Idle", "greet"⟩] : List Event) ->
      TimesUnsupported next := by
    intro next member
    simp only [List.mem_cons, List.not_mem_nil, Event.change.injEq, reduceCtorEq, or_false, false_or] at member
    rw [member]
    exact untimed_unsupported "new"
  exact first_content_stays "prompts" (untimed "old") _ (untimed_unsupported "old") always 0 2
    rfl rfl (by decide) (by decide) kept

end Session

end PromptRegistry
end Caulk
