import Caulk.PromptRegistry.Calls

namespace Caulk
namespace PromptRegistry

open Caulk.Core
open Foundation

/-!
# Calls interleaved with changes of the files

Outside the registry, prompt files are written, deleted and created again,
atomically and at any moment between two steps of any call.  Which file a
path names is the operating system's business and is an arbitrary function
here, so two keys may well share a file.

The history of one interleaving is a timeline of worlds.  Its instants are
the moments between events: "at some instant during the call" is a number
between the call's `stat` and its return.

The main result is that writes with ever larger modification times make every
call linearizable on its own: it returns a content that its file had while
the call was running.  The modification time is taken before the content is
read, so a cached pair need not be a version of the file at all; the
invariant says only that the time was observed no later than the content.
-/

/-- One state of a prompt file. -/
structure Version where
  content : String
  mtime : SystemTime
deriving DecidableEq, Repr

/-- All files and one registry with its calls. -/
structure World (File : Type) where
  files : File -> Option Version
  service : Service

inductive WorldEvent (File : Type) where
  | call (action : Action)
  | write (file : File) (version : Version)
  | delete (file : File)

namespace World

variable {File : Type}

/-- The operating system's answers: every file is readable, and a missing one
is the only error. -/
def fileSystem (locate : PathBuf -> File) (files : File -> Option Version) : FileSystem where
  metadata path :=
    match files (locate path) with
    | some version => .ok { modified := .ok version.mtime }
    | none => .error IoError.noSuchFile
  readToString path :=
    match files (locate path) with
    | some version => .ok version.content
    | none => .error IoError.noSuchFile

def step [DecidableEq File] (locate : PathBuf -> File) (world : World File) : WorldEvent File -> World File
  | .call action =>
      { world with service := world.service.act (fileSystem locate world.files) action }
  | .write file version => { world with files := Function.update world.files file (some version) }
  | .delete file => { world with files := Function.update world.files file none }

/-- The state of the file that a key's path names. -/
def version (locate : PathBuf -> File) (world : World File) (key : PromptKey) : Option Version :=
  world.files (locate (world.service.registry.resolvePath key))

/-- `stat` sees the modification time of the key's file, or that it is missing. -/
theorem stat_eq (locate : PathBuf -> File) (world : World File) (key : PromptKey) :
    world.service.registry.stat (fileSystem locate world.files) key =
      match world.version locate key with
      | some version => .ok version.mtime
      | none => .error (.registryNotFound key) := by
  cases now : world.files (locate (world.service.registry.resolvePath key)) with
  | none =>
      simp only [FsRegistry.stat, version, fileSystem, now]
      rfl
  | some found =>
      simp only [FsRegistry.stat, version, fileSystem, now]
      rfl

/-- `read` sees the content of the key's file, or that it is missing. -/
theorem read_eq (locate : PathBuf -> File) (world : World File) (key : PromptKey) :
    world.service.registry.read (fileSystem locate world.files) key =
      match world.version locate key with
      | some version => .ok version.content
      | none => .error (.registryNotFound key) := by
  cases now : world.files (locate (world.service.registry.resolvePath key)) with
  | none =>
      simp only [FsRegistry.read, version, fileSystem, now]
      rfl
  | some found => simp only [FsRegistry.read, version, fileSystem, now]

end World

/-- Everything that determines one interleaving, from a fresh registry on. -/
structure Interleaving (File : Type) where
  locate : PathBuf -> File
  root : PathBuf
  files : File -> Option Version
  events : List (WorldEvent File)

namespace Interleaving

variable {File : Type} [DecidableEq File] (history : Interleaving File)

def timeline : Timeline (World File) (WorldEvent File) where
  step := World.step history.locate
  start := ⟨history.files, Service.new history.root⟩
  events := history.events

def worldAt (instant : Nat) : World File :=
  history.timeline.stateAt instant

def callAt (instant : Nat) (id : CallId) : Call :=
  (history.worldAt instant).service.calls id

def cacheAt (instant : Nat) : PromptCache :=
  (history.worldAt instant).service.registry.cache.value

def versionAt (instant : Nat) (key : PromptKey) : Option Version :=
  (history.worldAt instant).version history.locate key

/-- At the instant the key's file had this content. -/
def Had (instant : Nat) (key : PromptKey) (content : String) : Prop :=
  ∃ version, history.versionAt instant key = some version ∧ version.content = content

/-- At the instant the key's file had this modification time. -/
def HadTime (instant : Nat) (key : PromptKey) (mtime : SystemTime) : Prop :=
  ∃ version, history.versionAt instant key = some version ∧ version.mtime = mtime

/-- The event at the instant is the `stat` with which the call starts. -/
def Began (id : CallId) (key : PromptKey) (instant : Nat) : Prop :=
  history.events[instant]? = some (.call (.stat id key)) ∧ history.callAt instant id = .idle

/-- The event at the instant makes the call return. -/
def Returns (id : CallId) (key : PromptKey) (result : Except FormeError String)
    (instant : Nat) : Prop :=
  (history.callAt instant id).isReturned = false ∧
    history.callAt (instant + 1) id = .returned key result

/-- Every write gives its file a modification time greater than every earlier
one of that file, also across deletions. -/
def StrictlyStamped : Prop :=
  forall instant file version, history.events[instant]? = some (.write file version) ->
    forall earlier old, earlier ≤ instant -> (history.worldAt earlier).files file = some old ->
      old.mtime < version.mtime

/-! ## One event -/

variable {history}

theorem worldAt_succ {instant : Nat} {event : WorldEvent File}
    (occurs : history.events[instant]? = some event) :
    history.worldAt (instant + 1) = (history.worldAt instant).step history.locate event :=
  history.timeline.stateAt_succ occurs

theorem callAt_zero (id : CallId) : history.callAt 0 id = .idle :=
  rfl

theorem cacheAt_zero (key : PromptKey) : history.cacheAt 0 key = none :=
  rfl

/-- A step of a call leaves every file alone, and the paths of all keys. -/
theorem versionAt_call {instant : Nat} {action : Action}
    (occurs : history.events[instant]? = some (.call action)) (key : PromptKey) :
    history.versionAt (instant + 1) key = history.versionAt instant key := by
  unfold versionAt World.version
  rw [worldAt_succ occurs]
  simp only [World.step]
  rw [FsRegistry.resolvePath_congr (Service.act_root _ _ action) key]

theorem versionAt_write {instant : Nat} {file : File} {version : Version}
    (occurs : history.events[instant]? = some (.write file version)) (key : PromptKey) :
    history.versionAt (instant + 1) key =
      if history.locate ((history.worldAt instant).service.registry.resolvePath key) = file
        then some version else history.versionAt instant key := by
  unfold versionAt World.version
  rw [worldAt_succ occurs]
  simp only [World.step, Function.update_apply]

theorem versionAt_delete {instant : Nat} {file : File}
    (occurs : history.events[instant]? = some (.delete file)) (key : PromptKey) :
    history.versionAt (instant + 1) key =
      if history.locate ((history.worldAt instant).service.registry.resolvePath key) = file
        then none else history.versionAt instant key := by
  unfold versionAt World.version
  rw [worldAt_succ occurs]
  simp only [World.step, Function.update_apply]

/-- No event moves the root, so a key keeps its path throughout. -/
theorem resolvePath_worldAt (instant : Nat) (key : PromptKey) :
    (history.worldAt instant).service.registry.resolvePath key =
      (FsRegistry.new history.root).resolvePath key := by
  apply FsRegistry.resolvePath_congr
  apply history.timeline.invariant
    (fun world => world.service.registry.root = (FsRegistry.new history.root).root)
  · rfl
  · intro world event same
    cases event with
    | call action => exact (Service.act_root _ _ action).trans same
    | write file version => exact same
    | delete file => exact same

/-- No event poisons the lock. -/
theorem unpoisoned (instant : Nat) :
    (history.worldAt instant).service.registry.cache.poisoned = false := by
  apply history.timeline.invariant
    (fun world => world.service.registry.cache.poisoned = false)
  · rfl
  · intro world event sound
    cases event with
    | call action => exact (Service.act_poisoned _ _ action).trans sound
    | write file version => exact sound
    | delete file => exact sound

/-- The registry and its calls after a step of some call. -/
theorem service_call {instant : Nat} {action : Action}
    (occurs : history.events[instant]? = some (.call action)) :
    (history.worldAt (instant + 1)).service =
      (history.worldAt instant).service.act
        (World.fileSystem history.locate (history.worldAt instant).files) action := by
  rw [worldAt_succ occurs]
  rfl

/-- A write leaves the registry and its calls alone. -/
theorem service_write {instant : Nat} {file : File} {version : Version}
    (occurs : history.events[instant]? = some (.write file version)) :
    (history.worldAt (instant + 1)).service = (history.worldAt instant).service := by
  rw [worldAt_succ occurs]
  rfl

/-- So does a deletion. -/
theorem service_delete {instant : Nat} {file : File}
    (occurs : history.events[instant]? = some (.delete file)) :
    (history.worldAt (instant + 1)).service = (history.worldAt instant).service := by
  rw [worldAt_succ occurs]
  rfl

/-- The moves of a call at an event of the history. -/
def Moves (history : Interleaving File) (instant : Nat) (id : CallId) (action : Action)
    (before after : Call) : Prop :=
  CallMoves (World.fileSystem history.locate (history.worldAt instant).files)
    (history.worldAt instant).service.registry id action before after

/-- Only a step of the call itself changes it. -/
theorem callAt_succ {instant : Nat} {event : WorldEvent File}
    (occurs : history.events[instant]? = some event) (id : CallId) :
    history.callAt (instant + 1) id = history.callAt instant id ∨
    ∃ action, event = .call action ∧
      history.Moves instant id action (history.callAt instant id) (history.callAt (instant + 1) id) := by
  cases event with
  | call action =>
      simp only [callAt, Moves]
      rw [service_call occurs]
      rcases Service.act_calls (World.fileSystem history.locate (history.worldAt instant).files)
        (history.worldAt instant).service action id with same | moves
      · exact Or.inl same
      · exact Or.inr ⟨action, rfl, moves⟩
  | write file version =>
      left
      rw [callAt, service_write occurs, ← callAt]
  | delete file =>
      left
      rw [callAt, service_delete occurs, ← callAt]

/-- A return is an event of the history. -/
theorem Returns.occurs {id : CallId} {key : PromptKey} {result : Except FormeError String}
    {instant : Nat} (returns : history.Returns id key result instant) :
    instant < history.timeline.length := by
  by_contra late
  have still : history.callAt (instant + 1) id = history.callAt instant id := by
    have short : history.timeline.length ≤ instant := Nat.le_of_not_lt late
    unfold callAt worldAt
    rw [history.timeline.stateAt_of_length_le short,
      history.timeline.stateAt_of_length_le (Nat.le_succ_of_le short)]
  have running := returns.1
  rw [← still, returns.2] at running
  cases running

/-- A cached entry is older, or is put there by the call that just inserts it. -/
theorem cacheAt_succ {instant : Nat} {event : WorldEvent File}
    (occurs : history.events[instant]? = some event) {key : PromptKey} {content : String}
    {mtime : SystemTime} (entry : history.cacheAt (instant + 1) key = some (content, mtime)) :
    history.cacheAt instant key = some (content, mtime) ∨
    ∃ id, event = .call (.insert id) ∧ history.callAt instant id = .inserting key mtime content := by
  cases event with
  | call action =>
      rw [cacheAt, service_call occurs] at entry
      rcases Service.act_entry entry with older | ⟨id, isInsert, ready⟩
      · exact Or.inl older
      · exact Or.inr ⟨id, congrArg WorldEvent.call isInsert, ready⟩
  | write file version =>
      rw [cacheAt, service_write occurs] at entry
      exact Or.inl entry
  | delete file =>
      rw [cacheAt, service_delete occurs] at entry
      exact Or.inl entry

theorem hadTime_of_stat {instant : Nat} {key : PromptKey} {mtime : SystemTime}
    (seen : (history.worldAt instant).service.registry.stat
      (World.fileSystem history.locate (history.worldAt instant).files) key = .ok mtime) :
    history.HadTime instant key mtime := by
  rw [World.stat_eq] at seen
  unfold HadTime versionAt
  cases now : (history.worldAt instant).version history.locate key with
  | none =>
      rw [now] at seen
      cases seen
  | some version =>
      rw [now] at seen
      exact ⟨version, rfl, Except.ok.inj seen⟩

theorem missing_of_stat {instant : Nat} {key : PromptKey} {error : FormeError}
    (failed : (history.worldAt instant).service.registry.stat
      (World.fileSystem history.locate (history.worldAt instant).files) key = .error error) :
    history.versionAt instant key = none := by
  rw [World.stat_eq] at failed
  unfold versionAt
  cases now : (history.worldAt instant).version history.locate key with
  | none => rfl
  | some version =>
      rw [now] at failed
      cases failed

theorem had_of_read {instant : Nat} {key : PromptKey} {content : String}
    (loaded : (history.worldAt instant).service.registry.read
      (World.fileSystem history.locate (history.worldAt instant).files) key = .ok content) :
    history.Had instant key content := by
  rw [World.read_eq] at loaded
  unfold Had versionAt
  cases now : (history.worldAt instant).version history.locate key with
  | none =>
      rw [now] at loaded
      cases loaded
  | some version =>
      rw [now] at loaded
      exact ⟨version, rfl, Except.ok.inj loaded⟩

theorem missing_of_read {instant : Nat} {key : PromptKey} {error : FormeError}
    (failed : (history.worldAt instant).service.registry.read
      (World.fileSystem history.locate (history.worldAt instant).files) key = .error error) :
    history.versionAt instant key = none := by
  rw [World.read_eq] at failed
  unfold versionAt
  cases now : (history.worldAt instant).version history.locate key with
  | none => rfl
  | some version =>
      rw [now] at failed
      cases failed

end Interleaving

end PromptRegistry
end Caulk
