import Caulk.PromptRegistry.Calls
import Caulk.PromptRegistry.Confinement
import Caulk.Foundation.FileTree

namespace Caulk
namespace PromptRegistry

open Caulk.Core
open Foundation
open Foundation.LexicalPath (Name IsAbsolute Ordinary names resolveFrom)

/-!
# When the two registries can replace each other

The in-memory registry looks a key up as a pair of texts.  The filesystem
registry flattens the pair to a path and remembers what it has read.  The
memory is invisible while the files stay as they are: a call finds in the
cache what it would read anyway.  The flattening is visible, because
different keys may have paths to one file; the registries agree on the stored
keys and on the keys at whose path there is nothing.  Plain keys, which name
one directory and one file in it, never alias each other, and for them the
registries agree altogether.
-/

/-! ## A cache over unchanging files -/

section Unchanging

variable (files : FileSystem) (root : PathBuf)

/-- Calls on a fresh registry while the files stay as they are. -/
def unchanging (actions : List Action) : Timeline Service Action where
  step := Service.act files
  start := Service.new root
  events := actions

/-- Everything cached, or about to be, is what a read would give now. -/
structure Current (service : Service) : Prop where
  sameRoot : service.registry.root = root
  entries : forall key content mtime, service.registry.cache.value key = some (content, mtime) ->
    files.readToString ((FsRegistry.new root).resolvePath key) = .ok content
  calls : forall id key mtime content, service.calls id = .inserting key mtime content ->
    files.readToString ((FsRegistry.new root).resolvePath key) = .ok content

variable {files root}

theorem readToString_of_read {registry : FsRegistry} {key : PromptKey} {content : String}
    (loaded : registry.read files key = .ok content) :
    files.readToString (registry.resolvePath key) = .ok content := by
  unfold FsRegistry.read at loaded
  cases answer : files.readToString (registry.resolvePath key) with
  | error error =>
      rw [answer] at loaded
      cases loaded
  | ok found =>
      rw [answer] at loaded
      rw [Except.ok.inj loaded]

theorem Current.path {service : Service} (current : Current files root service) (key : PromptKey) :
    service.registry.resolvePath key = (FsRegistry.new root).resolvePath key :=
  FsRegistry.resolvePath_congr current.sameRoot key

/-- One atomic step keeps the cache current. -/
private theorem current_act {service : Service} (action : Action)
    (current : Current files root service) : Current files root (service.act files action) := by
  constructor
  · rw [Service.act_root]
    exact current.sameRoot
  · intro key content mtime entry
    rcases Service.act_entry entry with older | ⟨id, _, ready⟩
    · exact current.entries key content mtime older
    · exact current.calls id key mtime content ready
  · intro id key mtime content ready
    rcases Service.act_calls files service action id with same | moves
    · rw [same] at ready
      exact current.calls id key mtime content ready
    · rw [ready] at moves
      generalize service.calls id = before at moves
      cases moves with
      | read loaded =>
          rw [← current.path]
          exact readToString_of_read loaded

theorem current_unchanging (files : FileSystem) (root : PathBuf) (actions : List Action) (instant : Nat) :
    Current files root ((unchanging files root actions).stateAt instant) := by
  apply Timeline.invariant _ (Current files root)
  · constructor
    · rfl
    · intro key content mtime entry
      cases entry
    · intro id key mtime content ready
      cases ready
  · intro service action current
    exact current_act action current

/-- A call on a used registry returns what it would return on a fresh one. -/
theorem Current.get_eq {service : Service} (current : Current files root service)
    (key : PromptKey) :
    (service.registry.get files key).1 = ((FsRegistry.new root).get files key).1 := by
  have samePath := current.path key
  have sameStat : service.registry.stat files key = (FsRegistry.new root).stat files key := by
    simp only [FsRegistry.stat, samePath]
  have sameRead : service.registry.read files key = (FsRegistry.new root).read files key := by
    simp only [FsRegistry.read, samePath]
  have miss : forall mtime, (FsRegistry.new root).lookup key mtime = none := fun _ => rfl
  unfold FsRegistry.get
  rw [sameStat]
  cases (FsRegistry.new root).stat files key with
  | error error => rfl
  | ok mtime =>
      simp only [sameRead, miss]
      cases found : service.registry.lookup key mtime with
      | none =>
          cases (FsRegistry.new root).read files key <;> rfl
      | some content =>
          have reads := current.entries key content mtime (FsRegistry.lookup_eq_some found)
          simp only [FsRegistry.read, reads]

end Unchanging

/-! ## The registries over one disk -/

/-- A file system at rest, seen by a process.  The operating system may refuse
some paths for reasons of its own, such as a name that is too long. -/
structure Disk where
  tree : FileTree SystemTime String
  workingDirectory : List Name
  refusal : PathBuf -> Option String

namespace Disk

def notADirectory : IoError where
  kind := .other
  message := "Not a directory (os error 20)"

def isADirectory : IoError where
  kind := .other
  message := "Is a directory (os error 21)"

/-- Where the lookup of a path starts. -/
def startOf (disk : Disk) (path : PathBuf) : List Name :=
  if IsAbsolute path.toList then [] else disk.workingDirectory

/-- The place that a path names. -/
def placeOf (disk : Disk) (path : PathBuf) : List Name :=
  resolveFrom (disk.startOf path) (names path.toList)

/-- Follow the names of a path from where it starts. -/
def follow (disk : Disk) (path : PathBuf) : Except LookupError (Node SystemTime String) :=
  disk.tree.findFrom (disk.startOf path) (names path.toList)

/-- What a path that is not empty leads to. -/
def find (disk : Disk) (path : PathBuf) : Except IoError (Node SystemTime String) :=
  match disk.refusal path with
  | some message => .error { kind := .other, message := message }
  | none =>
      match disk.follow path with
      | .ok node => .ok node
      | .error .missing => .error IoError.noSuchFile
      | .error .notADirectory => .error notADirectory

def fileSystem (disk : Disk) : FileSystem where
  metadata path :=
    match disk.find path with
    | .ok (.file stamp _) => .ok { modified := .ok stamp }
    | .ok (.directory stamp) => .ok { modified := .ok stamp }
    | .error error => .error error
  readToString path :=
    match disk.find path with
    | .ok (.file _ data) => .ok data
    | .ok (.directory _) => .error isADirectory
    | .error error => .error error

/-- Only a missing file is "not found". -/
theorem find_error_kind {disk : Disk} {path : PathBuf} {error : IoError}
    (failed : disk.find path = .error error) : error = IoError.noSuchFile ∨ error.kind = .other := by
  unfold find at failed
  cases refused : disk.refusal path with
  | some message =>
      rw [refused] at failed
      rw [← Except.error.inj failed]
      exact Or.inr rfl
  | none =>
      rw [refused] at failed
      cases found : disk.follow path with
      | ok node =>
          rw [found] at failed
          cases failed
      | error reason =>
          rw [found] at failed
          cases reason with
          | missing => exact Or.inl (Except.error.inj failed).symm
          | notADirectory =>
              rw [← Except.error.inj failed]
              exact Or.inr rfl

end Disk

section Registries

variable (disk : Disk) (root : PathBuf)

/-- The path of a key in a registry with this root. -/
def pathOf (root : PathBuf) (key : PromptKey) : PathBuf :=
  (FsRegistry.new root).resolvePath key

/-- The disk holds exactly the prompts: each is the content of the file at its
key's path, and below the root there is no other file, and no directory except
on the way to a file.  The root itself need not exist. -/
structure Holds (prompts : HashMap PromptKey String) : Prop where
  top : disk.follow root = .error .missing ∨ ∃ stamp, disk.follow root = .ok (.directory stamp)
  stored : forall key content, prompts key = some content ->
    ∃ stamp, disk.find (pathOf root key) = .ok (.file stamp content)
  files : forall below, disk.tree.IsFile (disk.placeOf root ++ below) ->
    ∃ key, (prompts key).isSome ∧ disk.placeOf (pathOf root key) = disk.placeOf root ++ below
  directories : forall below, below ≠ [] -> disk.tree.IsDirectory (disk.placeOf root ++ below) ->
    ∃ further, further ≠ [] ∧ disk.tree.IsFile (disk.placeOf root ++ below ++ further)

variable {disk root}

/-- A call on a fresh registry, by what its key's path leads to. -/
theorem fresh_get (key : PromptKey) :
    ((FsRegistry.new root).get disk.fileSystem key).1 =
      match disk.find (pathOf root key) with
      | .ok (.file _ data) => .ok data
      | .ok (.directory _) => .error (FsRegistry.ioFailure "read" (pathOf root key) key Disk.isADirectory)
      | .error error => .error (FsRegistry.ioFailure "stat" (pathOf root key) key error) := by
  have miss : forall mtime, (FsRegistry.new root).lookup key mtime = none := fun _ => rfl
  simp only [FsRegistry.get, FsRegistry.stat, FsRegistry.read, Disk.fileSystem, miss, pathOf]
  cases disk.find ((FsRegistry.new root).resolvePath key) with
  | error error => rfl
  | ok node =>
      cases node <;> rfl

/-- A fresh registry reports a key as not found exactly when nothing is at its
path. -/
theorem fresh_get_notFound_iff (key : PromptKey) :
    ((FsRegistry.new root).get disk.fileSystem key).1 = .error (.registryNotFound key) <->
    disk.find (pathOf root key) = .error IoError.noSuchFile := by
  rw [fresh_get]
  cases found : disk.find (pathOf root key) with
  | ok node =>
      cases node with
      | file stamp data =>
          constructor <;> intro impossible <;> cases impossible
      | directory stamp =>
          constructor <;> intro impossible <;> cases impossible
  | error error =>
      rcases Disk.find_error_kind found with missing | other
      · subst missing
        exact ⟨fun _ => rfl, fun _ => rfl⟩
      · simp only [FsRegistry.ioFailure, other]
        constructor
        · intro impossible
          cases impossible
        · intro missing
          rw [Except.error.inj missing] at other
          cases other

/-- A fresh registry agrees with the map on the stored keys and on the keys at
whose path there is nothing, and on no others. -/
theorem fresh_agrees_iff {prompts : HashMap PromptKey String} (holds : Holds disk root prompts)
    (key : PromptKey) :
    ((FsRegistry.new root).get disk.fileSystem key).1 = (InMemoryRegistry.new prompts).get key <->
    (prompts key).isSome ∨ disk.find (pathOf root key) = .error IoError.noSuchFile := by
  cases stored : prompts key with
  | none =>
      simp only [InMemoryRegistry.get, InMemoryRegistry.new, stored, Option.isSome_none,
        Bool.false_eq_true, false_or]
      exact fresh_get_notFound_iff key
  | some content =>
      rcases holds.stored key content stored with ⟨stamp, found⟩
      simp only [InMemoryRegistry.get, InMemoryRegistry.new, stored, Option.isSome_some, true_or,
        iff_true]
      rw [fresh_get, found]

/-! ## Plain keys -/

theorem PlainKey.startOf_eq {key : PromptKey} (plain : PlainKey key) (disk : Disk) (root : PathBuf) :
    disk.startOf (pathOf root key) = disk.startOf root := by
  simp only [Disk.startOf, pathOf, FsRegistry.new, plain.path_absolute_iff]

/-- The place of a plain key is its two names below the root. -/
theorem PlainKey.placeOf_eq {key : PromptKey} (plain : PlainKey key) (disk : Disk) (root : PathBuf) :
    disk.placeOf (pathOf root key) =
      disk.placeOf root ++ [key.state.toList, (eventFile key).toList] := by
  rw [Disk.placeOf, plain.startOf_eq disk root, pathOf, FsRegistry.new, plain.path_names,
    LexicalPath.resolveFrom_append]
  exact LexicalPath.resolveFrom_of_no_parent _ plain.parent_not_mem

/-- A lookup of a plain key passes the root first. -/
theorem PlainKey.follow_eq {key : PromptKey} (plain : PlainKey key) (disk : Disk) (root : PathBuf) :
    disk.follow (pathOf root key) = disk.tree.findFrom (disk.startOf root)
      (names root.toList ++ [key.state.toList, (eventFile key).toList]) := by
  rw [Disk.follow, plain.startOf_eq disk root, pathOf, FsRegistry.new, plain.path_names]

/-- A disk of plain prompts has a file only at the path of a stored key. -/
private theorem plain_file {prompts : HashMap PromptKey String} (holds : Holds disk root prompts)
    (plain : forall key, (prompts key).isSome -> PlainKey key) {below : List Name}
    (file : disk.tree.IsFile (disk.placeOf root ++ below)) :
    ∃ key, (prompts key).isSome ∧ below = [key.state.toList, (eventFile key).toList] := by
  rcases holds.files below file with ⟨key, stored, located⟩
  rw [(plain key stored).placeOf_eq disk root] at located
  exact ⟨key, stored, (List.append_cancel_left located).symm⟩

/-- Nothing is at the place of a plain key that is not stored. -/
private theorem plain_absent {prompts : HashMap PromptKey String} (holds : Holds disk root prompts)
    (plain : forall key, (prompts key).isSome -> PlainKey key) {key : PromptKey}
    (notStored : prompts key = none) :
    disk.tree.node (disk.placeOf root ++ [key.state.toList, (eventFile key).toList]) = none := by
  cases found : disk.tree.node (disk.placeOf root ++ [key.state.toList, (eventFile key).toList]) with
  | none => rfl
  | some node =>
      exfalso
      cases node with
      | file stamp data =>
          rcases plain_file holds plain ⟨stamp, data, found⟩ with ⟨other, stored, same⟩
          rw [← PlainKey.path_injective same, notStored] at stored
          cases stored
      | directory stamp =>
          -- some file would have to lie further down than any plain key leads
          rcases holds.directories _ (List.cons_ne_nil _ _) ⟨stamp, found⟩ with
            ⟨further, nonempty, file⟩
          rw [List.append_assoc] at file
          rcases plain_file holds plain file with ⟨other, _, long⟩
          have lengths := congrArg List.length long
          simp only [List.length_append, List.length_cons, List.length_nil] at lengths
          exact nonempty (List.eq_nil_of_length_eq_zero (by omega))

/-- The operating system does not find a plain key that is not stored. -/
theorem plain_missing {prompts : HashMap PromptKey String} (holds : Holds disk root prompts)
    (plain : forall key, (prompts key).isSome -> PlainKey key) {key : PromptKey}
    (plainKey : PlainKey key) (notStored : prompts key = none)
    (accepted : disk.refusal (pathOf root key) = none) :
    disk.find (pathOf root key) = .error IoError.noSuchFile := by
  have missing : disk.follow (pathOf root key) = .error .missing := by
    rw [plainKey.follow_eq disk root]
    rcases holds.top with noRoot | ⟨stamp, top⟩
    · exact FileTree.findFrom_append_missing noRoot _
    · rw [(FileTree.findFrom_append top _).2]
      have directory : disk.tree.IsDirectory (disk.placeOf root) :=
        ⟨stamp, (FileTree.findFrom_append top []).1⟩
      have noFile : ¬ disk.tree.IsFile (disk.placeOf root ++ [key.state.toList]) := by
        intro file
        rcases plain_file holds plain file with ⟨other, _, short⟩
        have lengths := congrArg List.length short
        simp at lengths
      have absent : disk.tree.node
          (disk.placeOf root ++ [key.state.toList] ++ [(eventFile key).toList]) = none := by
        rw [List.append_assoc]
        exact plain_absent holds plain notStored
      exact FileTree.findFrom_two_missing directory plainKey.state.notParent
        plainKey.eventFile_ordinary.notParent noFile absent
  simp only [Disk.find, accepted, missing]

/-- Over a disk that holds exactly a map of prompts, and after any steps of any
calls, the filesystem registry agrees with the map on a key if and only if the
key is stored or there is nothing at its path.  If the stored keys are plain,
it agrees on every plain key whose path the operating system accepts. -/
theorem registries_agree_iff_stored_or_missing (prompts : HashMap PromptKey String)
    (holds : Holds disk root prompts) (actions : List Action) (instant : Nat) :
    let service := (unchanging disk.fileSystem root actions).stateAt instant
    let agree := fun key => (service.registry.get disk.fileSystem key).1 =
      (InMemoryRegistry.new prompts).get key
    (forall key, agree key <->
      (prompts key).isSome ∨ disk.find (pathOf root key) = .error IoError.noSuchFile) ∧
    ((forall key, (prompts key).isSome -> PlainKey key) ->
      forall key, PlainKey key -> disk.refusal (pathOf root key) = none -> agree key) := by
  intro service agree
  have agrees_iff : forall key, agree key <->
      (prompts key).isSome ∨ disk.find (pathOf root key) = .error IoError.noSuchFile := by
    intro key
    have sameGet := (current_unchanging disk.fileSystem root actions instant).get_eq key
    show (service.registry.get disk.fileSystem key).1 = _ <-> _
    rw [sameGet]
    exact fresh_agrees_iff holds key
  refine ⟨agrees_iff, ?_⟩
  intro plain key plainKey accepted
  rw [agrees_iff]
  cases stored : prompts key with
  | some content => exact Or.inl rfl
  | none => exact Or.inr (plain_missing holds plain plainKey stored accepted)

end Registries

/-! ## One stored prompt -/

/-- A relative root. -/
def greetingRoot : PathBuf :=
  "prompts"

/-- A disk with the prompt `hello` for the state `a` and the event `b`. -/
def greetingDisk : Disk where
  tree := FileTree.single ["srv".toList, "prompts".toList, "a".toList] "b.md".toList 1 "hello"
  workingDirectory := ["srv".toList]
  refusal := fun _ => none

def greetings : HashMap PromptKey String :=
  HashMap.fromIter [(⟨"a", "b"⟩, "hello")]

theorem greetings_eq_some {key : PromptKey} {content : String}
    (stored : greetings key = some content) : key = ⟨"a", "b"⟩ ∧ content = "hello" := by
  rcases HashMap.insert_eq_some stored with ⟨sameKey, sameContent⟩ | older
  · exact ⟨sameKey, sameContent⟩
  · cases older

theorem greetingDisk_holds : Holds greetingDisk greetingRoot greetings := by
  constructor
  · exact Or.inr ⟨1, rfl⟩
  · intro key content stored
    rcases greetings_eq_some stored with ⟨sameKey, sameContent⟩
    subst sameKey sameContent
    exact ⟨1, rfl⟩
  · intro below file
    refine ⟨⟨"a", "b"⟩, rfl, ?_⟩
    rw [FileTree.single_isFile file]
    decide
  · intro below nonempty directory
    have inside : greetingDisk.placeOf greetingRoot ++ below <+:
        greetingDisk.placeOf greetingRoot ++ ["a".toList] :=
      FileTree.single_isDirectory directory
    rcases (List.prefix_append_right_inj _).mp inside with ⟨rest, split⟩
    have whole : below = ["a".toList] := by
      cases below with
      | nil => exact absurd rfl nonempty
      | cons first others =>
          rcases List.append_eq_nil_iff.mp (List.cons.inj split).2 with ⟨empty, _⟩
          rw [(List.cons.inj split).1, empty]
    rw [whole]
    exact ⟨["b.md".toList], List.cons_ne_nil _ _, FileTree.single_file⟩

theorem greetings_plain : forall key, (greetings key).isSome -> PlainKey key := by
  intro key stored
  rcases Option.isSome_iff_exists.mp stored with ⟨content, found⟩
  rw [(greetings_eq_some found).1]
  exact ⟨⟨by decide, by decide, by decide, by decide⟩, by decide⟩

/-- After a call that finds the prompt, the two registries agree on a plain
key that is not stored. -/
theorem greetings_agree_on_plain_key :
    (((unchanging greetingDisk.fileSystem greetingRoot
        (Service.callSteps 0 ⟨"a", "b"⟩)).stateAt 4).registry.get greetingDisk.fileSystem
          ⟨"Idle", "c"⟩).1 =
      (InMemoryRegistry.new greetings).get ⟨"Idle", "c"⟩ :=
  (registries_agree_iff_stored_or_missing greetings greetingDisk_holds
    (Service.callSteps 0 ⟨"a", "b"⟩) 4).2 greetings_plain ⟨"Idle", "c"⟩
    ⟨⟨by decide, by decide, by decide, by decide⟩, by decide⟩ rfl

/-- The empty state and the event `a/b` are a key that nobody stored.  Its
path leads to the stored prompt all the same. -/
theorem greetings_differ_on_alias :
    Holds greetingDisk greetingRoot greetings ∧
    ((FsRegistry.new greetingRoot).get greetingDisk.fileSystem ⟨"", "a/b"⟩).1 = .ok "hello" ∧
    (InMemoryRegistry.new greetings).get ⟨"", "a/b"⟩ = .error (.registryNotFound ⟨"", "a/b"⟩) :=
  ⟨greetingDisk_holds, rfl, rfl⟩

end PromptRegistry
end Caulk
