import Caulk.Core
import Caulk.Foundation.Storage
import Caulk.Foundation.LexicalPath

namespace Caulk
namespace PromptRegistry

open Caulk.Core
open Foundation

/-!
# Prompt registries

The trait, the filesystem registry with its cache, and the in-memory map.

`FsRegistry::get` makes two system calls and two accesses to a shared cache.
Each of the four is atomic and nothing holds between them, so each is a
function of its own here: `stat`, `lookup`, `read` and `insert`.  The
sequential `get` composes them; concurrent calls interleave the very same
functions.  The operating system enters only as its answers to the two calls
at one instant.
-/

/-! ## The source's view of the operating system -/

/-- A Unix path text. -/
abbrev PathBuf := String

/-- `Path::join` on Unix. -/
def PathBuf.join (base path : PathBuf) : PathBuf :=
  String.ofList (LexicalPath.join base.toList path.toList)

/-- Nanoseconds relative to the Unix epoch. -/
abbrev SystemTime := Int

def unixEpoch : SystemTime := 0

/-- The only distinction among I/O errors that the registry makes. -/
inductive ErrorKind where
  | notFound
  | other
deriving DecidableEq, Repr

structure IoError where
  kind : ErrorKind
  message : String
deriving DecidableEq, Repr

def IoError.noSuchFile : IoError where
  kind := .notFound
  message := "No such file or directory (os error 2)"

/-- The part of a file's metadata that the registry reads. -/
structure Metadata where
  modified : Except IoError SystemTime

/-- The answers of the operating system at one instant. -/
structure FileSystem where
  metadata : PathBuf -> Except IoError Metadata
  readToString : PathBuf -> Except IoError String

/-! ## The trait and the in-memory registry -/

/-- Pluggable prompt source.  A value of `R` is a registry at the instant of
one call, so a stateful registry is covered by its successive values. -/
class Registry (R : Type) where
  get : R -> PromptKey -> Except FormeError String

structure InMemoryRegistry where
  prompts : HashMap PromptKey String

namespace InMemoryRegistry

def new (map : HashMap PromptKey String) : InMemoryRegistry :=
  ⟨map⟩

/-- Alias of `new`. -/
def fromMap (map : HashMap PromptKey String) : InMemoryRegistry :=
  new map

def fromIter (entries : List (PromptKey × String)) : InMemoryRegistry :=
  ⟨HashMap.fromIter entries⟩

def get (registry : InMemoryRegistry) (key : PromptKey) : Except FormeError String :=
  match registry.prompts key with
  | some prompt => .ok prompt
  | none => .error (.registryNotFound key)

instance : Registry InMemoryRegistry := ⟨get⟩

end InMemoryRegistry

/-! ## The filesystem registry -/

/-- Cached contents with the modification time seen before they were read. -/
abbrev PromptCache := HashMap PromptKey (String × SystemTime)

structure FsRegistry where
  root : PathBuf
  cache : RwLock PromptCache

namespace FsRegistry

def new (root : PathBuf) : FsRegistry where
  root := root
  cache := RwLock.new HashMap.empty

/-- `root.join(state).join("{event}.md")`. -/
def pathForKey (registry : FsRegistry) (key : PromptKey) : PathBuf :=
  (registry.root.join key.state).join (key.event ++ ".md")

def resolvePath (registry : FsRegistry) (key : PromptKey) : PathBuf :=
  registry.pathForKey key

/-- Empty the cache.  A poisoned lock is silently left alone. -/
def clearCache (registry : FsRegistry) : FsRegistry :=
  { registry with cache := registry.cache.writeIfOk (fun _ => HashMap.empty) }

/-- Both system calls turn their errors into the registry's in the same way. -/
def ioFailure (verb : String) (path : PathBuf) (key : PromptKey) (error : IoError) : FormeError :=
  match error.kind with
  | .notFound => .registryNotFound key
  | .other => .persistenceFailed ("failed to " ++ verb ++ " " ++ path ++ ": " ++ error.message)

/-- First step of `get`: the modification time, read before the content. -/
def stat (registry : FsRegistry) (files : FileSystem) (key : PromptKey) :
    Except FormeError SystemTime :=
  match files.metadata (registry.resolvePath key) with
  | .ok metadata => .ok (metadata.modified.toOption.getD unixEpoch)
  | .error error => .error (ioFailure "stat" (registry.resolvePath key) key error)

/-- Second step: the cached content, if its time is the one just seen. -/
def lookup (registry : FsRegistry) (key : PromptKey) (mtime : SystemTime) : Option String :=
  match registry.cache.read with
  | .error _ => none
  | .ok cache =>
      match cache key with
      | none => none
      | some (content, cachedTime) => if cachedTime = mtime then some content else none

/-- Third step: the content of the file as it is now. -/
def read (registry : FsRegistry) (files : FileSystem) (key : PromptKey) :
    Except FormeError String :=
  match files.readToString (registry.resolvePath key) with
  | .ok content => .ok content
  | .error error => .error (ioFailure "read" (registry.resolvePath key) key error)

/-- Fourth step: cache the content under the time of the first step. -/
def insert (registry : FsRegistry) (key : PromptKey) (content : String) (mtime : SystemTime) :
    FsRegistry :=
  { registry with cache := registry.cache.writeIfOk (fun cache => cache.insert key (content, mtime)) }

/-- `get` run without interruption, with the registry it leaves behind. -/
def get (registry : FsRegistry) (files : FileSystem) (key : PromptKey) :
    Except FormeError String × FsRegistry :=
  match registry.stat files key with
  | .error error => (.error error, registry)
  | .ok mtime =>
      match registry.lookup key mtime with
      | some content => (.ok content, registry)
      | none =>
          match registry.read files key with
          | .error error => (.error error, registry)
          | .ok content => (.ok content, registry.insert key content mtime)

/-- The registry together with the files it would find in one call. -/
structure Snapshot where
  registry : FsRegistry
  files : FileSystem

instance : Registry Snapshot :=
  ⟨fun snapshot key => (snapshot.registry.get snapshot.files key).1⟩

/-! ## What each step leaves alone -/

@[simp] theorem clearCache_root (registry : FsRegistry) : registry.clearCache.root = registry.root :=
  rfl

@[simp] theorem insert_root (registry : FsRegistry) (key : PromptKey) (content : String)
    (mtime : SystemTime) : (registry.insert key content mtime).root = registry.root :=
  rfl

@[simp] theorem clearCache_poisoned (registry : FsRegistry) :
    registry.clearCache.cache.poisoned = registry.cache.poisoned :=
  RwLock.writeIfOk_poisoned _ _

@[simp] theorem insert_poisoned (registry : FsRegistry) (key : PromptKey) (content : String)
    (mtime : SystemTime) :
    (registry.insert key content mtime).cache.poisoned = registry.cache.poisoned :=
  RwLock.writeIfOk_poisoned _ _

/-- Only the root decides where a key is looked for. -/
theorem resolvePath_congr {registry other : FsRegistry} (same : registry.root = other.root)
    (key : PromptKey) : registry.resolvePath key = other.resolvePath key := by
  simp only [resolvePath, pathForKey, same]

/-- A hit is an entry whose recorded time is the time just seen. -/
theorem lookup_eq_some {registry : FsRegistry} {key : PromptKey} {mtime : SystemTime}
    {content : String} (hit : registry.lookup key mtime = some content) :
    registry.cache.value key = some (content, mtime) := by
  unfold lookup at hit
  cases guard : registry.cache.read with
  | error poison =>
      rw [guard] at hit
      cases hit
  | ok cache =>
      rw [guard] at hit
      have seen : cache = registry.cache.value := RwLock.read_eq_ok guard
      subst seen
      cases entry : registry.cache.value key with
      | none => simp [entry] at hit
      | some pair =>
          rcases pair with ⟨cached, cachedTime⟩
          simp only [entry] at hit
          split at hit
          · rename_i sameTime
            rw [sameTime, Option.some.inj hit]
          · cases hit

/-- On a sound lock an entry with the time just seen is a hit. -/
theorem lookup_of_entry {registry : FsRegistry} {key : PromptKey} {mtime : SystemTime}
    {content : String} (sound : registry.cache.poisoned = false)
    (entry : registry.cache.value key = some (content, mtime)) :
    registry.lookup key mtime = some content := by
  simp only [lookup, RwLock.read_of_sound sound, entry, if_true]

/-- An entry found after an insertion is the inserted one or an older one. -/
theorem insert_entry {registry : FsRegistry} {key other : PromptKey} {content found : String}
    {mtime foundTime : SystemTime}
    (entry : (registry.insert key content mtime).cache.value other = some (found, foundTime)) :
    (other = key ∧ found = content ∧ foundTime = mtime) ∨
      registry.cache.value other = some (found, foundTime) := by
  simp only [insert, RwLock.writeIfOk_value] at entry
  split at entry
  · exact Or.inr entry
  · rcases HashMap.insert_eq_some entry with ⟨sameKey, sameEntry⟩ | older
    · exact Or.inl ⟨sameKey, (Prod.mk.inj sameEntry).1, (Prod.mk.inj sameEntry).2⟩
    · exact Or.inr older

/-- An insertion is visible on a sound lock. -/
theorem insert_entry_same {registry : FsRegistry} (key : PromptKey) (content : String)
    (mtime : SystemTime) (sound : registry.cache.poisoned = false) :
    (registry.insert key content mtime).cache.value key = some (content, mtime) := by
  simp only [insert, RwLock.writeIfOk_of_sound _ sound, HashMap.insert_same]

/-- After clearing, entries remain only behind a poisoned lock. -/
theorem clearCache_empty {registry : FsRegistry} (sound : registry.cache.poisoned = false)
    (key : PromptKey) : registry.clearCache.cache.value key = none := by
  simp only [clearCache, RwLock.writeIfOk_of_sound _ sound, HashMap.empty_apply]

/-- Clearing never adds an entry. -/
theorem clearCache_entry {registry : FsRegistry} {key : PromptKey} {entry : String × SystemTime}
    (left : registry.clearCache.cache.value key = some entry) :
    registry.cache.value key = some entry := by
  simp only [clearCache, RwLock.writeIfOk_value] at left
  split at left
  · exact left
  · cases left

end FsRegistry

end PromptRegistry
end Caulk
