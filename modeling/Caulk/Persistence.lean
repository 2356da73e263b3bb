import Caulk.Core
import Caulk.Foundation.Storage

namespace Caulk
namespace Persistence

open Caulk.Core
open Foundation

/-!
# Checkpointers

A checkpointer holds a single state.  The in-memory one keeps it behind a
shared reference, and cloning the checkpointer copies the reference.  The
memory that the references point into is explicit here: it is an arena of
locks, and every function that allocates or writes returns it.
-/

/-- Durable checkpoint for one state, over some memory. -/
class Checkpointer (C Memory S : Type) where
  save : C -> Memory -> S -> Except FormeError Unit × Memory
  load : C -> Memory -> Except FormeError (Option S)

/-- The locks that the in-memory checkpointers for `S` point to. -/
abbrev Memory (S : Type) :=
  Arena (RwLock (Option S))

/-- In-memory single-slot checkpointer: a shared reference to a lock. -/
structure InMemoryCheckpointer where
  inner : Nat
deriving DecidableEq, Repr

namespace InMemoryCheckpointer

variable {S : Type}

/-- Empty checkpoint. -/
def new (memory : Memory S) : InMemoryCheckpointer × Memory S :=
  let (reference, memory) := memory.allocate (RwLock.new none)
  (⟨reference⟩, memory)

/-- Pre-seeded checkpoint. -/
def withState (memory : Memory S) (state : S) : InMemoryCheckpointer × Memory S :=
  let (reference, memory) := memory.allocate (RwLock.new (some state))
  (⟨reference⟩, memory)

def default (memory : Memory S) : InMemoryCheckpointer × Memory S :=
  new memory

/-- Clone the reference, not the state. -/
def clone (checkpointer : InMemoryCheckpointer) : InMemoryCheckpointer :=
  ⟨checkpointer.inner⟩

def save (checkpointer : InMemoryCheckpointer) (memory : Memory S) (state : S) :
    Except FormeError Unit × Memory S :=
  match (memory.cells checkpointer.inner).write (fun _ => some state) with
  | .ok changed => (.ok (), memory.put checkpointer.inner changed)
  | .error error =>
      (.error (.persistenceFailed ("RwLock poisoned on write: " ++ toString error)), memory)

def load (checkpointer : InMemoryCheckpointer) (memory : Memory S) :
    Except FormeError (Option S) :=
  match (memory.cells checkpointer.inner).read with
  | .ok state => .ok state
  | .error error => .error (.persistenceFailed ("RwLock poisoned on read: " ++ toString error))

instance : Checkpointer InMemoryCheckpointer (Memory S) S where
  save := save
  load := load

/-- On a sound lock `load` returns what the lock holds. -/
theorem load_of_sound {checkpointer : InMemoryCheckpointer} {memory : Memory S}
    (sound : (memory.cells checkpointer.inner).poisoned = false) :
    checkpointer.load memory = .ok (memory.cells checkpointer.inner).value := by
  simp only [load, RwLock.read_of_sound sound]

/-- On a sound lock `save` succeeds and changes that lock only. -/
theorem save_of_sound {checkpointer : InMemoryCheckpointer} {memory : Memory S} (state : S)
    (sound : (memory.cells checkpointer.inner).poisoned = false) :
    checkpointer.save memory state =
      (.ok (), memory.put checkpointer.inner
        { memory.cells checkpointer.inner with value := some state }) := by
  simp only [save, RwLock.write_of_sound _ sound]

end InMemoryCheckpointer

end Persistence
end Caulk
