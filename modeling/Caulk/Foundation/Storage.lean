import Mathlib.Logic.Function.Basic
import Mathlib.Data.Finset.Basic

namespace Foundation

/-!
# Hash maps, hash sets and readers-writer locks

Containers of the source language's standard library, as far as single atomic
accesses to them are concerned.  A hash map is its lookup function and a hash
set is a finite set; the order in which a set is iterated is not part of it
and is chosen anew wherever it is used.  A readers-writer lock is its value
and the poison flag that a panic under the write guard would set.
-/

universe u v

/-- A hash map, seen only through `get`. -/
abbrev HashMap (Key : Type u) (Value : Type v) :=
  Key -> Option Value

namespace HashMap

variable {Key : Type u} {Value : Type v}

/-- The map without entries. -/
def empty : HashMap Key Value :=
  fun _ => none

/-- Insert an entry, replacing an earlier one for the same key. -/
def insert [DecidableEq Key] (map : HashMap Key Value) (key : Key) (value : Value) :
    HashMap Key Value :=
  Function.update map key (some value)

/-- Collect entries in order; a later entry for a key replaces an earlier one. -/
def fromIter [DecidableEq Key] (entries : List (Key × Value)) : HashMap Key Value :=
  entries.foldl (fun map entry => map.insert entry.1 entry.2) empty

@[simp] theorem empty_apply (key : Key) : (empty : HashMap Key Value) key = none :=
  rfl

@[simp] theorem insert_same [DecidableEq Key] (map : HashMap Key Value) (key : Key)
    (value : Value) : map.insert key value key = some value := by
  unfold insert
  exact Function.update_self key (some value) map

theorem insert_other [DecidableEq Key] (map : HashMap Key Value) {key other : Key}
    (value : Value) (different : other ≠ key) : map.insert key value other = map other := by
  unfold insert
  exact Function.update_of_ne different (some value) map

/-- An entry found after an insertion is the inserted one or an older one. -/
theorem insert_eq_some [DecidableEq Key] {map : HashMap Key Value} {key other : Key}
    {value found : Value} (entry : map.insert key value other = some found) :
    (other = key ∧ found = value) ∨ map other = some found := by
  by_cases same : other = key
  · subst same
    rw [insert_same] at entry
    exact Or.inl ⟨rfl, (Option.some.inj entry).symm⟩
  · rw [insert_other map value same] at entry
    exact Or.inr entry

theorem fromIter_concat [DecidableEq Key] (front : List (Key × Value)) (last : Key × Value) :
    fromIter (front ++ [last]) = (fromIter front).insert last.1 last.2 := by
  rw [fromIter, List.foldl_append]
  rfl

/-- Where all entries have one value, every key among them has it. -/
theorem fromIter_constant [DecidableEq Key] {entries : List (Key × Value)} {value : Value}
    (same : forall entry, entry ∈ entries -> entry.2 = value) {key : Key}
    (member : key ∈ entries.map Prod.fst) : fromIter entries key = some value := by
  induction entries using List.reverseRecOn with
  | nil => cases member
  | append_singleton front last ih =>
      rw [fromIter_concat]
      by_cases latest : key = last.1
      · rw [latest, insert_same, same last (List.mem_append_right _ (List.mem_singleton_self last))]
      · rw [insert_other _ _ latest]
        rw [List.map_append, List.mem_append] at member
        rcases member with earlier | now
        · exact ih (fun entry inside => same entry (List.mem_append_left _ inside)) earlier
        · exact absurd (List.mem_singleton.mp now) latest

end HashMap

/-- A hash set, seen only through its members. -/
abbrev HashSet (α : Type u) :=
  Finset α

/-- One order in which a hash set may be iterated. -/
structure HashSet.Iteration {α : Type u} (set : HashSet α) where
  elements : List α
  nodup : elements.Nodup
  complete : forall element, element ∈ elements <-> element ∈ set

/-- The error of a lock whose writer panicked. -/
structure PoisonError where
deriving DecidableEq, Repr

instance : ToString PoisonError :=
  ⟨fun _ => "poisoned lock: another task failed inside"⟩

/-- A readers-writer lock between two atomic accesses. -/
structure RwLock (α : Type u) where
  poisoned : Bool
  value : α

namespace RwLock

variable {α : Type u}

/-- A fresh lock is not poisoned. -/
def new (value : α) : RwLock α where
  poisoned := false
  value := value

/-- Take the read guard and copy the value out. -/
def read (lock : RwLock α) : Except PoisonError α :=
  if lock.poisoned then .error {} else .ok lock.value

/-- Take the write guard and change the value under it.  The change itself
does not panic, so the lock keeps its poison flag. -/
def write (lock : RwLock α) (change : α -> α) : Except PoisonError (RwLock α) :=
  if lock.poisoned then .error {} else .ok { lock with value := change lock.value }

/-- The usual `if let Ok(mut guard) = lock.write()`: a poisoned lock is skipped. -/
def writeIfOk (lock : RwLock α) (change : α -> α) : RwLock α :=
  match lock.write change with
  | .ok changed => changed
  | .error _ => lock

@[simp] theorem new_poisoned (value : α) : (new value).poisoned = false :=
  rfl

@[simp] theorem new_value (value : α) : (new value).value = value :=
  rfl

theorem read_of_sound {lock : RwLock α} (sound : lock.poisoned = false) :
    lock.read = .ok lock.value := by
  simp [read, sound]

theorem read_eq_ok {lock : RwLock α} {value : α} (granted : lock.read = .ok value) :
    value = lock.value := by
  unfold read at granted
  split at granted
  · cases granted
  · exact (Except.ok.inj granted).symm

theorem write_of_sound {lock : RwLock α} (change : α -> α) (sound : lock.poisoned = false) :
    lock.write change = .ok { lock with value := change lock.value } := by
  simp [write, sound]

@[simp] theorem writeIfOk_poisoned (lock : RwLock α) (change : α -> α) :
    (lock.writeIfOk change).poisoned = lock.poisoned := by
  cases flag : lock.poisoned <;> simp [writeIfOk, write, flag]

theorem writeIfOk_value (lock : RwLock α) (change : α -> α) :
    (lock.writeIfOk change).value = if lock.poisoned then lock.value else change lock.value := by
  cases flag : lock.poisoned <;> simp [writeIfOk, write, flag]

theorem writeIfOk_of_sound {lock : RwLock α} (change : α -> α) (sound : lock.poisoned = false) :
    (lock.writeIfOk change).value = change lock.value := by
  simp [writeIfOk_value, sound]

end RwLock

/-- Cells shared by reference.  A reference is the number of a cell; cells are
numbered in the order of their allocation and are never reused. -/
structure Arena (α : Type u) where
  cells : Nat -> α
  next : Nat

namespace Arena

variable {α : Type u}

/-- Allocate a cell and return the reference to it. -/
def allocate (arena : Arena α) (value : α) : Nat × Arena α :=
  (arena.next, { cells := Function.update arena.cells arena.next value, next := arena.next + 1 })

/-- Overwrite the cell behind a reference. -/
def put (arena : Arena α) (reference : Nat) (value : α) : Arena α :=
  { arena with cells := Function.update arena.cells reference value }

theorem allocate_fresh (arena : Arena α) (value : α) :
    (arena.allocate value).2.cells arena.next = value := by
  unfold allocate
  exact Function.update_self arena.next value arena.cells

theorem allocate_other (arena : Arena α) (value : α) {reference : Nat}
    (allocated : reference < arena.next) :
    (arena.allocate value).2.cells reference = arena.cells reference := by
  unfold allocate
  exact Function.update_of_ne (Nat.ne_of_lt allocated) value arena.cells

theorem put_same (arena : Arena α) (reference : Nat) (value : α) :
    (arena.put reference value).cells reference = value := by
  unfold put
  exact Function.update_self reference value arena.cells

theorem put_other (arena : Arena α) {reference other : Nat} (value : α)
    (different : other ≠ reference) : (arena.put reference value).cells other = arena.cells other := by
  unfold put
  exact Function.update_of_ne different value arena.cells

/-- A property of all cells survives an allocation with it. -/
theorem allocate_all {arena : Arena α} (holds : α -> Prop)
    (every : forall reference, holds (arena.cells reference)) {value : α} (new : holds value)
    (reference : Nat) : holds ((arena.allocate value).2.cells reference) := by
  by_cases fresh : reference = arena.next
  · rw [fresh, allocate_fresh]
    exact new
  · have same : (arena.allocate value).2.cells reference = arena.cells reference := by
      unfold allocate
      exact Function.update_of_ne fresh value arena.cells
    rw [same]
    exact every reference

/-- And an overwriting with it. -/
theorem put_all {arena : Arena α} (holds : α -> Prop)
    (every : forall reference, holds (arena.cells reference)) {value : α} (new : holds value)
    (written reference : Nat) : holds ((arena.put written value).cells reference) := by
  by_cases here : reference = written
  · rw [here, put_same]
    exact new
  · rw [put_other arena value here]
    exact every reference

end Arena

end Foundation
