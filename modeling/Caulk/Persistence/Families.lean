import Caulk.Persistence
import Caulk.Foundation.Timeline
import Mathlib.Logic.Relation

namespace Caulk
namespace Persistence

open Caulk.Core
open Foundation

/-!
# Clone families and their last value

A program creates checkpointers, clones them, and saves and loads through any
of them.  It never sees a reference; what it knows is which handle it cloned
from which.  Handles connected by clones are one family.

The result is that a family behaves as one variable of its own: a load returns
what was last saved through any member, or the seed the family was founded
with.  It rests on one fact about references: two handles point to the same
lock exactly when they are of one family.
-/

/-- The operations on handles.  A handle is named by its number in the order
of creation. -/
inductive Operation (S : Type) where
  | new
  | default
  | withState (state : S)
  | clone (handle : Nat)
  | save (handle : Nat) (state : S)
  | load (handle : Nat)

namespace Operation

variable {S : Type}

/-- The existing handle that an operation uses. -/
def uses : Operation S -> Option Nat
  | new | default | withState _ => none
  | clone handle | save handle _ | load handle => some handle

/-- The seed with which an operation founds a family. -/
def founds : Operation S -> Option (Option S)
  | new | default => some none
  | withState state => some (some state)
  | clone _ | save _ _ | load _ => none

end Operation

/-- The memory and the handles created so far. -/
structure Program (S : Type) where
  memory : Memory S
  handles : List InMemoryCheckpointer

namespace Program

variable {S : Type}

def start : Program S where
  memory := { cells := fun _ => RwLock.new none, next := 0 }
  handles := []

/-- Keep a created checkpointer under the next number. -/
def adopt (program : Program S) (created : InMemoryCheckpointer × Memory S) : Program S where
  memory := created.2
  handles := program.handles ++ [created.1]

def step (program : Program S) : Operation S -> Program S
  | .new => program.adopt (InMemoryCheckpointer.new program.memory)
  | .default => program.adopt (InMemoryCheckpointer.default program.memory)
  | .withState state => program.adopt (InMemoryCheckpointer.withState program.memory state)
  | .clone handle =>
      match program.handles[handle]? with
      | some checkpointer => program.adopt (checkpointer.clone, program.memory)
      | none => program
  | .save handle state =>
      match program.handles[handle]? with
      | some checkpointer =>
          { program with memory := (checkpointer.save program.memory state).2 }
      | none => program
  | .load _ => program

/-- What a load through the handle returns now. -/
def loads (program : Program S) (handle : Nat) : Option (Except FormeError (Option S)) :=
  (program.handles[handle]?).map (fun checkpointer => checkpointer.load program.memory)

/-- No lock is poisoned and every handle points to an allocated one. -/
structure Sound (program : Program S) : Prop where
  unpoisoned : forall reference, (program.memory.cells reference).poisoned = false
  allocated : forall checkpointer, checkpointer ∈ program.handles ->
    checkpointer.inner < program.memory.next

/-- A founding operation allocates a lock with the seed. -/
theorem step_founds (program : Program S) {operation : Operation S} {seed : Option S}
    (founds : operation.founds = some seed) :
    program.step operation =
      { memory := (program.memory.allocate (RwLock.new seed)).2
        handles := program.handles ++ [⟨program.memory.next⟩] } := by
  cases operation with
  | new =>
      rw [← Option.some.inj founds]
      rfl
  | default =>
      rw [← Option.some.inj founds]
      rfl
  | withState state =>
      rw [← Option.some.inj founds]
      rfl
  | clone handle => cases founds
  | save handle state => cases founds
  | load handle => cases founds

theorem step_clone {program : Program S} {handle : Nat} {checkpointer : InMemoryCheckpointer}
    (found : program.handles[handle]? = some checkpointer) :
    program.step (.clone handle) =
      { memory := program.memory, handles := program.handles ++ [checkpointer] } := by
  simp only [step, found]
  rfl

theorem step_save {program : Program S} (sound : program.Sound) {handle : Nat} {state : S}
    {checkpointer : InMemoryCheckpointer} (found : program.handles[handle]? = some checkpointer) :
    program.step (.save handle state) =
      { memory := program.memory.put checkpointer.inner
          { program.memory.cells checkpointer.inner with value := some state }
        handles := program.handles } := by
  simp only [step, found,
    InMemoryCheckpointer.save_of_sound state (sound.unpoisoned checkpointer.inner)]

/-- What an operation does: it founds a family, copies a checkpointer, stores a
state, or changes nothing. -/
theorem step_cases {program : Program S} (sound : program.Sound) (operation : Operation S) :
    (∃ seed, operation.founds = some seed ∧ program.step operation =
      { memory := (program.memory.allocate (RwLock.new seed)).2
        handles := program.handles ++ [⟨program.memory.next⟩] }) ∨
    (∃ older checkpointer, operation = .clone older ∧
      program.handles[older]? = some checkpointer ∧ program.step operation =
        { memory := program.memory, handles := program.handles ++ [checkpointer] }) ∨
    (∃ handle state checkpointer, operation = .save handle state ∧
      program.handles[handle]? = some checkpointer ∧ program.step operation =
        { memory := program.memory.put checkpointer.inner
            { program.memory.cells checkpointer.inner with value := some state }
          handles := program.handles }) ∨
    program.step operation = program := by
  cases operation with
  | new => exact Or.inl ⟨none, rfl, step_founds program rfl⟩
  | default => exact Or.inl ⟨none, rfl, step_founds program rfl⟩
  | withState state => exact Or.inl ⟨some state, rfl, step_founds program rfl⟩
  | clone handle =>
      right
      cases found : program.handles[handle]? with
      | none =>
          right
          right
          simp only [step, found]
      | some original => exact Or.inl ⟨handle, original, rfl, found, step_clone found⟩
  | save handle state =>
      right
      right
      cases found : program.handles[handle]? with
      | none =>
          right
          simp only [step, found]
      | some written => exact Or.inl ⟨handle, state, written, rfl, found, step_save sound found⟩
  | load handle => exact Or.inr (Or.inr (Or.inr rfl))

/-- An operation keeps the handles there are and adds at most one. -/
theorem step_handles {program : Program S} (sound : program.Sound) (operation : Operation S) :
    (program.step operation).handles = program.handles ∨
    ∃ checkpointer, (program.step operation).handles = program.handles ++ [checkpointer] ∧
      ((∃ seed, operation.founds = some seed ∧ checkpointer.inner = program.memory.next) ∨
        ∃ older, operation = .clone older ∧ program.handles[older]? = some checkpointer) := by
  rcases step_cases sound operation with ⟨seed, founds, after⟩ | ⟨older, original, isClone, found, after⟩ |
    ⟨_, _, _, _, _, after⟩ | after
  · right
    rw [after]
    exact ⟨⟨program.memory.next⟩, rfl, Or.inl ⟨seed, founds, rfl⟩⟩
  · right
    rw [after]
    exact ⟨original, rfl, Or.inr ⟨older, isClone, found⟩⟩
  · left
    rw [after]
  · left
    rw [after]

theorem next_step {program : Program S} (sound : program.Sound) (operation : Operation S) :
    program.memory.next ≤ (program.step operation).memory.next := by
  rcases step_cases sound operation with ⟨_, _, after⟩ | ⟨_, _, _, _, after⟩ |
    ⟨_, _, _, _, _, after⟩ | after
  · rw [after]
    exact Nat.le_succ _
  · rw [after]
  · rw [after]
    exact Nat.le_refl _
  · rw [after]

theorem start_sound : (start : Program S).Sound := by
  constructor
  · intro reference
    rfl
  · intro checkpointer member
    cases member

theorem Sound.reference_lt {program : Program S} (sound : program.Sound) {handle : Nat}
    {checkpointer : InMemoryCheckpointer} (found : program.handles[handle]? = some checkpointer) :
    checkpointer.inner < program.memory.next :=
  sound.allocated checkpointer (List.mem_of_getElem? found)

/-- Every operation keeps the locks sound. -/
theorem step_sound {program : Program S} (operation : Operation S) (sound : program.Sound) :
    (program.step operation).Sound := by
  rcases step_cases sound operation with ⟨_, _, after⟩ | ⟨_, original, _, found, after⟩ |
    ⟨_, _, written, _, _, after⟩ | after
  · rw [after]
    constructor
    · exact Arena.allocate_all (fun lock : RwLock (Option S) => lock.poisoned = false)
        sound.unpoisoned rfl
    · intro checkpointer member
      rcases List.mem_append.mp member with older | newest
      · exact Nat.lt_succ_of_lt (sound.allocated checkpointer older)
      · rw [List.mem_singleton.mp newest]
        exact Nat.lt_succ_self program.memory.next
  · rw [after]
    constructor
    · exact sound.unpoisoned
    · intro checkpointer member
      rcases List.mem_append.mp member with older | newest
      · exact sound.allocated checkpointer older
      · rw [List.mem_singleton.mp newest]
        exact sound.reference_lt found
  · rw [after]
    refine ⟨?_, sound.allocated⟩
    apply Arena.put_all (fun lock : RwLock (Option S) => lock.poisoned = false)
    · exact sound.unpoisoned
    · exact sound.unpoisoned written.inner
  · rw [after]
    exact sound

end Program

/-! ## Histories -/

/-- The run of a list of operations from the empty program. -/
def runOf {S : Type} (operations : List (Operation S)) : Timeline (Program S) (Operation S) where
  step := Program.step
  start := Program.start
  events := operations

/-- A sequence of operations that use only handles that exist by then. -/
structure Usage (S : Type) where
  operations : List (Operation S)
  existing : forall instant operation handle, operations[instant]? = some operation ->
    operation.uses = some handle -> handle < ((runOf operations).stateAt instant).handles.length

namespace Usage

variable {S : Type} (usage : Usage S)

def programAt (instant : Nat) : Program S :=
  (runOf usage.operations).stateAt instant

/-- How many handles exist at an instant, and so the number of the next one. -/
def created (instant : Nat) : Nat :=
  (usage.programAt instant).handles.length

/-- One handle was cloned from the other. -/
def ClonedFrom (older newer : Nat) : Prop :=
  ∃ instant, usage.operations[instant]? = some (.clone older) ∧ newer = usage.created instant

/-- Connected by clones. -/
def SameFamily : Nat -> Nat -> Prop :=
  Relation.EqvGen usage.ClonedFrom

/-- The operation at the instant saves the state through a member of the
handle's family. -/
def SavedTo (handle instant : Nat) (state : S) : Prop :=
  ∃ member, usage.operations[instant]? = some (.save member state) ∧ usage.SameFamily member handle

/-- The operation at the instant founds the handle's family with the seed. -/
def FoundedWith (handle instant : Nat) (seed : Option S) : Prop :=
  ∃ operation, usage.operations[instant]? = some operation ∧ operation.founds = some seed ∧
    usage.SameFamily (usage.created instant) handle

/-- Before the instant, nothing was saved to the family after the given one. -/
def QuietSince (handle first instant : Nat) : Prop :=
  forall later state, first ≤ later -> later < instant -> ¬ usage.SavedTo handle later state

/-- The value last saved to the handle's family before the instant, or else the
family's seed. -/
def LastValue (handle instant : Nat) (value : Option S) : Prop :=
  (∃ saved state, saved < instant ∧ usage.SavedTo handle saved state ∧
    usage.QuietSince handle (saved + 1) instant ∧ value = some state) ∨
  (usage.QuietSince handle 0 instant ∧
    ∃ founded, founded < instant ∧ usage.FoundedWith handle founded value)

variable {usage}

theorem programAt_succ {instant : Nat} {operation : Operation S}
    (occurs : usage.operations[instant]? = some operation) :
    usage.programAt (instant + 1) = (usage.programAt instant).step operation :=
  (runOf usage.operations).stateAt_succ occurs

theorem sound (instant : Nat) : (usage.programAt instant).Sound :=
  (runOf usage.operations).invariant Program.Sound Program.start_sound
    (fun _ operation kept => Program.step_sound operation kept) instant

/-- An operation finds the handle it uses. -/
theorem found_used {instant : Nat} {operation : Operation S} {handle : Nat}
    (occurs : usage.operations[instant]? = some operation) (uses : operation.uses = some handle) :
    ∃ checkpointer, (usage.programAt instant).handles[handle]? = some checkpointer :=
  ⟨_, List.getElem?_eq_getElem (usage.existing instant operation handle occurs uses)⟩

/-! ## Handles and references -/

theorem handles_grow {early late : Nat} (ordered : early ≤ late)
    (bound : late ≤ usage.operations.length) :
    (usage.programAt early).handles <+: (usage.programAt late).handles := by
  apply (runOf usage.operations).induction_from
    (fun instant => (usage.programAt early).handles <+: (usage.programAt instant).handles)
    List.prefix_rfl _ late ordered bound
  intro instant operation _ occurs grown
  apply grown.trans
  rw [programAt_succ occurs]
  rcases Program.step_handles (sound instant) operation with same | ⟨added, more, _⟩
  · rw [same]
  · rw [more]
    exact List.prefix_append _ _

/-- A handle keeps its checkpointer. -/
theorem found_later {early late handle : Nat} {checkpointer : InMemoryCheckpointer}
    (ordered : early ≤ late) (bound : late ≤ usage.operations.length)
    (found : (usage.programAt early).handles[handle]? = some checkpointer) :
    (usage.programAt late).handles[handle]? = some checkpointer := by
  rcases handles_grow ordered bound with ⟨rest, whole⟩
  rcases List.getElem?_eq_some_iff.mp found with ⟨inside, _⟩
  rw [← whole, List.getElem?_append_left inside]
  exact found

/-- The reference that a handle holds, once it exists. -/
def reference (usage : Usage S) (handle : Nat) : Option Nat :=
  ((usage.programAt usage.operations.length).handles[handle]?).map InMemoryCheckpointer.inner

theorem reference_of_found {instant handle : Nat} {checkpointer : InMemoryCheckpointer}
    (bound : instant ≤ usage.operations.length)
    (found : (usage.programAt instant).handles[handle]? = some checkpointer) :
    usage.reference handle = some checkpointer.inner := by
  unfold reference
  rw [found_later bound (Nat.le_refl _) found]
  rfl

/-- A handle that exists after an operation existed before it, or is the new one. -/
theorem found_succ {instant : Nat} {operation : Operation S}
    (occurs : usage.operations[instant]? = some operation) {handle : Nat}
    {checkpointer : InMemoryCheckpointer}
    (found : (usage.programAt (instant + 1)).handles[handle]? = some checkpointer) :
    (usage.programAt instant).handles[handle]? = some checkpointer ∨
    handle = usage.created instant ∧
      ((∃ seed, operation.founds = some seed ∧
          checkpointer.inner = (usage.programAt instant).memory.next) ∨
        ∃ older, operation = .clone older ∧
          (usage.programAt instant).handles[older]? = some checkpointer) := by
  rw [programAt_succ occurs] at found
  rcases Program.step_handles (sound instant) operation with same | ⟨added, more, origin⟩
  · rw [same] at found
    exact Or.inl found
  · rw [more] at found
    rcases List.getElem?_eq_some_iff.mp found with ⟨inside, _⟩
    rw [List.length_append, List.length_singleton] at inside
    rcases Nat.lt_or_eq_of_le (Nat.le_of_lt_succ inside) with older | newest
    · rw [List.getElem?_append_left older] at found
      exact Or.inl found
    · right
      rw [newest, List.getElem?_append_right (Nat.le_refl _), Nat.sub_self] at found
      have same : added = checkpointer := Option.some.inj found
      rw [← same]
      exact ⟨newest, origin⟩

theorem lt_length {instant : Nat} {operation : Operation S}
    (occurs : usage.operations[instant]? = some operation) : instant < usage.operations.length :=
  (runOf usage.operations).lt_length occurs

/-- A clone holds the reference of its original. -/
theorem reference_of_clone {older newer : Nat} (cloned : usage.ClonedFrom older newer) :
    usage.reference older = usage.reference newer := by
  rcases cloned with ⟨instant, occurs, number⟩
  rcases found_used occurs rfl with ⟨checkpointer, found⟩
  have next : (usage.programAt (instant + 1)).handles =
      (usage.programAt instant).handles ++ [checkpointer] := by
    rw [programAt_succ occurs, Program.step_clone found]
  have added : (usage.programAt (instant + 1)).handles[newer]? = some checkpointer := by
    rw [next, number, created, List.getElem?_append_right (Nat.le_refl _), Nat.sub_self]
    rfl
  rw [reference_of_found (Nat.le_of_lt (lt_length occurs)) found,
    reference_of_found (lt_length occurs) added]

/-- One family, one reference. -/
theorem SameFamily.reference_eq {first second : Nat} (family : usage.SameFamily first second) :
    usage.reference first = usage.reference second := by
  induction family with
  | rel _ _ cloned => exact reference_of_clone cloned
  | refl _ => rfl
  | symm _ _ _ ih => exact ih.symm
  | trans _ _ _ _ _ ih ih' => exact ih.trans ih'

/-- Among the handles that exist at the instant, one reference means one
family. -/
def ReferencesTell (usage : Usage S) (instant : Nat) : Prop :=
  forall first second checkpointer checkpointer',
    (usage.programAt instant).handles[first]? = some checkpointer ->
    (usage.programAt instant).handles[second]? = some checkpointer' ->
    checkpointer.inner = checkpointer'.inner -> usage.SameFamily first second

/-- A new handle shares its reference with older ones only if it is a clone. -/
private theorem ReferencesTell.newest {instant : Nat} {operation : Operation S}
    (tell : usage.ReferencesTell instant)
    (occurs : usage.operations[instant]? = some operation) {handle newest : Nat}
    {checkpointer checkpointer' : InMemoryCheckpointer}
    (found : (usage.programAt instant).handles[handle]? = some checkpointer)
    (number : newest = usage.created instant)
    (origin : (∃ seed, operation.founds = some seed ∧
        checkpointer'.inner = (usage.programAt instant).memory.next) ∨
      ∃ older, operation = .clone older ∧
        (usage.programAt instant).handles[older]? = some checkpointer')
    (same : checkpointer.inner = checkpointer'.inner) : usage.SameFamily handle newest := by
  rcases origin with ⟨seed, _, fresh⟩ | ⟨older, isClone, original⟩
  · have lower := (sound instant).reference_lt found
    rw [same, fresh] at lower
    exact absurd lower (Nat.lt_irrefl _)
  · subst isClone
    apply Relation.EqvGen.trans _ older
    · exact tell handle older checkpointer checkpointer' found original same
    · exact Relation.EqvGen.rel _ _ ⟨instant, occurs, number⟩

/-- One reference, one family: references are passed on by clones only. -/
theorem sameFamily_of_inner_eq {instant : Nat} (bound : instant ≤ usage.operations.length) :
    usage.ReferencesTell instant := by
  apply (runOf usage.operations).induction usage.ReferencesTell _ _ instant bound
  · intro first second checkpointer checkpointer' found
    cases found
  · intro instant operation occurs tell first second checkpointer checkpointer' found found' same
    rcases found_succ occurs found with old | ⟨number, origin⟩ <;>
      rcases found_succ occurs found' with old' | ⟨number', origin'⟩
    · exact tell first second checkpointer checkpointer' old old' same
    · exact tell.newest occurs old number' origin' same
    · exact (tell.newest occurs old' number origin same.symm).symm
    · rw [number, number']
      exact Relation.EqvGen.refl _

/-! ## What the locks hold -/

/-- What the lock behind a reference holds. -/
def cellAt (usage : Usage S) (instant reference : Nat) : Option S :=
  ((usage.programAt instant).memory.cells reference).value

theorem loads_eq {instant handle : Nat} {checkpointer : InMemoryCheckpointer}
    (found : (usage.programAt instant).handles[handle]? = some checkpointer) :
    (usage.programAt instant).loads handle = some (.ok (usage.cellAt instant checkpointer.inner)) := by
  unfold Program.loads cellAt
  rw [found, Option.map_some,
    InMemoryCheckpointer.load_of_sound ((sound instant).unpoisoned checkpointer.inner)]

/-- Only a save through its own reference changes an allocated lock. -/
theorem cellAt_succ {instant : Nat} {operation : Operation S}
    (occurs : usage.operations[instant]? = some operation) {reference : Nat}
    (allocated : reference < (usage.programAt instant).memory.next) :
    usage.cellAt (instant + 1) reference = usage.cellAt instant reference ∨
    ∃ member state checkpointer, operation = .save member state ∧
      (usage.programAt instant).handles[member]? = some checkpointer ∧
      checkpointer.inner = reference ∧ usage.cellAt (instant + 1) reference = some state := by
  unfold cellAt
  rw [programAt_succ occurs]
  rcases Program.step_cases (sound instant) operation with ⟨_, _, after⟩ | ⟨_, _, _, _, after⟩ |
    ⟨handle, state, written, isSave, found, after⟩ | after
  · left
    rw [after, Arena.allocate_other _ _ allocated]
  · left
    rw [after]
  · rw [after]
    by_cases own : reference = written.inner
    · right
      refine ⟨handle, state, written, isSave, found, own.symm, ?_⟩
      rw [own, Arena.put_same]
    · left
      rw [Arena.put_other _ _ own]
  · left
    rw [after]

/-- A founded family starts with its seed. -/
theorem cellAt_founded {instant : Nat} {operation : Operation S} {seed : Option S}
    (occurs : usage.operations[instant]? = some operation) (founds : operation.founds = some seed) :
    usage.cellAt (instant + 1) (usage.programAt instant).memory.next = seed := by
  unfold cellAt
  rw [programAt_succ occurs, Program.step_founds _ founds, Arena.allocate_fresh]
  rfl

/-! ## The last value of a family -/

theorem QuietSince.later {handle first instant : Nat} (quiet : usage.QuietSince handle first instant)
    (still : forall state, ¬ usage.SavedTo handle instant state) :
    usage.QuietSince handle first (instant + 1) := by
  intro later state lower upper
  rcases Nat.lt_or_eq_of_le (Nat.le_of_lt_succ upper) with before | now
  · exact quiet later state lower before
  · rw [now]
    exact still state

/-- An operation that saves nothing to the family keeps its last value. -/
theorem LastValue.later {handle instant : Nat} {value : Option S}
    (last : usage.LastValue handle instant value)
    (still : forall state, ¬ usage.SavedTo handle instant state) :
    usage.LastValue handle (instant + 1) value := by
  rcases last with ⟨saved, state, before, savedTo, quiet, same⟩ | ⟨quiet, founded, before, seed⟩
  · exact Or.inl ⟨saved, state, Nat.lt_succ_of_lt before, savedTo, quiet.later still, same⟩
  · exact Or.inr ⟨quiet.later still, founded, Nat.lt_succ_of_lt before, seed⟩

theorem SavedTo.kin {handle other instant : Nat} {state : S}
    (savedTo : usage.SavedTo handle instant state) (family : usage.SameFamily handle other) :
    usage.SavedTo other instant state := by
  rcases savedTo with ⟨member, occurs, same⟩
  exact ⟨member, occurs, same.trans _ _ _ family⟩

/-- The last value is the same for the whole family. -/
theorem LastValue.kin {handle other instant : Nat} {value : Option S}
    (last : usage.LastValue handle instant value) (family : usage.SameFamily handle other) :
    usage.LastValue other instant value := by
  have quietKin : forall first, usage.QuietSince handle first instant ->
      usage.QuietSince other first instant :=
    fun first quiet later state lower upper savedTo =>
      quiet later state lower upper (savedTo.kin (family.symm _ _))
  rcases last with
    ⟨saved, state, before, savedTo, quiet, same⟩ | ⟨quiet, founded, before, operation, occurs, seed, kin⟩
  · exact Or.inl ⟨saved, state, before, savedTo.kin family, quietKin _ quiet, same⟩
  · exact Or.inr ⟨quietKin _ quiet, founded, before, operation, occurs, seed,
      kin.trans _ _ _ family⟩

/-- A new lock is not reachable from any earlier handle. -/
theorem not_savedTo_fresh {instant handle : Nat} {checkpointer : InMemoryCheckpointer}
    (bound : instant < usage.operations.length)
    (found : (usage.programAt (instant + 1)).handles[handle]? = some checkpointer)
    (fresh : checkpointer.inner = (usage.programAt instant).memory.next) :
    usage.QuietSince handle 0 (instant + 1) := by
  rintro later state _ upper ⟨member, occurs, family⟩
  rcases found_used occurs rfl with ⟨writer, present⟩
  have now := found_later (Nat.le_of_lt_succ upper) (Nat.le_of_lt bound) present
  have lower := (sound instant).reference_lt now
  have same := family.reference_eq
  rw [reference_of_found (Nat.le_of_lt bound) now, reference_of_found bound found] at same
  rw [Option.some.inj same, fresh] at lower
  exact Nat.lt_irrefl _ lower

/-- An operation that saves nothing to the family keeps what its lock holds. -/
theorem cellAt_quiet {instant handle : Nat} {operation : Operation S}
    {checkpointer : InMemoryCheckpointer} (occurs : usage.operations[instant]? = some operation)
    (found : (usage.programAt instant).handles[handle]? = some checkpointer)
    (still : forall state, ¬ usage.SavedTo handle instant state) :
    usage.cellAt (instant + 1) checkpointer.inner = usage.cellAt instant checkpointer.inner := by
  have allocated := (sound instant).reference_lt found
  rcases cellAt_succ occurs allocated with unchanged | ⟨member, state, writer, isSave, present, own, _⟩
  · exact unchanged
  · subst isSave
    have family := sameFamily_of_inner_eq (Nat.le_of_lt (lt_length occurs)) member handle writer
      checkpointer present found own
    exact absurd ⟨member, occurs, family⟩ (still state)

/-- A save to the family gives it a new last value, and its lock holds it. -/
theorem SavedTo.lastValue {instant handle : Nat} {state : S} {checkpointer : InMemoryCheckpointer}
    (savedTo : usage.SavedTo handle instant state)
    (found : (usage.programAt instant).handles[handle]? = some checkpointer) :
    usage.LastValue handle (instant + 1) (usage.cellAt (instant + 1) checkpointer.inner) := by
  rcases savedTo with ⟨member, occurs, family⟩
  rcases found_used occurs rfl with ⟨writer, present⟩
  have bound := Nat.le_of_lt (lt_length occurs)
  have same := family.reference_eq
  rw [reference_of_found bound present, reference_of_found bound found] at same
  left
  refine ⟨instant, state, Nat.lt_succ_self _, ⟨member, occurs, family⟩, ?_, ?_⟩
  · intro later state' lower upper
    exact absurd (Nat.lt_of_lt_of_le lower (Nat.le_of_lt_succ upper)) (Nat.lt_irrefl _)
  · unfold cellAt
    rw [programAt_succ occurs, Program.step_save (sound instant) present, ← Option.some.inj same,
      Arena.put_same]

/-- The simulation: the lock behind a handle holds the last value of its
family. -/
theorem cellAt_lastValue {instant : Nat} (bound : instant ≤ usage.operations.length) :
    forall handle checkpointer,
      (usage.programAt instant).handles[handle]? = some checkpointer ->
      usage.LastValue handle instant (usage.cellAt instant checkpointer.inner) := by
  apply (runOf usage.operations).induction
    (fun instant => forall handle checkpointer,
      (usage.programAt instant).handles[handle]? = some checkpointer ->
      usage.LastValue handle instant (usage.cellAt instant checkpointer.inner)) _ _ instant bound
  · intro handle checkpointer found
    cases found
  · intro instant operation occurs holds handle checkpointer found
    rcases found_succ occurs found with old | ⟨number, ⟨seed, founds, fresh⟩ | ⟨older, isClone, original⟩⟩
    · by_cases saves : ∃ state, usage.SavedTo handle instant state
      · rcases saves with ⟨state, savedTo⟩
        exact savedTo.lastValue old
      · have still : forall state, ¬ usage.SavedTo handle instant state :=
          fun state savedTo => saves ⟨state, savedTo⟩
        rw [cellAt_quiet occurs old still]
        exact (holds handle checkpointer old).later still
    · right
      refine ⟨not_savedTo_fresh (lt_length occurs) found fresh, instant, Nat.lt_succ_self _, operation,
        occurs, ?_, ?_⟩
      · rw [fresh, cellAt_founded occurs founds]
        exact founds
      · rw [number]
        exact Relation.EqvGen.refl _
    · subst isClone
      have family : usage.SameFamily older handle := Relation.EqvGen.rel _ _ ⟨instant, occurs, number⟩
      have still : forall state, ¬ usage.SavedTo older instant state := by
        rintro state ⟨member, isSave, _⟩
        cases occurs.symm.trans isSave
      rw [cellAt_quiet occurs original still]
      exact ((holds older checkpointer original).later still).kin family

/-! ## There is only one last value -/

theorem next_grows {early late : Nat} (ordered : early ≤ late)
    (bound : late ≤ usage.operations.length) :
    (usage.programAt early).memory.next ≤ (usage.programAt late).memory.next := by
  apply (runOf usage.operations).induction_from
    (fun instant => (usage.programAt early).memory.next ≤ (usage.programAt instant).memory.next)
    (Nat.le_refl _) _ late ordered bound
  intro instant operation _ occurs grown
  rw [programAt_succ occurs]
  exact Nat.le_trans grown (Program.next_step (sound instant) operation)

theorem FoundedWith.reference_eq {handle instant : Nat} {seed : Option S}
    (founded : usage.FoundedWith handle instant seed) :
    instant < usage.operations.length ∧
    usage.reference handle = some (usage.programAt instant).memory.next ∧
    (usage.programAt instant).memory.next < (usage.programAt (instant + 1)).memory.next := by
  rcases founded with ⟨operation, occurs, founds, family⟩
  have early := lt_length occurs
  refine ⟨early, ?_, ?_⟩
  · have founder : (usage.programAt (instant + 1)).handles[usage.created instant]? =
        some ⟨(usage.programAt instant).memory.next⟩ := by
      rw [programAt_succ occurs, Program.step_founds _ founds, created,
        List.getElem?_append_right (Nat.le_refl _), Nat.sub_self]
      rfl
    rw [← family.reference_eq, reference_of_found (Nat.succ_le_of_lt early) founder]
  · rw [programAt_succ occurs, Program.step_founds _ founds]
    exact Nat.lt_succ_self _

/-- A family is founded once. -/
theorem FoundedWith.instant_le {handle first second : Nat} {seed seed' : Option S}
    (founded : usage.FoundedWith handle first seed) (founded' : usage.FoundedWith handle second seed') :
    second ≤ first := by
  rcases founded.reference_eq with ⟨_, own, grows⟩
  rcases founded'.reference_eq with ⟨early, own', _⟩
  by_contra before
  have later := next_grows (Nat.succ_le_of_lt (Nat.lt_of_not_le before)) (Nat.le_of_lt early)
  have same : (usage.programAt first).memory.next = (usage.programAt second).memory.next :=
    Option.some.inj (own.symm.trans own')
  rw [same] at grows
  exact Nat.lt_irrefl _ (Nat.lt_of_lt_of_le grows later)

theorem LastValue.unique {handle instant : Nat} {value value' : Option S}
    (last : usage.LastValue handle instant value) (last' : usage.LastValue handle instant value') :
    value = value' := by
  rcases last with
    ⟨saved, state, before, savedTo, quiet, same⟩ | ⟨quiet, founded, before, seed⟩ <;>
    rcases last' with
      ⟨saved', state', before', savedTo', quiet', same'⟩ | ⟨quiet', founded', before', seed'⟩
  · rcases Nat.lt_trichotomy saved saved' with earlier | now | later
    · exact absurd savedTo' (quiet saved' state' earlier before')
    · subst now
      rcases savedTo with ⟨member, occurs, _⟩
      rcases savedTo' with ⟨member', occurs', _⟩
      rw [occurs] at occurs'
      cases occurs'
      rw [same, same']
    · exact absurd savedTo (quiet' saved state later before)
  · exact absurd savedTo (quiet' saved state (Nat.zero_le _) before)
  · exact absurd savedTo' (quiet saved' state' (Nat.zero_le _) before')
  · have now : founded = founded' := Nat.le_antisymm (seed'.instant_le seed) (seed.instant_le seed')
    subst now
    rcases seed with ⟨operation, occurs, founds, _⟩
    rcases seed' with ⟨operation', occurs', founds', _⟩
    rw [occurs] at occurs'
    cases occurs'
    rw [founds] at founds'
    exact Option.some.inj founds'

/-- At every instant of every run, a load through a handle returns exactly the
last value of the handle's family, and no operation changes that value except
a save through a member of the family. -/
theorem loads_iff_lastValue (usage : Usage S) :
    (forall instant handle, instant ≤ usage.operations.length -> handle < usage.created instant ->
      forall value, (usage.programAt instant).loads handle = some (.ok value) <->
        usage.LastValue handle instant value) ∧
    (forall instant handle, instant ≤ usage.operations.length -> handle < usage.created instant ->
      ∃ value, (usage.programAt instant).loads handle = some (.ok value)) ∧
    (forall instant operation handle, usage.operations[instant]? = some operation ->
      handle < usage.created instant ->
      (forall member state, operation = .save member state -> ¬ usage.SameFamily member handle) ->
      (usage.programAt (instant + 1)).loads handle = (usage.programAt instant).loads handle) := by
  refine ⟨?_, ?_, ?_⟩
  · intro instant handle bound known value
    have found := List.getElem?_eq_getElem known
    have last := cellAt_lastValue bound handle _ found
    rw [loads_eq found]
    constructor
    · intro same
      rw [← Except.ok.inj (Option.some.inj same)]
      exact last
    · intro last'
      rw [last.unique last']
  · intro instant handle bound known
    exact ⟨_, loads_eq (List.getElem?_eq_getElem known)⟩
  · intro instant operation handle occurs known foreign
    have found := List.getElem?_eq_getElem known
    have later := found_later (Nat.le_succ instant) (lt_length occurs) found
    have still : forall state, ¬ usage.SavedTo handle instant state := by
      rintro state ⟨member, isSave, family⟩
      exact foreign member state (Option.some.inj (occurs.symm.trans isSave)) family
    rw [loads_eq found, loads_eq later, cellAt_quiet occurs found still]

/-- A seeded checkpointer is cloned, and then saved to. -/
def clonedThenSaved : Usage String where
  operations := [.withState "Idle", .clone 0, .save 0 "Done", .load 1]
  existing := by
    intro instant operation handle occurs uses
    match instant with
    | 0 =>
        cases occurs
        cases uses
    | 1 | 2 | 3 =>
        cases occurs
        cases uses
        decide
    | later + 4 => cases occurs

/-- The clone loads what was saved through the original. -/
theorem clonedThenSaved_loads :
    (clonedThenSaved.programAt 3).loads 1 = some (.ok (some "Done")) := by
  have cloned : clonedThenSaved.SameFamily 0 1 := Relation.EqvGen.rel 0 1 ⟨1, rfl, rfl⟩
  have quiet : clonedThenSaved.QuietSince 1 3 3 := by
    intro later state lower upper
    exact absurd upper (Nat.not_lt_of_le lower)
  have last : clonedThenSaved.LastValue 1 3 (some "Done") :=
    Or.inl ⟨2, "Done", by decide, ⟨0, rfl, cloned⟩, quiet, rfl⟩
  exact ((loads_iff_lastValue clonedThenSaved).1 3 1 (by decide) (by decide) (some "Done")).mpr last

end Usage

end Persistence
end Caulk
