import Caulk.Persistence.Families

namespace Caulk
namespace Persistence

open Caulk.Core
open Foundation

/-!
# Panics inside a checkpointer

Both operations of a checkpointer clone a state while they hold its lock, and
the clone is code of the caller that may panic.  Under the read guard of a
load such a panic leaves no trace.  Under the write guard of a save it leaves
the old state in place and poisons the lock, and from then on every operation
on the family reports the poisoned lock.

The damage is exactly that: the family of the panic is lost for ever, and no
other family notices.  To state what the other families hold, the history is
compared with one in which the panicking operations only looked.
-/

/-- An operation that runs to its end, or one in which cloning the state
panics. -/
inductive Attempt (S : Type) where
  | completed (operation : Operation S)
  | panickedSave (handle : Nat)
  | panickedLoad (handle : Nat)

namespace Attempt

variable {S : Type}

/-- The existing handle that an attempt uses. -/
def uses : Attempt S -> Option Nat
  | completed operation => operation.uses
  | panickedSave handle | panickedLoad handle => some handle

/-- The operation that changes as much as an attempt does, poison aside. -/
def harmless : Attempt S -> Operation S
  | completed operation => operation
  | panickedSave handle | panickedLoad handle => .load handle

theorem uses_harmless (attempt : Attempt S) : attempt.harmless.uses = attempt.uses := by
  cases attempt <;> rfl

end Attempt

/-- A save in which cloning the state panics: a sound lock keeps its state and
is poisoned, and on a poisoned one the save returns before the clone. -/
def InMemoryCheckpointer.panickedSave {S : Type} (checkpointer : InMemoryCheckpointer)
    (memory : Memory S) : Memory S :=
  match (memory.cells checkpointer.inner).write id with
  | .ok lock => memory.put checkpointer.inner { lock with poisoned := true }
  | .error _ => memory

/-- The two errors of a poisoned lock. -/
def poisonedOnWrite : FormeError :=
  .persistenceFailed "RwLock poisoned on write: poisoned lock: another task failed inside"

def poisonedOnRead : FormeError :=
  .persistenceFailed "RwLock poisoned on read: poisoned lock: another task failed inside"

namespace InMemoryCheckpointer

variable {S : Type} {checkpointer : InMemoryCheckpointer} {memory : Memory S}

theorem load_of_poisoned (poisoned : (memory.cells checkpointer.inner).poisoned = true) :
    checkpointer.load memory = .error poisonedOnRead := by
  simp only [load, RwLock.read, poisoned, if_true]
  rfl

theorem save_of_poisoned (state : S) (poisoned : (memory.cells checkpointer.inner).poisoned = true) :
    checkpointer.save memory state = (.error poisonedOnWrite, memory) := by
  simp only [save, RwLock.write, poisoned, if_true]
  rfl

/-- Only the poison flag of the own lock may change, and it is set then. -/
theorem panickedSave_eq (checkpointer : InMemoryCheckpointer) (memory : Memory S) :
    checkpointer.panickedSave memory = memory.put checkpointer.inner
      { memory.cells checkpointer.inner with poisoned := true } := by
  unfold panickedSave RwLock.write
  cases flag : (memory.cells checkpointer.inner).poisoned with
  | false => rfl
  | true =>
      have same : { memory.cells checkpointer.inner with poisoned := true } =
          memory.cells checkpointer.inner := by
        rw [← flag]
      rw [same]
      simp only [if_true, Arena.put, Function.update_eq_self]

end InMemoryCheckpointer

namespace Program

variable {S : Type}

def attempt (program : Program S) : Attempt S -> Program S
  | .completed operation => program.step operation
  | .panickedSave handle =>
      match program.handles[handle]? with
      | some checkpointer => { program with memory := checkpointer.panickedSave program.memory }
      | none => program
  | .panickedLoad _ => program

/-- What a save through the handle returns now. -/
def saves (program : Program S) (handle : Nat) (state : S) : Option (Except FormeError Unit) :=
  (program.handles[handle]?).map (fun checkpointer => (checkpointer.save program.memory state).1)

/-- The harmless program has the same handles, and the same locks where no
panic has poisoned them. -/
structure Shadows (harmless program : Program S) : Prop where
  handles : harmless.handles = program.handles
  next : harmless.memory.next = program.memory.next
  cells : forall reference, (program.memory.cells reference).poisoned = false ->
    harmless.memory.cells reference = program.memory.cells reference

theorem Shadows.handle {harmless program : Program S} (shadows : Shadows harmless program)
    {handle : Nat} {entry : Option InMemoryCheckpointer} (found : program.handles[handle]? = entry) :
    harmless.handles[handle]? = entry := by
  rw [shadows.handles]
  exact found

theorem Shadows.founds {harmless program : Program S} (shadows : Shadows harmless program)
    {operation : Operation S} {seed : Option S} (founds : operation.founds = some seed) :
    Shadows (harmless.step operation) (program.step operation) := by
  rw [step_founds harmless founds, step_founds program founds]
  constructor
  · simp only [shadows.handles, shadows.next]
  · simp only [Arena.allocate, shadows.next]
  · intro reference sound
    simp only [Arena.allocate, shadows.next] at sound ⊢
    by_cases fresh : reference = program.memory.next
    · rw [fresh, Function.update_self, Function.update_self]
    · rw [Function.update_of_ne fresh] at sound
      rw [Function.update_of_ne fresh, Function.update_of_ne fresh]
      exact shadows.cells reference sound

/-- A save that finds its lock poisoned changes nothing, and the harmless one
changes a lock that is not compared any more. -/
theorem Shadows.save {harmless program : Program S} (shadows : Shadows harmless program)
    (sound : harmless.Sound) (handle : Nat) (state : S) :
    Shadows (harmless.step (.save handle state)) (program.step (.save handle state)) := by
  cases found : program.handles[handle]? with
  | none =>
      simp only [step, found, shadows.handle found]
      exact shadows
  | some checkpointer =>
      rw [step_save sound (shadows.handle found)]
      simp only [step, found]
      cases flag : (program.memory.cells checkpointer.inner).poisoned with
      | true =>
          rw [InMemoryCheckpointer.save_of_poisoned state flag]
          refine ⟨shadows.handles, shadows.next, ?_⟩
          intro reference unpoisoned
          have other : reference ≠ checkpointer.inner := by
            intro same
            rw [same, flag] at unpoisoned
            cases unpoisoned
          rw [Arena.put_other _ _ other]
          exact shadows.cells reference unpoisoned
      | false =>
          rw [InMemoryCheckpointer.save_of_sound state flag]
          refine ⟨shadows.handles, shadows.next, ?_⟩
          intro reference unpoisoned
          by_cases own : reference = checkpointer.inner
          · rw [own, Arena.put_same, Arena.put_same, shadows.cells checkpointer.inner flag]
          · simp only [Arena.put_other _ _ own] at unpoisoned ⊢
            exact shadows.cells reference unpoisoned

theorem attempt_panickedSave {program : Program S} {handle : Nat} {checkpointer : InMemoryCheckpointer}
    (found : program.handles[handle]? = some checkpointer) :
    program.attempt (.panickedSave handle) =
      { memory := program.memory.put checkpointer.inner
          { program.memory.cells checkpointer.inner with poisoned := true }
        handles := program.handles } := by
  simp only [attempt, found, InMemoryCheckpointer.panickedSave_eq]

theorem Shadows.panickedSave {harmless program : Program S} (shadows : Shadows harmless program)
    (handle : Nat) : Shadows harmless (program.attempt (.panickedSave handle)) := by
  cases found : program.handles[handle]? with
  | none =>
      simp only [Program.attempt, found]
      exact shadows
  | some checkpointer =>
      rw [attempt_panickedSave found]
      refine ⟨shadows.handles, shadows.next, ?_⟩
      intro reference unpoisoned
      by_cases own : reference = checkpointer.inner
      · rw [own, Arena.put_same] at unpoisoned
        cases unpoisoned
      · simp only [Arena.put_other _ _ own] at unpoisoned ⊢
        exact shadows.cells reference unpoisoned

/-- Every attempt keeps the two programs together. -/
theorem Shadows.attempt {harmless program : Program S} (shadows : Shadows harmless program)
    (sound : harmless.Sound) (attempt : Attempt S) :
    Shadows (harmless.step attempt.harmless) (program.attempt attempt) := by
  cases attempt with
  | panickedSave handle => exact shadows.panickedSave handle
  | panickedLoad handle => exact shadows
  | completed operation =>
      cases operation with
      | new => exact shadows.founds rfl
      | default => exact shadows.founds rfl
      | withState state => exact shadows.founds rfl
      | save handle state => exact shadows.save sound handle state
      | load handle => exact shadows
      | clone handle =>
          change Shadows (harmless.step (.clone handle)) (program.step (.clone handle))
          cases found : program.handles[handle]? with
          | none =>
              simp only [step, found, shadows.handle found]
              exact shadows
          | some checkpointer =>
              rw [step_clone found, step_clone (shadows.handle found)]
              exact ⟨by simp only [shadows.handles], shadows.next, shadows.cells⟩

/-- The harmless program follows the given one, which has poisoned no lock
that it has yet to allocate. -/
structure Followed (harmless program : Program S) : Prop where
  sound : harmless.Sound
  shadows : Shadows harmless program
  unused : forall reference, program.memory.next ≤ reference ->
    (program.memory.cells reference).poisoned = false

/-- A completed operation leaves the poison flags as they are. -/
theorem poisoned_step {program : Program S}
    (unused : forall reference, program.memory.next ≤ reference ->
      (program.memory.cells reference).poisoned = false)
    (operation : Operation S) (reference : Nat) :
    ((program.step operation).memory.cells reference).poisoned =
      (program.memory.cells reference).poisoned := by
  have founding : forall seed, operation.founds = some seed ->
      ((program.step operation).memory.cells reference).poisoned =
        (program.memory.cells reference).poisoned := by
    intro seed founds
    rw [step_founds program founds]
    by_cases fresh : reference = program.memory.next
    · rw [fresh, Arena.allocate_fresh, unused program.memory.next (Nat.le_refl _)]
      rfl
    · simp only [Arena.allocate, Function.update_of_ne fresh]
  cases operation with
  | new => exact founding none rfl
  | default => exact founding none rfl
  | withState state => exact founding (some state) rfl
  | load handle => rfl
  | clone handle =>
      cases found : program.handles[handle]? with
      | none => simp only [step, found]
      | some checkpointer => rw [step_clone found]
  | save handle state =>
      cases found : program.handles[handle]? with
      | none => simp only [step, found]
      | some checkpointer =>
          simp only [step, found]
          cases flag : (program.memory.cells checkpointer.inner).poisoned with
          | true => rw [InMemoryCheckpointer.save_of_poisoned state flag]
          | false =>
              rw [InMemoryCheckpointer.save_of_sound state flag]
              by_cases own : reference = checkpointer.inner
              · rw [own, Arena.put_same]
              · rw [Arena.put_other _ _ own]

/-- Only a panicking save poisons a lock, and none ever becomes sound again. -/
theorem poisoned_attempt {program : Program S}
    (unused : forall reference, program.memory.next ≤ reference ->
      (program.memory.cells reference).poisoned = false)
    (attempt : Attempt S) (reference : Nat) :
    ((program.attempt attempt).memory.cells reference).poisoned = true <->
      (program.memory.cells reference).poisoned = true ∨
        ∃ handle checkpointer, attempt = .panickedSave handle ∧
          program.handles[handle]? = some checkpointer ∧ checkpointer.inner = reference := by
  cases attempt with
  | completed operation =>
      change ((program.step operation).memory.cells reference).poisoned = true <-> _
      rw [poisoned_step unused operation reference]
      simp
  | panickedLoad handle =>
      change (program.memory.cells reference).poisoned = true <-> _
      simp
  | panickedSave handle =>
      cases found : program.handles[handle]? with
      | none =>
          simp only [Program.attempt, found]
          constructor
          · exact Or.inl
          · rintro (already | ⟨other, checkpointer, same, present, _⟩)
            · exact already
            · cases same
              rw [found] at present
              cases present
      | some checkpointer =>
          rw [attempt_panickedSave found]
          by_cases own : reference = checkpointer.inner
          · rw [own, Arena.put_same]
            constructor
            · intro _
              exact Or.inr ⟨handle, checkpointer, rfl, found, rfl⟩
            · intro _
              rfl
          · rw [Arena.put_other _ _ own]
            constructor
            · exact Or.inl
            · rintro (already | ⟨other, another, same, present, inner⟩)
              · exact already
              · cases same
                rw [found] at present
                cases present
                exact absurd inner.symm own

theorem start_followed : Followed (start : Program S) start := by
  constructor
  · exact start_sound
  · exact ⟨rfl, rfl, fun _ _ => rfl⟩
  · intro reference _
    rfl

/-- Every attempt keeps the two programs together and the unused locks sound. -/
theorem Followed.attempt {harmless program : Program S} (followed : Followed harmless program)
    (attempt : Attempt S) : Followed (harmless.step attempt.harmless) (program.attempt attempt) := by
  have together := followed.shadows.attempt followed.sound attempt
  refine ⟨step_sound attempt.harmless followed.sound, together, ?_⟩
  intro reference beyond
  have grown := next_step followed.sound attempt.harmless
  rw [together.next, followed.shadows.next] at grown
  have before := followed.unused reference (Nat.le_trans grown beyond)
  cases flag : ((program.attempt attempt).memory.cells reference).poisoned with
  | false => rfl
  | true =>
      rcases (poisoned_attempt followed.unused attempt reference).mp flag with
        already | ⟨handle, checkpointer, _, found, inner⟩
      · rw [before] at already
        cases already
      · rw [← followed.shadows.handles] at found
        have lower := followed.sound.reference_lt found
        rw [inner, followed.shadows.next] at lower
        exact absurd (Nat.lt_of_lt_of_le lower grown) (Nat.not_lt_of_le beyond)

end Program

/-! ## Histories with panics -/

/-- The run of a list of attempts from the empty program. -/
def attemptsOf {S : Type} (attempts : List (Attempt S)) : Timeline (Program S) (Attempt S) where
  step := Program.attempt
  start := Program.start
  events := attempts

theorem followed_at {S : Type} (attempts : List (Attempt S)) (instant : Nat) :
    Program.Followed ((runOf (attempts.map Attempt.harmless)).stateAt instant)
      ((attemptsOf attempts).stateAt instant) := by
  apply Timeline.simulates (attemptsOf attempts) (runOf (attempts.map Attempt.harmless))
    Attempt.harmless (fun program harmless => Program.Followed harmless program)
  · rfl
  · exact Program.start_followed
  · intro program harmless attempt followed
    exact followed.attempt attempt

/-- A sequence of attempts that use only handles that exist by then. -/
structure Trial (S : Type) where
  attempts : List (Attempt S)
  existing : forall instant attempt handle, attempts[instant]? = some attempt ->
    attempt.uses = some handle -> handle < ((attemptsOf attempts).stateAt instant).handles.length

namespace Trial

variable {S : Type} (trial : Trial S)

def programAt (instant : Nat) : Program S :=
  (attemptsOf trial.attempts).stateAt instant

theorem harmless_event (instant : Nat) :
    (trial.attempts.map Attempt.harmless)[instant]? = (trial.attempts[instant]?).map Attempt.harmless :=
  List.getElem?_map

/-- The same history, in which the panicking operations only looked. -/
def harmless : Usage S where
  operations := trial.attempts.map Attempt.harmless
  existing := by
    intro instant operation handle occurs uses
    rw [harmless_event] at occurs
    rcases Option.map_eq_some_iff.mp occurs with ⟨attempt, attempted, same⟩
    rw [← same, Attempt.uses_harmless] at uses
    rw [(followed_at trial.attempts instant).shadows.handles]
    exact trial.existing instant attempt handle attempted uses

/-- A save to the handle's family panicked before the instant. -/
def Panicked (handle instant : Nat) : Prop :=
  ∃ earlier member, earlier < instant ∧ trial.attempts[earlier]? = some (.panickedSave member) ∧
    trial.harmless.SameFamily member handle

variable {trial}

theorem followed (instant : Nat) :
    Program.Followed (trial.harmless.programAt instant) (trial.programAt instant) :=
  followed_at trial.attempts instant

theorem programAt_succ {instant : Nat} {attempt : Attempt S}
    (occurs : trial.attempts[instant]? = some attempt) :
    trial.programAt (instant + 1) = (trial.programAt instant).attempt attempt :=
  (attemptsOf trial.attempts).stateAt_succ occurs

/-- A lock is poisoned when a save through a reference to it has panicked. -/
theorem poisoned_iff (reference : Nat) : forall instant, instant ≤ trial.attempts.length ->
    (((trial.programAt instant).memory.cells reference).poisoned = true <->
      ∃ earlier member checkpointer, earlier < instant ∧
        trial.attempts[earlier]? = some (.panickedSave member) ∧
        (trial.programAt earlier).handles[member]? = some checkpointer ∧
        checkpointer.inner = reference) := by
  apply (attemptsOf trial.attempts).induction
  · constructor
    · intro poisoned
      cases poisoned
    · rintro ⟨earlier, _, _, before, _⟩
      exact absurd before (Nat.not_lt_zero earlier)
  · intro instant attempt occurs ih
    rw [programAt_succ occurs, Program.poisoned_attempt (followed instant).unused, ih]
    constructor
    · rintro (⟨earlier, member, checkpointer, before, rest⟩ | ⟨member, checkpointer, same, found, inner⟩)
      · exact ⟨earlier, member, checkpointer, Nat.lt_succ_of_lt before, rest⟩
      · refine ⟨instant, member, checkpointer, Nat.lt_succ_self instant, ?_, found, inner⟩
        rw [← same]
        exact occurs
    · rintro ⟨earlier, member, checkpointer, before, panicked, found, inner⟩
      rcases Nat.lt_or_eq_of_le (Nat.le_of_lt_succ before) with past | now
      · exact Or.inl ⟨earlier, member, checkpointer, past, panicked, found, inner⟩
      · subst now
        exact Or.inr ⟨member, checkpointer, Option.some.inj (occurs.symm.trans panicked), found, inner⟩

/-- The lock behind a handle is poisoned when a save to its family has
panicked. -/
theorem poisoned_iff_panicked {instant handle : Nat} {checkpointer : InMemoryCheckpointer}
    (bound : instant ≤ trial.attempts.length)
    (found : (trial.programAt instant).handles[handle]? = some checkpointer) :
    ((trial.programAt instant).memory.cells checkpointer.inner).poisoned = true <->
      trial.Panicked handle instant := by
  have limit : instant ≤ trial.harmless.operations.length := by
    simpa [harmless] using bound
  rw [← (followed instant).shadows.handles] at found
  have looked : forall earlier member : Nat,
      trial.attempts[earlier]? = some (Attempt.panickedSave member) ->
      trial.harmless.operations[earlier]? = some (Operation.load member) := by
    intro earlier member panicked
    change (trial.attempts.map Attempt.harmless)[earlier]? = some (Operation.load member)
    rw [harmless_event, panicked]
    rfl
  rw [poisoned_iff _ instant bound]
  constructor
  · rintro ⟨earlier, member, writer, before, panicked, present, inner⟩
    rw [← (followed earlier).shadows.handles] at present
    have now := Usage.found_later (Nat.le_of_lt before) limit present
    exact ⟨earlier, member, before, panicked,
      Usage.sameFamily_of_inner_eq limit member handle writer checkpointer now found inner⟩
  · rintro ⟨earlier, member, before, panicked, family⟩
    rcases Usage.found_used (looked earlier member panicked) rfl with ⟨writer, present⟩
    have now := Usage.found_later (Nat.le_of_lt before) limit present
    have same := family.reference_eq
    rw [Usage.reference_of_found limit now, Usage.reference_of_found limit found] at same
    rw [(followed earlier).shadows.handles] at present
    exact ⟨earlier, member, writer, before, panicked, present, Option.some.inj same⟩

/-- Behind a sound lock every load and save is as if nothing had panicked. -/
theorem calm_operations {instant handle : Nat} {checkpointer : InMemoryCheckpointer}
    (bound : instant ≤ trial.attempts.length)
    (found : (trial.programAt instant).handles[handle]? = some checkpointer)
    (sound : ((trial.programAt instant).memory.cells checkpointer.inner).poisoned = false) :
    (forall value, (trial.programAt instant).loads handle = some (.ok value) <->
      trial.harmless.LastValue handle instant value) ∧
    forall state, (trial.programAt instant).saves handle state = some (.ok ()) := by
  have limit : instant ≤ trial.harmless.operations.length := by
    simpa [harmless] using bound
  have same := (followed instant).shadows.cells checkpointer.inner sound
  have last : trial.harmless.LastValue handle instant
      ((trial.programAt instant).memory.cells checkpointer.inner).value := by
    have present := found
    rw [← (followed instant).shadows.handles] at present
    rw [← same]
    exact Usage.cellAt_lastValue limit handle checkpointer present
  unfold Program.loads Program.saves
  rw [found]
  constructor
  · intro value
    rw [Option.map_some, InMemoryCheckpointer.load_of_sound sound]
    constructor
    · intro held
      rw [← Except.ok.inj (Option.some.inj held)]
      exact last
    · intro other
      rw [last.unique other]
  · intro state
    rw [Option.map_some, InMemoryCheckpointer.save_of_sound state sound]

/-- Behind a poisoned lock every load and save reports it. -/
theorem poisoned_operations {instant handle : Nat} {checkpointer : InMemoryCheckpointer}
    (found : (trial.programAt instant).handles[handle]? = some checkpointer)
    (poisoned : ((trial.programAt instant).memory.cells checkpointer.inner).poisoned = true) :
    (trial.programAt instant).loads handle = some (.error poisonedOnRead) ∧
    forall state, (trial.programAt instant).saves handle state = some (.error poisonedOnWrite) := by
  unfold Program.loads Program.saves
  rw [found]
  refine ⟨congrArg some (InMemoryCheckpointer.load_of_poisoned poisoned), ?_⟩
  intro state
  rw [Option.map_some, InMemoryCheckpointer.save_of_poisoned state poisoned]

/-- A family in which a save has panicked reports the poisoned lock at every
operation from then on.  All other families keep working as if nothing had
panicked: loads return the last saved value, and saves succeed. -/
theorem panics_lose_their_family (trial : Trial S) (instant handle : Nat)
    (bound : instant ≤ trial.attempts.length)
    (known : handle < (trial.programAt instant).handles.length) :
    (trial.Panicked handle instant ->
      (trial.programAt instant).loads handle = some (.error poisonedOnRead) ∧
      forall state, (trial.programAt instant).saves handle state = some (.error poisonedOnWrite)) ∧
    (¬ trial.Panicked handle instant ->
      (forall value, (trial.programAt instant).loads handle = some (.ok value) <->
        trial.harmless.LastValue handle instant value) ∧
      forall state, (trial.programAt instant).saves handle state = some (.ok ())) := by
  have found := List.getElem?_eq_getElem known
  have flagged := poisoned_iff_panicked bound found
  constructor
  · intro panicked
    exact poisoned_operations found (flagged.mpr panicked)
  · intro calm
    apply calm_operations bound found
    exact eq_false_of_ne_true (fun poisoned => calm (flagged.mp poisoned))

/-- One of two clones panics in a save, beside an unrelated checkpointer. -/
def twoFamilies : Trial String where
  attempts :=
    [.completed .new, .completed (.clone 0), .completed (.withState "Idle"), .panickedSave 1]
  existing := by
    intro instant attempt handle occurs uses
    match instant with
    | 0 =>
        cases occurs
        cases uses
    | 1 =>
        cases occurs
        cases uses
        decide
    | 2 =>
        cases occurs
        cases uses
    | 3 =>
        cases occurs
        cases uses
        decide
    | later + 4 => cases occurs

theorem twoFamilies_panic_is_confined :
    (twoFamilies.programAt 4).loads 0 = some (.error poisonedOnRead) ∧
      (twoFamilies.programAt 4).saves 2 "Done" = some (.ok ()) := by
  have cloned : twoFamilies.harmless.SameFamily 0 1 := Relation.EqvGen.rel 0 1 ⟨1, rfl, rfl⟩
  have lost : twoFamilies.Panicked 0 4 := ⟨3, 1, by decide, rfl, cloned.symm⟩
  have apart : ¬ twoFamilies.Panicked 2 4 := by
    rintro ⟨earlier, member, before, panicked, family⟩
    have last : earlier = 3 ∧ member = 1 := by
      match earlier with
      | 0 | 1 | 2 => cases panicked
      | 3 =>
          cases panicked
          exact ⟨rfl, rfl⟩
      | later + 4 => omega
    rcases last with ⟨_, same⟩
    subst same
    have references := family.reference_eq
    revert references
    decide
  exact ⟨((panics_lose_their_family twoFamilies 4 0 (by decide) (by decide)).1 lost).1,
    ((panics_lose_their_family twoFamilies 4 2 (by decide) (by decide)).2 apart).2 "Done"⟩

end Trial

end Persistence
end Caulk
