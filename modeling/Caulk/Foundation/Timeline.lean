import Mathlib.Data.List.Basic
import Mathlib.Data.Nat.Init

namespace Foundation

/-!
# Timelines of a deterministic machine

A timeline is a start state, a transition function and a finite list of
events.  An instant is a natural number `n`: the state there is the one
reached after the first `n` events.  Interleavings are not treated
separately, because an interleaving is one such list of events; an event that
is not enabled leaves the state alone.

Safety statements about a timeline usually mention earlier instants ("the
file had this content at some moment during the call").  The rules here are
therefore stated for predicates of the instant, not of the state: an
invariant may look back at the whole history before it.
-/

universe u v w

/-- A start state, a total transition function and a finite list of events. -/
structure Timeline (State : Type u) (Event : Type v) where
  step : State -> Event -> State
  start : State
  events : List Event

namespace Timeline

variable {State : Type u} {Event : Type v} {Value : Type w}

/-- The state after the first `instant` events. -/
def stateAt (run : Timeline State Event) (instant : Nat) : State :=
  (run.events.take instant).foldl run.step run.start

/-- The number of events, and hence the last instant. -/
def length (run : Timeline State Event) : Nat :=
  run.events.length

@[simp] theorem stateAt_zero (run : Timeline State Event) : run.stateAt 0 = run.start := by
  simp [stateAt]

/-- One event leads from an instant to the next. -/
theorem stateAt_succ (run : Timeline State Event) {instant : Nat} {event : Event}
    (occurs : run.events[instant]? = some event) :
    run.stateAt (instant + 1) = run.step (run.stateAt instant) event := by
  simp only [stateAt]
  rw [List.take_add_one, occurs, List.foldl_append]
  rfl

/-- An instant before the end carries an event. -/
theorem event_at (run : Timeline State Event) {instant : Nat} (early : instant < run.length) :
    ∃ event, run.events[instant]? = some event :=
  ⟨run.events.get ⟨instant, early⟩, List.getElem?_eq_getElem early⟩

theorem lt_length (run : Timeline State Event) {instant : Nat} {event : Event}
    (occurs : run.events[instant]? = some event) : instant < run.length := by
  rcases List.getElem?_eq_some_iff.mp occurs with ⟨early, _⟩
  exact early

/-- After the last event nothing changes. -/
theorem stateAt_of_length_le (run : Timeline State Event) {instant : Nat}
    (late : run.length ≤ instant) : run.stateAt instant = run.stateAt run.length := by
  unfold stateAt
  rw [List.take_of_length_le late, length, List.take_length]

/-- Induction over the instants of a timeline.  The predicate sees the
instant, so it may refer to everything that happened before it. -/
theorem induction (run : Timeline State Event) (holds : Nat -> Prop) (first : holds 0)
    (next : forall instant event, run.events[instant]? = some event ->
      holds instant -> holds (instant + 1)) :
    forall instant, instant ≤ run.length -> holds instant := by
  intro instant
  induction instant with
  | zero =>
      intro _
      exact first
  | succ instant ih =>
      intro bound
      rcases run.event_at (Nat.lt_of_succ_le bound) with ⟨event, occurs⟩
      exact next instant event occurs (ih (Nat.le_of_succ_le bound))

/-- The same induction, started at a later instant. -/
theorem induction_from (run : Timeline State Event) (holds : Nat -> Prop) {first : Nat}
    (base : holds first)
    (next : forall instant event, first ≤ instant -> run.events[instant]? = some event ->
      holds instant -> holds (instant + 1)) :
    forall instant, first ≤ instant -> instant ≤ run.length -> holds instant := by
  intro instant later
  induction instant, later using Nat.le_induction with
  | base =>
      intro _
      exact base
  | succ instant later ih =>
      intro bound
      rcases run.event_at (Nat.lt_of_succ_le bound) with ⟨event, occurs⟩
      exact next instant event later occurs (ih (Nat.le_of_succ_le bound))

/-- A property of single states that every step keeps holds at every instant. -/
theorem invariant (run : Timeline State Event) (holds : State -> Prop) (first : holds run.start)
    (kept : forall state event, holds state -> holds (run.step state event)) :
    forall instant, holds (run.stateAt instant) := by
  intro instant
  unfold stateAt
  generalize run.start = state at first
  induction run.events.take instant generalizing state with
  | nil => exact first
  | cons event rest ih => exact ih (run.step state event) (kept state event first)

/-- Two machines that move alike under translated events stay related. -/
theorem simulates {State' : Type u} {Event' : Type v} (run : Timeline State Event)
    (other : Timeline State' Event') (translate : Event -> Event') (related : State -> State' -> Prop)
    (sameEvents : other.events = run.events.map translate) (first : related run.start other.start)
    (next : forall state state' event, related state state' ->
      related (run.step state event) (other.step state' (translate event))) :
    forall instant, related (run.stateAt instant) (other.stateAt instant) := by
  intro instant
  unfold stateAt
  rw [sameEvents, ← List.map_take, List.foldl_map]
  generalize run.start = state, other.start = state' at first
  induction run.events.take instant generalizing state state' with
  | nil => exact first
  | cons event rest ih => exact ih _ _ (next state state' event first)

/-- Where a property is gained between two instants there is one step that
gains it. -/
theorem exists_gain (run : Timeline State Event) (holds : State -> Prop) {early late : Nat}
    (ordered : early ≤ late) (before : ¬ holds (run.stateAt early)) (after : holds (run.stateAt late)) :
    ∃ instant, early ≤ instant ∧ instant < late ∧
      ¬ holds (run.stateAt instant) ∧ holds (run.stateAt (instant + 1)) := by
  induction late, ordered using Nat.le_induction with
  | base => exact absurd after before
  | succ late ordered ih =>
      by_cases already : holds (run.stateAt late)
      · rcases ih already with ⟨instant, later, earlier, lacks, gains⟩
        exact ⟨instant, later, Nat.lt_succ_of_lt earlier, lacks, gains⟩
      · exact ⟨late, ordered, Nat.lt_succ_self late, already, after⟩

/-! ## Continuations -/

/-- The timeline that runs the first `instant` events of `run` and then `more`. -/
def continueWith (run : Timeline State Event) (instant : Nat) (more : List Event) :
    Timeline State Event :=
  { run with events := run.events.take instant ++ more }

/-- A continuation has the same past. -/
theorem continueWith_stateAt (run : Timeline State Event) {instant : Nat} (more : List Event)
    (bound : instant ≤ run.length) {earlier : Nat} (past : earlier ≤ instant) :
    (run.continueWith instant more).stateAt earlier = run.stateAt earlier := by
  simp only [stateAt, continueWith]
  have long : earlier ≤ (run.events.take instant).length := by
    rw [List.length_take]
    exact Nat.le_min.mpr ⟨past, Nat.le_trans past bound⟩
  rw [List.take_append_of_le_length long, List.take_take, Nat.min_eq_left past]

theorem continueWith_event_past (run : Timeline State Event) {instant : Nat} (more : List Event)
    (bound : instant ≤ run.length) {earlier : Nat} (past : earlier < instant) :
    (run.continueWith instant more).events[earlier]? = run.events[earlier]? := by
  simp only [continueWith]
  have long : earlier < (run.events.take instant).length := by
    rw [List.length_take]
    exact Nat.lt_min.mpr ⟨past, Nat.lt_of_lt_of_le past bound⟩
  rw [List.getElem?_append_left long, List.getElem?_take_of_lt past]

/-- The events after the cut are those of the continuation. -/
theorem continueWith_event_new (run : Timeline State Event) {instant : Nat} (more : List Event)
    (bound : instant ≤ run.length) (offset : Nat) :
    (run.continueWith instant more).events[instant + offset]? = more[offset]? := by
  simp only [continueWith]
  have cut : (run.events.take instant).length = instant := by
    rw [List.length_take]
    exact Nat.min_eq_left bound
  rw [List.getElem?_append_right (by omega), cut, Nat.add_sub_cancel_left]

/-! ## Observations stamped with ever larger stamps -/

section Stamped

variable {Stamp : Type w} [LT Stamp]

/-- Whenever the observation changes to something, its stamp exceeds every
stamp observed before.  It may also disappear and come back later. -/
def FreshlyStamped (run : Timeline State Event) (observe : State -> Option Value)
    (stamp : Value -> Stamp) : Prop :=
  forall instant, instant < run.length ->
    observe (run.stateAt (instant + 1)) = observe (run.stateAt instant) ∨
    observe (run.stateAt (instant + 1)) = none ∨
    ∃ value, observe (run.stateAt (instant + 1)) = some value ∧
      forall earlier old, earlier ≤ instant -> observe (run.stateAt earlier) = some old ->
        stamp old < stamp value

/-- From an observed value on, the observation is that value without
interruption, or it is gone, or it carries a larger stamp. -/
private theorem FreshlyStamped.since {run : Timeline State Event}
    {observe : State -> Option Value} {stamp : Value -> Stamp}
    (fresh : run.FreshlyStamped observe stamp) {early : Nat} {value : Value}
    (observed : observe (run.stateAt early) = some value) :
    forall late, early ≤ late -> late ≤ run.length ->
      (forall between, early ≤ between -> between ≤ late ->
        observe (run.stateAt between) = some value) ∨
      observe (run.stateAt late) = none ∨
      ∃ newer, observe (run.stateAt late) = some newer ∧ stamp value < stamp newer := by
  intro late ordered
  induction late, ordered using Nat.le_induction with
  | base =>
      intro _
      left
      intro between later earlier
      have same : between = early := Nat.le_antisymm earlier later
      rw [same]
      exact observed
  | succ late ordered ih =>
      intro bound
      rcases fresh late (Nat.lt_of_succ_le bound) with same | gone | ⟨newer, appears, exceeds⟩
      · rcases ih (Nat.le_of_succ_le bound) with steady | gone | larger
        · left
          intro between later earlier
          rcases Nat.lt_or_eq_of_le earlier with before | last
          · exact steady between later (Nat.le_of_lt_succ before)
          · rw [last, same]
            exact steady late ordered (Nat.le_refl late)
        · right; left
          rw [same]
          exact gone
        · right; right
          rw [same]
          exact larger
      · right; left
        exact gone
      · right; right
        exact ⟨newer, appears, exceeds early value ordered observed⟩

/-- The same stamp at two instants means the same value throughout. -/
theorem FreshlyStamped.steady {run : Timeline State Event}
    {observe : State -> Option Value} {stamp : Value -> Stamp}
    (fresh : run.FreshlyStamped observe stamp) (irreflexive : forall mark : Stamp, ¬ mark < mark)
    {early late : Nat} {value other : Value}
    (ordered : early ≤ late) (bound : late ≤ run.length)
    (first : observe (run.stateAt early) = some value)
    (last : observe (run.stateAt late) = some other) (same : stamp value = stamp other)
    (between : Nat) (later : early ≤ between) (earlier : between ≤ late) :
    observe (run.stateAt between) = some value := by
  rcases fresh.since first late ordered bound with steady | gone | ⟨newer, appears, exceeds⟩
  · exact steady between later earlier
  · rw [last] at gone
    cases gone
  · rw [last] at appears
    cases appears
    rw [same] at exceeds
    exact absurd exceeds (irreflexive (stamp other))

end Stamped

end Timeline

end Foundation
