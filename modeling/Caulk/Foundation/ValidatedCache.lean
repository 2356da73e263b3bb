import Caulk.Foundation.Storage
import Caulk.Foundation.Timeline

namespace Foundation

/-!
# Caches validated by a stamp

A source answers two questions about a key: which stamp its value carries, and
which value it has.  The stamp is cheap and the value is not, so a cache keeps
values with the stamps seen before they were loaded, and loads again only when
the stamp has changed.  The source may change at any time and in any way, and
both questions may fail.

A run of such a cache is transparent when every fetch answers what the source
would have answered without it.  What can go wrong is one situation, a
collision: two fetches of a key see the same stamp, the first of them finds a
value, the second would find another answer, and nothing in between made the
cache forget or look at the key successfully.  A run is transparent exactly
when it has no collision.
-/

universe u v w z

/-- The answers of a source at one instant. -/
structure Source (Key : Type u) (Stamp : Type v) (Value : Type w) (Error : Type z) where
  stamp : Key -> Except Error Stamp
  load : Key -> Except Error Value

/-- The answer without a cache. -/
def Source.direct {Key : Type u} {Stamp : Type v} {Value : Type w} {Error : Type z}
    (source : Source Key Stamp Value Error) (key : Key) : Except Error Value :=
  match source.stamp key with
  | .error error => .error error
  | .ok _ => source.load key

/-- A source and the values loaded from it, with their stamps. -/
structure ValidatedCache (Key : Type u) (Stamp : Type v) (Value : Type w) (Error : Type z) where
  source : Source Key Stamp Value Error
  memory : HashMap Key (Value × Stamp)

namespace ValidatedCache

variable {Key : Type u} {Stamp : Type v} {Value : Type w} {Error : Type z}

inductive Event (Key : Type u) (Stamp : Type v) (Value : Type w) (Error : Type z) where
  | fetch (key : Key)
  | forget
  | change (source : Source Key Stamp Value Error)

section Steps

variable [DecidableEq Stamp]

/-- The remembered value, if it carries this stamp. -/
def remembered (cache : ValidatedCache Key Stamp Value Error) (key : Key) (stamp : Stamp) :
    Option Value :=
  match cache.memory key with
  | none => none
  | some (value, seen) => if seen = stamp then some value else none

/-- The answer of the cache. -/
def answer (cache : ValidatedCache Key Stamp Value Error) (key : Key) : Except Error Value :=
  match cache.source.stamp key with
  | .error error => .error error
  | .ok stamp =>
      match cache.remembered key stamp with
      | some value => .ok value
      | none => cache.source.load key

variable [DecidableEq Key]

/-- What a fetch leaves in the memory. -/
def remember (cache : ValidatedCache Key Stamp Value Error) (key : Key) :
    HashMap Key (Value × Stamp) :=
  match cache.source.stamp key with
  | .error _ => cache.memory
  | .ok stamp =>
      match cache.remembered key stamp, cache.source.load key with
      | none, .ok value => cache.memory.insert key (value, stamp)
      | _, _ => cache.memory

def step (cache : ValidatedCache Key Stamp Value Error) :
    Event Key Stamp Value Error -> ValidatedCache Key Stamp Value Error
  | .fetch key => { cache with memory := cache.remember key }
  | .forget => { cache with memory := HashMap.empty }
  | .change source => { cache with source := source }

end Steps

/-! ## What a fetch answers and remembers -/

section Fetches

variable [DecidableEq Stamp] {cache : ValidatedCache Key Stamp Value Error} {key other : Key}
  {value : Value} {stamp : Stamp}

theorem remembered_eq_some_iff :
    cache.remembered key stamp = some value <-> cache.memory key = some (value, stamp) := by
  unfold remembered
  cases entry : cache.memory key with
  | none => simp
  | some pair =>
      rcases pair with ⟨kept, seen⟩
      by_cases same : seen = stamp
      · simp [same]
      · simp [same]

/-- The cache differs from its source at most where it recalls something. -/
theorem answer_eq_direct
    (recalled : forall stamp value, cache.source.stamp key = .ok stamp ->
      cache.memory key = some (value, stamp) -> cache.source.load key = .ok value) :
    cache.answer key = cache.source.direct key := by
  unfold answer Source.direct
  cases seen : cache.source.stamp key with
  | error error => rfl
  | ok stamp =>
      simp only
      cases hit : cache.remembered key stamp with
      | none => rfl
      | some value => exact (recalled stamp value seen (remembered_eq_some_iff.mp hit)).symm

theorem answer_of_memory (entry : cache.memory key = some (value, stamp))
    (seen : cache.source.stamp key = .ok stamp) : cache.answer key = .ok value := by
  simp only [answer, seen, remembered_eq_some_iff.mpr entry]

variable [DecidableEq Key]

theorem remember_other (different : other ≠ key) : cache.remember key other = cache.memory other := by
  unfold remember
  cases cache.source.stamp key with
  | error error => rfl
  | ok stamp =>
      simp only
      cases cache.remembered key stamp with
      | some value => rfl
      | none =>
          cases cache.source.load key with
          | error error => rfl
          | ok value => exact HashMap.insert_other cache.memory _ different

/-- After an answer the memory holds it, with the stamp seen. -/
theorem remember_of_answer (answered : cache.answer key = .ok value)
    (seen : cache.source.stamp key = .ok stamp) :
    cache.remember key key = some (value, stamp) := by
  unfold answer at answered
  unfold remember
  simp only [seen] at answered ⊢
  cases hit : cache.remembered key stamp with
  | none =>
      simp only [hit] at answered ⊢
      simp only [answered]
      exact HashMap.insert_same cache.memory key (value, stamp)
  | some kept =>
      simp only [hit] at answered ⊢
      rw [← Except.ok.inj answered]
      exact remembered_eq_some_iff.mp hit

/-- A failed fetch leaves the memory as it was. -/
theorem remember_of_failure {error : Error} (failed : cache.answer key = .error error) :
    cache.remember key = cache.memory := by
  unfold answer at failed
  unfold remember
  cases seen : cache.source.stamp key with
  | error _ => rfl
  | ok stamp =>
      simp only [seen] at failed ⊢
      cases hit : cache.remembered key stamp with
      | some kept => rfl
      | none =>
          simp only [hit] at failed ⊢
          simp only [failed]

end Fetches

/-! ## Runs -/

section Runs

section Statements

variable (run : Timeline (ValidatedCache Key Stamp Value Error) (Event Key Stamp Value Error))

/-- A fetch happened here to which the source had this answer, with this stamp. -/
structure Offered (instant : Nat) (key : Key) (value : Value) (stamp : Stamp) : Prop where
  fetched : run.events[instant]? = some (.fetch key)
  stamped : (run.stateAt instant).source.stamp key = .ok stamp
  loaded : (run.stateAt instant).source.load key = .ok value

/-- The memory was not emptied between two instants, and the source offered
nothing for the key. -/
structure Undisturbed (first last : Nat) (key : Key) : Prop where
  kept : forall between, first < between -> between < last -> run.events[between]? ≠ some .forget
  silent : forall between value stamp, first < between -> between < last ->
    ¬ Offered run between key value stamp

/-- The last offer for the key before an instant, if it was not forgotten. -/
def LastOffer (instant : Nat) (key : Key) (value : Value) (stamp : Stamp) : Prop :=
  ∃ first, first < instant ∧ Offered run first key value stamp ∧ Undisturbed run first instant key

/-- A fetch finds the stamp of the last offer, but the source has another
answer by now. -/
structure Collision (instant : Nat) (key : Key) (value : Value) (stamp : Stamp) : Prop where
  fetched : run.events[instant]? = some (.fetch key)
  stamped : (run.stateAt instant).source.stamp key = .ok stamp
  offered : LastOffer run instant key value stamp
  changed : (run.stateAt instant).source.load key ≠ .ok value

/-- The fetch at an instant, if there is one, answers what the source does. -/
def Transparent [DecidableEq Stamp] (instant : Nat) : Prop :=
  forall key, run.events[instant]? = some (.fetch key) ->
    (run.stateAt instant).answer key = (run.stateAt instant).source.direct key

/-- The memory consists of the last offers. -/
def Remembers (instant : Nat) : Prop :=
  forall key value stamp, (run.stateAt instant).memory key = some (value, stamp) <->
    LastOffer run instant key value stamp

end Statements

section History

variable {run : Timeline (ValidatedCache Key Stamp Value Error) (Event Key Stamp Value Error)}
  {instant : Nat} {key : Key} {value : Value} {stamp : Stamp}

theorem Offered.direct_eq (offered : Offered run instant key value stamp) :
    (run.stateAt instant).source.direct key = .ok value := by
  simp only [Source.direct, offered.stamped, offered.loaded]

/-- The source has at most one offer at an instant. -/
theorem Offered.unique {other : Value} {mark : Stamp} (offered : Offered run instant key value stamp)
    (again : Offered run instant key other mark) : other = value ∧ mark = stamp := by
  have sameStamp := offered.stamped.symm.trans again.stamped
  have sameValue := offered.loaded.symm.trans again.loaded
  exact ⟨(Except.ok.inj sameValue).symm, (Except.ok.inj sameStamp).symm⟩

/-- A fetch without an offer fails. -/
theorem direct_of_no_offer (fetched : run.events[instant]? = some (.fetch key))
    (silent : forall value stamp, ¬ Offered run instant key value stamp) :
    ∃ error, (run.stateAt instant).source.direct key = .error error := by
  unfold Source.direct
  cases seen : (run.stateAt instant).source.stamp key with
  | error error => exact ⟨error, rfl⟩
  | ok stamp =>
      cases found : (run.stateAt instant).source.load key with
      | error error => exact ⟨error, rfl⟩
      | ok value => exact absurd ⟨fetched, seen, found⟩ (silent value stamp)

/-- The last offer at the next instant: the one just made, or an older one
that this event left in place. -/
theorem lastOffer_succ :
    LastOffer run (instant + 1) key value stamp <->
      Offered run instant key value stamp ∨
        (LastOffer run instant key value stamp ∧ run.events[instant]? ≠ some .forget ∧
          forall other mark, ¬ Offered run instant key other mark) := by
  constructor
  · rintro ⟨first, before, offered, undisturbed⟩
    rcases Nat.lt_or_eq_of_le (Nat.le_of_lt_succ before) with earlier | last
    · right
      refine ⟨⟨first, earlier, offered, ?_, ?_⟩, ?_, ?_⟩
      · intro between later ended
        exact undisturbed.kept between later (Nat.lt_succ_of_lt ended)
      · intro between value stamp later ended
        exact undisturbed.silent between value stamp later (Nat.lt_succ_of_lt ended)
      · exact undisturbed.kept instant earlier (Nat.lt_succ_self instant)
      · intro other mark
        exact undisturbed.silent instant other mark earlier (Nat.lt_succ_self instant)
    · left
      rw [← last]
      exact offered
  · intro cases
    rcases cases with offered | ⟨⟨first, before, offered, undisturbed⟩, kept, silent⟩
    · refine ⟨instant, Nat.lt_succ_self instant, offered, ?_, ?_⟩
      · intro between later ended
        omega
      · intro between value stamp later ended
        omega
    · refine ⟨first, Nat.lt_succ_of_lt before, offered, ?_, ?_⟩
      · intro between later ended
        rcases Nat.lt_or_eq_of_le (Nat.le_of_lt_succ ended) with earlier | last
        · exact undisturbed.kept between later earlier
        · rw [last]
          exact kept
      · intro between value stamp later ended
        rcases Nat.lt_or_eq_of_le (Nat.le_of_lt_succ ended) with earlier | last
        · exact undisturbed.silent between value stamp later earlier
        · rw [last]
          exact silent value stamp

end History

variable [DecidableEq Stamp] [DecidableEq Key]

/-- Events on a cache that remembers nothing at first. -/
def fresh (source : Source Key Stamp Value Error) (events : List (Event Key Stamp Value Error)) :
    Timeline (ValidatedCache Key Stamp Value Error) (Event Key Stamp Value Error) where
  step := step
  start := { source := source, memory := HashMap.empty }
  events := events

variable {source : Source Key Stamp Value Error} {events : List (Event Key Stamp Value Error)}
  {instant : Nat} {key : Key} {value : Value} {stamp : Stamp}

theorem remembers_zero : Remembers (fresh source events) 0 := by
  intro key value stamp
  constructor
  · intro entry
    rw [Timeline.stateAt_zero] at entry
    cases entry
  · rintro ⟨first, before, _⟩
    exact absurd before (Nat.not_lt_zero first)

/-- A transparent fetch leaves in the memory what the source offered, or leaves
the memory alone. -/
theorem remember_of_transparent {run : Timeline (ValidatedCache Key Stamp Value Error) (Event Key Stamp Value Error)}
    (fetched : run.events[instant]? = some (.fetch key)) (transparent : Transparent run instant) :
    (∃ value stamp, Offered run instant key value stamp ∧
      (run.stateAt instant).remember key key = some (value, stamp)) ∨
    ((forall value stamp, ¬ Offered run instant key value stamp) ∧
      (run.stateAt instant).remember key = (run.stateAt instant).memory) := by
  have agrees := transparent key fetched
  by_cases some : ∃ value stamp, Offered run instant key value stamp
  · rcases some with ⟨value, stamp, offered⟩
    left
    refine ⟨value, stamp, offered, ?_⟩
    apply remember_of_answer _ offered.stamped
    rw [agrees, offered.direct_eq]
  · have silent : forall value stamp, ¬ Offered run instant key value stamp := by
      intro value stamp offered
      exact some ⟨value, stamp, offered⟩
    right
    refine ⟨silent, ?_⟩
    rcases direct_of_no_offer fetched silent with ⟨error, failed⟩
    apply remember_of_failure
    rw [agrees, failed]

theorem remembers_succ {event : Event Key Stamp Value Error}
    (occurs : (fresh source events).events[instant]? = some event)
    (transparent : Transparent (fresh source events) instant)
    (remembers : Remembers (fresh source events) instant) :
    Remembers (fresh source events) (instant + 1) := by
  intro key value stamp
  rw [lastOffer_succ, ← remembers key value stamp, Timeline.stateAt_succ _ occurs]
  have quiet : forall other, event ≠ .fetch other ->
      forall value stamp, ¬ Offered (fresh source events) instant other value stamp := by
    intro other different value stamp offered
    exact different (Option.some.inj (occurs.symm.trans offered.fetched))
  cases event with
  | forget =>
      constructor
      · intro entry
        cases entry
      · rintro (offered | ⟨_, kept, _⟩)
        · exact absurd offered (quiet key (by simp) value stamp)
        · exact absurd occurs kept
  | change next =>
      constructor
      · intro entry
        right
        refine ⟨entry, ?_, quiet key (by simp)⟩
        rw [occurs]
        simp
      · rintro (offered | ⟨entry, _⟩)
        · exact absurd offered (quiet key (by simp) value stamp)
        · exact entry
  | fetch fetched =>
      have kept : (fresh source events).events[instant]? ≠ some .forget := by
        rw [occurs]
        simp
      change ((fresh source events).stateAt instant).remember fetched key = some (value, stamp) <-> _
      by_cases same : key = fetched
      · subst same
        rcases remember_of_transparent occurs transparent with ⟨found, seen, offered, after⟩ | ⟨silent, after⟩
        · rw [after]
          constructor
          · intro entry
            cases entry
            exact Or.inl offered
          · rintro (again | ⟨_, _, silent⟩)
            · rcases offered.unique again with ⟨sameValue, sameStamp⟩
              rw [sameValue, sameStamp]
            · exact absurd offered (silent found seen)
        · rw [after]
          constructor
          · intro entry
            exact Or.inr ⟨entry, kept, silent⟩
          · rintro (offered | ⟨entry, _⟩)
            · exact absurd offered (silent value stamp)
            · exact entry
      · have silent := quiet key (by simpa using fun equal => same equal.symm)
        rw [remember_other same]
        constructor
        · intro entry
          exact Or.inr ⟨entry, kept, silent⟩
        · rintro (offered | ⟨entry, _⟩)
          · exact absurd offered (silent value stamp)
          · exact entry

/-- While every fetch was transparent the memory consists of the last offers. -/
theorem remembers_of_transparent {bound : Nat}
    (transparent : forall instant, instant < bound -> Transparent (fresh source events) instant) :
    forall instant, instant ≤ (fresh source events).length -> instant ≤ bound ->
      Remembers (fresh source events) instant := by
  apply Timeline.induction
  · intro _
    exact remembers_zero
  · intro instant event occurs ih before
    exact remembers_succ occurs (transparent instant before) (ih (Nat.le_of_succ_le before))

theorem Collision.not_transparent (remembers : Remembers (fresh source events) instant)
    (collision : Collision (fresh source events) instant key value stamp) :
    ¬ Transparent (fresh source events) instant := by
  intro transparent
  have entry := (remembers key value stamp).mpr collision.offered
  have answered := answer_of_memory entry collision.stamped
  have direct := transparent key collision.fetched
  rw [answered] at direct
  simp only [Source.direct, collision.stamped] at direct
  exact collision.changed direct.symm

theorem transparent_of_no_collision (remembers : Remembers (fresh source events) instant)
    (none : forall key value stamp, ¬ Collision (fresh source events) instant key value stamp) :
    Transparent (fresh source events) instant := by
  intro key fetched
  apply answer_eq_direct
  intro stamp value seen entry
  by_contra changed
  exact none key value stamp ⟨fetched, seen, (remembers key value stamp).mp entry, changed⟩

/-- The cache is invisible up to an instant exactly when there was no collision
before it. -/
theorem transparent_iff_no_collision (source : Source Key Stamp Value Error)
    (events : List (Event Key Stamp Value Error)) (bound : Nat) :
    (forall instant, instant < bound -> Transparent (fresh source events) instant) <->
      forall instant key value stamp, instant < bound ->
        ¬ Collision (fresh source events) instant key value stamp := by
  constructor
  · intro transparent instant key value stamp before collision
    have early := Timeline.lt_length _ collision.fetched
    have remembers := remembers_of_transparent transparent instant (Nat.le_of_lt early) (Nat.le_of_lt before)
    exact collision.not_transparent remembers (transparent instant before)
  · intro none instant
    induction instant using Nat.strong_induction_on with
    | _ instant ih =>
        intro before key fetched
        have early := Timeline.lt_length _ fetched
        have remembers := remembers_of_transparent
          (fun earlier less => ih earlier less (Nat.lt_trans less before)) instant
          (Nat.le_of_lt early) (Nat.le_refl instant)
        exact transparent_of_no_collision remembers
          (fun key value stamp => none instant key value stamp before) key fetched

/-- While a key has one stamp only, the first answer for it stays until the
cache forgets. -/
theorem memory_of_constant_stamp {first : Nat}
    (fetched : (fresh source events).events[first]? = some (.fetch key))
    (stamped : ((fresh source events).stateAt first).source.stamp key = .ok stamp)
    (answered : ((fresh source events).stateAt first).answer key = .ok value)
    (constant : forall instant other, ((fresh source events).stateAt instant).source.stamp key = .ok other ->
      other = stamp) :
    forall last, first + 1 ≤ last -> last ≤ (fresh source events).length ->
      (forall between, first < between -> between < last ->
        (fresh source events).events[between]? ≠ some .forget) ->
      ((fresh source events).stateAt last).memory key = some (value, stamp) := by
  apply Timeline.induction_from
  · intro _
    rw [Timeline.stateAt_succ _ fetched]
    exact remember_of_answer answered stamped
  · intro instant event later occurs ih kept
    have entry := ih (fun between after before => kept between after (Nat.lt_succ_of_lt before))
    rw [Timeline.stateAt_succ _ occurs]
    cases event with
    | forget => exact absurd occurs (kept instant later (Nat.lt_succ_self instant))
    | change next => exact entry
    | fetch other =>
        change ((fresh source events).stateAt instant).remember other key = some (value, stamp)
        by_cases same : key = other
        · subst same
          cases seen : ((fresh source events).stateAt instant).source.stamp key with
          | error error =>
              have failed : ((fresh source events).stateAt instant).answer key = .error error := by
                simp only [answer, seen]
              rw [remember_of_failure failed]
              exact entry
          | ok mark =>
              rw [constant instant mark seen] at seen
              exact remember_of_answer (answer_of_memory entry seen) seen
        · rw [remember_other same]
          exact entry

end Runs

end ValidatedCache

end Foundation
