import Caulk.Foundation.Runs
import Mathlib.Data.List.Pairwise

namespace Foundation

/-!
# Maximal runs by position

The runs of a list can be told apart by where they stand.  A run from one
position to another is maximal if every element between them is no separator
and it cannot be made longer: it begins at the start of the list or after a
separator, and ends at the end of the list or before one.

Every list divides into a gap of separators, a run, and a rest that is closed
off by a separator.  Induction on this division finds the positions of the
maximal runs, and the runs of the general theory stand exactly there.
-/

universe u

variable {α : Type u} {separates : α -> Bool}

/-- There is a separator at the position. -/
def SeparatorAt (separates : α -> Bool) (items : List α) (position : Nat) : Prop :=
  items[position]?.map separates = some true

/-- There is an element at the position, and it is no separator. -/
def SolidAt (separates : α -> Bool) (items : List α) (position : Nat) : Prop :=
  items[position]?.map separates = some false

/-- The elements from `start` and before `stop` are a run that cannot be made
longer. -/
structure MaximalRun (separates : α -> Bool) (items : List α) (start stop : Nat) : Prop where
  nonempty : start < stop
  solid : forall position, start ≤ position -> position < stop -> SolidAt separates items position
  before : start = 0 ∨ SeparatorAt separates items (start - 1)
  after : stop = items.length ∨ SeparatorAt separates items stop

/-- A gap of separators, a run, and a rest that is closed off. -/
structure Piece (separates : α -> Bool) (front run back : List α) : Prop where
  separating : forall item, item ∈ front -> separates item = true
  nonempty : run ≠ []
  solid : forall item, item ∈ run -> separates item = false
  closed : back = [] ∨ SeparatorAt separates back 0

/-- A list divided into gaps of separators and the pieces between them. -/
inductive Divided (separates : α -> Bool) : List α -> List (List α) -> Prop
  | gap {items : List α} (separating : forall item, item ∈ items -> separates item = true) :
      Divided separates items []
  | piece {front run back : List α} {pieces : List (List α)} (piece : Piece separates front run back)
      (others : Divided separates back pieces) : Divided separates (front ++ run ++ back) (run :: pieces)

/-! ## Positions -/

theorem SolidAt.not_separatorAt {items : List α} {position : Nat}
    (solid : SolidAt separates items position) : ¬ SeparatorAt separates items position := by
  intro separating
  rw [SeparatorAt, solid] at separating
  cases separating

theorem SolidAt.lt_length {items : List α} {position : Nat}
    (solid : SolidAt separates items position) : position < items.length := by
  by_contra outside
  rw [SolidAt, List.getElem?_eq_none (Nat.le_of_not_lt outside)] at solid
  cases solid

theorem SolidAt.exists_mem {items : List α} {position : Nat}
    (solid : SolidAt separates items position) : ∃ item, item ∈ items ∧ separates item = false := by
  rcases Option.map_eq_some_iff.mp solid with ⟨item, found, same⟩
  exact ⟨item, List.mem_of_getElem? found, same⟩

theorem solidAt_append_right (front back : List α) (position : Nat) :
    SolidAt separates (front ++ back) (front.length + position) <->
      SolidAt separates back position := by
  rw [SolidAt, SolidAt, List.getElem?_append_right (Nat.le_add_right _ _), Nat.add_sub_cancel_left]

theorem separatorAt_append_right (front back : List α) (position : Nat) :
    SeparatorAt separates (front ++ back) (front.length + position) <->
      SeparatorAt separates back position := by
  rw [SeparatorAt, SeparatorAt, List.getElem?_append_right (Nat.le_add_right _ _),
    Nat.add_sub_cancel_left]

theorem separatorAt_append_left {front : List α} (back : List α) {position : Nat}
    (separating : forall item, item ∈ front -> separates item = true)
    (inside : position < front.length) : SeparatorAt separates (front ++ back) position := by
  rw [SeparatorAt, List.getElem?_append_left inside, List.getElem?_eq_getElem inside]
  exact congrArg some (separating _ (List.getElem_mem inside))

theorem solidAt_append_left {front : List α} (back : List α) {position : Nat}
    (solid : forall item, item ∈ front -> separates item = false)
    (inside : position < front.length) : SolidAt separates (front ++ back) position := by
  rw [SolidAt, List.getElem?_append_left inside, List.getElem?_eq_getElem inside]
  exact congrArg some (solid _ (List.getElem_mem inside))

/-- After a gap the first element that is no separator comes later. -/
theorem SolidAt.length_le {front back : List α} {position : Nat}
    (solid : SolidAt separates (front ++ back) position)
    (separating : forall item, item ∈ front -> separates item = true) : front.length ≤ position := by
  by_contra before
  exact solid.not_separatorAt (separatorAt_append_left back separating (Nat.lt_of_not_le before))

/-! ## Maximal runs do not overlap -/

/-- A maximal run begins no later than a run that it meets. -/
theorem MaximalRun.start_le {items : List α} {start stop other last position : Nat}
    (maximal : MaximalRun separates items start stop) (run : MaximalRun separates items other last)
    (reached : start ≤ position) (inside : position < last) : start ≤ other := by
  by_contra later
  rcases maximal.before with atStart | separating
  · omega
  · have solid := run.solid (start - 1) (by omega) (by omega)
    exact solid.not_separatorAt separating

/-- And it ends no earlier. -/
theorem MaximalRun.le_stop {items : List α} {start stop other last position : Nat}
    (maximal : MaximalRun separates items start stop) (run : MaximalRun separates items other last)
    (reached : other ≤ position) (inside : position < stop) : last ≤ stop := by
  by_contra earlier
  have solid := run.solid stop (by omega) (by omega)
  rcases maximal.after with atEnd | separating
  · have present := solid.lt_length
    omega
  · exact solid.not_separatorAt separating

/-- Two maximal runs that share a position are the same. -/
theorem MaximalRun.unique {items : List α} {start stop other last position : Nat}
    (first : MaximalRun separates items start stop) (second : MaximalRun separates items other last)
    (inFirst : start ≤ position ∧ position < stop) (inSecond : other ≤ position ∧ position < last) :
    start = other ∧ stop = last := by
  constructor
  · apply Nat.le_antisymm
    · exact first.start_le second inFirst.1 inSecond.2
    · exact second.start_le first inSecond.1 inFirst.2
  · apply Nat.le_antisymm
    · exact second.le_stop first inFirst.1 inSecond.2
    · exact first.le_stop second inSecond.1 inFirst.2

/-! ## Dividing a list -/

/-- A separator in front belongs to the first gap. -/
theorem Divided.cons_separator {head : α} {rest : List α} {pieces : List (List α)}
    (separating : separates head = true) (divided : Divided separates rest pieces) :
    Divided separates (head :: rest) pieces := by
  cases divided with
  | gap others => exact .gap (List.forall_mem_cons.mpr ⟨separating, others⟩)
  | @piece front run back _ piece rest =>
      have longer : Piece separates (head :: front) run back :=
        { piece with separating := List.forall_mem_cons.mpr ⟨separating, piece.separating⟩ }
      exact .piece longer rest

/-- One more element before the end of a list or a separator is a piece. -/
theorem Divided.cons_closed {head : α} {rest : List α} {pieces : List (List α)}
    (solid : separates head = false) (closed : rest = [] ∨ SeparatorAt separates rest 0)
    (divided : Divided separates rest pieces) :
    Divided separates (head :: rest) ([head] :: pieces) := by
  have alone : Piece separates [] [head] rest :=
    ⟨by simp, List.cons_ne_nil head [], List.forall_mem_singleton.mpr solid, closed⟩
  exact .piece alone divided

/-- Before any other element it belongs to the first piece. -/
theorem Divided.cons_open {head : α} {rest : List α} {pieces : List (List α)}
    (solid : separates head = false) (opened : SolidAt separates rest 0)
    (divided : Divided separates rest pieces) :
    ∃ run others, Divided separates (head :: rest) ((head :: run) :: others) := by
  cases divided with
  | gap separating =>
      rcases opened.exists_mem with ⟨item, member, solidItem⟩
      rw [separating item member] at solidItem
      cases solidItem
  | @piece front run back others piece rest =>
      cases front with
      | nil =>
          have longer : Piece separates [] (head :: run) back :=
            { piece with
              nonempty := List.cons_ne_nil head run
              solid := List.forall_mem_cons.mpr ⟨solid, piece.solid⟩ }
          exact ⟨run, others, .piece longer rest⟩
      | cons first gap =>
          have separator : SeparatorAt separates (first :: gap ++ run ++ back) 0 :=
            congrArg some (piece.separating first List.mem_cons_self)
          exact absurd separator opened.not_separatorAt

/-- Every list is divided by its separators. -/
theorem exists_divided (separates : α -> Bool) (items : List α) :
    ∃ pieces, Divided separates items pieces := by
  induction items with
  | nil => exact ⟨[], .gap (by simp)⟩
  | cons head rest ih =>
      rcases ih with ⟨pieces, divided⟩
      by_cases separating : separates head = true
      · exact ⟨pieces, divided.cons_separator separating⟩
      · have solid : separates head = false := eq_false_of_ne_true separating
        cases rest with
        | nil => exact ⟨[head] :: pieces, divided.cons_closed solid (.inl rfl)⟩
        | cons next others =>
            by_cases separatingNext : separates next = true
            · have closed : SeparatorAt separates (next :: others) 0 := congrArg some separatingNext
              exact ⟨[head] :: pieces, divided.cons_closed solid (.inr closed)⟩
            · have opened : SolidAt separates (next :: others) 0 :=
                congrArg some (eq_false_of_ne_true separatingNext)
              rcases divided.cons_open solid opened with ⟨run, rest, longer⟩
              exact ⟨(head :: run) :: rest, longer⟩

/-- A gap in front changes no run. -/
theorem runs_append_gap {front : List α} (back : List α)
    (separating : forall item, item ∈ front -> separates item = true) :
    runs separates (front ++ back) = runs separates back := by
  induction front with
  | nil => rfl
  | cons head rest ih =>
      have parts := List.forall_mem_cons.mp separating
      exact (Runs.runs_append_separator [] (rest ++ back) parts.1).trans (ih parts.2)

/-- The piece is the first run. -/
theorem Piece.runs_eq {front run back : List α} (piece : Piece separates front run back) :
    runs separates (front ++ run ++ back) = run :: runs separates back := by
  have alone := Runs.runs_of_solid piece.nonempty piece.solid
  have closed := piece.closed
  rw [List.append_assoc, runs_append_gap _ piece.separating]
  cases back with
  | nil => rw [List.append_nil, alone, Runs.runs_nil]
  | cons next rest =>
      have separating : separates next = true := by
        rcases closed with empty | first
        · cases empty
        · exact Option.some.inj first
      have later := Runs.runs_append_separator [] rest separating
      rw [Runs.runs_append_separator run rest separating, alone]
      exact congrArg (List.cons run) later.symm

/-- The pieces are the runs. -/
theorem Divided.eq_runs {items : List α} {pieces : List (List α)}
    (divided : Divided separates items pieces) : pieces = runs separates items := by
  induction divided with
  | @gap items separating =>
      have same := runs_append_gap [] separating
      rw [List.append_nil, Runs.runs_nil] at same
      exact same.symm
  | piece piece others ih => rw [piece.runs_eq, ih]

theorem divided_runs (separates : α -> Bool) (items : List α) :
    Divided separates items (runs separates items) := by
  rcases exists_divided separates items with ⟨pieces, divided⟩
  rw [← divided.eq_runs]
  exact divided

/-! ## Where the pieces stand -/

/-- A piece is a maximal run. -/
theorem Piece.maximalRun {front run back : List α} (piece : Piece separates front run back) :
    MaximalRun separates (front ++ run ++ back) front.length (front ++ run).length where
  nonempty := by
    have positive := List.length_pos_iff.mpr piece.nonempty
    rw [List.length_append]
    omega
  solid position reached inside := by
    rw [List.length_append] at inside
    have shifted := (solidAt_append_right front (run ++ back) (position - front.length)).mpr
      (solidAt_append_left back piece.solid (by omega))
    rw [Nat.add_sub_cancel' reached, ← List.append_assoc] at shifted
    exact shifted
  before := by
    rcases Nat.eq_zero_or_pos front.length with empty | positive
    · exact .inl empty
    · rw [List.append_assoc]
      exact .inr (separatorAt_append_left _ piece.separating (by omega))
  after := by
    rcases piece.closed with empty | separator
    · rw [empty, List.append_nil]
      exact .inl rfl
    · exact .inr ((separatorAt_append_right (front ++ run) back 0).mpr separator)

/-- No run begins where a separator stands. -/
theorem MaximalRun.start_pos {items : List α} {start stop : Nat}
    (maximal : MaximalRun separates items start stop)
    (closed : items = [] ∨ SeparatorAt separates items 0) : 0 < start := by
  apply Nat.pos_of_ne_zero
  intro atStart
  have first := maximal.solid start (Nat.le_refl start) maximal.nonempty
  rw [atStart] at first
  rcases closed with empty | separator
  · rw [empty] at first
    exact Nat.not_lt_zero 0 first.lt_length
  · exact first.not_separatorAt separator

/-- The maximal runs of a rest that is closed off are maximal in the whole
list. -/
theorem MaximalRun.append_right (front : List α) {back : List α} {start stop : Nat}
    (maximal : MaximalRun separates back start stop)
    (closed : back = [] ∨ SeparatorAt separates back 0) :
    MaximalRun separates (front ++ back) (front.length + start) (front.length + stop) where
  nonempty := Nat.add_lt_add_left maximal.nonempty _
  solid position reached inside := by
    have shifted := (solidAt_append_right front back (position - front.length)).mpr
      (maximal.solid _ (by omega) (by omega))
    rw [Nat.add_sub_cancel' (by omega)] at shifted
    exact shifted
  before := by
    have positive := maximal.start_pos closed
    rcases maximal.before with atStart | separator
    · omega
    · rw [Nat.add_sub_assoc positive]
      exact .inr ((separatorAt_append_right front back (start - 1)).mpr separator)
  after := by
    rcases maximal.after with atEnd | separator
    · rw [atEnd, ← List.length_append]
      exact .inl rfl
    · exact .inr ((separatorAt_append_right front back stop).mpr separator)

/-- And a maximal run that begins in the rest is one of the rest. -/
theorem MaximalRun.of_append_right {front back : List α} {start stop : Nat}
    (maximal : MaximalRun separates (front ++ back) start stop) (reached : front.length ≤ start) :
    MaximalRun separates back (start - front.length) (stop - front.length) where
  nonempty := by
    have nonempty := maximal.nonempty
    omega
  solid position reachedToo inside := by
    apply (solidAt_append_right front back position).mp
    exact maximal.solid _ (by omega) (by omega)
  before := by
    rcases Nat.eq_or_lt_of_le reached with same | later
    · exact .inl (by omega)
    · rcases maximal.before with atStart | separator
      · omega
      · right
        apply (separatorAt_append_right front back _).mp
        have position : front.length + (start - front.length - 1) = start - 1 := by omega
        rw [position]
        exact separator
  after := by
    have nonempty := maximal.nonempty
    rcases maximal.after with atEnd | separator
    · rw [List.length_append] at atEnd
      exact .inl (by omega)
    · right
      apply (separatorAt_append_right front back _).mp
      rw [Nat.add_sub_cancel' (by omega)]
      exact separator

/-- A maximal run that begins before the rest is the piece. -/
theorem MaximalRun.eq_piece {front run back : List α} {start stop : Nat}
    (maximal : MaximalRun separates (front ++ run ++ back) start stop)
    (piece : Piece separates front run back) (early : start < (front ++ run).length) :
    start = front.length ∧ stop = (front ++ run).length := by
  have first := maximal.solid start (Nat.le_refl start) maximal.nonempty
  rw [List.append_assoc] at first
  have reached := first.length_le piece.separating
  exact maximal.unique piece.maximalRun ⟨Nat.le_refl start, maximal.nonempty⟩ ⟨reached, early⟩

/-- One step of the division: there is the piece, and there are the maximal
runs of the rest. -/
theorem Piece.maximalRun_iff {front run back : List α} (piece : Piece separates front run back)
    {start stop : Nat} :
    MaximalRun separates (front ++ run ++ back) start stop <->
      (start, stop) = (front.length, (front ++ run).length) ∨
      ∃ other last, MaximalRun separates back other last ∧
        ((front ++ run).length + other, (front ++ run).length + last) = (start, stop) := by
  constructor
  · intro maximal
    rcases Nat.lt_or_ge start (front ++ run).length with early | reached
    · rcases maximal.eq_piece piece early with ⟨first, last⟩
      rw [first, last]
      exact .inl rfl
    · have wide := maximal.nonempty
      refine .inr ⟨_, _, maximal.of_append_right reached, ?_⟩
      rw [Nat.add_sub_cancel' reached, Nat.add_sub_cancel' (by omega)]
  · rintro (first | ⟨other, last, maximal, same⟩)
    · rw [(Prod.mk.inj first).1, (Prod.mk.inj first).2]
      exact piece.maximalRun
    · rw [← (Prod.mk.inj same).1, ← (Prod.mk.inj same).2]
      exact maximal.append_right (front ++ run) piece.closed

theorem extract_append_right (front back : List α) (start stop : Nat) :
    (front ++ back).extract (front.length + start) (front.length + stop) =
      back.extract start stop := by
  rw [List.extract_eq_take_drop, List.drop_length_add_append, Nat.add_sub_add_left]

/-- The pieces of a divided list stand where its maximal runs are, in order
and with a separator between every two. -/
theorem Divided.exists_spans {items : List α} {pieces : List (List α)}
    (divided : Divided separates items pieces) :
    ∃ spans : List (Nat × Nat), spans.Pairwise (fun earlier later => earlier.2 < later.1) ∧
      (forall start stop, (start, stop) ∈ spans <-> MaximalRun separates items start stop) ∧
      pieces = spans.map (fun span => items.extract span.1 span.2) := by
  induction divided with
  | @gap items separating =>
      refine ⟨[], List.Pairwise.nil, ?_, rfl⟩
      intro start stop
      constructor
      · intro member
        cases member
      · intro maximal
        have first := maximal.solid start (Nat.le_refl start) maximal.nonempty
        rcases first.exists_mem with ⟨item, member, solid⟩
        rw [separating item member] at solid
        cases solid
  | @piece front run back pieces piece others ih =>
      rcases ih with ⟨spans, ordered, exactly, stand⟩
      refine ⟨(front.length, (front ++ run).length) ::
        spans.map (fun span => ((front ++ run).length + span.1, (front ++ run).length + span.2)),
        ?_, ?_, ?_⟩
      · refine List.pairwise_cons.mpr ⟨?_, List.pairwise_map.mpr (ordered.imp ?_)⟩
        · intro later member
          rcases List.mem_map.mp member with ⟨span, inside, same⟩
          have positive := ((exactly span.1 span.2).mp inside).start_pos piece.closed
          rw [← same]
          exact Nat.lt_add_of_pos_right positive
        · intro earlier later apart
          exact Nat.add_lt_add_left apart _
      · intro start stop
        rw [piece.maximalRun_iff, List.mem_cons, List.mem_map, Prod.exists]
        simp only [exactly]
      · have first : run = (front ++ run ++ back).extract front.length (front ++ run).length := by
          simp
        rw [List.map_cons, List.map_map, stand, ← first]
        congr 2
        funext span
        exact (extract_append_right (front ++ run) back span.1 span.2).symm

/-- Every element that is not a separator is in a maximal run. -/
theorem Divided.exists_maximalRun {items : List α} {pieces : List (List α)}
    (divided : Divided separates items pieces) {position : Nat}
    (solid : SolidAt separates items position) :
    ∃ start stop, MaximalRun separates items start stop ∧ start ≤ position ∧ position < stop := by
  induction divided generalizing position with
  | gap separating =>
      rcases solid.exists_mem with ⟨item, member, solidItem⟩
      rw [separating item member] at solidItem
      cases solidItem
  | @piece front run back pieces piece others ih =>
      rcases Nat.lt_or_ge position (front ++ run).length with early | reached
      · rw [List.append_assoc] at solid
        exact ⟨_, _, piece.maximalRun, solid.length_le piece.separating, early⟩
      · have shifted : SolidAt separates back (position - (front ++ run).length) := by
          apply (solidAt_append_right (front ++ run) back _).mp
          rw [Nat.add_sub_cancel' reached]
          exact solid
        rcases ih shifted with ⟨start, stop, maximal, begun, inside⟩
        exact ⟨_, _, maximal.append_right (front ++ run) piece.closed, by omega, by omega⟩

/-- The runs of a list are its maximal runs, each once and in order. -/
theorem runs_stand_at_maximalRuns (separates : α -> Bool) (items : List α) :
    ∃ spans : List (Nat × Nat), spans.Pairwise (fun earlier later => earlier.2 < later.1) ∧
      (forall start stop, (start, stop) ∈ spans <-> MaximalRun separates items start stop) ∧
      runs separates items = spans.map (fun span => items.extract span.1 span.2) :=
  (divided_runs separates items).exists_spans

/-- Every element that is not a separator is in just one of them. -/
theorem existsUnique_maximalRun {items : List α} {position : Nat}
    (solid : SolidAt separates items position) :
    ∃! span : Nat × Nat, MaximalRun separates items span.1 span.2 ∧
      span.1 ≤ position ∧ position < span.2 := by
  rcases (divided_runs separates items).exists_maximalRun solid with ⟨start, stop, maximal, inside⟩
  refine ⟨(start, stop), ⟨maximal, inside⟩, ?_⟩
  intro other found
  rcases found.1.unique maximal found.2 inside with ⟨first, last⟩
  exact Prod.ext first last

end Foundation
