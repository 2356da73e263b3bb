import Mathlib.Data.List.Basic
import Mathlib.Data.List.Induction

namespace Foundation

/-!
# Maximal runs between separators

A predicate on the elements of a list makes some of them separators.  The runs
of the list are the longest stretches without a separator, in order and
without the empty ones: the words of a text between white space, or the
blocks of lines between blank lines.

A loop that collects the runs one element at a time keeps the complete runs
and a stretch that is still open.  Its invariant looks ahead: whatever is
added next without a separator is added to the open stretch.
-/

universe u

variable {α : Type u} {separates : α -> Bool}

/-- The longest nonempty stretches without a separator. -/
def runs (separates : α -> Bool) (items : List α) : List (List α) :=
  (items.splitOnP separates).filter (fun run => !run.isEmpty)

namespace Runs

/-- The pieces hold every element that is not a separator once, in order. -/
theorem flatten_splitOnP (items : List α) :
    (items.splitOnP separates).flatten = items.filter (fun item => !separates item) := by
  induction items with
  | nil => rfl
  | cons head rest ih =>
      rw [List.splitOnP_cons_eq_if_modifyHead]
      split
      · rename_i separating
        rw [List.flatten_cons, List.nil_append, ih, List.filter_cons_of_neg]
        simp [separating]
      · rename_i solid
        rw [List.filter_cons_of_pos (by simp [solid]), ← ih]
        cases pieces : rest.splitOnP separates with
        | nil => exact absurd pieces (List.splitOnP_ne_nil separates rest)
        | cons next others => rfl

theorem flatten_runs (items : List α) :
    (runs separates items).flatten = items.filter (fun item => !separates item) := by
  rw [runs, List.flatten_filter_not_isEmpty, flatten_splitOnP]

/-- The pieces between separators are made of the other elements. -/
theorem item_of_mem_splitOnP {items piece : List α} (member : piece ∈ items.splitOnP separates) :
    forall item, item ∈ piece -> separates item = false ∧ item ∈ items := by
  intro item inside
  have kept : item ∈ (items.splitOnP separates).flatten := List.mem_flatten_of_mem member inside
  rw [flatten_splitOnP, List.mem_filter, Bool.not_eq_true'] at kept
  exact kept.symm

theorem solid_of_mem {items run : List α} (member : run ∈ runs separates items) :
    forall item, item ∈ run -> separates item = false := by
  intro item inside
  exact (item_of_mem_splitOnP (List.mem_filter.mp member).1 item inside).1

theorem mem_of_mem {items run : List α} (member : run ∈ runs separates items) :
    forall item, item ∈ run -> item ∈ items := by
  intro item inside
  exact (item_of_mem_splitOnP (List.mem_filter.mp member).1 item inside).2

theorem ne_nil_of_mem {items run : List α} (member : run ∈ runs separates items) : run ≠ [] := by
  intro empty
  have kept := (List.mem_filter.mp member).2
  rw [empty] at kept
  cases kept

/-- Every element that is not a separator is in a run. -/
theorem exists_run_of_solid {items : List α} {item : α} (member : item ∈ items)
    (solid : separates item = false) : ∃ run, run ∈ runs separates items ∧ item ∈ run := by
  have kept : item ∈ items.filter (fun other => !separates other) := by
    rw [List.mem_filter, solid]
    exact ⟨member, rfl⟩
  rw [← flatten_runs] at kept
  exact List.mem_flatten.mp kept

@[simp] theorem runs_nil : runs separates [] = [] := by
  rw [runs, List.splitOnP_nil]
  rfl

/-- A separator keeps the runs before it and after it apart. -/
theorem runs_append_separator (front back : List α) {separator : α}
    (separating : separates separator = true) :
    runs separates (front ++ separator :: back) = runs separates front ++ runs separates back := by
  unfold runs
  rw [List.splitOnP_append_cons front back separating, List.filter_append]

/-- A stretch without separators is its own only run. -/
theorem runs_of_solid {items : List α} (nonempty : items ≠ [])
    (solid : forall item, item ∈ items -> separates item = false) : runs separates items = [items] := by
  rw [runs, List.splitOnP_eq_singleton solid, List.filter_cons_of_pos]
  · rfl
  · cases items with
    | nil => exact absurd rfl nonempty
    | cons first rest => rfl

/-- So does a separator at the end. -/
theorem runs_concat_separator (front : List α) {separator : α}
    (separating : separates separator = true) :
    runs separates (front ++ [separator]) = runs separates front := by
  rw [runs_append_separator front [] separating, runs_nil, List.append_nil]

/-! ## Collecting the runs -/

/-- The runs that are complete and the stretch that is still open. -/
structure Collected (α : Type u) where
  complete : List (List α)
  stretch : List α

/-- A separator completes the open stretch, if there is one. -/
def collect (separates : α -> Bool) (state : Collected α) (item : α) : Collected α :=
  if separates item then
    if state.stretch = [] then state else ⟨state.complete ++ [state.stretch], []⟩
  else ⟨state.complete, state.stretch ++ [item]⟩

/-- What the state of the loop says about the items it has seen: no separator
is in the open stretch, and items without separators would be added to it. -/
structure Collected.Explains (separates : α -> Bool) (state : Collected α) (seen : List α) :
    Prop where
  solid : forall item, item ∈ state.stretch -> separates item = false
  ahead : forall added, (forall item, item ∈ added -> separates item = false) ->
    runs separates (seen ++ added) = state.complete ++ runs separates (state.stretch ++ added)

/-- The runs seen so far are the complete ones and the open stretch. -/
theorem Collected.Explains.runs_eq {state : Collected α} {seen : List α}
    (explains : state.Explains separates seen) :
    runs separates seen =
      state.complete ++ (if state.stretch = [] then [] else [state.stretch]) := by
  have now := explains.ahead [] (by simp)
  rw [List.append_nil, List.append_nil] at now
  rw [now]
  split
  · rename_i closed
    rw [closed, runs_nil]
  · rename_i nonempty
    rw [runs_of_solid nonempty explains.solid]

/-- One round of the loop. -/
theorem collect_explains {state : Collected α} {seen : List α}
    (explains : state.Explains separates seen) (item : α) :
    (collect separates state item).Explains separates (seen ++ [item]) := by
  unfold collect
  by_cases separating : separates item = true
  · have closed := fun added => runs_append_separator seen added separating
    rw [if_pos separating]
    split
    · rename_i empty
      refine ⟨explains.solid, ?_⟩
      intro added _
      rw [List.append_assoc, List.singleton_append, closed, explains.runs_eq, if_pos empty,
        List.append_nil, empty, List.nil_append]
    · rename_i nonempty
      refine ⟨by simp, ?_⟩
      intro added _
      rw [List.append_assoc, List.singleton_append, closed, explains.runs_eq, if_neg nonempty,
        List.nil_append]
  · rw [if_neg separating]
    have solidItem : separates item = false := eq_false_of_ne_true separating
    constructor
    · intro other member
      rcases List.mem_append.mp member with earlier | last
      · exact explains.solid other earlier
      · rw [List.mem_singleton.mp last]
        exact solidItem
    · intro added solid
      rw [List.append_assoc, List.append_assoc]
      apply explains.ahead
      intro other member
      rcases List.mem_cons.mp member with first | later
      · rw [first]
        exact solidItem
      · exact solid other later

/-- The whole loop. -/
theorem foldl_collect_explains (items : List α) :
    (items.foldl (collect separates) ⟨[], []⟩).Explains separates items := by
  induction items using List.reverseRecOn with
  | nil => exact ⟨by simp, fun added _ => rfl⟩
  | append_singleton items last ih =>
      rw [List.foldl_append]
      exact collect_explains ih last

/-- Any other element at the end belongs to the last run. -/
theorem runs_concat_solid (separates : α -> Bool) (front : List α) :
    ∃ complete stretch, forall last, separates last = false ->
      runs separates (front ++ [last]) = complete ++ [stretch ++ [last]] := by
  have explains := @foldl_collect_explains _ separates front
  generalize front.foldl (collect separates) ⟨[], []⟩ = state at explains
  refine ⟨state.complete, state.stretch, ?_⟩
  intro last solid
  rw [explains.ahead [last] (by simp [solid]), runs_of_solid (by simp)]
  intro item member
  rcases List.mem_append.mp member with earlier | final
  · exact explains.solid item earlier
  · rw [List.mem_singleton.mp final]
    exact solid

end Runs

end Foundation
