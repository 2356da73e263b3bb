import Caulk.GraphFlowAdapter.Transitions
import Caulk.GraphFlowAdapter.SharedContext

namespace Caulk
namespace GraphFlowAdapter

open Caulk.Core
open PromptRegistry
open ContextBuilders
open Policies
open RigAdapter
open Runners

/-!
# Whole walks through a graph of tasks

A workflow runs one task after the other over one shared context, and a
downstream task reads the prompt key there.  Against that stands the typed
reading, in which `handle_edge` alone computes every key from the state it
started in and the actions taken since; it never looks at the graph.

The keys shown along a walk are the typed trajectory exactly when every step
of the walk went where its action said or stayed where it was.  A single edge
that follows `Next` or `Continue` to another task shows at once.
-/

section Trajectories

variable {S E R B P L : Type} [ToString S] [ToString E]

/-- The keys that `handle_edge` computes for a list of actions. -/
def trajectory (runner : Runner S E R B P L) (event : E) :
    S -> PromptKey -> List (NextAction S) -> List PromptKey
  | _, _, [] => []
  | state, key, action :: rest =>
      key :: trajectory runner event ((destination action).getD state)
        (runner.handleEdge action state event) rest

theorem handleEdge_eq (runner : Runner S E R B P L) (action : NextAction S) (state : S) (event : E) :
    runner.handleEdge action state event = PromptKey.keyFor ((destination action).getD state) event := by
  cases action <;> rfl

end Trajectories

/-- For one event the canonical string tells the states apart. -/
theorem canonical_same_event {first second event : String}
    (same : (PromptKey.mk first event).canonical = (PromptKey.mk second event).canonical) :
    first = second := by
  have joins := (PromptKey.canonical_eq_iff _ _).mp same
  exact String.toList_inj.mp (List.append_cancel_right (List.append_cancel_right joins))

namespace FormeGraph

variable {S E R B P L : Type} [ToString S] [ToString E] [Registry R] [ContextBuilder B E]
  [Policy P S] {Ctx : Type} [Context Ctx]

/-- The tasks that run one after the other, at most so many, each with the
prompt key that the context shows after it.  Graph-flow chooses the next task in
the context that the last one left.  A failing task ends the walk, and so does
graph-flow when it does not proceed. -/
def walk (serialize : List String -> Except String String)
    (proceed : FormeTask S E R B P L -> GfNextAction -> Ctx -> Option (FormeTask S E R B P L)) :
    Nat -> FormeTask S E R B P L -> Ctx -> List (FormeTask S E R B P L × Option String)
  | 0, _, _ => []
  | steps + 1, task, context =>
      match task.run serialize context with
      | (.error _, _) => []
      | (.ok result, after) =>
          (task, Context.get after "caulk.prompt_key") ::
            match proceed task result.nextAction after with
            | none => []
            | some target => walk serialize proceed steps target after

/-- The step between two visits went where the action said, or stayed. -/
def Follows (visit next : FormeTask S E R B P L × Option String) : Prop :=
  (destination visit.1.next).isSome ∨ next.1.id = visit.1.id

variable {serialize : List String -> Except String String}
  {proceed : FormeTask S E R B P L -> GfNextAction -> Ctx -> Option (FormeTask S E R B P L)}

variable [LawfulContext Ctx]

theorem walk_prepared (steps : Nat) {task : FormeTask S E R B P L} (context : Ctx) {prepared : Prepared}
    (ready : task.runner.prepare task.state task.event task.history = .ok prepared) :
    walk serialize proceed (steps + 1) task context =
      (task, some task.preparedKey.canonical) ::
        match proceed task (GfNextAction.ofForme task.next)
          (setAll context (task.entries serialize prepared)) with
        | none => []
        | some target =>
            walk serialize proceed steps target (setAll context (task.entries serialize prepared)) := by
  have distinct : ((task.entries serialize prepared).map Prod.fst).Nodup := by
    rw [FormeTask.entries_keys]
    decide
  have listed : ("caulk.prompt_key", prepared.key.canonical) ∈ task.entries serialize prepared :=
    List.mem_cons_of_mem _ (List.mem_cons_of_mem _ List.mem_cons_self)
  have shown := get_setAll_entry context distinct listed
  rw [FormeTask.prepare_key ready] at shown
  simp only [walk, FormeTask.run_ok serialize task context ready, shown]

omit [LawfulContext Ctx] in
theorem walk_failed (steps : Nat) {task : FormeTask S E R B P L} (context : Ctx) {error : FormeError}
    (failed : task.runner.prepare task.state task.event task.history = .error error) :
    walk serialize proceed steps task context = [] := by
  cases steps with
  | zero => rfl
  | succ steps => simp only [walk, FormeTask.run_error serialize task context failed]

variable (serialize proceed) in
/-- A walk is empty, or shows the key of its first task first. -/
theorem walk_cases (steps : Nat) (task : FormeTask S E R B P L) (context : Ctx) :
    walk serialize proceed steps task context = [] ∨
      ∃ rest, walk serialize proceed steps task context =
        (task, some task.preparedKey.canonical) :: rest := by
  cases steps with
  | zero => exact Or.inl rfl
  | succ steps =>
      cases ready : task.runner.prepare task.state task.event task.history with
      | error error => exact Or.inl (walk_failed (steps + 1) context ready)
      | ok prepared => exact Or.inr ⟨_, walk_prepared steps context ready⟩

variable (graph : FormeGraph S E R B P L)

omit [LawfulContext Ctx] [Context Ctx] [ToString E] [Registry R] [ContextBuilder B E] [Policy P S] in
/-- Where graph-flow goes, the typed state goes along exactly when the action
named a state or graph-flow stayed. -/
theorem MayProceed.lands_iff {graph : FormeGraph S E R B P L} {current target : FormeTask S E R B P L}
    {action : NextAction S} (may : graph.MayProceed current target (GfNextAction.ofForme action))
    {state : S} (sameText : toString state = current.id) :
    toString ((destination action).getD state) = target.id <->
      (destination action).isSome ∨ target.id = current.id := by
  have stays : toString state = target.id <-> target.id = current.id := by
    rw [sameText]
    exact eq_comm
  cases action with
  | next => exact stays.trans (by simp [destination])
  | «continue» => exact stays.trans (by simp [destination])
  | halt => exact False.elim may
  | branch named =>
      have arrived : target.id = toString named := may.2
      exact iff_of_true arrived.symm (Or.inl rfl)
  | transition named =>
      have arrived : target.id = toString named := may.2
      exact iff_of_true arrived.symm (Or.inl rfl)

/-- The simulation: the typed state has the text of the current task's id, and
the typed key is the one that the task prepares. -/
theorem shown_eq_trajectory_iff (conforms : graph.Conforms proceed) (runner : Runner S E R B P L)
    (steps : Nat) {task : FormeTask S E R B P L} (here : task ∈ graph.tasks) (context : Ctx)
    {state : S} (sameText : toString state = task.id) :
    (walk serialize proceed steps task context).map Prod.snd =
        (trajectory runner graph.event state task.preparedKey
          ((walk serialize proceed steps task context).map (fun visit => visit.1.next))).map
            (fun key => some key.canonical) <->
      (walk serialize proceed steps task context).IsChain Follows := by
  induction steps generalizing task state context with
  | zero => simp [walk, trajectory]
  | succ steps ih =>
      cases ready : task.runner.prepare task.state task.event task.history with
      | error error =>
          rw [walk_failed (steps + 1) context ready]
          simp [trajectory]
      | ok prepared =>
          rw [walk_prepared steps context ready]
          cases proceeds : proceed task (GfNextAction.ofForme task.next)
            (setAll context (task.entries serialize prepared)) with
          | none => simp [trajectory]
          | some target =>
              have may := conforms task _ _ target here proceeds
              have there := may.member here
              have lands := may.lands_iff sameText
              have continued := @ih target there (setAll context (task.entries serialize prepared))
                ((destination task.next).getD state)
              have typedKey : runner.handleEdge task.next state graph.event =
                  ⟨toString ((destination task.next).getD state), toString graph.event⟩ :=
                handleEdge_eq runner task.next state graph.event
              simp only [List.map_cons, trajectory, List.cons.injEq, true_and]
              rcases walk_cases serialize proceed steps target
                (setAll context (task.entries serialize prepared)) with none | ⟨rest, visits⟩
              · simp [none, trajectory]
              · by_cases agrees : (destination task.next).isSome ∨ target.id = task.id
                · have arrived := lands.mpr agrees
                  rw [typedKey, arrived, ← graph.preparedKey_eq there, continued arrived, visits,
                    List.isChain_cons_cons]
                  exact (and_iff_right agrees).symm
                · rw [visits, List.isChain_cons_cons]
                  apply iff_of_false
                  · intro same
                    simp only [List.map_cons, trajectory, List.cons.injEq, Option.some.injEq] at same
                    rw [graph.preparedKey_eq there, typedKey] at same
                    exact agrees (lands.mp (canonical_same_event same.1).symm)
                  · intro chain
                    exact agrees chain.1

/-- Along every walk from a task of the graph, the prompt keys that the context
shows are those that `handle_edge` computes from the first state and the
actions taken if and only if every step of the walk went where its action said
or stayed. -/
theorem walk_shows_trajectory_iff (conforms : graph.Conforms proceed) (runner : Runner S E R B P L)
    (steps : Nat) (start : FormeTask S E R B P L) (here : start ∈ graph.tasks) (context : Ctx) :
    (walk serialize proceed steps start context).map Prod.snd =
        (trajectory runner graph.event start.state (PromptKey.keyFor start.state graph.event)
          ((walk serialize proceed steps start context).map (fun visit => visit.1.next))).map
            (fun key => some key.canonical) <->
      (walk serialize proceed steps start context).IsChain Follows := by
  have same : start.preparedKey = PromptKey.keyFor start.state graph.event := by
    rw [graph.preparedKey_eq here, graph.id_eq here]
    rfl
  rw [← same]
  exact graph.shown_eq_trajectory_iff conforms runner steps here context (graph.id_eq here).symm

/-- An edge that is open while the last event was the given one. -/
def whileEvent (event : String) (context : PlainContext) (_ : String × String) : Bool :=
  Context.get context "caulk.event" == some event

/-- The busy task has no edge and stays; the idle one has an edge, which is open
in the context that it leaves, and follows it. -/
theorem busy_follows_idle_does_not :
    (walk renderNames (idleThenBusy.firstOpenEdge (whileEvent "Go")) 3 busy emptyContext).map Prod.snd =
        (trajectory idleRunner "Go" "Busy" ⟨"Busy", "Go"⟩ [.next, .next, .next]).map
          (fun key => some key.canonical) ∧
      (walk renderNames (idleThenBusy.firstOpenEdge (whileEvent "Go")) 2 idle emptyContext).map Prod.snd ≠
        (trajectory idleRunner "Go" "Idle" ⟨"Idle", "Go"⟩ [.next, .next]).map
          (fun key => some key.canonical) := by
  have conforms := idleThenBusy.firstOpenEdge_conforms (whileEvent "Go")
  have idleHere : idle ∈ idleThenBusy.tasks := List.mem_cons_self
  have busyHere : busy ∈ idleThenBusy.tasks := List.mem_cons_of_mem _ (List.mem_singleton.mpr rfl)
  constructor
  · apply (idleThenBusy.walk_shows_trajectory_iff conforms idleRunner 3 busy busyHere emptyContext).mpr
    exact .cons_cons (Or.inr rfl) (.cons_cons (Or.inr rfl) (.singleton _))
  · intro same
    have chain := (idleThenBusy.walk_shows_trajectory_iff conforms idleRunner 2 idle idleHere
      emptyContext).mp same
    rcases List.isChain_cons_cons.mp chain with ⟨named | stayed, _⟩
    · cases named
    · exact absurd stayed (by decide)

end FormeGraph

end GraphFlowAdapter
end Caulk
