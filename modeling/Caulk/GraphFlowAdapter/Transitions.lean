import Caulk.GraphFlowAdapter

namespace Caulk
namespace GraphFlowAdapter

open Caulk.Core
open PromptRegistry
open ContextBuilders
open Policies
open RigAdapter
open Runners

/-!
# Two meanings of one action

`handle_edge` reads an action over typed states: `Next` and `Continue` stay in
the current state.  The bridge reads it over task ids: both become graph-flow's
`Continue`, which follows an edge of the graph.  The two readings meet in the
prompt key of the next task.

They agree on `Branch` and `Transition` in every graph of tasks with default
ids, because an id is the text of a state and so is the state part of a key.
On `Next` and `Continue` they agree exactly when graph-flow stays at the
current id.  Which edge graph-flow follows may depend on the shared context.
-/

namespace FormeTask

variable {S E R B P L : Type} [ToString S] [ToString E]

/-- The key that `prepare` looks up for the task. -/
def preparedKey (task : FormeTask S E R B P L) : PromptKey :=
  PromptKey.keyFor task.state task.event

theorem prepare_key [Registry R] [ContextBuilder B E] [Policy P S] {task : FormeTask S E R B P L}
    {prepared : Prepared}
    (ready : task.runner.prepare task.state task.event task.history = .ok prepared) :
    prepared.key = task.preparedKey :=
  (Runner.prepare_eq_ok ready).1

end FormeTask

/-- The state an action names, if it names one. -/
def destination {S : Type} : NextAction S -> Option S
  | .branch state | .transition state => some state
  | .next | .continue | .halt => none

/-- A graph of tasks made by `FormeTask::new` for one event, with unique ids. -/
structure FormeGraph (S E R B P L : Type) [ToString S] where
  event : E
  tasks : List (FormeTask S E R B P L)
  edges : List (String × String)
  made : forall task, task ∈ tasks ->
    ∃ runner state action, task = (FormeTask.new runner state event).withNext action
  unique : (tasks.map FormeTask.id).Nodup

namespace FormeGraph

variable {S E R B P L : Type} [ToString S] (graph : FormeGraph S E R B P L) {Ctx : Type}

theorem id_eq {task : FormeTask S E R B P L} (member : task ∈ graph.tasks) :
    task.id = toString task.state := by
  rcases graph.made task member with ⟨runner, state, action, made⟩
  rw [made]
  rfl

theorem preparedKey_eq [ToString E] {task : FormeTask S E R B P L} (member : task ∈ graph.tasks) :
    task.preparedKey = ⟨task.id, toString graph.event⟩ := by
  rcases graph.made task member with ⟨runner, state, action, made⟩
  rw [made]
  rfl

/-- Where graph-flow may proceed from a task: along an outgoing edge, or it
stays, as it does when it finds no edge to take; to the named task; and not at
all at the end. -/
def MayProceed (current : FormeTask S E R B P L) (target : FormeTask S E R B P L) :
    GfNextAction -> Prop
  | .continue | .continueAndExecute =>
      (target ∈ graph.tasks ∧ (current.id, target.id) ∈ graph.edges) ∨ target = current
  | .goTo id => target ∈ graph.tasks ∧ target.id = id
  | .end => False

/-- What is assumed of graph-flow's choice of the next task, which may look at
the shared context. -/
def Conforms
    (proceed : FormeTask S E R B P L -> GfNextAction -> Ctx -> Option (FormeTask S E R B P L)) : Prop :=
  forall current action context target, current ∈ graph.tasks ->
    proceed current action context = some target -> graph.MayProceed current target action

/-- The next task is one of the graph's. -/
theorem MayProceed.member {graph : FormeGraph S E R B P L} {current target : FormeTask S E R B P L}
    {action : GfNextAction} (may : graph.MayProceed current target action)
    (here : current ∈ graph.tasks) : target ∈ graph.tasks := by
  cases action with
  | «continue» =>
      rcases may with ⟨there, _⟩ | same
      · exact there
      · rw [same]
        exact here
  | continueAndExecute =>
      rcases may with ⟨there, _⟩ | same
      · exact there
      · rw [same]
        exact here
  | goTo id => exact may.1
  | «end» => exact False.elim may

/-- The next task prepares the key that `handle_edge` computes if and only if
the action names a state or graph-flow stays at the current id. -/
theorem next_key_eq_handleEdge_iff [ToString E] [Registry R] [ContextBuilder B E] [Policy P S]
    (proceed : FormeTask S E R B P L -> GfNextAction -> Ctx -> Option (FormeTask S E R B P L))
    (conforms : graph.Conforms proceed) (runner : Runner S E R B P L)
    (current target : FormeTask S E R B P L) (here : current ∈ graph.tasks) (action : NextAction S)
    (context : Ctx) (proceeds : proceed current (GfNextAction.ofForme action) context = some target) :
    (target.preparedKey = runner.handleEdge action current.state graph.event <->
      (destination action).isSome ∨ target.id = current.id) ∧
    (forall prepared,
      target.runner.prepare target.state target.event target.history = .ok prepared ->
      prepared.key = target.preparedKey) := by
  refine ⟨?_, fun prepared ready => FormeTask.prepare_key ready⟩
  have may := conforms current _ context target here proceeds
  have there := may.member here
  rw [graph.preparedKey_eq there]
  have stays : (PromptKey.mk target.id (toString graph.event) =
      PromptKey.keyFor current.state graph.event) <-> target.id = current.id := by
    rw [PromptKey.keyFor, PromptKey.mk.injEq, graph.id_eq here]
    exact and_iff_left rfl
  cases action with
  | next => exact stays.trans (by simp [destination])
  | «continue» => exact stays.trans (by simp [destination])
  | halt => exact False.elim may
  | branch state =>
      have named : target.id = toString state := may.2
      rw [named]
      exact iff_of_true rfl (Or.inl rfl)
  | transition state =>
      have named : target.id = toString state := may.2
      rw [named]
      exact iff_of_true rfl (Or.inl rfl)

/-- Take the first outgoing edge whose condition holds of the shared context,
stay without one, and look tasks up by their id. -/
def firstOpenEdge (holds : Ctx -> String × String -> Bool) (current : FormeTask S E R B P L) :
    GfNextAction -> Ctx -> Option (FormeTask S E R B P L)
  | .continue, context | .continueAndExecute, context =>
      match graph.edges.find? (fun edge => edge.1 == current.id && holds context edge) with
      | some edge => graph.tasks.find? (fun task => task.id == edge.2)
      | none => some current
  | .goTo id, _ => graph.tasks.find? (fun task => task.id == id)
  | .end, _ => none

private theorem firstOpenEdge_continue {graph : FormeGraph S E R B P L}
    {holds : Ctx -> String × String -> Bool} {context : Ctx} {current target : FormeTask S E R B P L}
    (proceeds : graph.firstOpenEdge holds current .continue context = some target) :
    graph.MayProceed current target .continue := by
  simp only [firstOpenEdge] at proceeds
  cases taken : graph.edges.find? (fun edge => edge.1 == current.id && holds context edge) with
  | none =>
      rw [taken] at proceeds
      exact Or.inr (Option.some.inj proceeds).symm
  | some edge =>
      rw [taken] at proceeds
      left
      refine ⟨List.mem_of_find?_eq_some proceeds, ?_⟩
      have source := List.find?_some taken
      have sink := List.find?_some proceeds
      simp only [Bool.and_eq_true, beq_iff_eq] at source sink
      rw [← source.1, sink]
      exact List.mem_of_find?_eq_some taken

theorem firstOpenEdge_conforms (holds : Ctx -> String × String -> Bool) :
    graph.Conforms (graph.firstOpenEdge holds) := by
  intro current action context target _ proceeds
  cases action with
  | «continue» => exact firstOpenEdge_continue proceeds
  | continueAndExecute => exact firstOpenEdge_continue proceeds
  | goTo id =>
      simp only [firstOpenEdge] at proceeds
      have named := List.find?_some proceeds
      exact ⟨List.mem_of_find?_eq_some proceeds, beq_iff_eq.mp named⟩
  | «end» => cases proceeds

end FormeGraph

/-! ## Two states and one edge -/

abbrev idleRunner : Runner String String InMemoryRegistry NoopBuilder BuiltInPolicy MockLlm :=
  exampleRunner (.allowAll {})

def idle : FormeTask String String InMemoryRegistry NoopBuilder BuiltInPolicy MockLlm :=
  FormeTask.new idleRunner "Idle" "Go"

def busy : FormeTask String String InMemoryRegistry NoopBuilder BuiltInPolicy MockLlm :=
  FormeTask.new idleRunner "Busy" "Go"

def idleThenBusy : FormeGraph String String InMemoryRegistry NoopBuilder BuiltInPolicy MockLlm where
  event := "Go"
  tasks := [idle, busy]
  edges := [("Idle", "Busy")]
  made := by
    intro task member
    rcases List.mem_cons.mp member with first | second
    · exact ⟨idleRunner, "Idle", .next, first⟩
    · exact ⟨idleRunner, "Busy", .next, List.mem_singleton.mp second⟩
  unique := by decide

/-- An edge without a condition. -/
def unconditional (_ : Unit) (_ : String × String) : Bool :=
  true

/-- A branch leads from the busy task to the task that `handle_edge` names. -/
theorem branch_agrees :
    idle.preparedKey = idleRunner.handleEdge (.branch "Idle") busy.state idleThenBusy.event :=
  (idleThenBusy.next_key_eq_handleEdge_iff (idleThenBusy.firstOpenEdge unconditional)
    (idleThenBusy.firstOpenEdge_conforms unconditional) idleRunner busy idle
    (List.mem_cons_of_mem _ (List.mem_singleton.mpr rfl)) (.branch "Idle") () rfl).1.mpr (Or.inl rfl)

/-- From the idle state `Next` stays for `handle_edge`, but graph-flow follows
the edge to the busy task. -/
theorem next_disagrees :
    idleThenBusy.Conforms (idleThenBusy.firstOpenEdge unconditional) ∧ idle ∈ idleThenBusy.tasks ∧
    idleThenBusy.firstOpenEdge unconditional idle (GfNextAction.ofForme (NextAction.next : NextAction String))
      () = some busy ∧
    busy.preparedKey ≠ idleRunner.handleEdge .next idle.state idleThenBusy.event :=
  ⟨idleThenBusy.firstOpenEdge_conforms unconditional, List.mem_cons_self, rfl, by decide⟩

end GraphFlowAdapter
end Caulk
