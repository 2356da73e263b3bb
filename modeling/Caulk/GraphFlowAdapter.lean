import Caulk.Runtime

namespace Caulk
namespace GraphFlowAdapter

open Caulk.Core
open PromptRegistry
open ContextBuilders
open Policies
open RigAdapter
open Runners

/-!
# The bridge into graph-flow

Two kinds of task wrap a runner: `FormeTask` prepares, `FormeLlmTask` also
calls the model.  Both write what they have to a context that all tasks of a
graph share, and both convert their next action to graph-flow's.

Of graph-flow itself only the calls that the bridge makes occur here: `set`
and `get` of a context on strings, the constructors of an action and a
result, and one error.  What a context does is a parameter.  So is the
serializer that renders a list of tools.
-/

/-! ## The part of graph-flow that the bridge uses -/

/-- A shared context.  `set` may fail, and may have changed the context even
then. -/
class Context (Ctx : Type) where
  set : Ctx -> String -> String -> Except String Unit × Ctx
  get : Ctx -> String -> Option String

/-- `set` on a string succeeds and overwrites; `get` returns the last value set. -/
class LawfulContext (Ctx : Type) [Context Ctx] : Prop where
  set_ok : forall (context : Ctx) (key value : String), (Context.set context key value).1 = .ok ()
  get_set_same : forall (context : Ctx) (key value : String),
    Context.get (Context.set context key value).2 key = some value
  get_set_other : forall (context : Ctx) (key value other : String), other ≠ key ->
    Context.get (Context.set context key value).2 other = Context.get context other

/-- The actions of graph-flow that a caulk action can become. -/
inductive GfNextAction where
  | continue
  | continueAndExecute
  | goTo (taskId : String)
  | end
deriving DecidableEq, Repr

structure TaskResult where
  response : Option String
  nextAction : GfNextAction
deriving DecidableEq, Repr

inductive GraphError where
  | taskExecutionFailed (message : String)
deriving DecidableEq, Repr

/-- A task body: it may stop with an error, and keeps the context it has
written so far. -/
abbrev TaskM (Ctx : Type) :=
  ExceptT GraphError (StateM Ctx)

section TaskBodies

variable {Ctx Value Result : Type}

theorem bind_ok {first : TaskM Ctx Value} {next : Value -> TaskM Ctx Result} {before after : Ctx}
    {value : Value} (success : first before = (.ok value, after)) :
    (first >>= next) before = next value after := by
  simp [bind, ExceptT.bind, ExceptT.mk, ExceptT.bindCont, StateT.bind, success]

end TaskBodies

/-! ## Actions -/

/-- `Next` and `Continue` are both graph-flow's `Continue`. -/
def GfNextAction.ofForme {S : Type} [ToString S] : NextAction S -> GfNextAction
  | .next | .continue => .continue
  | .branch state | .transition state => .goTo (toString state)
  | .halt => .end

/-- The same with eager continuation on demand. -/
def caulkNextToGf {S : Type} [ToString S] (action : NextAction S) (eager : Bool) : GfNextAction :=
  match action, eager with
  | .next, true => .continueAndExecute
  | .continue, true => .continueAndExecute
  | other, _ => GfNextAction.ofForme other

/-! ## The two tasks -/

/-- Runs `prepare` for a state and an event. -/
structure FormeTask (S E R B P L : Type) where
  runner : Runner S E R B P L
  id : String
  state : S
  event : E
  history : List E
  next : NextAction S

/-- Runs the full `step`. -/
structure FormeLlmTask (S E R B P L : Type) where
  runner : Runner S E R B P L
  id : String
  state : S
  event : E
  history : List E
  next : NextAction S

section Tasks

variable {S E R B P L : Type}

namespace FormeTask

/-- The id defaults to the text of the state. -/
def new [ToString S] (runner : Runner S E R B P L) (state : S) (event : E) :
    FormeTask S E R B P L where
  runner := runner
  id := toString state
  state := state
  event := event
  history := []
  next := .next

def withId (task : FormeTask S E R B P L) (id : String) : FormeTask S E R B P L :=
  { task with id := id }

def withHistory (task : FormeTask S E R B P L) (history : List E) : FormeTask S E R B P L :=
  { task with history := history }

def withNext (task : FormeTask S E R B P L) (action : NextAction S) : FormeTask S E R B P L :=
  { task with next := action }

end FormeTask

namespace FormeLlmTask

def new [ToString S] (runner : Runner S E R B P L) (state : S) (event : E) :
    FormeLlmTask S E R B P L where
  runner := runner
  id := toString state
  state := state
  event := event
  history := []
  next := .next

def withId (task : FormeLlmTask S E R B P L) (id : String) : FormeLlmTask S E R B P L :=
  { task with id := id }

def withHistory (task : FormeLlmTask S E R B P L) (history : List E) : FormeLlmTask S E R B P L :=
  { task with history := history }

def withNext (task : FormeLlmTask S E R B P L) (action : NextAction S) :
    FormeLlmTask S E R B P L :=
  { task with next := action }

end FormeLlmTask

/-- Stop with a prefixed error, if the runner failed. -/
def orFail {Ctx Value : Type} (stage id : String) (result : Except FormeError Value) :
    TaskM Ctx Value :=
  match result with
  | .ok value => pure value
  | .error error =>
      throw (.taskExecutionFailed ("caulk " ++ stage ++ " failed (" ++ id ++ "): " ++ toString error))

theorem orFail_ok {Ctx Value : Type} (stage id : String) (value : Value) (context : Ctx) :
    orFail stage id (.ok value) context = (.ok value, context) :=
  rfl

/-- Write an entry and report a failure. -/
def setOrFail {Ctx : Type} [Context Ctx] (key label value : String) : TaskM Ctx Unit :=
  fun context =>
    match Context.set context key value with
    | (.ok _, changed) => (.ok (), changed)
    | (.error error, changed) =>
        (.error (.taskExecutionFailed ("context set " ++ label ++ " failed: " ++ error)), changed)

/-- `let _ = context.set(...)`. -/
def setIgnoring {Ctx : Type} [Context Ctx] (key value : String) : TaskM Ctx Unit :=
  fun context => (.ok (), (Context.set context key value).2)

/-- The listed tools as the serializer renders them, or an empty list. -/
def toolsJson (serialize : List String -> Except String String) (plan : ToolPlan) : String :=
  match serialize (plan.allowed.map toString) with
  | .ok text => text
  | .error _ => "[]"

variable [ToString S] [ToString E] [Registry R] [ContextBuilder B E] [Policy P S]

def FormeTask.run {Ctx : Type} [Context Ctx] (serialize : List String -> Except String String)
    (task : FormeTask S E R B P L) : TaskM Ctx TaskResult := do
  let prepared ← orFail "prepare" task.id
    (task.runner.prepare task.state task.event task.history)
  setOrFail "caulk.prompt" "prompt" prepared.prompt
  setOrFail "caulk.context" "context" prepared.context
  setOrFail "caulk.prompt_key" "prompt_key" prepared.key.canonical
  setIgnoring "caulk.tools" (toolsJson serialize prepared.toolPlan)
  setIgnoring "caulk.state" (toString task.state)
  setIgnoring "caulk.event" (toString task.event)
  return {
    response := some ("prepared: " ++ toString prepared.key)
    nextAction := GfNextAction.ofForme task.next
  }

def FormeLlmTask.run {Ctx : Type} [Context Ctx] [LlmAdapter L E] (task : FormeLlmTask S E R B P L) :
    TaskM Ctx TaskResult := do
  let out ← orFail "step" task.id (task.runner.step task.state task.event task.history)
  setIgnoring "caulk.prompt" out.prompt
  setIgnoring "caulk.context" out.context
  setIgnoring "caulk.response" out.llmResponse
  setIgnoring "caulk.state" (toString out.nextState)
  return {
    response := some out.llmResponse
    nextAction := GfNextAction.ofForme task.next
  }

end Tasks

/-! ## What a run does to the context -/

section Runs

variable {Ctx : Type} [Context Ctx]

/-- Write entries one after the other. -/
def setAll (context : Ctx) (entries : List (String × String)) : Ctx :=
  entries.foldl (fun context entry => (Context.set context entry.1 entry.2).2) context

variable {S E R B P L : Type} [ToString S] [ToString E] [Registry R] [ContextBuilder B E]
  [Policy P S]

/-- The entries that a `FormeTask` writes, in order. -/
def FormeTask.entries (serialize : List String -> Except String String)
    (task : FormeTask S E R B P L) (prepared : Prepared) : List (String × String) :=
  [("caulk.prompt", prepared.prompt), ("caulk.context", prepared.context),
    ("caulk.prompt_key", prepared.key.canonical),
    ("caulk.tools", toolsJson serialize prepared.toolPlan),
    ("caulk.state", toString task.state), ("caulk.event", toString task.event)]

/-- The entries that a `FormeLlmTask` writes, in order. -/
def FormeLlmTask.entries (out : StepOutput S) : List (String × String) :=
  [("caulk.prompt", out.prompt), ("caulk.context", out.context),
    ("caulk.response", out.llmResponse), ("caulk.state", toString out.nextState)]

theorem FormeTask.run_error (serialize : List String -> Except String String)
    (task : FormeTask S E R B P L) (context : Ctx) {error : FormeError}
    (failed : task.runner.prepare task.state task.event task.history = .error error) :
    task.run serialize context =
      (.error (.taskExecutionFailed ("caulk prepare failed (" ++ task.id ++ "): " ++ toString error)),
        context) := by
  unfold FormeTask.run
  rw [failed]
  rfl

theorem FormeLlmTask.run_ok [LlmAdapter L E] (task : FormeLlmTask S E R B P L) (context : Ctx)
    {out : StepOutput S}
    (stepped : task.runner.step task.state task.event task.history = .ok out) :
    task.run context =
      (.ok ⟨some out.llmResponse, GfNextAction.ofForme task.next⟩,
        setAll context (FormeLlmTask.entries out)) := by
  unfold FormeLlmTask.run
  rw [stepped]
  rfl

theorem FormeLlmTask.run_error [LlmAdapter L E] (task : FormeLlmTask S E R B P L) (context : Ctx)
    {error : FormeError}
    (failed : task.runner.step task.state task.event task.history = .error error) :
    task.run context =
      (.error (.taskExecutionFailed ("caulk step failed (" ++ task.id ++ "): " ++ toString error)),
        context) := by
  unfold FormeLlmTask.run
  rw [failed]
  rfl

variable [LawfulContext Ctx]

omit [ToString S] [ToString E] [Registry R] [ContextBuilder B E] [Policy P S]

theorem get_setAll_other (context : Ctx) {entries : List (String × String)} {key : String}
    (apart : key ∉ entries.map Prod.fst) :
    Context.get (setAll context entries) key = Context.get context key := by
  induction entries generalizing context with
  | nil => rfl
  | cons entry rest ih =>
      rw [List.map_cons, List.mem_cons, not_or] at apart
      rw [setAll, List.foldl_cons, ← setAll, ih _ apart.2]
      exact LawfulContext.get_set_other context entry.1 entry.2 key apart.1

theorem get_setAll_entry (context : Ctx) {entries : List (String × String)} {key value : String}
    (distinct : (entries.map Prod.fst).Nodup) (member : (key, value) ∈ entries) :
    Context.get (setAll context entries) key = some value := by
  induction entries generalizing context with
  | nil => cases member
  | cons entry rest ih =>
      rw [List.map_cons, List.nodup_cons] at distinct
      rw [setAll, List.foldl_cons, ← setAll]
      rcases List.mem_cons.mp member with first | later
      · subst first
        rw [get_setAll_other _ distinct.1]
        exact LawfulContext.get_set_same context key value
      · exact ih _ distinct.2 later

theorem setOrFail_run (context : Ctx) (key label value : String) :
    setOrFail key label value context = (.ok (), (Context.set context key value).2) := by
  have success := LawfulContext.set_ok context key value
  unfold setOrFail
  cases outcome : Context.set context key value with
  | mk result changed =>
      rw [outcome] at success
      cases success
      rfl

/-- No failing `set` cuts the writing short. -/
theorem FormeTask.run_ok [ToString S] [ToString E] [Registry R] [ContextBuilder B E] [Policy P S]
    (serialize : List String -> Except String String) (task : FormeTask S E R B P L) (context : Ctx)
    {prepared : Prepared}
    (ready : task.runner.prepare task.state task.event task.history = .ok prepared) :
    task.run serialize context =
      (.ok ⟨some ("prepared: " ++ toString prepared.key), GfNextAction.ofForme task.next⟩,
        setAll context (task.entries serialize prepared)) := by
  unfold FormeTask.run
  rw [ready, bind_ok (orFail_ok _ _ _ _), bind_ok (setOrFail_run _ _ _ _),
    bind_ok (setOrFail_run _ _ _ _), bind_ok (setOrFail_run _ _ _ _)]
  rfl

end Runs

end GraphFlowAdapter
end Caulk
