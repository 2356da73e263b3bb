import Caulk.PromptRegistry
import Caulk.ContextBuilder
import Caulk.Policy
import Caulk.RigAdapter

namespace Caulk
namespace Runners

open Caulk.Core
open Foundation
open PromptRegistry
open ContextBuilders
open Policies
open RigAdapter

/-!
# The runner

`prepare` looks a prompt up, builds a context and takes the policy's list of
tools; `step` also calls the model.  Each returns at the first error.

What a consumer receives of a policy is the `ToolPlan`.  The last section
settles how much of the policy it can learn from that.
-/

/-- The tools listed for the current step.  An empty plan means "no tools" for
an allow-list and "all tools" for the other built-in policies. -/
structure ToolPlan where
  allowed : List ToolId
deriving DecidableEq, Repr

namespace ToolPlan

def new (allowed : List ToolId) : ToolPlan :=
  ⟨allowed⟩

def isEmpty (plan : ToolPlan) : Bool :=
  plan.allowed.isEmpty

def len (plan : ToolPlan) : Nat :=
  plan.allowed.length

def contains (plan : ToolPlan) (tool : ToolId) : Bool :=
  decide (tool ∈ plan.allowed)

end ToolPlan

/-- Prepared inputs before the model is called. -/
structure Prepared where
  key : PromptKey
  prompt : String
  context : String
  toolPlan : ToolPlan
deriving DecidableEq, Repr

/-- Full output after the model has answered. -/
structure StepOutput (S : Type) where
  nextState : S
  promptKey : PromptKey
  prompt : String
  context : String
  llmResponse : String
  toolPlan : ToolPlan

/-- Minimal stand-in for the graph's own action. -/
inductive NextAction (S : Type) where
  | next
  | continue
  | branch (state : S)
  | transition (state : S)
  | halt

def NextAction.isHalt {S : Type} : NextAction S -> Bool
  | .halt => true
  | _ => false

/-- Thin generic runner. -/
structure Runner (S E R B P L : Type) where
  registry : R
  builder : B
  policy : P
  llm : L

/-- Errors of the model are normalised. -/
def normalizeLlmError : FormeError -> FormeError
  | .llmFailed message => .llmFailed message
  | other => .llmFailed (toString other)

namespace Runner

variable {S E R B P L : Type}

def new (registry : R) (builder : B) (policy : P) (llm : L) : Runner S E R B P L :=
  ⟨registry, builder, policy, llm⟩

variable [ToString S] [ToString E] [Registry R] [ContextBuilder B E] [Policy P S]

/-- Key, prompt, context and the policy's list, in this order. -/
def prepare (runner : Runner S E R B P L) (state : S) (event : E) (history : List E) :
    Except FormeError Prepared := do
  let key := PromptKey.keyFor state event
  let prompt ← Registry.get runner.registry key
  let context ← ContextBuilder.build runner.builder event history
  let allowed := Policy.allowed runner.policy state
  return {
    key := key
    prompt := prompt
    context := context
    toolPlan := ToolPlan.new allowed
  }

/-- The call of the model, with its errors normalised. -/
def callLlm [adapter : LlmAdapter L E] (runner : Runner S E R B P L) (prompt context : String) :
    Except FormeError String :=
  match adapter.call runner.llm prompt context with
  | .ok response => .ok response
  | .error error => .error (normalizeLlmError error)

def step [LlmAdapter L E] (runner : Runner S E R B P L) (state : S) (event : E)
    (history : List E) : Except FormeError (StepOutput S) := do
  let prepared ← runner.prepare state event history
  let llmResponse ← runner.callLlm prepared.prompt prepared.context
  return {
    nextState := state
    promptKey := prepared.key
    prompt := prepared.prompt
    context := prepared.context
    llmResponse := llmResponse
    toolPlan := prepared.toolPlan
  }

/-- Map an edge of the graph to the next key. -/
def handleEdge (_runner : Runner S E R B P L) (action : NextAction S) (currentState : S)
    (event : E) : PromptKey :=
  match action with
  | .next | .continue | .halt => PromptKey.keyFor currentState event
  | .branch state | .transition state => PromptKey.keyFor state event

/-! ## What the two functions return -/

private theorem ok_of_bind {Error Value Result : Type} {first : Except Error Value}
    {next : Value -> Except Error Result} {result : Result}
    (success : (first >>= next) = .ok result) :
    ∃ value, first = .ok value ∧ next value = .ok result := by
  cases first with
  | error error => cases success
  | ok value => exact ⟨value, rfl, success⟩

variable {runner : Runner S E R B P L} {state : S} {event : E} {history : List E}

theorem prepare_eq_ok {prepared : Prepared}
    (success : runner.prepare state event history = .ok prepared) :
    prepared.key = PromptKey.keyFor state event ∧
    Registry.get runner.registry prepared.key = .ok prepared.prompt ∧
    ContextBuilder.build runner.builder event history = .ok prepared.context ∧
    prepared.toolPlan = ⟨Policy.allowed runner.policy state⟩ := by
  rcases ok_of_bind success with ⟨prompt, found, rest⟩
  rcases ok_of_bind rest with ⟨context, built, result⟩
  cases result
  exact ⟨rfl, found, built, rfl⟩

/-- A preparation needs nothing but the lookup and the context. -/
theorem prepare_of_parts {prompt context : String}
    (found : Registry.get runner.registry (PromptKey.keyFor state event) = .ok prompt)
    (built : ContextBuilder.build runner.builder event history = .ok context) :
    runner.prepare state event history =
      .ok ⟨PromptKey.keyFor state event, prompt, context, ⟨Policy.allowed runner.policy state⟩⟩ := by
  simp only [prepare, found, built]
  rfl

/-- A step is a preparation followed by an answer of the model. -/
theorem step_eq_ok [LlmAdapter L E] {output : StepOutput S}
    (success : runner.step state event history = .ok output) :
    ∃ prepared, runner.prepare state event history = .ok prepared ∧
      runner.callLlm prepared.prompt prepared.context = .ok output.llmResponse ∧
      output.nextState = state ∧ output.promptKey = prepared.key ∧
      output.prompt = prepared.prompt ∧ output.context = prepared.context ∧
      output.toolPlan = prepared.toolPlan := by
  rcases ok_of_bind success with ⟨prepared, ready, rest⟩
  rcases ok_of_bind rest with ⟨response, answered, result⟩
  cases result
  exact ⟨prepared, ready, answered, rfl, rfl, rfl, rfl, rfl⟩

/-! ## What a plan says about the policy -/

/-- A consumer can be handed this plan in the state. -/
def Hands [LlmAdapter L E] (runner : Runner S E R B P L) (state : S) (plan : ToolPlan) : Prop :=
  (∃ event history prepared, runner.prepare state event history = .ok prepared ∧
    prepared.toolPlan = plan) ∨
  (∃ event history output, runner.step state event history = .ok output ∧ output.toolPlan = plan)

/-- Every plan handed out is the policy's list. -/
theorem Hands.plan_eq [LlmAdapter L E] {plan : ToolPlan} (handed : runner.Hands state plan) :
    plan.allowed = Policy.allowed runner.policy state := by
  rcases handed with ⟨event, history, prepared, success, same⟩ | ⟨event, history, output, success, same⟩
  · rw [← same, (prepare_eq_ok success).2.2.2]
  · rcases step_eq_ok success with ⟨prepared, ready, _, _, _, _, _, samePlan⟩
    rw [← same, samePlan, (prepare_eq_ok ready).2.2.2]

end Runner

section Plans

variable {S E R B L : Type} [ToString S] [ToString E] [Registry R] [ContextBuilder B E]
  [LlmAdapter L E]

/-- Runners that can hand out one plan decide alike about every tool exactly
when the plan is not empty, or both policies are allow-lists, or both allow
everything but the same tools. -/
theorem equal_plans_decide_alike_iff (first second : Runner S E R B BuiltInPolicy L) (state : S)
    (plan : ToolPlan) (handed : first.Hands state plan) (handed' : second.Hands state plan) :
    (forall tool, Policy.check first.policy state tool = Policy.check second.policy state tool) <->
    plan.allowed ≠ [] ∨ first.policy.exceptions = second.policy.exceptions := by
  have sameList := handed.plan_eq.symm.trans handed'.plan_eq
  rw [handed.plan_eq]
  exact BuiltInPolicy.same_verdicts_iff first.policy second.policy state sameList

/-- A runner over two stored prompts, whose model always answers `hi`. -/
def exampleRunner (policy : BuiltInPolicy) :
    Runner String String InMemoryRegistry NoopBuilder BuiltInPolicy MockLlm :=
  Runner.new (InMemoryRegistry.fromIter [(⟨"Idle", "Go"⟩, "hello"), (⟨"Busy", "Go"⟩, "wait")]) {}
    policy (MockLlm.withResponse "hi")

def readTool : ToolId :=
  ⟨"read"⟩

/-- Two ways to build an allow-list give one plan and decide alike. -/
theorem repeated_listing_decides_alike :
    Policy.check (BuiltInPolicy.allowList (AllowListPolicy.new [readTool, readTool])) "Idle"
        ⟨"write"⟩ =
      Policy.check (BuiltInPolicy.allowList (AllowListPolicy.new [readTool])) "Idle" ⟨"write"⟩ :=
  (equal_plans_decide_alike_iff
    (exampleRunner (.allowList (AllowListPolicy.new [readTool, readTool])))
    (exampleRunner (.allowList (AllowListPolicy.new [readTool]))) "Idle" ⟨[readTool]⟩
    (Or.inl ⟨"Go", [], ⟨⟨"Idle", "Go"⟩, "hello", "", ⟨[readTool]⟩⟩, rfl, rfl⟩)
    (Or.inl ⟨"Go", [], ⟨⟨"Idle", "Go"⟩, "hello", "", ⟨[readTool]⟩⟩, rfl, rfl⟩)).mpr
    (Or.inl (List.cons_ne_nil _ _)) ⟨"write"⟩

/-- The empty plan stands for everything under one policy and for nothing
under another. -/
theorem empty_plan_decides_nothing :
    (exampleRunner (.allowAll {})).Hands "Idle" ⟨[]⟩ ∧
    (exampleRunner (.allowList .empty)).Hands "Idle" ⟨[]⟩ ∧
    Policy.check (BuiltInPolicy.allowAll {}) "Idle" readTool = .ok () ∧
    Policy.check (BuiltInPolicy.allowList .empty) "Idle" readTool = .error (.policyDenied readTool) :=
  ⟨Or.inl ⟨"Go", [], ⟨⟨"Idle", "Go"⟩, "hello", "", ⟨[]⟩⟩, rfl, rfl⟩,
    Or.inl ⟨"Go", [], ⟨⟨"Idle", "Go"⟩, "hello", "", ⟨[]⟩⟩, rfl, rfl⟩, rfl, rfl⟩

end Plans

end Runners
end Caulk
