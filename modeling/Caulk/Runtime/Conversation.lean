import Caulk.Runtime
import Caulk.RigAdapter.Rig
import Caulk.Foundation.Observation

namespace Caulk
namespace Runners

open Caulk.Core
open Foundation
open PromptRegistry
open ContextBuilders
open Policies
open RigAdapter

/-!
# Conversations

The loop of the support bot over a list of turns: every turn prepares, asks
the policy about one tool, makes the step, asks for the keys of the two edges
and adds its event to the history.

The model hears of a turn what the adapter makes of the prompt and the
context.  So the two lists of all prompts and all contexts settle what a
conversation can show of itself, and each adapter what is lost of them.
-/

/-- What one round of the loop prints. -/
structure Turn (S : Type) where
  prepared : Prepared
  verdict : Except FormeError Unit
  stepOut : StepOutput S
  nextKey : PromptKey
  stayKey : Option PromptKey

/-- The answers of the model, in order. -/
def responses {S : Type} (turns : List (Turn S)) : List String :=
  turns.map (fun turn => turn.stepOut.llmResponse)

namespace Runner

variable {S E R B P L : Type} [ToString S] [ToString E] [Registry R] [ContextBuilder B E]
  [Policy P S]

/-- The keys of the edge to the next turn and of the edge that stays; after the
last turn, the key of the final edge only. -/
def edgeKeys (runner : Runner S E R B P L) (state : S) (event : E) :
    List (S × E) -> PromptKey × Option PromptKey
  | (nextState, _) :: _ =>
      (runner.handleEdge (.transition nextState) state event,
        some (runner.handleEdge .next state event))
  | [] => (runner.handleEdge .halt state event, none)

/-- The loop.  `expect` ends it with the error. -/
def converse [LlmAdapter L E] (runner : Runner S E R B P L) (deniedAttempt : S -> ToolId)
    (history : List E) : List (S × E) -> Except FormeError (List (Turn S))
  | [] => .ok []
  | (state, event) :: rest =>
      match runner.prepare state event history with
      | .error error => .error error
      | .ok prepared =>
          match runner.step state event history with
          | .error error => .error error
          | .ok stepOut =>
              match converse runner deniedAttempt (history ++ [event]) rest with
              | .error error => .error error
              | .ok later =>
                  .ok ({
                    prepared := prepared
                    verdict := Policy.check runner.policy state (deniedAttempt state)
                    stepOut := stepOut
                    nextKey := (runner.edgeKeys state event rest).1
                    stayKey := (runner.edgeKeys state event rest).2
                  } :: later)

/-- The prompt and the context of every turn. -/
def inputs (runner : Runner S E R B P L) (history : List E) :
    List (S × E) -> Except FormeError (List (String × String))
  | [] => .ok []
  | (state, event) :: rest =>
      match runner.prepare state event history with
      | .error error => .error error
      | .ok prepared =>
          match inputs runner (history ++ [event]) rest with
          | .error error => .error error
          | .ok later => .ok ((prepared.prompt, prepared.context) :: later)

/-- The same parts around another model. -/
def withLlm {L' : Type} (runner : Runner S E R B P L) (llm : L') : Runner S E R B P L' :=
  Runner.new runner.registry runner.builder runner.policy llm

theorem prepare_withLlm {L' : Type} (runner : Runner S E R B P L) (llm : L') (state : S) (event : E)
    (history : List E) :
    (runner.withLlm llm).prepare state event history = runner.prepare state event history :=
  rfl

/-- What is prepared does not depend on the model. -/
theorem inputs_withLlm {L' : Type} (runner : Runner S E R B P L) (llm : L') (history : List E)
    (turns : List (S × E)) : (runner.withLlm llm).inputs history turns = runner.inputs history turns := by
  induction turns generalizing history with
  | nil => rfl
  | cons turn rest ih => rw [inputs, inputs, prepare_withLlm, ih]

variable {runner : Runner S E R B P L}

theorem inputs_cons_ok {state : S} {event : E} {rest : List (S × E)} {history : List E}
    {pairs : List (String × String)}
    (ready : runner.inputs history ((state, event) :: rest) = .ok pairs) :
    ∃ prepared later, runner.prepare state event history = .ok prepared ∧
      runner.inputs (history ++ [event]) rest = .ok later ∧
      pairs = (prepared.prompt, prepared.context) :: later := by
  rw [inputs] at ready
  split at ready
  · cases ready
  · rename_i prepared prepares
    split at ready
    · cases ready
    · rename_i later following
      exact ⟨prepared, later, prepares, following, (Except.ok.inj ready).symm⟩

variable [LlmAdapter L E]

/-- The model is called with what was prepared. -/
theorem step_of_prepared {state : S} {event : E} {history : List E} {prepared : Prepared}
    (ready : runner.prepare state event history = .ok prepared) :
    runner.step state event history =
      (runner.callLlm prepared.prompt prepared.context).map (fun response =>
        ⟨state, prepared.key, prepared.prompt, prepared.context, response, prepared.toolPlan⟩) := by
  unfold step
  rw [ready]
  cases answered : runner.callLlm prepared.prompt prepared.context with
  | error error => simp [bind, Except.bind, Except.map, answered]
  | ok response => simp [bind, Except.bind, Except.map, answered, pure, Except.pure]

/-- A conversation in which everything can be prepared is one call of the model
after the other. -/
theorem converse_responses (deniedAttempt : S -> ToolId) {Seen Raw : Type} {observe : String × String -> Seen}
    {read : Raw -> Except FormeError String} {answer : Seen -> Raw}
    (called : forall prompt context,
      runner.callLlm prompt context = read (answer (observe (prompt, context))))
    {history : List E} {turns : List (S × E)} {pairs : List (String × String)}
    (ready : runner.inputs history turns = .ok pairs) :
    (runner.converse deniedAttempt history turns).map responses =
      Observation.answers observe read answer pairs := by
  induction turns generalizing history pairs with
  | nil =>
      cases ready
      rfl
  | cons turn rest ih =>
      rcases turn with ⟨state, event⟩
      rcases inputs_cons_ok ready with ⟨prepared, others, prepares, later, whole⟩
      have following := ih later
      rw [whole, Observation.answers, ← called, ← following]
      simp only [converse, prepares, step_of_prepared prepares]
      cases runner.callLlm prepared.prompt prepared.context with
      | error error => rfl
      | ok response =>
          cases runner.converse deniedAttempt (history ++ [event]) rest with
          | error error => rfl
          | ok turns => rfl

/-- In a conversation that is finished everything could be prepared. -/
theorem inputs_of_converse {deniedAttempt : S -> ToolId} {history : List E} {turns : List (S × E)} {transcript : List (Turn S)}
    (finished : runner.converse deniedAttempt history turns = .ok transcript) :
    ∃ pairs, runner.inputs history turns = .ok pairs := by
  induction turns generalizing history transcript with
  | nil => exact ⟨[], rfl⟩
  | cons turn rest ih =>
      rcases turn with ⟨state, event⟩
      simp only [converse] at finished
      split at finished
      · cases finished
      · rename_i prepared prepares
        split at finished
        · cases finished
        · split at finished
          · cases finished
          · rename_i later following
            rcases ih following with ⟨pairs, ready⟩
            exact ⟨(prepared.prompt, prepared.context) :: pairs, by simp only [inputs, prepares, ready]⟩

end Runner

end Runners
end Caulk
