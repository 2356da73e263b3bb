import Caulk.Runtime.Conversation
import Caulk.ContextBuilder.CursorEvent

namespace Caulk
namespace Runners

open Caulk.Core
open Foundation
open PromptRegistry
open ContextBuilders
open Policies
open RigAdapter

/-!
# What is heard of a conversation

Behind the model adapter a model hears the prompt and the context of every
turn, and blank contexts all sound the same.  Behind the factory a context
that repeats the prompt is one more way to sound like a blank one.  Behind the
agent adapter there is only the message, which is the context unless it is
blank.

Two conversations that can be prepared are told apart by somebody behind an
adapter exactly when the adapter lets something different through.
-/

/-! ## Each adapter as an observer -/

section Observers

variable {S E R B P : Type}

theorem normalize_mapFailed {Value : Type} (raw : Except String Value) :
    (mapFailed raw).mapError normalizeLlmError = mapFailed raw := by
  cases raw with
  | ok value => rfl
  | error message => rfl

theorem callLlm_eq {L : Type} [adapter : LlmAdapter L E] (runner : Runner S E R B P L)
    (prompt context : String) :
    runner.callLlm prompt context =
      (adapter.call runner.llm prompt context).mapError normalizeLlmError := by
  unfold Runner.callLlm
  cases adapter.call runner.llm prompt context with
  | ok response => rfl
  | error error => rfl

/-- The text of an answer, or the failure. -/
def readChoice (raw : Except String (List AssistantContent)) : Except FormeError String :=
  (mapFailed raw).map RigModelAdapter.joinTexts

theorem callLlm_model {M Temperature : Type} [CompletionModel M Temperature]
    (runner : Runner S E R B P (RigModelAdapter M Temperature)) (prompt context : String) :
    runner.callLlm prompt context =
      readChoice (CompletionModel.completion runner.llm.model (runner.llm.request prompt context)) := by
  rw [callLlm_eq]
  simp only [LlmAdapter.call, readChoice]
  cases CompletionModel.completion runner.llm.model (runner.llm.request prompt context) with
  | ok choice => rfl
  | error message => rfl

theorem callLlm_agent {A : Type} [Prompt A] (runner : Runner S E R B P (RigAgentAdapter A))
    (prompt context : String) :
    runner.callLlm prompt context =
      mapFailed (Prompt.prompt runner.llm.agent (userMessage prompt context)) := by
  rw [callLlm_eq]
  exact normalize_mapFailed _

theorem callLlm_factory {C A : Type} [AgentClientExt C A] [Prompt A] (factory : RigAgentFactory C)
    (runner : Runner S E R B P ClosureAdapter) (built : runner.llm = factory.intoAdapter)
    (prompt context : String) :
    runner.callLlm prompt context =
      mapFailed (Prompt.prompt (AgentClientExt.agent factory.client factory.modelName prompt)
        (userMessage prompt context)) := by
  rw [callLlm_eq, built]
  exact normalize_mapFailed _

end Observers

/-! ## Which conversations can be told apart -/

/-- Any function is the behaviour of some model. -/
structure AnyModel (Temperature : Type) where
  completion : CompletionRequest Temperature -> Except String (List AssistantContent)

instance {Temperature : Type} : CompletionModel (AnyModel Temperature) Temperature :=
  ⟨AnyModel.completion⟩

/-- And of some agent. -/
structure AnyAgent where
  prompt : String -> Except String String

instance : Prompt AnyAgent :=
  ⟨AnyAgent.prompt⟩

/-- A client whose agents answer by preamble and message. -/
structure AnyClient where
  ask : String × String -> Except String String

instance : AgentClientExt AnyClient AnyAgent :=
  ⟨fun client _ preamble => ⟨fun message => client.ask (preamble, message)⟩⟩

/-- Equal prompts, and equal contexts unless both are blank. -/
def SameRequest (first second : String × String) : Prop :=
  first.1 = second.1 ∧ (first.2 = second.2 ∨
    Text.isBlank first.2.toList = true ∧ Text.isBlank second.2.toList = true)

def SameMessage (first second : String × String) : Prop :=
  userMessage first.1 first.2 = userMessage second.1 second.2

theorem map_eq_map_iff_forall₂ {Item Seen : Type} (observe : Item -> Seen) (first second : List Item) :
    first.map observe = second.map observe <->
      List.Forall₂ (fun item other => observe item = observe other) first second := by
  rw [← List.forall₂_eq_eq_eq, List.forall₂_map_left_iff, List.forall₂_map_right_iff]

section Telling

variable {S E R R' B B' P P' : Type} [ToString S] [ToString E] [Registry R] [Registry R']
  [ContextBuilder B E] [ContextBuilder B' E] [Policy P S] [Policy P' S]

/-- A model answers both conversations alike. -/
def AnsweredAlike {L : Type} [LlmAdapter L E] (first : Runner S E R B P Unit)
    (second : Runner S E R' B' P' Unit) (deniedAttempt : S -> ToolId) (turns turns' : List (S × E))
    (llm : L) : Prop :=
  ((first.withLlm llm).converse deniedAttempt [] turns).map responses =
    ((second.withLlm llm).converse deniedAttempt [] turns').map responses

variable {first : Runner S E R B P Unit} {second : Runner S E R' B' P' Unit}
  {turns turns' : List (S × E)} {pairs pairs' : List (String × String)}

/-- What an adapter observes decides whether a model answers alike. -/
theorem answeredAlike_iff {L Seen Raw : Type} [LlmAdapter L E] {deniedAttempt : S -> ToolId}
    {observe : String × String -> Seen} {read : Raw -> Except FormeError String}
    {answer : Seen -> Raw} {llm : L}
    (called : forall prompt context, (first.withLlm llm).callLlm prompt context =
      read (answer (observe (prompt, context))))
    (called' : forall prompt context, (second.withLlm llm).callLlm prompt context =
      read (answer (observe (prompt, context))))
    (ready : first.inputs [] turns = .ok pairs) (ready' : second.inputs [] turns' = .ok pairs') :
    AnsweredAlike first second deniedAttempt turns turns' llm <->
      Observation.answers observe read answer pairs = Observation.answers observe read answer pairs' := by
  rw [← Runner.inputs_withLlm first llm] at ready
  rw [← Runner.inputs_withLlm second llm] at ready'
  unfold AnsweredAlike
  rw [Runner.converse_responses deniedAttempt called ready,
    Runner.converse_responses deniedAttempt called' ready']

/-- The request of a turn, for any model. -/
def requestOf {Temperature : Type} (temperature : Option Temperature) (maxTokens : Option UInt64)
    (pair : String × String) : CompletionRequest Temperature :=
  (RigModelAdapter.mk () temperature maxTokens).request pair.1 pair.2

def messageOf (pair : String × String) : String :=
  userMessage pair.1 pair.2

def preambleAndMessage (pair : String × String) : String × String :=
  (pair.1, messageOf pair)

theorem alike_behind_model {Temperature : Type} (deniedAttempt : S -> ToolId)
    (temperature : Option Temperature) (maxTokens : Option UInt64)
    (ready : first.inputs [] turns = .ok pairs) (ready' : second.inputs [] turns' = .ok pairs') :
    (forall (M : Type) [CompletionModel M Temperature] (model : M),
        AnsweredAlike first second deniedAttempt turns turns'
          (RigModelAdapter.mk model temperature maxTokens)) <->
      pairs.map (requestOf temperature maxTokens) = pairs'.map (requestOf temperature maxTokens) := by
  have settled : forall (M : Type) [CompletionModel M Temperature] (model : M),
      AnsweredAlike first second deniedAttempt turns turns'
          (RigModelAdapter.mk model temperature maxTokens) <->
        Observation.answers (requestOf temperature maxTokens) readChoice
            (CompletionModel.completion model) pairs =
          Observation.answers (requestOf temperature maxTokens) readChoice
            (CompletionModel.completion model) pairs' := by
    intro M _ model
    exact answeredAlike_iff (callLlm_model _) (callLlm_model _) ready ready'
  have yesRead : readChoice (.ok [.text "yes"]) = .ok "yes" := by decide
  have noRead : readChoice (.ok [.text "no"]) = .ok "no" := by decide
  rw [← Observation.answers_agree_iff yesRead noRead (by decide)]
  constructor
  · intro alike answer
    exact (settled (AnyModel Temperature) ⟨answer⟩).mp (alike _ _)
  · intro agree M _ model
    exact (settled M model).mpr (agree _)

theorem alike_behind_factory (deniedAttempt : S -> ToolId) (modelName : String)
    (ready : first.inputs [] turns = .ok pairs) (ready' : second.inputs [] turns' = .ok pairs') :
    (forall (C A : Type) [AgentClientExt C A] [Prompt A] (client : C),
        AnsweredAlike first second deniedAttempt turns turns'
          (RigAgentFactory.new client modelName).intoAdapter) <->
      pairs.map preambleAndMessage = pairs'.map preambleAndMessage := by
  have settled : forall (C A : Type) [AgentClientExt C A] [Prompt A] (client : C),
      AnsweredAlike first second deniedAttempt turns turns'
          (RigAgentFactory.new client modelName).intoAdapter <->
        Observation.answers preambleAndMessage mapFailed
            (fun seen => Prompt.prompt (AgentClientExt.agent client modelName seen.1) seen.2) pairs =
          Observation.answers preambleAndMessage mapFailed
            (fun seen => Prompt.prompt (AgentClientExt.agent client modelName seen.1) seen.2) pairs' := by
    intro C A _ _ client
    exact answeredAlike_iff (callLlm_factory (RigAgentFactory.new client modelName) _ rfl)
      (callLlm_factory (RigAgentFactory.new client modelName) _ rfl) ready ready'
  have yesRead : mapFailed (.ok "yes") = .ok "yes" := rfl
  have noRead : mapFailed (.ok "no") = .ok "no" := rfl
  rw [← Observation.answers_agree_iff yesRead noRead (by decide)]
  constructor
  · intro alike answer
    exact (settled AnyClient AnyAgent ⟨answer⟩).mp (alike _ _ _)
  · intro agree C A _ _ client
    exact (settled C A client).mpr (agree _)

theorem alike_behind_agent (deniedAttempt : S -> ToolId)
    (ready : first.inputs [] turns = .ok pairs) (ready' : second.inputs [] turns' = .ok pairs') :
    (forall (A : Type) [Prompt A] (agent : A),
        AnsweredAlike first second deniedAttempt turns turns' (RigAgentAdapter.new agent)) <->
      pairs.map messageOf = pairs'.map messageOf := by
  have settled : forall (A : Type) [Prompt A] (agent : A),
      AnsweredAlike first second deniedAttempt turns turns' (RigAgentAdapter.new agent) <->
        Observation.answers messageOf mapFailed (Prompt.prompt agent) pairs =
          Observation.answers messageOf mapFailed (Prompt.prompt agent) pairs' := by
    intro A _ agent
    exact answeredAlike_iff (callLlm_agent _) (callLlm_agent _) ready ready'
  have yesRead : mapFailed (.ok "yes") = .ok "yes" := rfl
  have noRead : mapFailed (.ok "no") = .ok "no" := rfl
  rw [← Observation.answers_agree_iff yesRead noRead (by decide)]
  constructor
  · intro alike answer
    exact (settled AnyAgent ⟨answer⟩).mp (alike _ _)
  · intro agree A _ agent
    exact (settled A agent).mpr (agree _)

theorem map_requestOf_iff {Temperature : Type} (temperature : Option Temperature)
    (maxTokens : Option UInt64) :
    pairs.map (requestOf temperature maxTokens) = pairs'.map (requestOf temperature maxTokens) <->
      List.Forall₂ SameRequest pairs pairs' := by
  have relation : (fun pair pair' => requestOf temperature maxTokens pair =
      requestOf temperature maxTokens pair') = SameRequest := by
    funext pair pair'
    exact propext (RigModelAdapter.request_eq_iff _ pair.1 pair.2 pair'.1 pair'.2)
  rw [map_eq_map_iff_forall₂, relation]

theorem map_preambleAndMessage_iff :
    pairs.map preambleAndMessage = pairs'.map preambleAndMessage <->
      List.Forall₂ (fun pair pair' => pair.1 = pair'.1 ∧ SameMessage pair pair') pairs pairs' := by
  have relation : (fun pair pair' => preambleAndMessage pair = preambleAndMessage pair') =
      (fun pair pair' => pair.1 = pair'.1 ∧ SameMessage pair pair') := by
    funext pair pair'
    exact Prod.mk.injEq _ _ _ _
  rw [map_eq_map_iff_forall₂, relation]

/-- Of two conversations that can be prepared, every model behind the model
adapter answers both alike exactly when turn by turn the prompts are equal and
the contexts are equal or both blank; behind the factory, when the prompts and
the messages are equal; and behind the agent adapter, when the messages are. -/
theorem conversations_alike_iff {Temperature : Type} (deniedAttempt : S -> ToolId)
    (temperature : Option Temperature) (maxTokens : Option UInt64) (modelName : String)
    (ready : first.inputs [] turns = .ok pairs) (ready' : second.inputs [] turns' = .ok pairs') :
    ((forall (M : Type) [CompletionModel M Temperature] (model : M),
        AnsweredAlike first second deniedAttempt turns turns'
          (RigModelAdapter.mk model temperature maxTokens)) <->
      List.Forall₂ SameRequest pairs pairs') ∧
    ((forall (C A : Type) [AgentClientExt C A] [Prompt A] (client : C),
        AnsweredAlike first second deniedAttempt turns turns'
          (RigAgentFactory.new client modelName).intoAdapter) <->
      List.Forall₂ (fun pair pair' => pair.1 = pair'.1 ∧ SameMessage pair pair') pairs pairs') ∧
    ((forall (A : Type) [Prompt A] (agent : A),
        AnsweredAlike first second deniedAttempt turns turns' (RigAgentAdapter.new agent)) <->
      List.Forall₂ SameMessage pairs pairs') := by
  refine ⟨?_, ?_, ?_⟩
  · rw [alike_behind_model deniedAttempt temperature maxTokens ready ready', map_requestOf_iff]
  · rw [alike_behind_factory deniedAttempt modelName ready ready', map_preambleAndMessage_iff]
  · rw [alike_behind_agent deniedAttempt ready ready', map_eq_map_iff_forall₂]
    rfl

/-- A runner over two stored prompts that shows every event as it is. -/
def greeter : Runner String String InMemoryRegistry FileSnippetBuilder BuiltInPolicy Unit :=
  Runner.new (exampleRunner (.allowAll {})).registry FileSnippetBuilder.new (.allowAll {}) ()

/-- A greeting in two states differs from two greetings in one for some model
behind the model adapter and some client behind the factory, who hear the
prompts, but for no agent behind the agent adapter. -/
theorem greetings_told_apart_by_prompts :
    (¬ forall (M : Type) [CompletionModel M Nat] (model : M),
        AnsweredAlike greeter greeter (fun _ => readTool) [("Idle", "Go"), ("Busy", "Go")]
          [("Idle", "Go"), ("Idle", "Go")] (RigModelAdapter.mk model (none : Option Nat) none)) ∧
    (¬ forall (C A : Type) [AgentClientExt C A] [Prompt A] (client : C),
        AnsweredAlike greeter greeter (fun _ => readTool) [("Idle", "Go"), ("Busy", "Go")]
          [("Idle", "Go"), ("Idle", "Go")] (RigAgentFactory.new client "model").intoAdapter) ∧
    (forall (A : Type) [Prompt A] (agent : A),
        AnsweredAlike greeter greeter (fun _ => readTool) [("Idle", "Go"), ("Busy", "Go")]
          [("Idle", "Go"), ("Idle", "Go")] (RigAgentAdapter.new agent)) := by
  have ready : greeter.inputs [] [("Idle", "Go"), ("Busy", "Go")] =
      .ok [("hello", "Go"), ("wait", "Go")] := rfl
  have ready' : greeter.inputs [] [("Idle", "Go"), ("Idle", "Go")] =
      .ok [("hello", "Go"), ("hello", "Go")] := rfl
  have apart : "wait" ≠ "hello" := by decide
  rcases conversations_alike_iff (fun _ => readTool) (none : Option Nat) none "model" ready ready' with
    ⟨byModels, byClients, byAgents⟩
  refine ⟨?_, ?_, byAgents.mpr ?_⟩
  · intro alike
    have later := (List.forall₂_cons.mp (byModels.mp alike)).2
    exact apart (List.forall₂_cons.mp later).1.1
  · intro alike
    have later := (List.forall₂_cons.mp (byClients.mp alike)).2
    exact apart (List.forall₂_cons.mp later).1.1
  · have same : SameMessage ("wait", "Go") ("hello", "Go") := by
      unfold SameMessage
      decide
    exact .cons rfl (.cons same .nil)

end Telling

end Runners
end Caulk
