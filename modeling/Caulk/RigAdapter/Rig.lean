import Caulk.RigAdapter
import Caulk.Foundation.Paragraphs

namespace Caulk
namespace RigAdapter

open Caulk.Core
open Foundation

/-!
# The Rig adapters

Three ways to put a prompt and a context before a model of Rig.  The model
adapter makes the prompt the preamble of a request, the agent adapter has only
one message to send, and the factory builds a new agent with the prompt as its
preamble.  All three fall back on the prompt as the message when the context
is blank.

Of Rig itself only the calls that the adapters make occur here.  A request is
what its builder has been given; how a model or an agent answers is a
parameter.
-/

/-! ## The part of Rig that the adapters use -/

/-- A built request.  The temperature is a floating-point number that nobody
computes with. -/
structure CompletionRequest (Temperature : Type) where
  message : String
  preamble : Option String
  temperature : Option Temperature
  maxTokens : Option UInt64

/-- A piece of an answer.  Of all kinds only the texts are told apart. -/
inductive AssistantContent where
  | text (text : String)
  | other

/-- `completion`, with the text of an error. -/
class CompletionModel (M : Type) (Temperature : outParam Type) where
  completion : M -> CompletionRequest Temperature -> Except String (List AssistantContent)

/-- `agent.prompt(message)`, with the text of an error. -/
class Prompt (A : Type) where
  prompt : A -> String -> Except String String

/-- `client.agent(model).preamble(preamble).build()`. -/
class AgentClientExt (C : Type) (A : outParam Type) where
  agent : C -> String -> String -> A

/-! ## The adapters -/

/-- What the user says to the model: the context, or the prompt if that is
blank. -/
def userMessage (prompt context : String) : String :=
  if (Text.trim context.toList).isEmpty then prompt else context

/-- `map_err(|e| LlmFailed(e.to_string()))`. -/
def mapFailed {Value : Type} : Except String Value -> Except FormeError Value
  | .ok value => .ok value
  | .error message => .error (.llmFailed message)

structure RigModelAdapter (M Temperature : Type) where
  model : M
  temperature : Option Temperature
  maxTokens : Option UInt64

namespace RigModelAdapter

variable {M Temperature : Type}

def new (model : M) : RigModelAdapter M Temperature where
  model := model
  temperature := none
  maxTokens := none

def withTemperature (adapter : RigModelAdapter M Temperature) (temperature : Temperature) :
    RigModelAdapter M Temperature :=
  { adapter with temperature := some temperature }

def withMaxTokens (adapter : RigModelAdapter M Temperature) (maxTokens : UInt64) :
    RigModelAdapter M Temperature :=
  { adapter with maxTokens := some maxTokens }

/-- The request of one call.  A blank context leaves the preamble unset. -/
def request (adapter : RigModelAdapter M Temperature) (prompt context : String) :
    CompletionRequest Temperature :=
  let (userMsg, preambleOpt) :=
    if (Text.trim context.toList).isEmpty then (prompt, none) else (context, some prompt)
  {
    message := userMsg
    preamble := preambleOpt
    temperature := adapter.temperature
    maxTokens := adapter.maxTokens
  }

/-- The texts among the pieces of an answer. -/
def texts : List AssistantContent -> List String
  | [] => []
  | .text text :: rest => text :: texts rest
  | .other :: rest => texts rest

def joinTexts (choice : List AssistantContent) : String :=
  if (texts choice).isEmpty then "" else "\n".intercalate (texts choice)

instance {E : Type} [CompletionModel M Temperature] :
    LlmAdapter (RigModelAdapter M Temperature) E where
  call adapter prompt context :=
    match mapFailed (CompletionModel.completion adapter.model (adapter.request prompt context)) with
    | .ok choice => .ok (joinTexts choice)
    | .error error => .error error

end RigModelAdapter

/-- Any function from prompt and context to an answer. -/
structure ClosureAdapter where
  inner : String -> String -> Except FormeError String

namespace ClosureAdapter

def fromFn (function : String -> String -> Except FormeError String) : ClosureAdapter :=
  ⟨function⟩

instance {E : Type} : LlmAdapter ClosureAdapter E where
  call adapter prompt context := adapter.inner prompt context

end ClosureAdapter

structure RigAgentAdapter (A : Type) where
  agent : A

namespace RigAgentAdapter

variable {A : Type}

def new (agent : A) : RigAgentAdapter A :=
  ⟨agent⟩

/-- The same, from an agent that is not shared yet. -/
def fromAgent (agent : A) : RigAgentAdapter A :=
  ⟨agent⟩

instance {E : Type} [Prompt A] : LlmAdapter (RigAgentAdapter A) E where
  call adapter prompt context :=
    mapFailed (Prompt.prompt adapter.agent (userMessage prompt context))

end RigAgentAdapter

structure RigAgentFactory (C : Type) where
  client : C
  modelName : String

namespace RigAgentFactory

variable {C A : Type}

def new (client : C) (modelName : String) : RigAgentFactory C :=
  ⟨client, modelName⟩

/-- Every call builds an agent of its own, with the prompt as its preamble even
where the prompt is the message too. -/
def intoAdapter [AgentClientExt C A] [Prompt A] (factory : RigAgentFactory C) : ClosureAdapter :=
  ClosureAdapter.fromFn (fun prompt context =>
    let userMsg := userMessage prompt context
    let agent := AgentClientExt.agent factory.client factory.modelName prompt
    mapFailed (Prompt.prompt agent userMsg))

end RigAgentFactory

/-! ## What the other side is told -/

theorem userMessage_of_blank {context : String} (prompt : String)
    (blank : Text.isBlank context.toList = true) : userMessage prompt context = prompt :=
  if_pos blank

theorem userMessage_of_solid {context : String} (prompt : String)
    (solid : Text.isBlank context.toList = false) : userMessage prompt context = context :=
  if_neg (ne_true_of_eq_false solid)

namespace RigModelAdapter

variable {M Temperature : Type} (adapter : RigModelAdapter M Temperature)

theorem request_of_blank {context : String} (prompt : String)
    (blank : Text.isBlank context.toList = true) :
    adapter.request prompt context = ⟨prompt, none, adapter.temperature, adapter.maxTokens⟩ := by
  unfold Text.isBlank at blank
  rw [request, if_pos blank]

theorem request_of_solid {context : String} (prompt : String)
    (solid : Text.isBlank context.toList = false) :
    adapter.request prompt context =
      ⟨context, some prompt, adapter.temperature, adapter.maxTokens⟩ := by
  unfold Text.isBlank at solid
  rw [request, if_neg (ne_true_of_eq_false solid)]

/-- A request determines the prompt, and the context unless it is blank. -/
theorem request_eq_iff (prompt context prompt' context' : String) :
    adapter.request prompt context = adapter.request prompt' context' <->
      prompt = prompt' ∧ (context = context' ∨
        Text.isBlank context.toList = true ∧ Text.isBlank context'.toList = true) := by
  cases blank : Text.isBlank context.toList with
  | true =>
      rw [request_of_blank adapter prompt blank]
      cases blank' : Text.isBlank context'.toList with
      | true => simp [request_of_blank adapter prompt' blank']
      | false =>
          have apart : context ≠ context' := by
            intro same
            rw [same, blank'] at blank
            cases blank
          simp [request_of_solid adapter prompt' blank', apart]
  | false =>
      rw [request_of_solid adapter prompt blank]
      cases blank' : Text.isBlank context'.toList with
      | true =>
          have apart : context ≠ context' := by
            intro same
            rw [same, blank'] at blank
            cases blank
          simp [request_of_blank adapter prompt' blank', apart]
      | false => simp [request_of_solid adapter prompt' blank', and_comm]

end RigModelAdapter

end RigAdapter
end Caulk
