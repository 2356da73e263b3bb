import Caulk.Core

namespace Caulk
namespace RigAdapter

open Caulk.Core

/-!
# LLM adapters

The trait over any model client, and the mock.  The event type is a phantom
parameter of the trait.  A value of `L` is an adapter at the instant of one
call, so a model that answers differently each time is covered by its
successive values.
-/

class LlmAdapter (L E : Type) where
  call : L -> String -> String -> Except FormeError String

/-- In-memory mock: one handler for every event type. -/
structure MockLlm where
  handler : String -> String -> Except FormeError String

namespace MockLlm

def withResponse (response : String) : MockLlm :=
  ⟨fun _ _ => .ok response⟩

/-- Answers with the empty string. -/
def new : MockLlm :=
  withResponse ""

def withFn (function : String -> String -> Except FormeError String) : MockLlm :=
  ⟨function⟩

def withError (message : String) : MockLlm :=
  ⟨fun _ _ => .error (.llmFailed message)⟩

end MockLlm

instance {E : Type} : LlmAdapter MockLlm E where
  call llm prompt context := llm.handler prompt context

end RigAdapter
end Caulk
