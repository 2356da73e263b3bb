import Caulk.Core

namespace Caulk
namespace ContextBuilders

open Caulk.Core

/-!
# Context builders

The trait that turns the current event and its history into a context text.
-/

class ContextBuilder (B E : Type) where
  build : B -> E -> List E -> Except FormeError String

/-- No-op builder: the empty context. -/
structure NoopBuilder where
deriving DecidableEq, Repr

instance {E : Type} : ContextBuilder NoopBuilder E where
  build _ _ _ := .ok ""

end ContextBuilders
end Caulk
