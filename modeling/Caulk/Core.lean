import Caulk.Foundation.Separator
import Mathlib.Data.Finset.Basic

namespace Caulk
namespace Core

open Foundation

/-!
# Keys, tools and errors

The kernel on which every other module depends: the concrete prompt key, the
tool identifier and the one error type.  The source's `State` and `Event`
traits are collections of standard bounds; of these only `Display` is ever
used by the modelled code, so a state or event type is any type with a
`ToString` instance, and `toString` is the source's `to_string`.

The second half asks what the canonical text of a key says about the key.
The two parts are joined by `::` without escaping, so the answer is the
general one about unescaped separators, read at this separator.
-/

/-- Concrete registry key.  Both parts are arbitrary text. -/
structure PromptKey where
  state : String
  event : String
deriving DecidableEq, Repr

namespace PromptKey

/-- The typed constructor: both parts are rendered by `Display`. -/
def keyFor {S E : Type} [ToString S] [ToString E] (state : S) (event : E) : PromptKey where
  state := toString state
  event := toString event

/-- Canonical string `state::event`. -/
def canonical (key : PromptKey) : String :=
  key.state ++ "::" ++ key.event

/-- `Display` writes the canonical string. -/
instance : ToString PromptKey := ⟨canonical⟩

end PromptKey

/-- Newtype for tool identifiers. -/
structure ToolId where
  name : String
deriving DecidableEq, Repr

instance : ToString ToolId := ⟨ToolId.name⟩

/-- The core error type: zero I/O, just data. -/
inductive FormeError where
  | registryNotFound (key : PromptKey)
  | contextBuildFailed (message : String)
  | policyDenied (tool : ToolId)
  | persistenceFailed (message : String)
  | llmFailed (message : String)
  | invalidInput (message : String)
deriving DecidableEq, Repr

namespace FormeError

/-- The message of each variant carries its whole payload. -/
def display : FormeError -> String
  | registryNotFound key => "prompt not found for " ++ toString key
  | contextBuildFailed message => "context build failed: " ++ message
  | policyDenied tool => "policy denied tool " ++ toString tool
  | persistenceFailed message => "persistence failed: " ++ message
  | llmFailed message => "llm call failed: " ++ message
  | invalidInput message => "invalid input: " ++ message

instance : ToString FormeError := ⟨display⟩

def isNotFound : FormeError -> Bool
  | registryNotFound _ => true
  | _ => false

def isDenied : FormeError -> Bool
  | policyDenied _ => true
  | _ => false

end FormeError

/-! ## What the canonical text determines -/

namespace PromptKey

/-- The state ends visibly at the separator: it holds no `::` of its own and
no final colon that would run into the separator. -/
def StateDelimited (key : PromptKey) : Prop :=
  ¬ [':', ':'] <:+: key.state.toList ∧ key.state.toList.getLast? ≠ some ':'

/-- The event begins visibly at the separator. -/
def EventDelimited (key : PromptKey) : Prop :=
  ¬ [':', ':'] <:+: key.event.toList ∧ key.event.toList.head? ≠ some ':'

instance (key : PromptKey) : Decidable key.StateDelimited :=
  inferInstanceAs (Decidable (_ ∧ _))

instance (key : PromptKey) : Decidable key.EventDelimited :=
  inferInstanceAs (Decidable (_ ∧ _))

theorem canonical_toList (key : PromptKey) :
    key.canonical.toList = key.state.toList ++ [':', ':'] ++ key.event.toList := by
  simp [canonical, String.toList_append]

/-- Equal canonical strings are equal joins of the two character lists. -/
theorem canonical_eq_iff (first second : PromptKey) :
    first.canonical = second.canonical <->
    first.state.toList ++ [':', ':'] ++ first.event.toList =
      second.state.toList ++ [':', ':'] ++ second.event.toList := by
  rw [← canonical_toList, ← canonical_toList, String.toList_inj]

theorem stateDelimited_iff_closes (key : PromptKey) :
    key.StateDelimited <-> Separator.Closes [':', ':'] key.state.toList :=
  (Separator.closes_double_iff ':' key.state.toList).symm

theorem eventDelimited_iff_opens (key : PromptKey) :
    key.EventDelimited <-> Separator.Opens [':', ':'] key.event.toList :=
  (Separator.opens_double_iff ':' key.event.toList).symm

/-- The longer of two states being delimited is already enough. -/
private theorem parts_eq_of_longer_state (first second : PromptKey)
    (same : first.canonical = second.canonical)
    (shorter : first.state.toList.length ≤ second.state.toList.length)
    (delimited : second.StateDelimited ∨ first.EventDelimited) :
    first.state = second.state ∧ first.event = second.event := by
  have joins := (canonical_eq_iff first second).mp same
  have parts : first.state.toList = second.state.toList ∧
      first.event.toList = second.event.toList := by
    rcases delimited with state | event
    · exact Separator.parts_eq_of_closes joins shorter ((stateDelimited_iff_closes second).mp state)
    · exact Separator.parts_eq_of_opens joins shorter ((eventDelimited_iff_opens first).mp event)
  exact ⟨String.toList_inj.mp parts.1, String.toList_inj.mp parts.2⟩

/-- Two keys of one canonical string are the same key when both states are
delimited, or both events are. -/
theorem parts_eq_of_delimited (first second : PromptKey)
    (delimited : (first.StateDelimited ∧ second.StateDelimited) ∨
      (first.EventDelimited ∧ second.EventDelimited))
    (same : first.canonical = second.canonical) :
    first.state = second.state ∧ first.event = second.event := by
  rcases Nat.le_total first.state.toList.length second.state.toList.length with shorter | longer
  · exact parts_eq_of_longer_state first second same shorter
      (delimited.imp (fun states => states.2) (fun events => events.1))
  · have swapped := parts_eq_of_longer_state second first same.symm longer
      (delimited.imp (fun states => states.1) (fun events => events.2))
    exact ⟨swapped.1.symm, swapped.2.symm⟩

/-- A key whose canonical string no other key shares is one that is delimited
on both sides. -/
theorem determined_iff_delimited (key : PromptKey) :
    (forall other : PromptKey, other.canonical = key.canonical ->
      other.state = key.state ∧ other.event = key.event) <->
    key.StateDelimited ∧ key.EventDelimited := by
  rw [stateDelimited_iff_closes, eventDelimited_iff_opens, ← Separator.determined_iff]
  constructor
  · intro determined left right same
    have other := determined ⟨String.ofList left, String.ofList right⟩ (by
      rw [canonical_eq_iff, String.toList_ofList, String.toList_ofList]
      exact same)
    constructor
    · rw [← other.1, String.toList_ofList]
    · rw [← other.2, String.toList_ofList]
  · intro determined other same
    have parts := determined _ _ ((canonical_eq_iff other key).mp same)
    exact ⟨String.toList_inj.mp parts.1, String.toList_inj.mp parts.2⟩

/-- The canonical string identifies exactly the delimited keys.  Among keys
with delimited states, or with delimited events, it identifies each; and a
key that is not delimited on both sides shares it with another key. -/
theorem canonical_identifies_delimited_keys :
    (forall first second : PromptKey,
      (first.StateDelimited ∧ second.StateDelimited) ∨
        (first.EventDelimited ∧ second.EventDelimited) ->
      first.canonical = second.canonical ->
      first.state = second.state ∧ first.event = second.event) ∧
    (forall key : PromptKey,
      (forall other : PromptKey, other.canonical = key.canonical ->
        other.state = key.state ∧ other.event = key.event) <->
      key.StateDelimited ∧ key.EventDelimited) :=
  ⟨parts_eq_of_delimited, determined_iff_delimited⟩

/-- The boundary between `a::b` and `c` cannot be told from the one between
`a` and `b::c`. -/
theorem canonical_hides_boundary :
    ∃ first second : PromptKey, first.canonical = second.canonical ∧
      ¬ (first.state = second.state ∧ first.event = second.event) :=
  ⟨⟨"a::b", "c"⟩, ⟨"a", "b::c"⟩, by decide, by decide⟩

end PromptKey

end Core
end Caulk
