import Caulk.Core
import Caulk.Foundation.Storage
import Mathlib.Data.Fintype.EquivFin

namespace Caulk
namespace Policies

open Caulk.Core
open Foundation

/-!
# Tool policies

A policy answers two questions about a state: which tools are listed for it,
and whether one tool may run.  The trait derives the second answer from the
first, but every built-in policy overrides it, and for two of the three the
list is empty whatever they allow.

So the list alone does not say what a policy decides.  The last section says
exactly when it does.
-/

/-- Check a tool against a list; the body the trait gives to `check`. -/
def checkListed (allowed : List ToolId) (tool : ToolId) : Except FormeError Unit :=
  if tool ∈ allowed then .ok () else .error (.policyDenied tool)

/-- Which tools may run in which state.  `check` and `isAllowed` have bodies
that an implementation may override. -/
class Policy (P S : Type) where
  allowed : P -> S -> List ToolId
  check : P -> S -> ToolId -> Except FormeError Unit :=
    fun policy state tool => checkListed (allowed policy state) tool
  isAllowed : P -> S -> ToolId -> Bool :=
    fun policy state tool => (check policy state tool).isOk

/-! ## The built-in policies -/

/-- Allows every tool in every state and lists none. -/
structure AllowAllPolicy where
deriving DecidableEq, Repr

instance {S : Type} : Policy AllowAllPolicy S where
  allowed _ _ := []
  check _ _ _ := .ok ()
  isAllowed _ _ _ := true

/-- Denies a fixed set, allows everything else, and lists none. -/
structure DenyListPolicy where
  denied : HashSet ToolId

namespace DenyListPolicy

def new (denied : HashSet ToolId) : DenyListPolicy :=
  ⟨denied⟩

def empty : DenyListPolicy :=
  ⟨∅⟩

def fromIter (tools : List ToolId) : DenyListPolicy :=
  ⟨tools.toFinset⟩

end DenyListPolicy

instance {S : Type} : Policy DenyListPolicy S where
  allowed _ _ := []
  check policy _ tool := if tool ∈ policy.denied then .error (.policyDenied tool) else .ok ()
  isAllowed policy _ tool := !decide (tool ∈ policy.denied)

/-- Allows only the listed tools.  The set answers `check` and the list
answers `allowed`; they have the same members. -/
structure AllowListPolicy where
  set : HashSet ToolId
  list : List ToolId
  nodup : list.Nodup
  mem_list : forall tool, tool ∈ list <-> tool ∈ set

namespace AllowListPolicy

/-- Empty allow-list: denies all. -/
def empty : AllowListPolicy where
  set := ∅
  list := []
  nodup := List.nodup_nil
  mem_list := by simp

/-- One round of the loop in `new`: a tool is pushed when it is new to the set. -/
def push (policy : AllowListPolicy) (tool : ToolId) : AllowListPolicy :=
  if seen : tool ∈ policy.set then policy
  else
    { set := insert tool policy.set
      list := policy.list ++ [tool]
      nodup := by
        have fresh : tool ∉ policy.list := fun listed => seen ((policy.mem_list tool).mp listed)
        rw [List.nodup_append]
        refine ⟨policy.nodup, List.nodup_singleton tool, ?_⟩
        intro earlier listed last isLast same
        rw [List.mem_singleton.mp isLast] at same
        exact fresh (same ▸ listed)
      mem_list := by
        intro other
        rw [List.mem_append, List.mem_singleton, policy.mem_list, Finset.mem_insert, or_comm] }

/-- First-seen order, without repetitions. -/
def new (tools : List ToolId) : AllowListPolicy :=
  tools.foldl push empty

/-- The list has whatever order the set is iterated in. -/
def fromSet (set : HashSet ToolId) (iteration : set.Iteration) : AllowListPolicy where
  set := set
  list := iteration.elements
  nodup := iteration.nodup
  mem_list := iteration.complete

/-- `From<HashSet<ToolId>>`. -/
def fromHashSet (set : HashSet ToolId) (iteration : set.Iteration) : AllowListPolicy :=
  fromSet set iteration

/-- `From<Vec<ToolId>>`. -/
def fromVec (tools : List ToolId) : AllowListPolicy :=
  new tools

/-- The derived default has both containers empty. -/
instance : Inhabited AllowListPolicy :=
  ⟨{ set := ∅, list := [], nodup := List.nodup_nil, mem_list := by simp }⟩

def asSet (policy : AllowListPolicy) : HashSet ToolId :=
  policy.set

def len (policy : AllowListPolicy) : Nat :=
  policy.list.length

def isEmpty (policy : AllowListPolicy) : Bool :=
  policy.list.isEmpty

end AllowListPolicy

instance {S : Type} : Policy AllowListPolicy S where
  allowed policy _ := policy.list
  check policy _ tool := if tool ∈ policy.set then .ok () else .error (.policyDenied tool)
  isAllowed policy _ tool := decide (tool ∈ policy.set)

/-! ## What the list of a policy decides -/

/-- Any of the built-in policies. -/
inductive BuiltInPolicy where
  | allowAll (policy : AllowAllPolicy)
  | denyList (policy : DenyListPolicy)
  | allowList (policy : AllowListPolicy)

instance {S : Type} : Policy BuiltInPolicy S where
  allowed
    | .allowAll policy, state => Policy.allowed policy state
    | .denyList policy, state => Policy.allowed policy state
    | .allowList policy, state => Policy.allowed policy state
  check
    | .allowAll policy, state, tool => Policy.check policy state tool
    | .denyList policy, state, tool => Policy.check policy state tool
    | .allowList policy, state, tool => Policy.check policy state tool
  isAllowed
    | .allowAll policy, state, tool => Policy.isAllowed policy state tool
    | .denyList policy, state, tool => Policy.isAllowed policy state tool
    | .allowList policy, state, tool => Policy.isAllowed policy state tool

namespace BuiltInPolicy

/-- The finite set of tools a policy denies, for the policies that allow all
others.  An allow-list has none. -/
def exceptions : BuiltInPolicy -> Option (HashSet ToolId)
  | allowAll _ => some ∅
  | denyList policy => some policy.denied
  | allowList _ => none

variable {S : Type} {policy : BuiltInPolicy} (state : S)

/-- A policy with exceptions lists nothing. -/
theorem allowed_of_exceptions {denied : HashSet ToolId} (known : policy.exceptions = some denied) :
    Policy.allowed policy state = [] := by
  cases policy with
  | allowAll _ => rfl
  | denyList _ => rfl
  | allowList _ => cases known

theorem check_of_exceptions {denied : HashSet ToolId} (known : policy.exceptions = some denied)
    (tool : ToolId) :
    Policy.check policy state tool =
      if tool ∈ denied then .error (.policyDenied tool) else .ok () := by
  cases policy with
  | allowAll inner =>
      rw [← Option.some.inj known, if_neg (Finset.notMem_empty tool)]
      rfl
  | denyList inner =>
      rw [← Option.some.inj known]
      rfl
  | allowList inner => cases known

/-- Without exceptions the listed tools are the ones that may run. -/
theorem check_of_no_exceptions (unknown : policy.exceptions = none) (tool : ToolId) :
    Policy.check policy state tool = checkListed (Policy.allowed policy state) tool := by
  cases policy with
  | allowAll _ => cases unknown
  | denyList _ => cases unknown
  | allowList inner =>
      simp only [Policy.check, Policy.allowed, checkListed, inner.mem_list]

/-- A policy that lists a tool has no exceptions. -/
theorem no_exceptions_of_listed (listed : Policy.allowed policy state ≠ []) :
    policy.exceptions = none := by
  cases known : policy.exceptions with
  | none => rfl
  | some denied => exact absurd (allowed_of_exceptions state known) listed

end BuiltInPolicy

instance : Infinite ToolId := by
  apply Infinite.of_injective (fun length : Nat => ToolId.mk (String.ofList (List.replicate length 'x')))
  intro first second same
  have texts := String.ofList_injective (congrArg ToolId.name same)
  simpa using congrArg List.length texts

namespace BuiltInPolicy

variable {S : Type}

/-- A finite set of exceptions leaves some tool allowed, an empty allow-list
does not. -/
private theorem verdicts_differ {first second : BuiltInPolicy} (state : S) {denied : HashSet ToolId}
    (known : first.exceptions = some denied) (unknown : second.exceptions = none)
    (unlisted : Policy.allowed second state = []) :
    ¬ forall tool, Policy.check first state tool = Policy.check second state tool := by
  intro same
  rcases Infinite.exists_notMem_finset denied with ⟨tool, free⟩
  have verdict := same tool
  rw [check_of_exceptions state known, if_neg free, check_of_no_exceptions state unknown,
    unlisted] at verdict
  cases verdict

/-- The verdicts about a finite set of exceptions determine it. -/
private theorem exceptions_eq_of_verdicts {first second : BuiltInPolicy} (state : S)
    {denied denied' : HashSet ToolId} (known : first.exceptions = some denied)
    (known' : second.exceptions = some denied')
    (same : forall tool, Policy.check first state tool = Policy.check second state tool) :
    denied = denied' := by
  ext tool
  have verdict := same tool
  rw [check_of_exceptions state known, check_of_exceptions state known'] at verdict
  by_cases inFirst : tool ∈ denied <;> by_cases inSecond : tool ∈ denied'
  · exact iff_of_true inFirst inSecond
  · rw [if_pos inFirst, if_neg inSecond] at verdict
    cases verdict
  · rw [if_neg inFirst, if_pos inSecond] at verdict
    cases verdict
  · exact iff_of_false inFirst inSecond

/-- Two policies with one list decide alike exactly when the list is not
empty, or both are allow-lists, or both allow everything but the same tools. -/
theorem same_verdicts_iff (first second : BuiltInPolicy) (state : S)
    (sameList : Policy.allowed first state = Policy.allowed second state) :
    (forall tool, Policy.check first state tool = Policy.check second state tool) <->
    Policy.allowed first state ≠ [] ∨ first.exceptions = second.exceptions := by
  by_cases listed : Policy.allowed first state = []
  · rw [or_iff_right (not_not.mpr listed)]
    have listed' : Policy.allowed second state = [] := sameList.symm.trans listed
    cases known : first.exceptions with
    | none =>
        cases known' : second.exceptions with
        | none =>
            simp only [check_of_no_exceptions state known, check_of_no_exceptions state known',
              sameList, implies_true]
        | some denied' =>
            refine iff_of_false ?_ (by simp)
            intro same
            exact verdicts_differ state known' known listed (fun tool => (same tool).symm)
    | some denied =>
        cases known' : second.exceptions with
        | none => exact iff_of_false (verdicts_differ state known known' listed') (by simp)
        | some denied' =>
            constructor
            · intro same
              rw [exceptions_eq_of_verdicts state known known' same]
            · intro same tool
              rw [check_of_exceptions state known, check_of_exceptions state known',
                Option.some.inj same]
  · refine iff_of_true ?_ (Or.inl listed)
    intro tool
    rw [check_of_no_exceptions state (no_exceptions_of_listed state listed),
      check_of_no_exceptions state (no_exceptions_of_listed state (sameList ▸ listed)), sameList]

end BuiltInPolicy

end Policies
end Caulk
