import Caulk.Runtime
import Mathlib.Data.List.Induction

namespace Caulk
namespace Runners

open Caulk.Core
open Foundation
open PromptRegistry
open ContextBuilders
open Policies

/-!
# Allow-lists and their plans

An allow-list keeps its tools twice, in a set that decides and in a list that
is shown.  Every way to build one starts from some collection of tools, and
every way to ask it about a tool answers whether the tool was in that
collection: the overridden check, the check that the trait would derive from
the list, and the plan that the runner hands out.
-/

/-- How an allow-list was built, and from what. -/
inductive Construction where
  | new (tools : List ToolId)
  | fromVec (tools : List ToolId)
  | fromSet (set : HashSet ToolId) (iteration : set.Iteration)
  | fromHashSet (set : HashSet ToolId) (iteration : set.Iteration)
  | empty
  | default

namespace Construction

def policy : Construction -> AllowListPolicy
  | new tools => AllowListPolicy.new tools
  | fromVec tools => AllowListPolicy.fromVec tools
  | fromSet set iteration => AllowListPolicy.fromSet set iteration
  | fromHashSet set iteration => AllowListPolicy.fromHashSet set iteration
  | empty => AllowListPolicy.empty
  | default => Inhabited.default

/-- The tool was in the collection. -/
def Given (built : Construction) (tool : ToolId) : Prop :=
  match built with
  | new tools | fromVec tools => tool ∈ tools
  | fromSet set _ | fromHashSet set _ => tool ∈ set
  | empty | default => False

instance (built : Construction) (tool : ToolId) : Decidable (built.Given tool) :=
  match built with
  | new tools | fromVec tools => inferInstanceAs (Decidable (tool ∈ tools))
  | fromSet set _ | fromHashSet set _ => inferInstanceAs (Decidable (tool ∈ set))
  | empty | default => inferInstanceAs (Decidable False)

/-- What a check should answer about a tool. -/
def verdict (built : Construction) (tool : ToolId) : Except FormeError Unit :=
  if built.Given tool then .ok () else .error (.policyDenied tool)

end Construction

/-! ## The loop of `new` -/

/-- What the loop has made of the tools it has seen. -/
structure Collects (policy : AllowListPolicy) (seen : List ToolId) : Prop where
  members : forall tool, tool ∈ policy.set <-> tool ∈ seen
  firstSeen : policy.list.Pairwise (fun first second => seen.idxOf first < seen.idxOf second)

/-- One round of the loop. -/
theorem Collects.push {policy : AllowListPolicy} {seen : List ToolId}
    (collects : Collects policy seen) (tool : ToolId) :
    Collects (policy.push tool) (seen ++ [tool]) := by
  have kept : policy.list.Pairwise (fun first second =>
      (seen ++ [tool]).idxOf first < (seen ++ [tool]).idxOf second) := by
    refine collects.firstSeen.imp_of_mem ?_
    intro first second inFirst inSecond earlier
    have firstSeen := (collects.members first).mp ((policy.mem_list first).mp inFirst)
    have secondSeen := (collects.members second).mp ((policy.mem_list second).mp inSecond)
    rw [List.idxOf_append_of_mem firstSeen, List.idxOf_append_of_mem secondSeen]
    exact earlier
  by_cases repeated : tool ∈ policy.set
  · have listed := (collects.members tool).mp repeated
    rw [AllowListPolicy.push, dif_pos repeated]
    refine ⟨?_, kept⟩
    intro other
    rw [collects.members, List.mem_append, List.mem_singleton]
    constructor
    · exact Or.inl
    · rintro (earlier | same)
      · exact earlier
      · rw [same]
        exact listed
  · have fresh : tool ∉ seen := fun listed => repeated ((collects.members tool).mpr listed)
    rw [AllowListPolicy.push, dif_neg repeated]
    constructor
    · intro other
      rw [Finset.mem_insert, collects.members, List.mem_append, List.mem_singleton, or_comm]
    · refine List.pairwise_append.mpr ⟨kept, List.pairwise_singleton _ tool, ?_⟩
      intro earlier inList last isLast
      have earlierSeen := (collects.members earlier).mp ((policy.mem_list earlier).mp inList)
      rw [List.mem_singleton.mp isLast, List.idxOf_append_of_mem earlierSeen,
        List.idxOf_append_of_notMem fresh]
      exact Nat.lt_add_right _ (List.idxOf_lt_length_of_mem earlierSeen)

/-- The whole loop. -/
theorem new_collects (tools : List ToolId) : Collects (AllowListPolicy.new tools) tools := by
  induction tools using List.reverseRecOn with
  | nil => exact ⟨by simp [AllowListPolicy.new, AllowListPolicy.empty], List.Pairwise.nil⟩
  | append_singleton tools last ih =>
      rw [AllowListPolicy.new, List.foldl_append]
      exact ih.push last

/-! ## Every view of an allow-list -/

theorem mem_policy_set_iff (built : Construction) (tool : ToolId) :
    tool ∈ built.policy.set <-> built.Given tool := by
  cases built with
  | new tools => exact (new_collects tools).members tool
  | fromVec tools => exact (new_collects tools).members tool
  | fromSet set iteration => exact Iff.rfl
  | fromHashSet set iteration => exact Iff.rfl
  | empty => exact iff_of_false (Finset.notMem_empty tool) id
  | default => exact iff_of_false (Finset.notMem_empty tool) id

theorem mem_policy_list_iff (built : Construction) (tool : ToolId) :
    tool ∈ built.policy.list <-> built.Given tool :=
  (built.policy.mem_list tool).trans (mem_policy_set_iff built tool)

/-- The list of an allow-list has no repetitions, the members of the set, and
for sequences their first-seen order; and the set, the list and every plan
answer alike, namely whether the tool was given.  The list is handed out as the
plan whenever there is a prompt and a context. -/
theorem allow_list_views_agree (built : Construction) :
    built.policy.list.Nodup ∧
    (forall tool, tool ∈ built.policy.list <-> tool ∈ built.policy.set) ∧
    (forall tools, built = .new tools ∨ built = .fromVec tools ->
      built.policy.list.Pairwise (fun first second => tools.idxOf first < tools.idxOf second)) ∧
    forall (S E R B L : Type) [ToString S] [ToString E] [Registry R] [ContextBuilder B E]
      (state : S) (tool : ToolId),
      Policy.check built.policy state tool = built.verdict tool ∧
      Policy.isAllowed built.policy state tool = decide (built.Given tool) ∧
      checkListed (Policy.allowed built.policy state) tool = built.verdict tool ∧
      forall (runner : Runner S E R B AllowListPolicy L) (event : E) (history : List E),
        runner.policy = built.policy ->
        (forall prompt context,
          Registry.get runner.registry (PromptKey.keyFor state event) = .ok prompt ->
          ContextBuilder.build runner.builder event history = .ok context ->
          runner.prepare state event history =
            .ok ⟨PromptKey.keyFor state event, prompt, context, ToolPlan.new built.policy.list⟩) ∧
        forall prepared, runner.prepare state event history = .ok prepared ->
          prepared.toolPlan.contains tool = decide (built.Given tool) := by
  refine ⟨built.policy.nodup, built.policy.mem_list, ?_, ?_⟩
  · rintro tools (same | same)
    · rw [same]
      exact (new_collects tools).firstSeen
    · rw [same]
      exact (new_collects tools).firstSeen
  · intro S E R B L _ _ _ _ state tool
    refine ⟨?_, ?_, ?_, ?_⟩
    · simp only [Policy.check, mem_policy_set_iff, Construction.verdict]
    · simp only [Policy.isAllowed, mem_policy_set_iff]
    · simp only [checkListed, Policy.allowed, mem_policy_list_iff, Construction.verdict]
    · intro runner event history same
      constructor
      · intro prompt context found made
        rw [Runner.prepare_of_parts found made, same]
        rfl
      · intro prepared ready
        rw [(Runner.prepare_eq_ok ready).2.2.2, same]
        simp only [ToolPlan.contains, Policy.allowed, mem_policy_list_iff]

/-- A runner whose policy was given one tool twice. -/
def repeatingRunner : Runner String String InMemoryRegistry NoopBuilder AllowListPolicy Unit :=
  Runner.new (InMemoryRegistry.fromIter [(⟨"Idle", "Go"⟩, "hello")]) {}
    (AllowListPolicy.new [readTool, ⟨"write"⟩, readTool]) ()

/-- The tool is in the plan, once. -/
theorem repeated_tool_is_planned :
    repeatingRunner.prepare "Idle" "Go" [] =
        .ok ⟨⟨"Idle", "Go"⟩, "hello", "", ⟨[readTool, ⟨"write"⟩]⟩⟩ ∧
      ToolPlan.contains ⟨[readTool, ⟨"write"⟩]⟩ readTool = true := by
  have agreed := ((allow_list_views_agree (.new [readTool, ⟨"write"⟩, readTool])).2.2.2 String String
    InMemoryRegistry NoopBuilder Unit "Idle" readTool).2.2.2 repeatingRunner "Go" [] rfl
  have ready := agreed.1 "hello" "" rfl rfl
  exact ⟨ready, agreed.2 _ ready⟩

end Runners
end Caulk
