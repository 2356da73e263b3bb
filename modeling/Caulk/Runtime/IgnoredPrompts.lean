import Caulk.Runtime.HeardPrompts
import Caulk.ContextBuilder.BlankContexts

namespace Caulk
namespace Runners

open Caulk.Core
open Foundation
open PromptRegistry
open ContextBuilders
open Policies
open RigAdapter

/-!
# Agents that ignore the prompts

Behind the agent adapter a prompt is heard only in place of a blank context.
So where no context of a conversation is blank, the answers say nothing about
the stored prompts, nor about the states that select them.

Which conversations these are depends on the builder: none but the empty one
for `NoopBuilder`, and those whose events all show something for
`FileSnippetBuilder`.  With `ParagraphBuilder` the first event alone decides,
because what it shows stays in every later context.
-/

section Ignoring

variable {S E B : Type} [ToString S] [ToString E] [ContextBuilder B E]

/-- Whatever prompts are stored and in whatever states the events are met, an
agent behind the agent adapter answers the events alike. -/
def AgentIgnoresPrompts (builder : B) (turns : List (S × E)) : Prop :=
  forall (R R' P P' A : Type) [Registry R] [Registry R'] [Policy P S] [Policy P' S] [Prompt A]
    (registry : R) (registry' : R') (policy : P) (policy' : P') (agent : A)
    (deniedAttempt : S -> ToolId) (turns' : List (S × E)) (transcript transcript' : List (Turn S)),
    turns'.map Prod.snd = turns.map Prod.snd ->
    (Runner.new registry builder policy (RigAgentAdapter.new agent) :
      Runner S E R B P (RigAgentAdapter A)).converse deniedAttempt [] turns = .ok transcript ->
    (Runner.new registry' builder policy' (RigAgentAdapter.new agent) :
      Runner S E R' B P' (RigAgentAdapter A)).converse deniedAttempt [] turns' = .ok transcript' ->
    responses transcript = responses transcript'

/-- No context of a conversation about the events is blank. -/
def AllSpoken (builder : B) (history : List E) : List E -> Prop
  | [] => True
  | event :: rest =>
      (forall context, ContextBuilder.build builder event history = .ok context ->
        Text.isBlank context.toList = false) ∧ AllSpoken builder (history ++ [event]) rest

/-- Where no context is blank, the messages are the contexts, which the events
settle. -/
theorem messages_eq_of_allSpoken {R R' P P' L L' : Type} [Registry R] [Registry R'] [Policy P S]
    [Policy P' S] {runner : Runner S E R B P L} {runner' : Runner S E R' B P' L'}
    {history : List E} {turns turns' : List (S × E)} {pairs pairs' : List (String × String)}
    (ready : runner.inputs history turns = .ok pairs)
    (ready' : runner'.inputs history turns' = .ok pairs')
    (sameBuilder : runner.builder = runner'.builder)
    (sameEvents : turns'.map Prod.snd = turns.map Prod.snd)
    (spoken : AllSpoken runner.builder history (turns.map Prod.snd)) :
    pairs.map messageOf = pairs'.map messageOf := by
  induction turns generalizing history turns' pairs pairs' with
  | nil =>
      cases List.map_eq_nil_iff.mp sameEvents
      cases ready
      cases ready'
      rfl
  | cons turn rest ih =>
      cases turns' with
      | nil => cases sameEvents
      | cons turn' rest' =>
          rcases turn with ⟨state, event⟩
          rcases turn' with ⟨state', event'⟩
          rcases List.cons.inj sameEvents with ⟨sameEvent, later⟩
          cases sameEvent
          rcases Runner.inputs_cons_ok ready with ⟨prepared, others, prepares, following, whole⟩
          rcases Runner.inputs_cons_ok ready' with ⟨prepared', others', prepares', following', whole'⟩
          have built := (Runner.prepare_eq_ok prepares).2.2.1
          have built' := (Runner.prepare_eq_ok prepares').2.2.1
          rw [← sameBuilder, built] at built'
          have solid := spoken.1 prepared.context built
          have messages : messageOf (prepared.prompt, prepared.context) =
              messageOf (prepared'.prompt, prepared'.context) := by
            unfold messageOf
            rw [← Except.ok.inj built', userMessage_of_solid _ solid, userMessage_of_solid _ solid]
          rw [whole, whole', List.map_cons, List.map_cons, messages,
            ih following following' later spoken.2]

/-- The answers of an agent are those to the messages. -/
theorem agent_responses {R P A : Type} [Registry R] [Policy P S] [Prompt A]
    (runner : Runner S E R B P (RigAgentAdapter A)) (deniedAttempt : S -> ToolId) {history : List E}
    {turns : List (S × E)} {pairs : List (String × String)}
    (ready : runner.inputs history turns = .ok pairs) :
    (runner.converse deniedAttempt history turns).map responses =
      Observation.answers messageOf mapFailed (Prompt.prompt runner.llm.agent) pairs := by
  have called : forall prompt context, runner.callLlm prompt context =
      mapFailed (Prompt.prompt runner.llm.agent (messageOf (prompt, context))) :=
    callLlm_agent runner
  exact Runner.converse_responses deniedAttempt called ready

/-- An agent that repeats what it is told. -/
def echo : AnyAgent :=
  ⟨fun message => .ok message⟩

theorem answers_echo (pairs : List (String × String)) :
    Observation.answers messageOf mapFailed (Prompt.prompt echo) pairs = .ok (pairs.map messageOf) := by
  induction pairs with
  | nil => rfl
  | cons pair rest ih =>
      rw [Observation.answers, ih]
      rfl

/-- A registry with one prompt for all turns. -/
def promptingRegistry (prompt : String) (turns : List (S × E)) : InMemoryRegistry :=
  InMemoryRegistry.fromIter (turns.map (fun turn => (PromptKey.keyFor turn.1 turn.2, prompt)))

omit [ContextBuilder B E] in
theorem promptingRegistry_get (prompt : String) {turns : List (S × E)} {turn : S × E}
    (member : turn ∈ turns) :
    Registry.get (promptingRegistry prompt turns) (PromptKey.keyFor turn.1 turn.2) = .ok prompt := by
  have stored : (promptingRegistry prompt turns).prompts (PromptKey.keyFor turn.1 turn.2) =
      some prompt := by
    apply HashMap.fromIter_constant
    · intro entry inside
      rcases List.mem_map.mp inside with ⟨other, _, same⟩
      rw [← same]
    · rw [List.map_map]
      exact List.mem_map_of_mem member
  change InMemoryRegistry.get _ _ = _
  unfold InMemoryRegistry.get
  rw [stored]

/-- The agent repeats what it is told of the prompts in a registry. -/
def echoRunner (builder : B) (registry : InMemoryRegistry) :
    Runner S E InMemoryRegistry B AllowAllPolicy (RigAgentAdapter AnyAgent) :=
  Runner.new registry builder {} (RigAgentAdapter.new echo)

/-- A registry that answers every turn with one prompt puts it beside each of
the contexts. -/
theorem exists_contexts (builder : B)
    (total : forall (event : E) (history : List E),
      ∃ context, ContextBuilder.build builder event history = .ok context)
    (history : List E) (turns : List (S × E)) :
    ∃ contexts : List String,
      (AllSpoken builder history (turns.map Prod.snd) <->
        forall context, context ∈ contexts -> Text.isBlank context.toList = false) ∧
      forall (registry : InMemoryRegistry) (prompt : String),
        (forall turn, turn ∈ turns ->
          Registry.get registry (PromptKey.keyFor turn.1 turn.2) = .ok prompt) ->
        (echoRunner builder registry).inputs history turns =
          .ok (contexts.map (fun context => (prompt, context))) := by
  induction turns generalizing history with
  | nil => exact ⟨[], by simp [AllSpoken], fun _ _ _ => rfl⟩
  | cons turn rest ih =>
      rcases turn with ⟨state, event⟩
      rcases total event history with ⟨context, built⟩
      rcases ih (history ++ [event]) with ⟨contexts, spoken, ready⟩
      refine ⟨context :: contexts, ?_, ?_⟩
      · rw [List.map_cons, AllSpoken, spoken, List.forall_mem_cons]
        apply and_congr_left
        intro _
        constructor
        · intro solid
          exact solid context built
        · intro solid other same
          rw [built] at same
          rw [← Except.ok.inj same]
          exact solid
      · intro registry prompt stored
        have found := stored (state, event) List.mem_cons_self
        have prepares : (echoRunner builder registry).prepare state event history =
            .ok ⟨PromptKey.keyFor state event, prompt, context, ⟨[]⟩⟩ :=
          Runner.prepare_of_parts found built
        have later := ready registry prompt
          (fun turn member => stored turn (List.mem_cons_of_mem _ member))
        simp only [Runner.inputs, prepares, later]
        rfl

theorem echo_responses (builder : B) {registry : InMemoryRegistry} {turns : List (S × E)}
    {pairs : List (String × String)} (deniedAttempt : S -> ToolId)
    (ready : (echoRunner builder registry).inputs [] turns = .ok pairs) :
    ∃ transcript, (echoRunner builder registry).converse deniedAttempt [] turns = .ok transcript ∧
      responses transcript = pairs.map messageOf := by
  have answered : ((echoRunner builder registry).converse deniedAttempt [] turns).map responses =
      .ok (pairs.map messageOf) := by
    rw [agent_responses _ deniedAttempt ready]
    exact answers_echo pairs
  cases finished : (echoRunner builder registry).converse deniedAttempt [] turns with
  | error error =>
      rw [finished] at answered
      cases answered
  | ok transcript =>
      rw [finished] at answered
      exact ⟨transcript, rfl, Except.ok.inj answered⟩

/-- For a builder that never fails, the agent ignores the prompts exactly when
no context is blank. -/
theorem ignores_iff_allSpoken (builder : B)
    (total : forall (event : E) (history : List E),
      ∃ context, ContextBuilder.build builder event history = .ok context)
    (turns : List (S × E)) :
    AgentIgnoresPrompts builder turns <-> AllSpoken builder [] (turns.map Prod.snd) := by
  constructor
  · intro ignores
    rcases exists_contexts builder total [] turns with ⟨contexts, spoken, ready⟩
    have told : forall prompt : String, ∃ transcript,
        (echoRunner builder (promptingRegistry prompt turns)).converse (fun _ => ⟨""⟩) [] turns =
          .ok transcript ∧
        responses transcript = contexts.map (fun context => userMessage prompt context) := by
      intro prompt
      rcases echo_responses builder (fun _ => ⟨""⟩)
        (ready _ prompt (fun turn => promptingRegistry_get prompt)) with ⟨transcript, finished, heard⟩
      rw [List.map_map] at heard
      exact ⟨transcript, finished, heard⟩
    rcases told "one" with ⟨transcript, finished, heard⟩
    rcases told "two" with ⟨transcript', finished', heard'⟩
    have same := ignores _ _ _ _ _ _ _ _ _ _ _ turns transcript transcript' rfl finished finished'
    rw [heard, heard'] at same
    rw [spoken]
    intro context member
    apply eq_false_of_ne_true
    intro blank
    have equal := List.map_inj_left.mp same context member
    rw [userMessage_of_blank _ blank, userMessage_of_blank _ blank] at equal
    exact absurd equal (by decide)
  · intro spoken R R' P P' A _ _ _ _ _ registry registry' policy policy' agent deniedAttempt turns'
      transcript transcript' sameEvents finished finished'
    rcases Runner.inputs_of_converse finished with ⟨pairs, ready⟩
    rcases Runner.inputs_of_converse finished' with ⟨pairs', ready'⟩
    have answered := agent_responses _ deniedAttempt ready
    have answered' := agent_responses _ deniedAttempt ready'
    rw [finished] at answered
    rw [finished'] at answered'
    have messages : pairs.map messageOf = pairs'.map messageOf :=
      messages_eq_of_allSpoken ready ready' rfl sameEvents spoken
    have seen := @Observation.answers_eq_of_seen _ _ _ _ _ messageOf mapFailed _ _
      (Prompt.prompt agent) messages
    exact Except.ok.inj ((answered.trans seen).trans answered'.symm)

end Ignoring

/-! ## The three builders -/

section Builders

variable {E : Type} [ToString E]

/-- The event shows something. -/
def Shows (event : E) : Prop :=
  Text.isBlank (toString event).toList = false

omit [ToString E] in
theorem allSpoken_noop (history events : List E) :
    AllSpoken NoopBuilder.mk history events <-> events = [] := by
  cases events with
  | nil => exact iff_of_true trivial rfl
  | cons event rest =>
      apply iff_of_false
      · intro spoken
        have solid := spoken.1 "" rfl
        exact absurd solid (by decide)
      · exact List.cons_ne_nil event rest

/-- Where the event alone decides about its context. -/
theorem allSpoken_iff_forall {B : Type} [ContextBuilder B E] (builder : B)
    (total : forall (event : E) (history : List E),
      ∃ context, ContextBuilder.build builder event history = .ok context)
    (decides : forall (event : E) (history : List E) (context : String),
      ContextBuilder.build builder event history = .ok context ->
        (Text.isBlank context.toList = true <-> Text.isBlank (toString event).toList = true))
    (history events : List E) :
    AllSpoken builder history events <-> forall event, event ∈ events -> Shows event := by
  induction events generalizing history with
  | nil => simp [AllSpoken]
  | cons event rest ih =>
      rw [AllSpoken, ih, List.forall_mem_cons]
      apply and_congr_left
      intro _
      rcases total event history with ⟨context, built⟩
      have same := Bool.eq_iff_iff.mpr (decides event history context built)
      constructor
      · intro solid
        rw [Shows, ← same]
        exact solid context built
      · intro visible other built'
        rw [built] at built'
        rw [← Except.ok.inj built', same]
        exact visible

/-- A paragraph shows in a context, whether it comes from the event or the
history. -/
theorem paragraphs_show_iff (n : Nat) (event : E) (history : List E) {context : String}
    (built : ContextBuilder.build (ParagraphBuilder.withN (n + 1)) event history = .ok context) :
    Text.isBlank context.toList = false <-> Shows event ∨ ∃ past, past ∈ history ∧ Shows past := by
  have blank := ParagraphBuilder.blank_iff _ event history built
  constructor
  · intro solid
    by_contra hidden
    rw [not_or, not_exists] at hidden
    have white : Text.isBlank context.toList = true := by
      apply blank.mpr
      refine ⟨eq_true_of_ne_false hidden.1, Or.inr ?_⟩
      intro past member
      exact eq_true_of_ne_false (fun visible => hidden.2 past ⟨member, visible⟩)
    rw [solid] at white
    cases white
  · intro shown
    apply eq_false_of_ne_true
    intro white
    rcases blank.mp white with ⟨hiddenEvent, nothing | hidden⟩
    · exact absurd nothing (Nat.succ_ne_zero n)
    · rcases shown with visible | ⟨past, member, visible⟩
      · exact absurd (visible.symm.trans hiddenEvent) (by decide)
      · exact absurd (visible.symm.trans (hidden past member)) (by decide)

/-- A paragraph that was shown once is followed by contexts with text only. -/
theorem allSpoken_paragraphs (n : Nat) (history events : List E) :
    AllSpoken (ParagraphBuilder.withN (n + 1)) history events <->
      (∃ past, past ∈ history ∧ Shows past) ∨
        forall event, events.head? = some event -> Shows event := by
  induction events generalizing history with
  | nil =>
      apply iff_of_true trivial
      right
      intro event first
      cases first
  | cons event rest ih =>
      rcases ParagraphBuilder.builds (ParagraphBuilder.withN (n + 1)) event history with
        ⟨context, built⟩
      have shown := paragraphs_show_iff n event history built
      rw [AllSpoken, ih]
      constructor
      · intro spoken
        rcases shown.mp (spoken.1 context built) with visible | earlier
        · right
          intro first same
          rw [← Option.some.inj same]
          exact visible
        · exact Or.inl earlier
      · intro told
        have visible : Shows event ∨ ∃ past, past ∈ history ∧ Shows past :=
          told.symm.imp (fun first => first event rfl) id
        constructor
        · intro other built'
          rw [built] at built'
          rw [← Except.ok.inj built']
          exact shown.mpr visible
        · left
          rcases visible with now | ⟨past, member, before⟩
          · exact ⟨event, List.mem_append_right _ (List.mem_singleton_self event), now⟩
          · exact ⟨past, List.mem_append_left _ member, before⟩

end Builders

/-- With an agent behind the agent adapter, a conversation never shows which
prompts are stored, nor which states select them: with `NoopBuilder`, if there
is no turn; with `FileSnippetBuilder`, or with `ParagraphBuilder` without
paragraphs, if and only if all events show something; and with `ParagraphBuilder`
otherwise, if and only if the first one does. -/
theorem agent_ignores_prompts_iff {S E : Type} [ToString S] [ToString E] (turns : List (S × E)) :
    (AgentIgnoresPrompts NoopBuilder.mk turns <-> turns = []) ∧
    (forall builder : FileSnippetBuilder,
      AgentIgnoresPrompts builder turns <-> forall turn, turn ∈ turns -> Shows turn.2) ∧
    (AgentIgnoresPrompts (ParagraphBuilder.withN 0) turns <->
      forall turn, turn ∈ turns -> Shows turn.2) ∧
    (forall n : Nat, AgentIgnoresPrompts (ParagraphBuilder.withN (n + 1)) turns <->
      forall turn, turns.head? = some turn -> Shows turn.2) := by
  have each : (forall event, event ∈ turns.map Prod.snd -> Shows event) <->
      forall turn, turn ∈ turns -> Shows turn.2 := List.forall_mem_map
  have first : (forall event, (turns.map Prod.snd).head? = some event -> Shows event) <->
      forall turn, turns.head? = some turn -> Shows turn.2 := by
    cases turns with
    | nil => simp
    | cons turn rest => simp
  refine ⟨?_, ?_, ?_, ?_⟩
  · rw [ignores_iff_allSpoken _ NoopBuilder.builds, allSpoken_noop, List.map_eq_nil_iff]
  · intro builder
    rw [ignores_iff_allSpoken _ builder.builds, allSpoken_iff_forall _ builder.builds, each]
    intro event history context built
    exact builder.blank_iff event history built
  · rw [ignores_iff_allSpoken _ (ParagraphBuilder.builds _),
      allSpoken_iff_forall _ (ParagraphBuilder.builds _), each]
    intro event history context built
    have blank := ParagraphBuilder.blank_iff _ event history built
    exact blank.trans (and_iff_left (Or.inl rfl))
  · intro n
    rw [ignores_iff_allSpoken _ (ParagraphBuilder.builds _), allSpoken_paragraphs, first]
    simp

end Runners
end Caulk
