import Caulk.GraphFlowAdapter
import Caulk.Foundation.Timeline

namespace Caulk
namespace GraphFlowAdapter

open Caulk.Core
open Foundation
open PromptRegistry
open ContextBuilders
open Policies
open RigAdapter
open Runners

/-!
# Which run the shared context describes

A downstream task reads the `caulk.` keys of the context as one record.  The
two kinds of task write different parts of it: a `FormeTask` leaves the
response alone, and a `FormeLlmTask` leaves the prompt key, the event and the
tools alone.  What a run does not write stays from earlier runs, so after a
mixed sequence the keys may describe several runs at once.

The condition under which they describe the last successful run is local: the
keys it does not write are absent or already have its own values.  It is
exact, at every instant of every history.
-/

/-- What one successful run surfaces. -/
structure RunRecord where
  state : String
  prompt : String
  context : String
  promptKey : String
  event : String
  tools : List String
  response : Option String

/-- Either kind of task, over types of its own. -/
inductive CaulkTask : Type 1 where
  | forme {S E R B P L : Type} [ToString S] [ToString E] [Registry R] [ContextBuilder B E]
      [Policy P S] (task : FormeTask S E R B P L)
  | llm {S E R B P L : Type} [ToString S] [ToString E] [Registry R] [ContextBuilder B E]
      [Policy P S] [LlmAdapter L E] (task : FormeLlmTask S E R B P L)

section Records

variable {S E R B P L : Type} [ToString S] [ToString E]

def FormeTask.record (task : FormeTask S E R B P L) (prepared : Prepared) : RunRecord where
  state := toString task.state
  prompt := prepared.prompt
  context := prepared.context
  promptKey := prepared.key.canonical
  event := toString task.event
  tools := prepared.toolPlan.allowed.map toString
  response := none

def FormeLlmTask.record (task : FormeLlmTask S E R B P L) (out : StepOutput S) : RunRecord where
  state := toString task.state
  prompt := out.prompt
  context := out.context
  promptKey := out.promptKey.canonical
  event := toString task.event
  tools := out.toolPlan.allowed.map toString
  response := some out.llmResponse

end Records

/-- The keys that the tasks write. -/
def caulkKeys : List String :=
  ["caulk.state", "caulk.prompt", "caulk.context", "caulk.prompt_key", "caulk.event",
    "caulk.tools", "caulk.response"]

def IsCaulkKey (key : String) : Prop :=
  "caulk.".toList <+: key.toList

section Shared

variable {Ctx : Type} [Context Ctx]

/-- If the key is present, its value is as said. -/
def Shows (context : Ctx) (key : String) (expected : String -> Prop) : Prop :=
  forall value, Context.get context key = some value -> expected value

/-- Every `caulk.` key that is present is one of the seven. -/
def OnlyCaulkKeys (context : Ctx) : Prop :=
  forall key, IsCaulkKey key -> Context.get context key ≠ none -> key ∈ caulkKeys

variable (serialize : List String -> Except String String)

/-- The `caulk.` keys that are present describe this run. -/
structure Describes (after : Ctx) (record : RunRecord) : Prop where
  state : Context.get after "caulk.state" = some record.state
  prompt : Context.get after "caulk.prompt" = some record.prompt
  context : Context.get after "caulk.context" = some record.context
  promptKey : Shows after "caulk.prompt_key" (fun value => value = record.promptKey)
  event : Shows after "caulk.event" (fun value => value = record.event)
  tools : Shows after "caulk.tools" (fun value => serialize record.tools = .ok value)
  response : Shows after "caulk.response" (fun value => record.response = some value)
  others : OnlyCaulkKeys after

namespace CaulkTask

def run (task : CaulkTask) (context : Ctx) : Except GraphError TaskResult × Ctx :=
  match task with
  | forme task => task.run serialize context
  | llm task => task.run context

/-- What the run surfaces, when it prepares or steps without an error. -/
def surfaced : CaulkTask -> Except FormeError RunRecord
  | forme task => (task.runner.prepare task.state task.event task.history).map task.record
  | llm task => (task.runner.step task.state task.event task.history).map task.record

/-- The keys the run will not write are absent, or have its own values. -/
def Fits (before : Ctx) : CaulkTask -> Prop
  | forme _ => Context.get before "caulk.response" = none
  | llm task =>
      Shows before "caulk.prompt_key"
        (fun value => value = (PromptKey.keyFor task.state task.event).canonical) ∧
      Shows before "caulk.event" (fun value => value = toString task.event) ∧
      Shows before "caulk.tools" (fun value =>
        serialize ((Policy.allowed task.runner.policy task.state).map toString) = .ok value)

end CaulkTask

/-! ## One run -/

section OneRun

variable {serialize} [LawfulContext Ctx]

/-- A key that was written shows what was written. -/
theorem shows_written_iff {before : Ctx} {entries : List (String × String)}
    (distinct : (entries.map Prod.fst).Nodup) {key written : String}
    (member : (key, written) ∈ entries) (expected : String -> Prop) :
    Shows (setAll before entries) key expected <-> expected written := by
  unfold Shows
  rw [get_setAll_entry before distinct member]
  constructor
  · intro shows
    exact shows written rfl
  · intro holds value same
    rw [← Option.some.inj same]
    exact holds

/-- A key that was not written shows what it showed before. -/
theorem shows_kept_iff {before : Ctx} {entries : List (String × String)} {key : String}
    (apart : key ∉ entries.map Prod.fst) (expected : String -> Prop) :
    Shows (setAll before entries) key expected <-> Shows before key expected := by
  unfold Shows
  rw [get_setAll_other before apart]

/-- Writing some of the seven keys adds no other. -/
theorem OnlyCaulkKeys.setAll {before : Ctx} (only : OnlyCaulkKeys before)
    {entries : List (String × String)} (known : entries.map Prod.fst ⊆ caulkKeys) :
    OnlyCaulkKeys (setAll before entries) := by
  intro key caulk present
  by_cases written : key ∈ entries.map Prod.fst
  · exact known written
  · rw [get_setAll_other before written] at present
    exact only key caulk present

theorem toolsJson_eq (total : forall names, ∃ text, serialize names = .ok text) (plan : ToolPlan) :
    serialize (plan.allowed.map toString) = .ok (toolsJson serialize plan) := by
  rcases total (plan.allowed.map toString) with ⟨text, rendered⟩
  unfold toolsJson
  rw [rendered]

variable {S E R B P L : Type} [ToString S] [ToString E] [Registry R] [ContextBuilder B E]
  [Policy P S]

omit [Registry R] [ContextBuilder B E] [Policy P S] in
theorem FormeTask.entries_keys (task : FormeTask S E R B P L) (prepared : Prepared) :
    (task.entries serialize prepared).map Prod.fst =
      ["caulk.prompt", "caulk.context", "caulk.prompt_key", "caulk.tools", "caulk.state",
        "caulk.event"] :=
  rfl

omit [ToString E] in
theorem FormeLlmTask.entries_keys (out : StepOutput S) :
    (FormeLlmTask.entries out).map Prod.fst =
      ["caulk.prompt", "caulk.context", "caulk.response", "caulk.state"] :=
  rfl

omit [Registry R] [ContextBuilder B E] [Policy P S] in
theorem FormeTask.onlyCaulkKeys {before : Ctx} (only : OnlyCaulkKeys before)
    (task : FormeTask S E R B P L) (prepared : Prepared) :
    OnlyCaulkKeys (setAll before (task.entries serialize prepared)) := by
  apply only.setAll
  rw [FormeTask.entries_keys]
  decide

omit [ToString E] in
theorem FormeLlmTask.onlyCaulkKeys {before : Ctx} (only : OnlyCaulkKeys before)
    (out : StepOutput S) : OnlyCaulkKeys (setAll before (FormeLlmTask.entries out)) := by
  apply only.setAll
  rw [FormeLlmTask.entries_keys]
  decide

omit [Registry R] [ContextBuilder B E] [Policy P S] in
/-- After a `FormeTask` the keys describe it unless a response was left over. -/
private theorem forme_describes_iff (total : forall names, ∃ text, serialize names = .ok text)
    {before : Ctx} (only : OnlyCaulkKeys before) (task : FormeTask S E R B P L)
    (prepared : Prepared) :
    Describes serialize (setAll before (task.entries serialize prepared)) (task.record prepared) <->
      Context.get before "caulk.response" = none := by
  have distinct : ((task.entries serialize prepared).map Prod.fst).Nodup := by
    rw [FormeTask.entries_keys]
    decide
  have apart : "caulk.response" ∉ (task.entries serialize prepared).map Prod.fst := by
    rw [FormeTask.entries_keys]
    decide
  constructor
  · intro describes
    have shown := (shows_kept_iff apart _).mp describes.response
    cases left : Context.get before "caulk.response" with
    | none => rfl
    | some value => cases shown value left
  · intro absent
    refine ⟨?_, ?_, ?_, ?_, ?_, ?_, ?_, ?_⟩
    · exact get_setAll_entry before distinct (by simp [FormeTask.entries, FormeTask.record])
    · exact get_setAll_entry before distinct (by simp [FormeTask.entries, FormeTask.record])
    · exact get_setAll_entry before distinct (by simp [FormeTask.entries, FormeTask.record])
    · exact (shows_written_iff distinct (by simp [FormeTask.entries, FormeTask.record]) _).mpr rfl
    · exact (shows_written_iff distinct (by simp [FormeTask.entries, FormeTask.record]) _).mpr rfl
    · exact (shows_written_iff distinct (by simp [FormeTask.entries]) _).mpr (toolsJson_eq total _)
    · rw [shows_kept_iff apart]
      intro value present
      rw [absent] at present
      cases present
    · exact FormeTask.onlyCaulkKeys only task prepared

/-- After a `FormeLlmTask` the keys describe it when those it does not write
show its own key, event and tools. -/
private theorem llm_describes_iff [LlmAdapter L E] {before : Ctx} (only : OnlyCaulkKeys before)
    (task : FormeLlmTask S E R B P L) {out : StepOutput S}
    (stepped : task.runner.step task.state task.event task.history = .ok out) :
    Describes serialize (setAll before (FormeLlmTask.entries out)) (task.record out) <->
      (CaulkTask.llm task).Fits serialize before := by
  rcases Runner.step_eq_ok stepped with ⟨prepared, ready, _, sameState, sameKey, _, _, samePlan⟩
  rcases Runner.prepare_eq_ok ready with ⟨key, _, _, plan⟩
  have distinct : ((FormeLlmTask.entries out).map Prod.fst).Nodup := by
    rw [FormeLlmTask.entries_keys]
    decide
  have apart : forall key, key ∈ ["caulk.prompt_key", "caulk.event", "caulk.tools"] ->
      key ∉ (FormeLlmTask.entries out).map Prod.fst := by
    rw [FormeLlmTask.entries_keys]
    decide
  have recordKey : (task.record out).promptKey = (PromptKey.keyFor task.state task.event).canonical := by
    simp only [FormeLlmTask.record, sameKey, key]
  have recordTools : (task.record out).tools =
      (Policy.allowed task.runner.policy task.state).map toString := by
    simp only [FormeLlmTask.record, samePlan, plan]
  simp only [CaulkTask.Fits]
  rw [← recordKey, ← recordTools]
  constructor
  · intro describes
    exact ⟨(shows_kept_iff (apart _ (by decide)) _).mp describes.promptKey,
      (shows_kept_iff (apart _ (by decide)) _).mp describes.event,
      (shows_kept_iff (apart _ (by decide)) _).mp describes.tools⟩
  · rintro ⟨promptKey, event, tools⟩
    refine ⟨?_, ?_, ?_, ?_, ?_, ?_, ?_, ?_⟩
    · exact get_setAll_entry before distinct
        (by simp [FormeLlmTask.entries, FormeLlmTask.record, sameState])
    · exact get_setAll_entry before distinct (by simp [FormeLlmTask.entries, FormeLlmTask.record])
    · exact get_setAll_entry before distinct (by simp [FormeLlmTask.entries, FormeLlmTask.record])
    · exact (shows_kept_iff (apart _ (by decide)) _).mpr promptKey
    · exact (shows_kept_iff (apart _ (by decide)) _).mpr event
    · exact (shows_kept_iff (apart _ (by decide)) _).mpr tools
    · exact (shows_written_iff distinct (by simp [FormeLlmTask.entries]) _).mpr rfl
    · exact FormeLlmTask.onlyCaulkKeys only out

/-- After a run without an error the keys describe it exactly when it fitted. -/
theorem CaulkTask.run_of_surfaced (total : forall names, ∃ text, serialize names = .ok text)
    {before : Ctx} (only : OnlyCaulkKeys before) (task : CaulkTask) {record : RunRecord}
    (surfaced : task.surfaced = .ok record) :
    (∃ result, (task.run serialize before).1 = .ok result) ∧
    OnlyCaulkKeys (task.run serialize before).2 ∧
    (Describes serialize (task.run serialize before).2 record <-> task.Fits serialize before) := by
  cases task with
  | forme task =>
      cases ready : task.runner.prepare task.state task.event task.history with
      | error error =>
          simp only [CaulkTask.surfaced, ready] at surfaced
          cases surfaced
      | ok prepared =>
          simp only [CaulkTask.surfaced, ready] at surfaced
          cases surfaced
          simp only [CaulkTask.run, FormeTask.run_ok serialize task before ready]
          exact ⟨⟨_, rfl⟩, FormeTask.onlyCaulkKeys only task prepared,
            forme_describes_iff total only task prepared⟩
  | llm task =>
      cases stepped : task.runner.step task.state task.event task.history with
      | error error =>
          simp only [CaulkTask.surfaced, stepped] at surfaced
          cases surfaced
      | ok out =>
          simp only [CaulkTask.surfaced, stepped] at surfaced
          cases surfaced
          simp only [CaulkTask.run, FormeLlmTask.run_ok task before stepped]
          exact ⟨⟨_, rfl⟩, FormeLlmTask.onlyCaulkKeys only out, llm_describes_iff only task stepped⟩

omit [LawfulContext Ctx] in
/-- A run whose `prepare` or `step` fails returns an error and writes nothing. -/
theorem CaulkTask.run_of_failure (task : CaulkTask) (before : Ctx) {error : FormeError}
    (failed : task.surfaced = .error error) :
    (∃ reason, (task.run serialize before).1 = .error reason) ∧
    (task.run serialize before).2 = before := by
  cases task with
  | forme task =>
      cases ready : task.runner.prepare task.state task.event task.history with
      | error inner =>
          have stopped := FormeTask.run_error serialize task before ready
          exact ⟨⟨_, congrArg Prod.fst stopped⟩, congrArg Prod.snd stopped⟩
      | ok prepared =>
          simp only [CaulkTask.surfaced, ready] at failed
          cases failed
  | llm task =>
      cases stepped : task.runner.step task.state task.event task.history with
      | error inner =>
          have stopped := FormeLlmTask.run_error task before stepped
          exact ⟨⟨_, congrArg Prod.fst stopped⟩, congrArg Prod.snd stopped⟩
      | ok out =>
          simp only [CaulkTask.surfaced, stepped] at failed
          cases failed

end OneRun

end Shared

/-! ## Histories of runs -/

/-- Runs one after the other over one context, which starts without any
`caulk.` key. -/
structure RunHistory (Ctx : Type) [Context Ctx] where
  start : Ctx
  tasks : List CaulkTask
  fresh : forall key, IsCaulkKey key -> Context.get start key = none

namespace RunHistory

variable {Ctx : Type} [Context Ctx] (serialize : List String -> Except String String)

def timeline (history : RunHistory Ctx) : Timeline Ctx CaulkTask where
  step context task := (task.run serialize context).2
  start := history.start
  events := history.tasks

def contextAt (history : RunHistory Ctx) (instant : Nat) : Ctx :=
  (history.timeline serialize).stateAt instant

/-- The run at the instant returns `Ok`. -/
def Succeeds (history : RunHistory Ctx) (instant : Nat) (task : CaulkTask) : Prop :=
  history.tasks[instant]? = some task ∧
    ∃ result, (task.run serialize (history.contextAt serialize instant)).1 = .ok result

/-- The run at the instant fails in `prepare` or `step`. -/
def Fails (history : RunHistory Ctx) (instant : Nat) (task : CaulkTask) : Prop :=
  history.tasks[instant]? = some task ∧ ∃ error, task.surfaced = .error error

/-- After every run the keys describe the run if it succeeded, and are what
they were before it if it failed. -/
structure Described (history : RunHistory Ctx) : Prop where
  succeeded : forall instant task, history.Succeeds serialize instant task ->
    ∃ record, task.surfaced = .ok record ∧
      Describes serialize (history.contextAt serialize (instant + 1)) record
  failed : forall instant task, history.Fails instant task ->
    history.contextAt serialize (instant + 1) = history.contextAt serialize instant

variable {serialize}

theorem contextAt_succ {history : RunHistory Ctx} {instant : Nat} {task : CaulkTask}
    (occurs : history.tasks[instant]? = some task) :
    history.contextAt serialize (instant + 1) =
      (task.run serialize (history.contextAt serialize instant)).2 :=
  (history.timeline serialize).stateAt_succ occurs

/-- A run that succeeds has surfaced something. -/
theorem Succeeds.surfaced {history : RunHistory Ctx} {instant : Nat} {task : CaulkTask}
    (succeeds : history.Succeeds serialize instant task) :
    ∃ record, task.surfaced = .ok record := by
  rcases succeeds with ⟨_, result, success⟩
  cases outcome : task.surfaced with
  | ok record => exact ⟨record, rfl⟩
  | error error =>
      rcases (CaulkTask.run_of_failure task (history.contextAt serialize instant) outcome).1 with
        ⟨reason, failed⟩
      rw [failed] at success
      cases success

variable [LawfulContext Ctx]

theorem onlyCaulkKeys (total : forall names, ∃ text, serialize names = .ok text)
    (history : RunHistory Ctx) (instant : Nat) :
    OnlyCaulkKeys (history.contextAt serialize instant) := by
  apply (history.timeline serialize).invariant OnlyCaulkKeys
  · intro key caulk present
    exact absurd (history.fresh key caulk) present
  · intro context task only
    show OnlyCaulkKeys (task.run serialize context).2
    cases outcome : task.surfaced with
    | ok record => exact (CaulkTask.run_of_surfaced total only task outcome).2.1
    | error error =>
        rw [(CaulkTask.run_of_failure task context outcome).2]
        exact only

/-- In every history, the keys describe every successful run, and stay as they
are in every failing one, if and only if every successful run fitted the
context that it found. -/
theorem described_iff_fits (total : forall names, ∃ text, serialize names = .ok text)
    (history : RunHistory Ctx) :
    history.Described serialize <->
      forall instant task, history.Succeeds serialize instant task ->
        task.Fits serialize (history.contextAt serialize instant) := by
  constructor
  · intro described instant task succeeds
    rcases described.succeeded instant task succeeds with ⟨record, surfaced, describes⟩
    rw [contextAt_succ succeeds.1] at describes
    have only := onlyCaulkKeys total history instant
    exact (CaulkTask.run_of_surfaced total only task surfaced).2.2.mp describes
  · intro fits
    constructor
    · intro instant task succeeds
      rcases succeeds.surfaced with ⟨record, surfaced⟩
      refine ⟨record, surfaced, ?_⟩
      rw [contextAt_succ succeeds.1]
      have only := onlyCaulkKeys total history instant
      exact (CaulkTask.run_of_surfaced total only task surfaced).2.2.mpr
        (fits instant task succeeds)
    · rintro instant task ⟨occurs, error, failed⟩
      rw [contextAt_succ occurs]
      exact (CaulkTask.run_of_failure task _ failed).2

end RunHistory

/-! ## Short histories -/

/-- A context that is nothing but its entries. -/
structure PlainContext where
  entries : HashMap String String

instance : Context PlainContext where
  set context key value := (.ok (), ⟨context.entries.insert key value⟩)
  get context key := context.entries key

instance : LawfulContext PlainContext where
  set_ok _ _ _ := rfl
  get_set_same context key value := HashMap.insert_same context.entries key value
  get_set_other context _ value _ different := HashMap.insert_other context.entries value different

/-- A list of texts that need no escaping, as JSON. -/
def renderNames (names : List String) : Except String String :=
  .ok ("[" ++ ",".intercalate (names.map (fun name => "\"" ++ name ++ "\"")) ++ "]")

abbrev greeter : Runner String String InMemoryRegistry NoopBuilder BuiltInPolicy MockLlm :=
  exampleRunner (.allowAll {})

def emptyContext : PlainContext :=
  ⟨HashMap.empty⟩

/-- A `FormeTask` and then a `FormeLlmTask` for the same state and event. -/
def preparedThenStepped : RunHistory PlainContext where
  start := emptyContext
  tasks := [.forme (FormeTask.new greeter "Idle" "Go"), .llm (FormeLlmTask.new greeter "Idle" "Go")]
  fresh _ _ := rfl

/-- The same two in the opposite order. -/
def steppedThenPrepared : RunHistory PlainContext where
  start := emptyContext
  tasks := [.llm (FormeLlmTask.new greeter "Idle" "Go"), .forme (FormeTask.new greeter "Idle" "Go")]
  fresh _ _ := rfl

/-- A `FormeTask` in one state and then a `FormeLlmTask` in another. -/
def preparedThenMoved : RunHistory PlainContext where
  start := emptyContext
  tasks := [.forme (FormeTask.new greeter "Idle" "Go"), .llm (FormeLlmTask.new greeter "Busy" "Go")]
  fresh _ _ := rfl

theorem preparedThenStepped_described : preparedThenStepped.Described renderNames := by
  apply (RunHistory.described_iff_fits (fun _ => ⟨_, rfl⟩) preparedThenStepped).mpr
  rintro instant task ⟨occurs, _⟩
  match instant with
  | 0 =>
      cases occurs
      rfl
  | 1 =>
      cases occurs
      refine ⟨?_, ?_, ?_⟩
      · intro value present
        exact (Option.some.inj present).symm
      · intro value present
        exact (Option.some.inj present).symm
      · intro value present
        exact congrArg Except.ok (Option.some.inj present)
  | instant + 2 => cases occurs

/-- A response survives a `FormeTask`, and the prompt key of a state already
left survives a `FormeLlmTask`. -/
theorem leftovers_not_described :
    ¬ steppedThenPrepared.Described renderNames ∧ ¬ preparedThenMoved.Described renderNames := by
  constructor
  · intro described
    rcases described.succeeded 1 (.forme (FormeTask.new greeter "Idle" "Go")) ⟨rfl, _, rfl⟩ with
      ⟨record, surfaced, describes⟩
    cases surfaced
    cases describes.response "hi" rfl
  · intro described
    rcases described.succeeded 1 (.llm (FormeLlmTask.new greeter "Busy" "Go")) ⟨rfl, _, rfl⟩ with
      ⟨record, surfaced, describes⟩
    cases surfaced
    exact absurd (describes.promptKey "Idle::Go" rfl) (by decide)

end GraphFlowAdapter
end Caulk
