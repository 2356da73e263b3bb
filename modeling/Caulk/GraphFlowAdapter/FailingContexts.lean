import Caulk.GraphFlowAdapter.SharedContext

namespace Caulk
namespace GraphFlowAdapter

open Caulk.Core
open Foundation
open PromptRegistry
open ContextBuilders
open Policies
open RigAdapter
open Runners

/-!
# Contexts whose `set` may fail

Nothing is assumed about the context here.  A `FormeTask` reports a failing
`set` of its first three entries and ignores one of the last three, and a
`FormeLlmTask` ignores them all.

So a `FormeTask` stops at the first failure among the three, with the entries
written so far left in the context: a run that returns an error may leave its
own prompt beside the prompt key of an earlier run.  A `FormeLlmTask` returns
the same whatever the context does.
-/

section Writing

variable {Ctx : Type} [Context Ctx]

/-- An entry that a task insists on, with the label it reports it under. -/
structure Required where
  key : String
  label : String
  value : String

/-- Write required entries up to the first failure. -/
def setAllOrFail : List Required -> TaskM Ctx Unit
  | [] => pure ()
  | entry :: rest => do
      setOrFail entry.key entry.label entry.value
      setAllOrFail rest

/-- How many entries are written before the first failure, and its report. -/
def firstFailure (context : Ctx) : List Required -> Option (Nat × GraphError)
  | [] => none
  | entry :: rest =>
      match Context.set context entry.key entry.value with
      | (.error error, _) =>
          some (0, .taskExecutionFailed ("context set " ++ entry.label ++ " failed: " ++ error))
      | (.ok _, changed) =>
          (firstFailure changed rest).map (fun failure => (failure.1 + 1, failure.2))

def Required.entry (required : Required) : String × String :=
  (required.key, required.value)

omit [Context Ctx] in
theorem bind_error {Value Result : Type} {first : TaskM Ctx Value} {next : Value -> TaskM Ctx Result}
    {before after : Ctx} {error : GraphError} (failed : first before = (.error error, after)) :
    (first >>= next) before = (.error error, after) := by
  simp [bind, ExceptT.bind, ExceptT.mk, ExceptT.bindCont, StateT.bind, failed]
  rfl

/-- The writing stops with the first failing entry, whose `set` is the last one
made. -/
theorem setAllOrFail_eq (context : Ctx) (entries : List Required) :
    setAllOrFail entries context =
      match firstFailure context entries with
      | none => (.ok (), setAll context (entries.map Required.entry))
      | some (written, error) =>
          (.error error, setAll context ((entries.map Required.entry).take (written + 1))) := by
  induction entries generalizing context with
  | nil => rfl
  | cons entry rest ih =>
      cases outcome : Context.set context entry.key entry.value with
      | mk result changed =>
          cases result with
          | error error =>
              have stopped : setOrFail entry.key entry.label entry.value context =
                  (.error (.taskExecutionFailed ("context set " ++ entry.label ++ " failed: " ++ error)),
                    changed) := by
                simp only [setOrFail, outcome]
              rw [setAllOrFail, bind_error stopped]
              simp [firstFailure, outcome, setAll, Required.entry]
          | ok done =>
              have written : setOrFail entry.key entry.label entry.value context = (.ok (), changed) := by
                simp only [setOrFail, outcome]
              rw [setAllOrFail, bind_ok written, ih changed]
              have entered : setAll context ((entry :: rest).map Required.entry) =
                  setAll changed (rest.map Required.entry) := by
                simp [setAll, Required.entry, outcome]
              cases later : firstFailure changed rest with
              | none => simp only [firstFailure, outcome, later, Option.map_none, entered]
              | some failure =>
                  have prefixEntered : setAll context
                      (((entry :: rest).map Required.entry).take (failure.1 + 1 + 1)) =
                      setAll changed ((rest.map Required.entry).take (failure.1 + 1)) := by
                    simp [setAll, Required.entry, outcome]
                  simp only [firstFailure, outcome, later, Option.map_some, prefixEntered]

/-- A failure is at one of the entries, and it is reported with its label. -/
theorem firstFailure_some {context : Ctx} {entries : List Required} {written : Nat} {error : GraphError}
    (failed : firstFailure context entries = some (written, error)) :
    ∃ entry message, entries[written]? = some entry ∧
      error = .taskExecutionFailed ("context set " ++ entry.label ++ " failed: " ++ message) := by
  induction entries generalizing context written with
  | nil => cases failed
  | cons entry rest ih =>
      cases outcome : Context.set context entry.key entry.value with
      | mk result changed =>
          cases result with
          | error message =>
              simp only [firstFailure, outcome, Option.some.injEq, Prod.mk.injEq] at failed
              rcases failed with ⟨first, reported⟩
              rw [← first, ← reported]
              exact ⟨entry, message, rfl, rfl⟩
          | ok done =>
              simp only [firstFailure, outcome] at failed
              rcases Option.map_eq_some_iff.mp failed with ⟨⟨fewer, reason⟩, later, same⟩
              cases same
              exact ih later

end Writing

section Runs

variable {Ctx : Type} [Context Ctx] {S E R B P L : Type} [ToString S] [ToString E] [Registry R]
  [ContextBuilder B E] [Policy P S] {serialize : List String -> Except String String}

/-- The three entries whose failure a `FormeTask` reports. -/
def requiredEntries (prepared : Prepared) : List Required :=
  [⟨"caulk.prompt", "prompt", prepared.prompt⟩, ⟨"caulk.context", "context", prepared.context⟩,
    ⟨"caulk.prompt_key", "prompt_key", prepared.key.canonical⟩]

/-- The three whose failure it ignores. -/
def FormeTask.optionalEntries (serialize : List String -> Except String String)
    (task : FormeTask S E R B P L) (prepared : Prepared) : List (String × String) :=
  [("caulk.tools", toolsJson serialize prepared.toolPlan), ("caulk.state", toString task.state),
    ("caulk.event", toString task.event)]

omit [Registry R] [ContextBuilder B E] [Policy P S] in
theorem FormeTask.entries_eq (task : FormeTask S E R B P L) (prepared : Prepared) :
    task.entries serialize prepared =
      (requiredEntries prepared).map Required.entry ++ task.optionalEntries serialize prepared :=
  rfl

/-- The body of a prepared task: the required entries, and then the others. -/
theorem FormeTask.run_prepared (task : FormeTask S E R B P L) (context : Ctx) {prepared : Prepared}
    (ready : task.runner.prepare task.state task.event task.history = .ok prepared) :
    task.run serialize context =
      (setAllOrFail (requiredEntries prepared) >>= fun _ after =>
        (Except.ok (TaskResult.mk (some ("prepared: " ++ toString prepared.key))
          (GfNextAction.ofForme task.next)), setAll after (task.optionalEntries serialize prepared)))
        context := by
  unfold FormeTask.run
  rw [ready, bind_ok (orFail_ok _ _ _ _)]
  simp only [requiredEntries, setAllOrFail, bind_assoc, pure_bind]
  rfl

/-- Over any context, a `FormeTask` returns an error with nothing written when
`prepare` fails; with the entries up to the failing one when one of the first
three cannot be set; and otherwise it succeeds, with all entries written. -/
theorem FormeTask.run_stops_at_first_failure (task : FormeTask S E R B P L) (context : Ctx) :
    task.run serialize context =
      match task.runner.prepare task.state task.event task.history with
      | .error error =>
          (.error (.taskExecutionFailed
            ("caulk prepare failed (" ++ task.id ++ "): " ++ toString error)), context)
      | .ok prepared =>
          match firstFailure context (requiredEntries prepared) with
          | some (written, error) =>
              (.error error, setAll context ((task.entries serialize prepared).take (written + 1)))
          | none =>
              (.ok ⟨some ("prepared: " ++ toString prepared.key), GfNextAction.ofForme task.next⟩,
                setAll context (task.entries serialize prepared)) := by
  cases ready : task.runner.prepare task.state task.event task.history with
  | error error => exact FormeTask.run_error serialize task context ready
  | ok prepared =>
      rw [FormeTask.run_prepared task context ready]
      have writes := setAllOrFail_eq context (requiredEntries prepared)
      cases failure : firstFailure context (requiredEntries prepared) with
      | none =>
          simp only [failure] at writes
          rw [bind_ok writes]
          simp only [failure, FormeTask.entries_eq, setAll, List.foldl_append]
      | some stopped =>
          rcases stopped with ⟨written, error⟩
          simp only [failure] at writes
          rcases firstFailure_some failure with ⟨entry, message, located, _⟩
          have inside : written + 1 ≤ ((requiredEntries prepared).map Required.entry).length := by
            rw [List.length_map]
            exact (List.getElem?_eq_some_iff.mp located).1
          rw [bind_error writes]
          simp only [failure, FormeTask.entries_eq, List.take_append_of_le_length inside]

/-- What a `FormeLlmTask` returns does not depend on the context at all. -/
theorem FormeLlmTask.result_ignores_context [LlmAdapter L E] {Ctx' : Type} [Context Ctx']
    (task : FormeLlmTask S E R B P L) (context : Ctx) (context' : Ctx') :
    (task.run context).1 = (task.run context').1 := by
  cases stepped : task.runner.step task.state task.event task.history with
  | error error =>
      rw [FormeLlmTask.run_error task context stepped, FormeLlmTask.run_error task context' stepped]
  | ok out => rw [FormeLlmTask.run_ok task context stepped, FormeLlmTask.run_ok task context' stepped]

end Runs

end GraphFlowAdapter
end Caulk
