import Caulk.Runtime

namespace Caulk
namespace QaRunner

open Caulk.Core
open Foundation
open PromptRegistry
open ContextBuilders
open Policies
open RigAdapter
open Runners

/-!
# The QA runner

A command that loads an event log, runs four checks and exits with 0 when all
of them pass.  The world it runs in is a parameter: the files at the paths it
tries, the parser of the log, and the lower-casing of a text.

Two of the checks cannot fail.  What the exit code says is therefore this: the
registry that the command builds for itself has a prompt for every entry of
the log, and the snapshot looks as it should if there is one.
-/

structure AppState where
  text : String
deriving DecidableEq, Repr

instance : ToString AppState := ⟨AppState.text⟩

structure AppEvent where
  text : String
deriving DecidableEq, Repr

instance : ToString AppEvent := ⟨AppEvent.text⟩

structure LogEntry where
  state : String
  event : String
  history : List String
deriving DecidableEq, Repr

/-- What the command finds around it. -/
structure World where
  pathExists : String -> Bool
  readToString : String -> Except String String
  parseLog : String -> Except String (List LogEntry)
  toLowercase : String -> String

/-! ## Loading -/

def logCandidates : List String :=
  ["tests/fixtures/event-log.json", "./tests/fixtures/event-log.json",
    "caulk/tests/fixtures/event-log.json"]

def fallbackLog : List LogEntry :=
  [⟨"Idle", "UserMsg", []⟩, ⟨"Done", "UserMsg", ["UserMsg"]⟩]

/-- The loop over the candidates: the first file that parses to a log with
entries is taken. -/
def loadFrom (world : World) : List String -> List LogEntry
  | [] => fallbackLog
  | cand :: rest =>
      if world.pathExists cand then
        match world.readToString cand with
        | .ok text =>
            match world.parseLog text with
            | .ok [] => loadFrom world rest
            | .ok (first :: more) => first :: more
            | .error _ => loadFrom world rest
        | .error _ => loadFrom world rest
      else loadFrom world rest

def loadEventLog (world : World) : List LogEntry :=
  loadFrom world logCandidates

def makeRegistry : InMemoryRegistry :=
  InMemoryRegistry.new
    ((((HashMap.empty
      |>.insert ⟨"Idle", "UserMsg"⟩ "You are in Idle state, greeting user. You are helpful.")
      |>.insert ⟨"Greeting", "UserMsg"⟩ "You are in Greeting state, respond warmly.")
      |>.insert ⟨"Done", "UserMsg"⟩ "You are in Done state. Summarize and say goodbye.")
      |>.insert ⟨"Idle", "UserMsg_save"⟩
        "You are a helpful assistant in Idle state. Greet the user warmly.")

def qaRunner : Runner AppState AppEvent InMemoryRegistry NoopBuilder AllowAllPolicy MockLlm :=
  Runner.new makeRegistry {} {} (MockLlm.withResponse "Hello from caulk! This is canned reply.")

def LogEntry.events (entry : LogEntry) : List AppEvent :=
  entry.history.map AppEvent.mk

/-! ## The checks -/

/-- One round of the first check. -/
def promptFound (entry : LogEntry) : Bool :=
  match InMemoryRegistry.get makeRegistry ⟨entry.state, entry.event⟩ with
  | .error _ => false
  | .ok _ =>
      match qaRunner.prepare ⟨entry.state⟩ ⟨entry.event⟩ entry.events with
      | .ok prepared => prepared.prompt != ""
      | .error _ => false

/-- The second check, on fixed policies. -/
def policyDeny : Bool :=
  let allowList := AllowListPolicy.new [⟨"read"⟩, ⟨"write"⟩]
  let greeting : AppState := ⟨"Greeting"⟩
  let deniesCorrectly :=
    match Policy.check allowList greeting ⟨"refund"⟩ with
    | .error (.policyDenied _) => true
    | _ => false
  let allowsCorrectly := (Policy.check allowList greeting ⟨"read"⟩).isOk
  let allowAllAllows := (Policy.check (AllowAllPolicy.mk) greeting ⟨"refund"⟩).isOk
  deniesCorrectly && allowsCorrectly && allowAllAllows

/-- Two preparations agree: equal results, or errors of one text. -/
def samePrepared : Except FormeError Prepared -> Except FormeError Prepared -> Bool
  | .ok first, .ok second => first == second
  | .error first, .error second => toString first == toString second
  | _, _ => false

/-- Two steps that both succeed agree in response and prompt. -/
def sameStep : Except FormeError (StepOutput AppState) -> Except FormeError (StepOutput AppState) -> Bool
  | .ok first, .ok second => first.llmResponse == second.llmResponse && first.prompt == second.prompt
  | _, _ => true

/-- One round of the third check. -/
def replays (entry : LogEntry) : Bool :=
  let state : AppState := ⟨entry.state⟩
  let event : AppEvent := ⟨entry.event⟩
  samePrepared (qaRunner.prepare state event entry.events) (qaRunner.prepare state event entry.events) &&
    sameStep (qaRunner.step state event entry.events) (qaRunner.step state event entry.events)

def snapshotPaths : List String :=
  ["tests/snapshots/hello-world.txt", "./tests/snapshots/hello-world.txt",
    "caulk/tests/snapshots/hello-world.txt"]

/-- The first snapshot that can be read. -/
def readFirst (world : World) : List String -> Option String
  | [] => none
  | path :: rest =>
      if world.pathExists path then
        match world.readToString path with
        | .ok content => some content
        | .error _ => readFirst world rest
      else readFirst world rest

/-- `str::contains` of a text. -/
def containsText (content wanted : String) : Bool :=
  decide (wanted.toList <:+: content.toList)

/-- Not empty, and with some word of the example in it or rather long. -/
def looksPlausible (world : World) (content : String) : Bool :=
  let len := content.utf8ByteSize
  let hasIdle := containsText (world.toLowercase content) "idle" || containsText content "Idle"
  let hasPromptOrHello := containsText content "prompt" || containsText content "Hello" ||
    containsText content "hello" || containsText content "caulk"
  decide (10 < len) && (hasIdle || hasPromptOrHello || decide (50 < len))

/-- The preparation that the example of the snapshot makes. -/
def simulation : Except FormeError Prepared :=
  let registry := InMemoryRegistry.new (HashMap.empty.insert ⟨"Idle", "UserMsg"⟩
    "You are a helpful assistant in Idle state. Greet the user warmly.")
  let runner : Runner AppState AppEvent InMemoryRegistry NoopBuilder AllowAllPolicy MockLlm :=
    Runner.new registry {} {} (MockLlm.withResponse "Hello from caulk! This is canned reply.")
  runner.prepare ⟨"Idle"⟩ ⟨"UserMsg"⟩ []

/-- The fourth check: a snapshot has to look right, and without one an inline
assertion is made. -/
def snapshotCheck (world : World) : Bool :=
  match readFirst world snapshotPaths with
  | some content =>
      let simOk :=
        match simulation with
        | .ok _ => content.utf8ByteSize != 0
        | .error _ => false
      looksPlausible world content && simOk
  | none => (PromptKey.keyFor (AppState.mk "Idle") (AppEvent.mk "UserMsg")).canonical == "Idle::UserMsg"

/-- The four verdicts in the order they are printed. -/
def verdicts (world : World) : List Bool :=
  let log := loadEventLog world
  [log.foldl (fun ok entry => if promptFound entry then ok else false) true, policyDeny,
    log.foldl (fun ok entry => if replays entry then ok else false) true, snapshotCheck world]

def passed (world : World) : Nat :=
  (verdicts world).count true

def failed (world : World) : Nat :=
  (verdicts world).count false

def exitCode (world : World) : Nat :=
  if failed world = 0 then 0 else 1

/-! ## What the checks check -/

/-- The keys of the registry. -/
def storedKeys : List PromptKey :=
  [⟨"Idle", "UserMsg"⟩, ⟨"Greeting", "UserMsg"⟩, ⟨"Done", "UserMsg"⟩, ⟨"Idle", "UserMsg_save"⟩]

def LogEntry.key (entry : LogEntry) : PromptKey :=
  ⟨entry.state, entry.event⟩

/-- A loop that only ever clears its flag. -/
theorem foldl_flag {α : Type} (good : α -> Bool) (items : List α) (flag : Bool) :
    items.foldl (fun ok item => if good item then ok else false) flag = true <->
      flag = true ∧ forall item, item ∈ items -> good item = true := by
  induction items generalizing flag with
  | nil => simp
  | cons head rest ih =>
      rw [List.foldl_cons, ih]
      cases verdict : good head with
      | true => simp [verdict]
      | false => simp [verdict]

/-- The registry has a prompt for its four keys, none of them empty. -/
theorem makeRegistry_prompts (key : PromptKey) :
    (key ∈ storedKeys -> ∃ prompt, makeRegistry.prompts key = some prompt ∧ prompt ≠ "") ∧
      (key ∉ storedKeys -> makeRegistry.prompts key = none) := by
  constructor
  · intro stored
    rcases List.mem_cons.mp stored with first | stored
    · subst first
      exact ⟨_, rfl, by decide⟩
    rcases List.mem_cons.mp stored with second | stored
    · subst second
      exact ⟨_, rfl, by decide⟩
    rcases List.mem_cons.mp stored with third | stored
    · subst third
      exact ⟨_, rfl, by decide⟩
    · rw [List.mem_singleton.mp stored]
      exact ⟨_, rfl, by decide⟩
  · intro foreign
    simp only [storedKeys, List.mem_cons, List.not_mem_nil, or_false, not_or] at foreign
    rcases foreign with ⟨notIdle, notGreeting, notDone, notSave⟩
    simp only [makeRegistry, InMemoryRegistry.new]
    rw [HashMap.insert_other _ _ notSave, HashMap.insert_other _ _ notDone,
      HashMap.insert_other _ _ notGreeting, HashMap.insert_other _ _ notIdle, HashMap.empty_apply]

theorem promptFound_iff (entry : LogEntry) : promptFound entry = true <-> entry.key ∈ storedKeys := by
  by_cases stored : entry.key ∈ storedKeys
  · rcases (makeRegistry_prompts entry.key).1 stored with ⟨prompt, found, nonempty⟩
    have got : InMemoryRegistry.get makeRegistry entry.key = .ok prompt := by
      unfold InMemoryRegistry.get
      rw [found]
    have prepared : qaRunner.prepare ⟨entry.state⟩ ⟨entry.event⟩ entry.events =
        .ok ⟨entry.key, prompt, "", ⟨[]⟩⟩ := by
      change (InMemoryRegistry.get makeRegistry entry.key >>= _) = _
      rw [got]
      rfl
    have looked : InMemoryRegistry.get makeRegistry ⟨entry.state, entry.event⟩ = .ok prompt := got
    simp [promptFound, looked, prepared, nonempty, stored]
  · have absent : InMemoryRegistry.get makeRegistry ⟨entry.state, entry.event⟩ =
        .error (.registryNotFound entry.key) := by
      change InMemoryRegistry.get makeRegistry entry.key = _
      unfold InMemoryRegistry.get
      rw [(makeRegistry_prompts entry.key).2 stored]
    simp [promptFound, absent, stored]

theorem samePrepared_self (prepared : Except FormeError Prepared) :
    samePrepared prepared prepared = true := by
  cases prepared <;> simp [samePrepared]

theorem sameStep_self (stepped : Except FormeError (StepOutput AppState)) :
    sameStep stepped stepped = true := by
  cases stepped <;> simp [sameStep]

/-- A runner without state gives the same result twice. -/
theorem replays_always (entry : LogEntry) : replays entry = true := by
  simp only [replays, samePrepared_self, sameStep_self, Bool.and_self]

/-- A snapshot that looks right is long enough for the simulation. -/
theorem snapshotCheck_iff (world : World) :
    snapshotCheck world = true <->
      forall content, readFirst world snapshotPaths = some content -> looksPlausible world content = true := by
  unfold snapshotCheck
  cases found : readFirst world snapshotPaths with
  | none =>
      constructor
      · intro _ content read
        cases read
      · intro _
        rfl
  | some content =>
      have simulated : simulation = .ok ⟨⟨"Idle", "UserMsg"⟩,
          "You are a helpful assistant in Idle state. Greet the user warmly.", "", ⟨[]⟩⟩ := rfl
      have long : looksPlausible world content = true -> content.utf8ByteSize ≠ 0 := by
        intro looks
        unfold looksPlausible at looks
        have size := of_decide_eq_true (Bool.and_eq_true_iff.mp looks).1
        omega
      simp only [simulated, Bool.and_eq_true, bne_iff_ne]
      constructor
      · intro both other read
        rw [← Option.some.inj read]
        exact both.1
      · intro looks
        exact ⟨looks content rfl, long (looks content rfl)⟩

theorem exitCode_eq_zero_iff_verdicts (world : World) :
    exitCode world = 0 <-> forall verdict, verdict ∈ verdicts world -> verdict = true := by
  unfold exitCode failed
  constructor
  · intro zero verdict member
    have none : (verdicts world).count false = 0 := by
      by_contra some
      rw [if_neg some] at zero
      cases zero
    cases verdict with
    | true => rfl
    | false => exact absurd member (List.count_eq_zero.mp none)
  · intro all
    have none : (verdicts world).count false = 0 := by
      apply List.count_eq_zero.mpr
      intro member
      exact absurd (all false member) Bool.false_ne_true
    rw [if_pos none]

/-- The command exits with 0 if and only if every entry of the log it loads is
for one of the four keys of its registry, and the snapshot, if one can be
read, looks right. -/
theorem exitCode_eq_zero_iff (world : World) :
    exitCode world = 0 <->
      (forall entry, entry ∈ loadEventLog world -> entry.key ∈ storedKeys) ∧
        forall content, readFirst world snapshotPaths = some content -> looksPlausible world content = true := by
  have denies : policyDeny = true := by decide
  have found := foldl_flag promptFound (loadEventLog world) true
  have replayed := foldl_flag replays (loadEventLog world) true
  rw [exitCode_eq_zero_iff_verdicts, ← snapshotCheck_iff]
  simp only [verdicts, List.forall_mem_cons]
  rw [found, replayed]
  simp only [denies, replays_always, promptFound_iff, true_and, implies_true, List.not_mem_nil,
    false_implies, and_true]

end QaRunner
end Caulk
