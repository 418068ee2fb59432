/-
This file models a pass of the worker over the agents: the receipt of each is
read, its process is inspected, and what was seen is recorded in the receipt, in
the health history and in the agent's log.

What the host answers at the turn of an agent is given for each agent. The pass
ends at the first call that fails, whichever agent it was made for.
-/

import BuzzServer.Concurrent.Loop
import BuzzServer.Daemon.World
import BuzzServer.Local.Environment
import BuzzServer.Storage.Logs

namespace BuzzServer

namespace Observation

open Concurrent Concurrent.Fallible

/-! ### What is read and written -/

structure LifecycleStamp where
  (actor decision : String)
  occurredAtUnixMs : Nat
  (before after : ObservedProcessState)

/-- A receipt as the file of an agent holds it. -/
structure StampedReceipt where
  receipt : Local.ProcessReceipt
  lifecycle : Option LifecycleStamp

/-- What reading the receipt file of an agent gives. -/
inductive ReceiptText where
  | missing
  | unreadable
  | malformed
  | receipt (stamped : StampedReceipt)

structure HealthHistoryEntry where
  occurredAt : Int
  agentId : AgentId
  (launchId workspace : String)
  supervisorPid : Nat
  processStartTicks : Option Nat
  commandPath : Option String
  observedState : ObservedProcessState
  exitCode : Option Int

/-- What reading the end of a log file gives. -/
inductive LogTail where
  | text (message : String)
  | notFound
  | fails (error : Local.SupervisorError)

/-- What the host answers at the turn of an agent. -/
structure Turn where
  inspect : Local.ProcessReceipt → Except Local.SupervisorError Local.ProcessReceipt
  (writesReceipt recordsHealth recordsLogs : Bool)
  readLogTail : Bool → LogTail
  unixMillis : Nat
  unixSeconds : Int

structure Scene where
  /-- The directory of the state database, if its path has one. -/
  stateDirectory : Option String
  storeUnavailable : Bool
  store : LogStore
  receipts : AgentId → ReceiptText
  healthHistory : List HealthHistoryEntry
  turns : AgentId → Turn

/-! ### Actions -/

inductive Action : Type → Type where
  | stateDirectory : Action (Except DaemonError String)
  | listAgents : Action (Except StorageError (List AgentSpec))
  | getReceipt (id : AgentId) : Action (Except StorageError (Option StampedReceipt))
  | inspect (id : AgentId) (receipt : Local.ProcessReceipt) :
      Action (Except Local.SupervisorError Local.ProcessReceipt)
  | unixMillis (id : AgentId) : Action Nat
  | unixSeconds (id : AgentId) : Action Int
  | putReceipt (id : AgentId) (stamped : StampedReceipt) : Action (Except StorageError Unit)
  | appendHealthHistory (entry : HealthHistoryEntry) : Action (Except StorageError Unit)
  | readLogTail (id : AgentId) (launchId : String) (stderr : Bool) : Action LogTail
  | appendRedactedLog (id : AgentId) (entry : RedactedLogEntry) :
      Action (Except StorageError Unit)

namespace Scene

variable (scene : Scene) (id : AgentId)

/-- The receipt of an agent. A receipt of another agent counts as none. -/
def getReceipt : Except StorageError (Option StampedReceipt) :=
  match scene.receipts id with
  | .missing => .ok none
  | .unreadable => .error (.invalidData "receipt cannot be read")
  | .malformed => .error .database
  | .receipt stamped => .ok (if stamped.receipt.agentId = id then some stamped else none)

def withReceipt (stamped : StampedReceipt) : Scene :=
  { scene with receipts := Function.update scene.receipts id (.receipt stamped) }

/-- What appending to the log of an agent comes to. -/
def appendLog (entry : RedactedLogEntry) : Except StorageError LogStore :=
  if (scene.turns id).recordsLogs then scene.store.appendRedactedLog id entry
  else .error .database

end Scene

def perform ⦃Response : Type⦄ (action : Action Response) (scene : Scene) : Response × Scene :=
  match action with
  | .stateDirectory =>
      (match scene.stateDirectory with
        | some directory => .ok directory
        | none => .error (.host "state database has no parent"), scene)
  | .listAgents =>
      (if scene.storeUnavailable then .error .database
        else .ok (SqliteStore.listAgents none scene.store.database), scene)
  | .getReceipt id => (scene.getReceipt id, scene)
  | .inspect id receipt => ((scene.turns id).inspect receipt, scene)
  | .unixMillis id => ((scene.turns id).unixMillis, scene)
  | .unixSeconds id => ((scene.turns id).unixSeconds, scene)
  | .putReceipt id stamped =>
      if (scene.turns id).writesReceipt then (.ok (), scene.withReceipt id stamped)
      else (.error (.invalidData "receipt cannot be written"), scene)
  | .appendHealthHistory entry =>
      if (scene.turns entry.agentId).recordsHealth then
        (.ok (), { scene with healthHistory := scene.healthHistory ++ [entry] })
      else (.error .database, scene)
  | .readLogTail id _ stderr => ((scene.turns id).readLogTail stderr, scene)
  | .appendRedactedLog id entry =>
      ((scene.appendLog id entry).map fun _ => (),
        { scene with store := (scene.appendLog id entry).toOption.getD scene.store })

abbrev Task (Result : Type) : Type 1 := Fallible Action DaemonError Result

/-! ### The pass -/

variable (sha256 : String → String)

/-- The entry of one log file, unless there is nothing to record. -/
def syncStream (id : AgentId) (launchId : String) (stream : String)
    (stderr : Bool) : Task Unit := do
  let tail ← always (.readLogTail id launchId stderr)
  match tail with
  | .notFound => pure ()
  | .fails _ => throw (.host "log cannot be read")
  | .text message =>
      if message.isEmpty then pure ()
      else do
        let now ← always (.unixSeconds id)
        attempt .storage
          (.appendRedactedLog id ⟨stream ++ ":sha256:" ++ sha256 message, now, stream, message⟩)

def syncSupervisorLogs (id : AgentId) (launchId : String) : Task Unit := do
  syncStream sha256 id launchId "stdout" false
  syncStream sha256 id launchId "stderr" true

def launchIdOf (id : AgentId) : String := "agent-" ++ id.toText

/-- The receipt with the stamp of a health check. -/
def stamped (before : ObservedProcessState) (observed : Local.ProcessReceipt) (now : Nat) :
    StampedReceipt :=
  ⟨observed, some ⟨"health_check", "observed", now, before, observed.observedState⟩⟩

def healthEntry (id : AgentId) (observed : Local.ProcessReceipt) (now : Int) : HealthHistoryEntry :=
  ⟨now, id, observed.launchId, observed.desired.workspacePath, observed.pid,
    observed.processStartTicks, observed.commandPath, observed.observedState, observed.exitCode⟩

/-- The turn of an agent that has a receipt. -/
def observeReceipt (id : AgentId) (receipt : Local.ProcessReceipt) : Task Unit := do
  let observed ← attempt (fun _ => .host "inspect failed") (.inspect id receipt)
  let millis ← always (.unixMillis id)
  attempt .storage (.putReceipt id (stamped receipt.observedState observed millis))
  let seconds ← always (.unixSeconds id)
  attempt .storage (.appendHealthHistory (healthEntry id observed seconds))
  syncSupervisorLogs sha256 id (launchIdOf id)

def observeAgent (agent : AgentSpec) : Task Unit := do
  let _ ← attempt id .stateDirectory
  let found ← attempt .storage (.getReceipt agent.id)
  match found with
  | none => pure ()
  | some file => observeReceipt sha256 agent.id file.receipt

def observeDynamicAgents : Task Unit := do
  let agents ← attempt .storage .listAgents
  forEach (observeAgent sha256) agents

/-! ### When a turn succeeds -/

namespace Scene

variable (scene : Scene) (id : AgentId)

/-- The end of a log file can be read and recorded. -/
def RecordsStream (stderr : Bool) : Prop :=
  match (scene.turns id).readLogTail stderr with
  | .notFound => True
  | .fails _ => False
  | .text message =>
      message.isEmpty = true ∨
        ((scene.turns id).recordsLogs = true ∧ containsSecretMarker message = false ∧
          id ∈ scene.store.database.agentSpecs)

/-- The agent's process can be inspected and the result written to its receipt and to the
history. -/
def Records (receipt observed : Local.ProcessReceipt) : Prop :=
  (scene.turns id).inspect receipt = .ok observed ∧ (scene.turns id).writesReceipt = true ∧
    (scene.turns id).recordsHealth = true

/-- The agent has a receipt of its own. -/
def Has (receipt : Local.ProcessReceipt) : Prop :=
  ∃ lifecycle, scene.getReceipt id = .ok (some ⟨receipt, lifecycle⟩)

/-- No call that is made at the turn of the agent fails. -/
def Fine (agent : AgentSpec) : Prop :=
  scene.stateDirectory.isSome = true ∧ (scene.getReceipt agent.id = .ok none ∨
      ∃ receipt observed, scene.Has agent.id receipt ∧ scene.Records agent.id receipt observed ∧
        scene.RecordsStream agent.id false ∧ scene.RecordsStream agent.id true)

end Scene

open Fallible

section

variable (sha256 : String → String) {scene : Scene}

theorem appendLog_database {id : AgentId} {entry : RedactedLogEntry} :
    ((scene.appendLog id entry).toOption.getD scene.store).database = scene.store.database := by
  unfold Scene.appendLog LogStore.appendRedactedLog
  split_ifs <;> rfl

theorem returns_appendRedactedLog {id : AgentId} {entry : RedactedLogEntry} :
    (∃ value, (perform (.appendRedactedLog id entry) scene).1 = .ok value) ↔
      (scene.turns id).recordsLogs = true ∧ containsSecretMarker entry.redactedMessage = false ∧
        id ∈ scene.store.database.agentSpecs := by
  rw [← AList.lookup_isSome]
  simp only [perform, Scene.appendLog, LogStore.appendRedactedLog]
  split_ifs <;> simp_all [Except.map, Option.isSome_iff_ne_none]

theorem returns_syncStream {id : AgentId} {launchId stream : String} {stderr : Bool} :
    Returns perform (syncStream sha256 id launchId stream stderr) scene ↔
      scene.RecordsStream id stderr := by
  unfold syncStream Scene.RecordsStream
  rw [returns_always_bind]
  simp only [perform]
  cases (scene.turns id).readLogTail stderr with
  | notFound => simp [returns_pure]
  | fails error => simp [not_returns_throw]
  | text message =>
    cases empty : message.isEmpty with
    | true => simp [empty, returns_pure]
    | false =>
      simp only [empty, Bool.false_eq_true, if_false, false_or, returns_always_bind,
        returns_attempt, returns_appendRedactedLog]
      rfl

theorem recordsStream_congr {other : Scene} (turns : other.turns = scene.turns)
    (database : other.store.database = scene.store.database) {id : AgentId} {stderr : Bool} :
    other.RecordsStream id stderr ↔ scene.RecordsStream id stderr := by
  unfold Scene.RecordsStream
  rw [turns, database]

theorem syncStream_same (id : AgentId) (launchId stream : String) (stderr : Bool) :
    let after := (alone perform (syncStream sha256 id launchId stream stderr) scene).2
    after.turns = scene.turns ∧ after.store.database = scene.store.database ∧
      after.receipts = scene.receipts ∧ after.healthHistory = scene.healthHistory := by
  unfold syncStream
  rw [alone_bind_ok (alone_always ..)]
  simp only [perform]
  cases (scene.turns id).readLogTail stderr with
  | text message =>
    dsimp only
    split
    · exact ⟨rfl, rfl, rfl, rfl⟩
    · exact ⟨rfl, appendLog_database, rfl, rfl⟩
  | _ => exact ⟨rfl, rfl, rfl, rfl⟩

theorem syncSupervisorLogs_same (id : AgentId) (launchId : String) (scene : Scene) :
    let after := (alone perform (syncSupervisorLogs sha256 id launchId) scene).2
    after.receipts = scene.receipts ∧ after.healthHistory = scene.healthHistory := by
  obtain ⟨-, -, receipts, history⟩ := @syncStream_same sha256 scene id launchId "stdout" false
  unfold syncSupervisorLogs
  rcases stdout : alone perform (syncStream sha256 id launchId "stdout" false) scene with
    ⟨outcome, middle⟩
  rw [stdout] at receipts history
  cases outcome with
  | error error =>
    rw [alone_bind_error stdout]
    exact ⟨receipts, history⟩
  | ok =>
    obtain ⟨-, -, later, added⟩ := @syncStream_same sha256 middle id launchId "stderr" true
    rw [alone_bind_ok stdout]
    exact ⟨later.trans receipts, added.trans history⟩

theorem returns_syncSupervisorLogs {id : AgentId} {launchId : String} :
    Returns perform (syncSupervisorLogs sha256 id launchId) scene ↔
      scene.RecordsStream id false ∧ scene.RecordsStream id true := by
  obtain ⟨turns, database, -, -⟩ := @syncStream_same sha256 scene id launchId "stdout" false
  have stdout := @returns_syncStream sha256 scene id launchId "stdout" false
  unfold syncSupervisorLogs
  rw [returns_bind, returns_syncStream, recordsStream_congr turns database, ← stdout]
  exact exists_and_right

/-- The scene once the receipt and the history say what was observed. -/
def Scene.recorded (scene : Scene) (id : AgentId) (receipt observed : Local.ProcessReceipt) :
    Scene :=
  { scene.withReceipt id (stamped receipt.observedState observed (scene.turns id).unixMillis) with
    healthHistory := scene.healthHistory ++ [healthEntry id observed (scene.turns id).unixSeconds] }

theorem alone_observeReceipt {id : AgentId} {receipt observed : Local.ProcessReceipt}
    (records : scene.Records id receipt observed) :
    alone perform (observeReceipt sha256 id receipt) scene =
      alone perform (syncSupervisorLogs sha256 id (launchIdOf id))
        (scene.recorded id receipt observed) := by
  obtain ⟨inspected, writes, recordsHealth⟩ := records
  have puts : perform (.putReceipt id (stamped receipt.observedState observed
      (scene.turns id).unixMillis)) scene = (.ok (), scene.withReceipt id _) := if_pos writes
  have appends : perform (.appendHealthHistory (healthEntry id observed
      (scene.turns id).unixSeconds)) (scene.withReceipt id (stamped receipt.observedState observed
        (scene.turns id).unixMillis)) = (.ok (), scene.recorded id receipt observed) :=
    if_pos recordsHealth
  refine (alone_bind_ok (alone_attempt_eq_ok.mpr (Prod.ext inspected rfl))).trans ?_
  refine (alone_bind_ok (alone_always ..)).trans ?_
  refine (alone_bind_ok (alone_attempt_eq_ok.mpr puts)).trans ?_
  refine (alone_bind_ok (alone_always ..)).trans ?_
  exact alone_bind_ok (alone_attempt_eq_ok.mpr appends)

/-- If the process cannot be inspected or the result not be written, the turn fails and the
history is as it was. -/
theorem alone_observeReceipt_error {id : AgentId} {receipt : Local.ProcessReceipt}
    (unrecorded : ¬∃ observed, scene.Records id receipt observed) :
    ∃ error after, alone perform (observeReceipt sha256 id receipt) scene = (.error error, after) ∧
      after.healthHistory = scene.healthHistory := by
  unfold observeReceipt
  cases inspected : (scene.turns id).inspect receipt with
  | error error =>
    exact ⟨_, _, alone_bind_error (alone_attempt_error (Prod.ext inspected rfl)), rfl⟩
  | ok observed =>
    rw [alone_bind_ok (alone_attempt_eq_ok.mpr (Prod.ext inspected rfl)),
      alone_bind_ok (alone_always ..)]
    by_cases writes : (scene.turns id).writesReceipt = true
    · have fails : (scene.turns id).recordsHealth ≠ true := fun recordsHealth =>
        unrecorded ⟨observed, inspected, writes, recordsHealth⟩
      rw [alone_bind_ok (alone_attempt_eq_ok.mpr (if_pos writes)), alone_bind_ok (alone_always ..)]
      exact ⟨_, _, alone_bind_error (alone_attempt_error (if_neg fails)), rfl⟩
    · exact ⟨_, _, alone_bind_error (alone_attempt_error (if_neg writes)), rfl⟩

/-- A turn succeeds if none of its calls fails. -/
theorem returns_observeAgent {agent : AgentSpec} :
    Returns perform (observeAgent sha256 agent) scene ↔ scene.Fine agent := by
  unfold observeAgent Scene.Fine Scene.Has
  rw [returns_attempt_bind]
  simp only [perform]
  cases scene.stateDirectory with
  | none => simp
  | some directory =>
    simp only [Option.isSome_some, true_and, returns_attempt_bind, perform]
    cases scene.getReceipt agent.id with
    | error error => simp
    | ok found =>
      cases found with
      | none => simp [returns_pure]
      | some file =>
        simp only [Except.ok.injEq, exists_eq_left', reduceCtorEq, false_or, Option.some.injEq]
        by_cases records : ∃ observed, scene.Records agent.id file.receipt observed
        · obtain ⟨observed, records⟩ := records
          unfold Returns
          rw [alone_observeReceipt sha256 records]
          refine (returns_syncSupervisorLogs sha256).trans ?_
          constructor
          · rintro ⟨stdout, stderr⟩
            exact ⟨file.receipt, observed, ⟨file.lifecycle, rfl⟩, records, stdout, stderr⟩
          · rintro ⟨_, _, -, -, stdout, stderr⟩
            exact ⟨stdout, stderr⟩
        · obtain ⟨error, after, failed, -⟩ := alone_observeReceipt_error sha256 records
          refine iff_of_false ?_ ?_
          · rintro ⟨value, returned⟩
            rw [failed] at returned
            cases returned
          · rintro ⟨_, observed, ⟨lifecycle, rfl⟩, fine, -⟩
            exact records ⟨observed, fine⟩

end

/-! ### What a turn leaves alone -/

namespace Scene

/-- The history of one agent. -/
def historyOf (scene : Scene) (id : AgentId) : List HealthHistoryEntry :=
  scene.healthHistory.filter fun entry => entry.agentId = id

/-- Two scenes differ in nothing that concerns an agent other than the given one. -/
structure AgreesOff (id : AgentId) (before after : Scene) : Prop where
  stateDirectory : after.stateDirectory = before.stateDirectory
  database : after.store.database = before.store.database
  turns : after.turns = before.turns
  receipts : ∀ other, other ≠ id → after.receipts other = before.receipts other
  history : ∀ other, other ≠ id → after.historyOf other = before.historyOf other

end Scene

/-- The agent an action is made for. -/
def Action.target {Response : Type} : Action Response → Option AgentId
  | .stateDirectory | .listAgents => none
  | .getReceipt id | .inspect id _ | .unixMillis id | .unixSeconds id => some id
  | .putReceipt id _ | .readLogTail id _ _ | .appendRedactedLog id _ => some id
  | .appendHealthHistory entry => some entry.agentId

theorem perform_agreesOff {id : AgentId} {Response : Type} {action : Action Response}
    (targets : action.target = none ∨ action.target = some id) (scene : Scene) :
    scene.AgreesOff id (perform action scene).2 := by
  cases action with
  | putReceipt target stamped =>
    obtain rfl : target = id := by simpa [Action.target] using targets
    simp only [perform]
    split
    · exact ⟨rfl, rfl, rfl, fun other differs => Function.update_of_ne differs .., fun _ _ => rfl⟩
    · exact ⟨rfl, rfl, rfl, fun _ _ => rfl, fun _ _ => rfl⟩
  | appendHealthHistory entry =>
    obtain rfl : entry.agentId = id := by simpa [Action.target] using targets
    simp only [perform]
    split
    · refine ⟨rfl, rfl, rfl, fun _ _ => rfl, fun other differs => ?_⟩
      simp [Scene.historyOf, differs.symm]
    · exact ⟨rfl, rfl, rfl, fun _ _ => rfl, fun _ _ => rfl⟩
  | appendRedactedLog target entry =>
    exact ⟨rfl, appendLog_database, rfl, fun _ _ => rfl, fun _ _ => rfl⟩
  | _ => exact ⟨rfl, rfl, rfl, fun _ _ => rfl, fun _ _ => rfl⟩

theorem Scene.AgreesOff.trans {id : AgentId} {first second third : Scene}
    (earlier : first.AgreesOff id second) (later : second.AgreesOff id third) :
    first.AgreesOff id third where
  stateDirectory := later.stateDirectory.trans earlier.stateDirectory
  database := later.database.trans earlier.database
  turns := later.turns.trans earlier.turns
  receipts other differs := (later.receipts other differs).trans (earlier.receipts other differs)
  history other differs := (later.history other differs).trans (earlier.history other differs)

/-- Whether a turn succeeds does not depend on the turns of other agents. -/
theorem Scene.AgreesOff.fine {id : AgentId} {before after : Scene}
    (agrees : before.AgreesOff id after) {agent : AgentSpec} (differs : agent.id ≠ id) :
    after.Fine agent ↔ before.Fine agent := by
  unfold Scene.Fine Scene.Has Scene.Records Scene.getReceipt
  rw [agrees.stateDirectory, agrees.receipts _ differs, agrees.turns,
    recordsStream_congr agrees.turns agrees.database,
    recordsStream_congr agrees.turns agrees.database]

/-- Every call of an agent's turn is made for the agent. -/
theorem uses_observeAgent (agent : AgentSpec) :
    Program.Uses (fun _ action => action.target = none ∨ action.target = some agent.id)
      (observeAgent sha256 agent).run := by
  have stream : ∀ launchId stream stderr, Program.Uses
      (fun _ action => action.target = none ∨ action.target = some agent.id)
      (syncStream sha256 agent.id launchId stream stderr).run := by
    intro launchId stream stderr
    refine uses_bind (uses_always (.inr rfl)) fun tail => ?_
    cases tail with
    | text message =>
      dsimp only
      split
      · exact .done _
      · exact uses_bind (uses_always (.inr rfl)) fun _ => uses_attempt (.inr rfl)
    | _ => exact .done _
  refine uses_bind (uses_attempt (.inl rfl)) fun _ => ?_
  refine uses_bind (uses_attempt (.inr rfl)) fun found => ?_
  cases found with
  | none => exact .done _
  | some file =>
    refine uses_bind (uses_attempt (.inr rfl)) fun _ => ?_
    refine uses_bind (uses_always (.inr rfl)) fun _ => ?_
    refine uses_bind (uses_attempt (.inr rfl)) fun _ => ?_
    refine uses_bind (uses_always (.inr rfl)) fun _ => ?_
    refine uses_bind (uses_attempt (.inr rfl)) fun _ => ?_
    exact uses_bind (stream ..) fun _ => stream ..

theorem observeAgent_agreesOff (agent : AgentSpec) (scene : Scene) :
    scene.AgreesOff agent.id (alone perform (observeAgent sha256 agent) scene).2 :=
  (uses_observeAgent sha256 agent).run_keeps (scene.AgreesOff agent.id)
    (fun _ _ world targets agrees => agrees.trans (perform_agreesOff targets world))
    ⟨rfl, rfl, rfl, fun _ _ => rfl, fun _ _ => rfl⟩

end Observation

end BuzzServer
