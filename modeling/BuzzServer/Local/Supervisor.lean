/-
This file models the supervisor of local processes: the start of a launch, the
inspection of a receipt and the stop of a process.

Children the supervisor has started are kept in a table by their process ids
until they have been waited for. A receipt whose id is not in the table may be
the receipt of a process an earlier supervisor started; it is owned if the
process with the id shows the start time, the command and the launch marker of
the receipt.
-/

import BuzzServer.Concurrent.Program
import BuzzServer.Local.Host

namespace BuzzServer.Local

open Concurrent Concurrent.Fallible

abbrev Supervision : Type → Type 1 := Fallible HostAction SupervisorError

/-- A call of the host whose error is an error of the supervisor. -/
def call {Result : Type} (action : HostAction (Except SupervisorError Result)) :
    Supervision Result :=
  attempt id action

/-- A step that needs nothing of the host. -/
def checked {Result : Type} (outcome : Except ValidationError Result) : Supervision Result :=
  MonadExcept.ofExcept (outcome.mapError .invalidSpec)

def unixMillis : Supervision Nat := do
  match ← always .unixMillis with
  | some now => pure now
  | none => throw .clock

/-! ### Starting -/

variable (adapter : AdapterConfig)

def identityFor (agent : AgentId) : Supervision (Option LocalProcessIdentity) := do
  let configured ← always (.identity agent)
  return adapter.identityFor configured

/-- Whether a launch id is safe in the name of a log file. -/
def safeLogName (launchId : String) : Bool :=
  !launchId.isEmpty && decide (launchId.utf8ByteSize ≤ 160) && launchId.toList.all fun character =>
      character.isAlphanum || character == '-' || character == '_'

def prepareLog (launchId : String) (stderr : Bool) (generation : String) : Supervision Unit :=
  if safeLogName launchId then call (.openLog launchId stderr generation) else throw .io

def runPreflight : Option Command → Supervision Unit
  | none => pure ()
  | some probe => call (.runProbe probe)

variable (launch : LaunchSpec) (identity : Option LocalProcessIdentity)

/-- The command a process is expected to show. -/
def expectedCommand : String :=
  if identity.isSome then launch.harness.path
  else markedCommand launch.harness.path launch.launchId

def startReceipt (generation : String) (pid now : Nat) (ticks : Option Nat)
    (appServerLogs : AppServerLogsStatus) : ProcessReceipt where
  launchId := launch.launchId
  generation := some generation
  agentId := launch.agentId
  processGroupId := launch.processGroupId
  desired := launch.identity
  pid := pid
  startedAtUnixMs := now
  processStartTicks := ticks
  commandPath := some (expectedCommand launch identity)
  observedState := .starting
  exitCode := none
  waitOutcome := none
  endedAtUnixMs := none
  durationMs := none
  appServerLogs := appServerLogs

/-- The end of a start, when the process exists. If it fails nobody waits for the process. -/
def registerChild (generation : String) (appServerLogs : AppServerLogsStatus) (pid : Nat) :
    Supervision ProcessReceipt := do
  let now ← unixMillis
  let ticks ← always (.processStartTicks pid)
  let receipt := startReceipt launch identity generation pid now ticks appServerLogs
  checked receipt.validate
  always (.setChild pid ⟨receipt, none⟩)
  return receipt

def start (resolver : SecretRef → Except SupervisorError String) : Supervision ProcessReceipt := do
  checked launch.validate
  let identity ← identityFor adapter launch.agentId
  let now ← unixMillis
  let count ← always .fetchGeneration
  let generation := toString now ++ "-" ++ toString count
  let directories ← always .directories
  let plan ← MonadExcept.ofExcept (adapter.plan launch resolver identity directories generation)
  runPreflight plan.probe
  prepareLog launch.launchId false generation
  prepareLog launch.launchId true generation
  let pid ← call (.spawn plan.harness)
  registerChild launch identity generation plan.appServerLogs pid

/-! ### Receipts -/

variable (managed : ManagedChild)

/-- Whether the child is the one a receipt was given for. -/
def ManagedChild.matches (receipt : ProcessReceipt) : Bool :=
  decide (managed.receipt.launchId = receipt.launchId) &&
    decide (managed.receipt.agentId = receipt.agentId) &&
    decide (managed.receipt.processGroupId = receipt.processGroupId) &&
    decide (managed.receipt.desired = receipt.desired) &&
    decide (managed.receipt.pid = receipt.pid) &&
    decide (managed.receipt.startedAtUnixMs = receipt.startedAtUnixMs)

variable (receipt : ProcessReceipt)

def managedReceipt : Supervision Bool := do
  let managed ← always (.child receipt.pid)
  return managed.any (·.matches receipt)

/-- Whether the command of a receipt is one the supervisor would have given its process. -/
def ProcessReceipt.commandMatches : Bool :=
  receipt.commandPath.any fun command =>
    command == markedCommand receipt.desired.harness.path receipt.launchId ||
      command == receipt.desired.harness.path

def receiptOwned : Supervision Bool := do
  if receipt.commandMatches && receipt.processStartTicks.isSome then
    let ticks ← always (.processStartTicks receipt.pid)
    if ticks = receipt.processStartTicks then
      let command ← always (.processCommand receipt.pid)
      if command = receipt.commandPath then
        always (.processHasLaunchMarker receipt.pid receipt.launchId)
      else return false
    else return false
  else return false

/-- A reading of the clock before the epoch counts as the epoch. -/
def healthReady : Supervision Bool := do
  let now ← always .unixMillis
  let elapsed := now.getD 0 - receipt.startedAtUnixMs
  match receipt.desired.health with
  | .process startupGraceMs => return decide (startupGraceMs ≤ elapsed)
  | .tcp host port startupGraceMs _ timeoutMs =>
      if elapsed < startupGraceMs then return false else always (.connect host port timeoutMs)

def observe (state : ObservedProcessState) (exitCode : Option Int) : Supervision ProcessReceipt :=
  checked (receipt.observe state exitCode)

def observeWait (status : ExitStatus) : Supervision ProcessReceipt := do
  let ended ← always .unixMillis
  return { receipt with
    endedAtUnixMs := ended
    durationMs := ended.map (· - receipt.startedAtUnixMs)
    waitOutcome := some status.outcome }

/-! ### Inspecting -/

/-- A child that is starting and has become ready. The receipt is given what the process shows. -/
def becomeHealthy : Supervision ProcessReceipt := do
  let ticks ← always (.processStartTicks receipt.pid)
  let command ← always (.processCommand receipt.pid)
  let observed ← observe { receipt with processStartTicks := ticks, commandPath := command }
    .healthy none
  always (.setChild receipt.pid { managed with receipt := observed })
  return observed

/-- A child that has ended leaves the table. -/
def observeExit (status : ExitStatus) : Supervision ProcessReceipt := do
  let observed ← observe receipt .exited status.code
  let observed ← observeWait observed status
  let _ ← always (.removeChild receipt.pid)
  return observed

def inspectManaged : Supervision ProcessReceipt := do
  if managed.matches receipt then
    match ← call (.tryWait receipt.pid) with
    | some status => observeExit receipt status
    | none =>
        if receipt.observedState = .starting then
          if ← healthReady receipt then becomeHealthy managed receipt else return receipt
        else return receipt
  else throw .receiptMismatch

/-- Whether the process of a receipt is there, as far as the host shows it. -/
def ownedAndPresent : Supervision Bool := do
  if ← receiptOwned receipt then call (.processExists receipt.pid) else return false

def inspectUnmanaged : Supervision ProcessReceipt := do
  if ← ownedAndPresent receipt then
    if receipt.observedState = .starting then
      if ← healthReady receipt then observe receipt .healthy none else return receipt
    else return receipt
  else if receipt.observedState.isTerminal then return receipt
  else observe receipt .lost none

def inspect : Supervision ProcessReceipt := do
  checked receipt.validate
  match ← always (.child receipt.pid) with
  | some managed => inspectManaged managed receipt
  | none => inspectUnmanaged receipt

/-! ### Stopping -/

/-- The loop that waits until the id is gone or the deadline has passed. Each round sleeps, so
that the rounds are bounded. -/
def awaitExit (pid deadline : Nat) : Nat → Supervision Unit
  | 0 => return ()
  | rounds + 1 => do
      if ← call (.processExists pid) then
        let now ← always .instant
        if now < deadline then
          always .sleep
          awaitExit pid deadline rounds
        else return ()
      else return ()

/-- The rounds after which the deadline has passed. -/
def AdapterConfig.pollRounds : Nat :=
  adapter.stopTimeoutMs / pollIntervalMs + 2

def killRemaining : Supervision Unit := do
  if ← call (.processExists receipt.pid) then
    call (.signalGroup receipt.launchId receipt.pid .kill)
  else return ()

variable (receipt observed : ProcessReceipt)

/-- A child is waited for. Another process is given up. -/
def concludeStop : Supervision ProcessReceipt := do
  match ← always (.removeChild receipt.pid) with
  | some managed =>
      let status ← call (.wait receipt.pid managed)
      let ended ← observe observed .exited status.code
      observeWait ended status
  | none => observe observed .lost none

def terminate : Supervision ProcessReceipt := do
  let observed ← observe observed .stopping none
  call (.signalGroup receipt.launchId receipt.pid .term)
  let now ← always .instant
  awaitExit receipt.pid (now + adapter.stopTimeoutMs) adapter.pollRounds
  killRemaining receipt
  concludeStop receipt observed

/-- Whether a receipt is one of a child, or of a process that shows its marks. -/
def ownsReceipt : Supervision Bool := do
  if ← managedReceipt receipt then return true else receiptOwned receipt

def stop : Supervision ProcessReceipt := do
  let observed ← inspect receipt
  if observed.observedState.isTerminal then return observed
  else if ← ownsReceipt receipt then terminate adapter receipt observed
  else throw .receiptMismatch

end BuzzServer.Local
