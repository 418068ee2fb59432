/-
This file proves what the supervisor makes of a receipt when it looks at the
process with the receipt's id.

After a restart the supervisor has no children, and a receipt is owned only if
the process shows the command the receipt has. The receipt of a start has the
command the supervisor asked for, and that is what a process shows only if its
executable is not a script that an interpreter runs. Receipts of an id that the
table of children has for another launch are errors, whatever has become of
their own process.
-/

import BuzzServer.LaunchEnvironment
import BuzzServer.Local.Supervisor

namespace BuzzServer.Local

open Concurrent Concurrent.Fallible AdapterWorld HostProcess ProcessReceipt

/-! ### The calls, run alone -/

variable {managed : ManagedChild} {pid : Nat} {launchId : String} {Result : Type}

variable {after : AdapterWorld} {world : AdapterWorld}

theorem alone_checked_eq_ok {outcome : Except ValidationError Result} {value : Result} :
    alone HostAction.perform (checked outcome) world = (.ok value, after) ↔
      outcome = .ok value ∧ world = after := by
  unfold checked
  rw [alone_ofExcept, Prod.mk.injEq, mapError_eq_ok]

theorem alone_unixMillis_eq_ok {now : Nat} :
    alone HostAction.perform unixMillis world = (.ok now, after) ↔
      world.unixMs = some now ∧ world = after := by
  rw [unixMillis, alone_bind_ok (alone_always ..)]
  dsimp only [HostAction.perform]
  cases world.unixMs <;> simp

/-- Whether a receipt is owned, as a property of the world. -/
def AdapterWorld.owns (world : AdapterWorld) (receipt : ProcessReceipt) : Bool :=
  receipt.commandMatches && receipt.processStartTicks.isSome &&
    decide (world.processStartTicks receipt.pid = receipt.processStartTicks) &&
    decide (world.processCommand receipt.pid = receipt.commandPath) &&
    world.processHasLaunchMarker receipt.pid receipt.launchId

theorem alone_receiptOwned (receipt : ProcessReceipt) (world : AdapterWorld) :
    ∃ looked, alone HostAction.perform (receiptOwned receipt) world =
      (.ok (world.owns receipt), { world with looked := looked }) := by
  unfold receiptOwned owns
  by_cases matching : (receipt.commandMatches && receipt.processStartTicks.isSome) = true
  · rw [matching]
    show ∃ looked, alone HostAction.perform
      (if world.processStartTicks receipt.pid = receipt.processStartTicks then _ else _) world = _
    by_cases ticks : world.processStartTicks receipt.pid = receipt.processStartTicks
    · rw [if_pos ticks, decide_eq_true ticks]
      show ∃ looked, alone HostAction.perform
        (if world.processCommand receipt.pid = receipt.commandPath then _ else _) world = _
      by_cases command : world.processCommand receipt.pid = receipt.commandPath
      · rw [if_pos command, decide_eq_true command]
        exact ⟨_, rfl⟩
      · rw [if_neg command, decide_eq_false command]
        exact ⟨world.looked, rfl⟩
    · rw [if_neg ticks, decide_eq_false ticks]
      exact ⟨world.looked, rfl⟩
  · rw [eq_false_of_ne_true matching]
    exact ⟨world.looked, rfl⟩

theorem alone_healthReady (receipt : ProcessReceipt) (world : AdapterWorld) :
    ∃ ready, alone HostAction.perform (healthReady receipt) world = (.ok ready, world) := by
  unfold healthReady
  rw [alone_bind_ok (alone_always ..)]
  cases receipt.desired.health with
  | process startupGraceMs => exact ⟨_, rfl⟩
  | tcp host port startupGraceMs intervalMs timeoutMs =>
    dsimp only
    split
    · exact ⟨false, rfl⟩
    · exact ⟨_, rfl⟩

/-! ### Receipts of processes that are not children -/

/-- The receipt in another state. -/
def ProcessReceipt.inState (receipt : ProcessReceipt) (state : ObservedProcessState) :
    ProcessReceipt :=
  { receipt with observedState := state, exitCode := none }

variable {receipt : ProcessReceipt} {state : ObservedProcessState}

theorem observe_eq_ok {observed : ProcessReceipt} : receipt.observe state none = .ok observed ↔
      receipt.observedState.canTransitionTo state = true ∧ observed = receipt.inState state := by
  unfold ProcessReceipt.observe
  rw [bind_unit_eq_ok, bind_unit_eq_ok, require_eq_ok]
  refine and_congr_right fun _ => ?_
  constructor
  · rintro ⟨-, ⟨⟩⟩
    rfl
  · rintro rfl
    exact ⟨rfl, rfl⟩

theorem validate_inState (valid : receipt.validate = .ok ())
    (state : ObservedProcessState) : (receipt.inState state).validate = .ok () := by
  simp only [validate, bind_unit_eq_ok] at valid ⊢
  obtain ⟨id, group, desired, pid, identity, -⟩ := valid
  exact ⟨id, group, desired, pid, identity, rfl⟩

/-- Only a process that runs shows the marker of its launch. -/
theorem running_of_marker (marked : world.processHasLaunchMarker pid launchId = true) :
    ∃ process, world.host.processes pid = some process ∧ process.exit = none ∧
      process.environ.lookup launchMarker = some launchId := by
  obtain ⟨process, running, shows⟩ := (Option.any_eq_true _ _).mp marked
  obtain ⟨found, runs⟩ := Option.filter_eq_some_iff.mp running
  exact ⟨process, found, Option.isNone_iff_eq_none.mp runs, beq_iff_eq.mp shows⟩

theorem owns_eq_true : world.owns receipt = true ↔ receipt.commandMatches = true ∧
      receipt.processStartTicks.isSome = true ∧
      world.processStartTicks receipt.pid = receipt.processStartTicks ∧
      world.processCommand receipt.pid = receipt.commandPath ∧
      world.processHasLaunchMarker receipt.pid receipt.launchId = true := by
  unfold owns
  simp only [Bool.and_eq_true, decide_eq_true_eq, and_assoc]

variable (valid : receipt.validate = .ok ())

include valid

theorem alone_inspect_unmanaged (unmanaged : world.children receipt.pid = none) :
    alone HostAction.perform (inspect receipt) world =
      alone HostAction.perform (inspectUnmanaged receipt) world := by
  unfold inspect
  rw [alone_bind_ok (alone_checked_eq_ok.mpr ⟨valid, rfl⟩), alone_bind_ok (alone_always ..)]
  dsimp only [HostAction.perform]
  rw [unmanaged]

theorem alone_inspect_managed (kept : world.children receipt.pid = some managed) :
    alone HostAction.perform (inspect receipt) world =
      alone HostAction.perform (inspectManaged managed receipt) world := by
  unfold inspect
  rw [alone_bind_ok (alone_checked_eq_ok.mpr ⟨valid, rfl⟩), alone_bind_ok (alone_always ..)]
  dsimp only [HostAction.perform]
  rw [kept]

/-- What inspection finds of a process that is not a child and not owned. -/
theorem inspect_of_not_owned (unmanaged : world.children receipt.pid = none)
    (foreign : world.owns receipt = false) :
    (alone HostAction.perform (inspect receipt) world).1 =
      .ok (if receipt.observedState.isTerminal then receipt else receipt.inState .lost) := by
  obtain ⟨looked, owned⟩ := alone_receiptOwned receipt world
  rw [foreign] at owned
  have absent : alone HostAction.perform (ownedAndPresent receipt) world =
      (.ok false, { world with looked := looked }) := by
    unfold ownedAndPresent
    rw [alone_bind_ok owned]
    rfl
  rw [alone_inspect_unmanaged valid unmanaged, inspectUnmanaged, alone_bind_ok absent,
    if_neg Bool.false_ne_true]
  split
  · rfl
  · next live =>
    rw [observe, observe_eq_ok.mpr
      ⟨ObservedProcessState.canTransitionTo_terminal (eq_false_of_ne_true live) rfl, rfl⟩]
    rfl

/-- A process that is not a child and is owned is found alive. -/
theorem inspect_of_owned (unmanaged : world.children receipt.pid = none)
    (owned : world.owns receipt = true) (inRange : validPid receipt.pid = true)
    (live : receipt.observedState.isTerminal = false) :
    ∃ observed, (alone HostAction.perform (inspect receipt) world).1 = .ok observed ∧
      observed.observedState.isTerminal = false := by
  obtain ⟨looked, ownership⟩ := alone_receiptOwned receipt world
  rw [owned] at ownership
  obtain ⟨process, found, -, -⟩ := running_of_marker (owns_eq_true.mp owned).2.2.2.2
  have exists_ok : world.processExists receipt.pid = .ok true := by
    rw [AdapterWorld.processExists, if_pos inRange, found]
    rfl
  have present : alone HostAction.perform (ownedAndPresent receipt) world =
      (.ok true, { world with looked := looked }) := by
    unfold ownedAndPresent
    rw [alone_bind_ok ownership, if_pos rfl, call, alone_attempt_eq_ok]
    exact Prod.ext exists_ok rfl
  rw [alone_inspect_unmanaged valid unmanaged, inspectUnmanaged, alone_bind_ok present, if_pos rfl]
  split
  · next starting =>
    obtain ⟨ready, readiness⟩ := alone_healthReady receipt { world with looked := looked }
    rw [alone_bind_ok readiness]
    cases ready with
    | false => exact ⟨receipt, rfl, live⟩
    | true =>
      have allowed : receipt.observedState.canTransitionTo .healthy = true := by
        rw [starting]
        rfl
      refine ⟨receipt.inState .healthy, ?_, rfl⟩
      rw [observe, observe_eq_ok.mpr ⟨allowed, rfl⟩]
      rfl
  · exact ⟨receipt, rfl, live⟩

omit valid

/-! ### A start -/

/-- What a start that succeeds leaves. -/
structure Started (launch : LaunchSpec) (command : String) (receipt : ProcessReceipt)
    (process : HostProcess) (world : AdapterWorld) : Prop where
  launchId : receipt.launchId = launch.launchId
  desired : receipt.desired = launch.identity
  commandPath : receipt.commandPath = some command
  ticks : receipt.processStartTicks = some process.startTicks
  state : receipt.observedState = .starting
  exitCode : receipt.exitCode = none
  valid : receipt.validate = .ok ()
  inRange : AdapterWorld.validPid receipt.pid = true
  child : world.children receipt.pid = some ⟨receipt, none⟩
  held : world.host.processes receipt.pid = some process
  runs : process.exit = none
  marked : process.environ.lookup launchMarker = some launch.launchId

theorem spawn_eq_ok {command : Command} (spawned : world.spawn command = (.ok pid, after)) :
    validPid pid = true ∧ ∃ process, after.host.processes pid = some process ∧
      process.exit = none ∧ process.environ = command.environment := by
  unfold AdapterWorld.spawn at spawned
  split at spawned
  · cases spawned
  next created answered =>
  split at spawned
  · cases spawned
    refine ⟨decide_eq_true created.inRange.2, processOf command created, ?_, rfl, rfl⟩
    exact (Host.create_processes ..).trans (if_pos rfl)
  · cases spawned

theorem alone_call_eq_ok {action : HostAction (Except SupervisorError Result)} {value : Result} :
    alone HostAction.perform (call action) world = (.ok value, after) ↔
      HostAction.perform action world = (.ok value, after) :=
  alone_attempt_eq_ok

theorem registerChild_started {launch : LaunchSpec} {identity : Option LocalProcessIdentity}
    {generation : String} {logs : AppServerLogsStatus} {process : HostProcess}
    (inRange : validPid pid = true)
    (found : world.host.processes pid = some process) (runs : process.exit = none)
    (marked : process.environ.lookup launchMarker = some launch.launchId)
    (registered : alone HostAction.perform (registerChild launch identity generation logs pid)
      world = (.ok receipt, after)) :
    Started launch (expectedCommand launch identity) receipt process after := by
  obtain ⟨now, _, clock, registered⟩ := alone_bind_eq_ok_at.mp registered
  obtain ⟨-, rfl⟩ := alone_unixMillis_eq_ok.mp clock
  rw [alone_bind_ok (alone_always ..)] at registered
  obtain ⟨_, _, checked, registered⟩ := alone_bind_eq_ok_at.mp registered
  obtain ⟨valid, rfl⟩ := alone_checked_eq_ok.mp checked
  cases registered
  refine ⟨rfl, rfl, rfl, ?_, rfl, rfl, valid, inRange, ?_, found, runs, marked⟩
  · show world.processStartTicks pid = _
    rw [AdapterWorld.processStartTicks, found, Option.map_some]
  · exact (AdapterWorld.setChild_children ..).trans (if_pos rfl)

theorem start_started {adapter : AdapterConfig} {launch : LaunchSpec}
    {resolver : SecretRef → Except SupervisorError String}
    (returned : alone HostAction.perform (start adapter launch resolver) world =
      (.ok receipt, after)) :
    ∃ process, Started launch
      (expectedCommand launch (adapter.identityFor (world.identities launch.agentId))) receipt
      process after := by
  obtain ⟨_, _, checked, returned⟩ := alone_bind_eq_ok_at.mp returned
  obtain ⟨-, rfl⟩ := alone_checked_eq_ok.mp checked
  have looked : alone HostAction.perform (identityFor adapter launch.agentId) world =
      (.ok (adapter.identityFor (world.identities launch.agentId)), world) := rfl
  rw [alone_bind_ok looked] at returned
  obtain ⟨now, _, clock, returned⟩ := alone_bind_eq_ok_at.mp returned
  rw [alone_bind_ok (alone_always ..), alone_bind_ok (alone_always ..)] at returned
  obtain ⟨plan, _, planned, returned⟩ := alone_bind_eq_ok_at.mp returned
  rw [alone_ofExcept, Prod.mk.injEq] at planned
  obtain ⟨_, _, -, returned⟩ := alone_bind_eq_ok_at.mp returned
  obtain ⟨_, _, -, returned⟩ := alone_bind_eq_ok_at.mp returned
  obtain ⟨_, _, -, returned⟩ := alone_bind_eq_ok_at.mp returned
  obtain ⟨pid, _, spawned, returned⟩ := alone_bind_eq_ok_at.mp returned
  obtain ⟨inRange, process, found, runs, environ⟩ := spawn_eq_ok (alone_call_eq_ok.mp spawned)
  refine ⟨process, registerChild_started inRange found runs ?_ returned⟩
  rw [environ]
  exact lookup_plan_marker planned.1

/-! ### Receipts after a restart -/

/-- The process with an id and its entry in the table are left alone. -/
structure Undisturbed (pid : Nat) (before after : AdapterWorld) : Prop where
  process : after.host.processes pid = before.host.processes pid
  child : after.children pid = before.children pid

/-- The receipts that have been returned for a process since its start, the last one first, while
the process goes on unchanged. -/
inductive Inspected (first : ProcessReceipt) (started : AdapterWorld) :
    List ProcessReceipt → AdapterWorld → Prop where
  | started : Inspected first started [first] started
  | goesOn {receipts : List ProcessReceipt} {world after : AdapterWorld}
      (earlier : Inspected first started receipts world)
      (undisturbed : Undisturbed first.pid world after) : Inspected first started receipts after
  | inspected {receipts : List ProcessReceipt} {receipt observed : ProcessReceipt}
      {world after : AdapterWorld} (earlier : Inspected first started receipts world)
      (known : receipt ∈ receipts)
      (returned : alone HostAction.perform (inspect receipt) world = (.ok observed, after)) :
      Inspected first started (observed :: receipts) after

section

variable {launch : LaunchSpec} {command : String} {first : ProcessReceipt}
  {identity : Option LocalProcessIdentity} {process : HostProcess} {started world : AdapterWorld}

theorem processCommand_of_running (found : world.host.processes pid = some process)
    (runs : process.exit = none) :
    world.processCommand pid = (some process.command).filter fun shown => !shown.isEmpty := by
  have running : world.runningProcess pid = some process := by
    unfold AdapterWorld.runningProcess
    rw [found, Option.filter_some, runs, if_pos (by rfl)]
  unfold AdapterWorld.processCommand
  rw [running, Option.map_some]

theorem hasLaunchMarker_of_running (found : world.host.processes pid = some process)
    (runs : process.exit = none) (marked : process.environ.lookup launchMarker = some launchId) :
    world.processHasLaunchMarker pid launchId = true := by
  unfold AdapterWorld.processHasLaunchMarker AdapterWorld.runningProcess
  rw [found, Option.filter_some, runs]
  exact beq_iff_eq.mpr marked

/-- A child that runs keeps its receipt, or becomes healthy with what the process shows. -/
theorem inspectManaged_running (receipt : ProcessReceipt) {observed : ProcessReceipt}
    (kept : world.children receipt.pid = some managed) (unended : managed.status = none)
    (found : world.host.processes receipt.pid = some process) (runs : process.exit = none)
    (returned : alone HostAction.perform (inspectManaged managed receipt) world =
      (.ok observed, after)) :
    observed = receipt ∧ after = world ∨ observed = { receipt with
        processStartTicks := some process.startTicks
        commandPath := world.processCommand receipt.pid }.inState .healthy ∧
      after = world.setChild receipt.pid (some { managed with receipt := observed }) := by
  unfold inspectManaged at returned
  split at returned
  case isFalse => cases returned
  obtain ⟨waited, middle, called, returned⟩ := alone_bind_eq_ok_at.mp returned
  have unchanged : waited = none ∧ world = middle := by
    have performed := alone_call_eq_ok.mp called
    simp only [HostAction.perform, AdapterWorld.tryWait, kept, unended, found, Option.bind_some,
      runs] at performed
    split at performed <;> cases performed
    exact ⟨rfl, rfl⟩
  obtain ⟨rfl, rfl⟩ := unchanged
  dsimp only at returned
  split at returned
  case isFalse =>
    cases returned
    exact .inl ⟨rfl, rfl⟩
  obtain ⟨ready, readiness⟩ := alone_healthReady receipt world
  rw [alone_bind_ok readiness] at returned
  split at returned
  case isFalse =>
    cases returned
    exact .inl ⟨rfl, rfl⟩
  unfold becomeHealthy at returned
  rw [alone_bind_ok (alone_always ..), alone_bind_ok (alone_always ..)] at returned
  obtain ⟨healthy, _, became, returned⟩ := alone_bind_eq_ok_at.mp returned
  obtain ⟨transition, rfl⟩ := alone_checked_eq_ok.mp became
  cases returned
  refine .inr ⟨?_, rfl⟩
  rw [(observe_eq_ok.mp transition).2]
  show { receipt with
    processStartTicks := world.processStartTicks receipt.pid
    commandPath := world.processCommand receipt.pid }.inState .healthy = _
  rw [AdapterWorld.processStartTicks, found, Option.map_some]

theorem Started.inState_starting (start : Started launch command first process started) :
    first.inState .starting = first := by
  rw [← start.state, inState, ← start.exitCode]

/-- If the process shows the command its receipt has, inspecting it changes no more of its receipts
than the state. -/
theorem Inspected.receipts {receipts : List ProcessReceipt} {later : AdapterWorld}
    (start : Started launch command first process started)
    (shown : process.command = command) (visible : command.isEmpty = false)
    (history : Inspected first started receipts later) :
    (∀ receipt ∈ receipts, ∃ state, state.isTerminal = false ∧ receipt = first.inState state) ∧
      later.host.processes first.pid = some process ∧
      ∃ managed, later.children first.pid = some managed ∧ managed.status = none := by
  induction history with
  | started =>
    refine ⟨fun receipt listed => ⟨.starting, rfl, ?_⟩, start.held, _, start.child, rfl⟩
    rw [List.mem_singleton.mp listed, start.inState_starting]
  | goesOn _ undisturbed inductionHypothesis =>
    obtain ⟨known, held, managed, kept, unended⟩ := inductionHypothesis
    exact ⟨known, undisturbed.process.trans held, managed, undisturbed.child.trans kept, unended⟩
  | @inspected receipts receipt observed world after _ listed returned inductionHypothesis =>
    obtain ⟨known, held, managed, kept, unended⟩ := inductionHypothesis
    obtain ⟨state, live, rfl⟩ := known receipt listed
    have shows : world.processCommand first.pid = first.commandPath := by
      rw [processCommand_of_running held start.runs, start.commandPath, shown,
        Option.filter_some, visible, if_pos (by rfl)]
    rw [alone_inspect_managed (validate_inState start.valid state) kept] at returned
    rcases inspectManaged_running (first.inState state) kept unended held start.runs returned with
      ⟨rfl, rfl⟩ | ⟨became, rfl⟩
    · refine ⟨?_, held, managed, kept, unended⟩
      intro other member
      rcases List.mem_cons.mp member with rfl | member
      · exact ⟨state, live, rfl⟩
      · exact known _ member
    · refine ⟨?_, held, { managed with receipt := observed }, ?_, unended⟩
      · intro other member
        rcases List.mem_cons.mp member with rfl | member
        · refine ⟨.healthy, rfl, ?_⟩
          rw [became, ← start.ticks]
          show { first with commandPath := world.processCommand first.pid }.inState .healthy = _
          rw [shows]
        · exact known _ member
      · exact (AdapterWorld.setChild_children ..).trans (if_pos rfl)

theorem Started.commandMatches (start : Started launch
      (expectedCommand launch identity) first process started) :
    first.commandMatches = true := by
  unfold ProcessReceipt.commandMatches
  rw [start.commandPath, start.desired, start.launchId]
  cases identity with
  | none => exact Bool.or_eq_true_iff.mpr (.inl (beq_iff_eq.mpr rfl))
  | some account => exact Bool.or_eq_true_iff.mpr (.inr (beq_iff_eq.mpr rfl))

/-- A process that goes on without its parent shows what it showed before. -/
theorem restarted_process (found : world.host.processes pid = some process) :
    world.restarted.host.processes pid = some process.orphaned := by
  show (world.host.processes pid).map orphaned = _
  rw [found, Option.map_some]

/-- A receipt of a start is owned by a later supervisor exactly if the process shows the command
the supervisor asked for. -/
theorem Started.owns_iff
    (start : Started launch (expectedCommand launch identity) first process started)
    (state : ObservedProcessState) {resumed : AdapterWorld}
    (held : resumed.host.processes first.pid = some process.orphaned) :
    resumed.owns (first.inState state) = true ↔
      (some process.command).filter (fun shown => !shown.isEmpty) =
        some (expectedCommand launch identity) := by
  have runs : process.orphaned.exit = none := start.runs
  have shows : resumed.processCommand first.pid =
      (some process.orphaned.command).filter fun shown => !shown.isEmpty :=
    processCommand_of_running held runs
  have marked : resumed.processHasLaunchMarker first.pid first.launchId = true := by
    rw [start.launchId]
    exact hasLaunchMarker_of_running held runs start.marked
  have ticks : resumed.processStartTicks first.pid = first.processStartTicks := by
    rw [AdapterWorld.processStartTicks, held, start.ticks]
    rfl
  show resumed.owns (first.inState state) = true ↔
    (some process.orphaned.command).filter (fun shown => !shown.isEmpty) = _
  rw [owns_eq_true, ← shows, ← start.commandPath]
  refine ⟨fun owned => owned.2.2.2.1, fun same => ⟨start.commandMatches, ?_, ticks, same, marked⟩⟩
  show first.processStartTicks.isSome = true
  rw [start.ticks]
  rfl

end

/-- The last receipt of a process that goes on unchanged is still owned after a restart, and the
process is found alive, exactly if the process shows the command the supervisor asked for. -/
theorem owned_after_restart_iff (adapter : AdapterConfig) (launch : LaunchSpec)
    (resolver : SecretRef → Except SupervisorError String) (world started : AdapterWorld)
    (receipt : ProcessReceipt)
    (returned : alone HostAction.perform (start adapter launch resolver) world =
      (.ok receipt, started)) :
    (∀ latest earlier later resumed, Inspected receipt started (latest :: earlier) later →
        Undisturbed receipt.pid later.restarted resumed →
        (alone HostAction.perform (receiptOwned latest) resumed).1 = .ok true ∧
          ∃ observed, (alone HostAction.perform (inspect latest) resumed).1 = .ok observed ∧
            observed.observedState.isTerminal = false) ↔
      started.processCommand receipt.pid =
        some (expectedCommand launch (adapter.identityFor (world.identities launch.agentId))) := by
  obtain ⟨process, start⟩ := start_started returned
  rw [processCommand_of_running start.held start.runs]
  constructor
  · intro owned
    obtain ⟨kept, -⟩ := owned receipt [] started started.restarted .started ⟨rfl, rfl⟩
    obtain ⟨looked, alone⟩ := alone_receiptOwned receipt started.restarted
    rw [alone, Except.ok.injEq] at kept
    exact (start.owns_iff .starting (restarted_process start.held)).mp kept
  · intro shown latest earlier later resumed history undisturbed
    obtain ⟨same, visible⟩ := Option.filter_eq_some_iff.mp shown
    rw [Bool.not_eq_true'] at visible
    obtain ⟨known, held, -⟩ := history.receipts start (Option.some.inj same) visible
    obtain ⟨state, live, rfl⟩ := known latest List.mem_cons_self
    have orphaned := undisturbed.process.trans (restarted_process held)
    have owned := (start.owns_iff state orphaned).mpr shown
    obtain ⟨looked, alone⟩ := alone_receiptOwned (receipt.inState state) resumed
    refine ⟨by rw [alone, owned], ?_⟩
    exact inspect_of_owned (validate_inState start.valid state) undisturbed.child owned
      start.inRange live

/-! ### A launch that is started -/

/-- A launch of one agent. -/
def sampleLaunch (agent : Nat) : LaunchSpec where
  launchId := "agent-" ++ toString agent
  agentId := ⟨agent⟩
  role := .acpBridge
  harness := sampleHarness
  harnessArguments := []
  runtime := ⟨⟨"codex-acp"⟩, ⟨"/opt/buzz/bin/codex-acp", "codex-acp", "1.2.3", none⟩, [], none⟩
  environment := ∅
  secretEnvironment := ∅
  workingDirectory := "/var/lib/buzz"
  workspacePath := "/var/lib/buzz"
  runtimePath := "/var/lib/buzz"
  processGroupId := "agent"
  restart := ⟨.never, 0, 0, 0, 0⟩
  health := .process 0

/-- A host that gives the next process an id, a start time and a command. -/
def sampleAnswers (spawned : SpawnedProcess) : HostAnswers where
  directory := fun _ => true
  probe := fun _ => .ok ()
  log := fun _ _ => true
  spawn := fun _ => some spawned
  waits := fun _ => true
  ends := fun _ => .signaled 9
  permits := fun _ => true
  connects := fun _ _ _ => true

/-- A supervisor that has just begun, on a host without other processes. -/
def sampleWorld (command : String) : AdapterWorld where
  host := ⟨fun _ => none, fun _ => none, fun _ => 0⟩
  children := fun _ => none
  identities := fun _ => none
  unixMs := some 1000
  instantMs := 0
  nextGeneration := 0
  answers := sampleAnswers ⟨4711, 100, command, by decide⟩
  signals := []
  looked := none

/-- A start of the first agent whose outcome passes a check. -/
def sampleStarts (command : String) (check : ProcessReceipt → AdapterWorld → Bool) : Bool :=
  match alone HostAction.perform (start sampleAdapter (sampleLaunch 1) fun _ => .error .io)
    (sampleWorld command) with
  | (.error _, _) => false
  | (.ok receipt, started) => check receipt started

theorem exists_of_sampleStarts {command : String} {check : ProcessReceipt → AdapterWorld → Bool}
    (passes : sampleStarts command check = true) :
    ∃ receipt started,
      alone HostAction.perform (start sampleAdapter (sampleLaunch 1) fun _ => .error .io)
        (sampleWorld command) = (.ok receipt, started) ∧ check receipt started = true := by
  unfold sampleStarts at passes
  split at passes
  · cases passes
  · next receipt started returned => exact ⟨receipt, started, returned, passes⟩

theorem owned_after_restart_native : ∃ receipt started,
      alone HostAction.perform (start sampleAdapter (sampleLaunch 1) fun _ => .error .io)
          (sampleWorld "/opt/buzz/bin/buzz-acp#BUZZ_SERVER_LAUNCH_ID=agent-1") =
        (.ok receipt, started) ∧
      ∀ latest earlier later resumed, Inspected receipt started (latest :: earlier) later →
        Undisturbed receipt.pid later.restarted resumed →
        (alone HostAction.perform (receiptOwned latest) resumed).1 = .ok true ∧
          ∃ observed, (alone HostAction.perform (inspect latest) resumed).1 = .ok observed ∧
            observed.observedState.isTerminal = false := by
  have shows : sampleStarts "/opt/buzz/bin/buzz-acp#BUZZ_SERVER_LAUNCH_ID=agent-1"
      (fun receipt started => decide (started.processCommand receipt.pid =
        some (expectedCommand (sampleLaunch 1) none))) = true := by decide +kernel
  obtain ⟨receipt, started, returned, shown⟩ := exists_of_sampleStarts shows
  exact ⟨receipt, started, returned,
    (owned_after_restart_iff _ _ _ _ _ _ returned).mpr (of_decide_eq_true shown)⟩

/-- The harness is a script, so that its process shows the interpreter. After a restart of the
supervisor the process goes on, and its receipt is found lost. -/
theorem script_lost_after_restart : ∃ receipt started observed,
      alone HostAction.perform (start sampleAdapter (sampleLaunch 1) fun _ => .error .io)
          (sampleWorld "/bin/sh") = (.ok receipt, started) ∧
      Inspected receipt started [receipt] started ∧
      (started.restarted.runningProcess receipt.pid).isSome = true ∧
      (alone HostAction.perform (inspect receipt) started.restarted).1 = .ok observed ∧
      observed.observedState = .lost := by
  have lost : sampleStarts "/bin/sh" (fun receipt started =>
      (started.restarted.runningProcess receipt.pid).isSome &&
        match (alone HostAction.perform (inspect receipt) started.restarted).1 with
        | .error _ => false
        | .ok observed => decide (observed.observedState = .lost)) = true := by decide +kernel
  obtain ⟨receipt, started, returned, passes⟩ := exists_of_sampleStarts lost
  obtain ⟨running, found⟩ := Bool.and_eq_true_iff.mp passes
  split at found
  · cases found
  · next observed inspected =>
    exact ⟨receipt, started, observed, returned, .started, running, inspected,
      of_decide_eq_true found⟩

/-! ### Receipts whose process is gone -/

/-- The process of a receipt is gone: what runs under its id, if anything does, was started at
another time or for another launch, and the child of the receipt has ended. -/
structure ProcessReceipt.Gone (receipt : ProcessReceipt) (world : AdapterWorld) : Prop where
  other : ∀ process, world.host.processes receipt.pid = some process → process.exit = none →
    receipt.processStartTicks = some process.startTicks → process.launch ≠ some receipt.launchId
  ended : ∀ managed, world.children receipt.pid = some managed →
    managed.matches receipt = true → managed.status.isSome = true ∨
      ((world.host.processes receipt.pid).bind HostProcess.exit).isSome = true

theorem HostProcess.launch_of_marker {process : HostProcess}
    (shows : process.environ.lookup launchMarker = some launchId) :
    process.launch = some launchId := by
  rcases process.faithful with unmarked | same
  · rw [unmarked] at shows
    cases shows
  · rw [← same, shows]

theorem ProcessReceipt.Gone.not_owned (gone : receipt.Gone world) : world.owns receipt = false := by
  refine eq_false_of_ne_true fun owned => ?_
  obtain ⟨-, -, ticks, -, marked⟩ := owns_eq_true.mp owned
  obtain ⟨process, found, runs, shows⟩ := running_of_marker marked
  rw [AdapterWorld.processStartTicks, found] at ticks
  exact gone.other process found runs ticks.symm (process.launch_of_marker shows)

theorem canTransitionTo_exited : state.canTransitionTo .exited = true ↔ state ≠ .lost := by
  cases state <;> decide

/-- The end of a child can be recorded unless its receipt says that it is lost. -/
theorem observeExit_terminal {status : ExitStatus} :
    (∃ observed, (alone HostAction.perform (observeExit receipt status) world).1 = .ok observed ∧
      observed.observedState.isTerminal = true) ↔ receipt.observedState ≠ .lost := by
  have recorded : receipt.observe .exited status.code =
      if receipt.observedState.canTransitionTo .exited then
        .ok { receipt with observedState := .exited, exitCode := status.code }
      else .error ⟨"observed_state", "contains an invalid process lifecycle transition"⟩ := by
    unfold ProcessReceipt.observe require
    split <;> cases status <;> rfl
  rw [← canTransitionTo_exited]
  unfold observeExit
  by_cases allowed : receipt.observedState.canTransitionTo .exited = true
  · rw [if_pos allowed] at recorded
    rw [observe, alone_bind_ok (alone_checked_eq_ok.mpr ⟨recorded, rfl⟩)]
    exact iff_of_true ⟨_, rfl, rfl⟩ allowed
  · rw [if_neg allowed] at recorded
    have failed : alone HostAction.perform (observe receipt .exited status.code) world =
        (.error (.invalidSpec ⟨"observed_state",
          "contains an invalid process lifecycle transition"⟩), world) := by
      rw [observe, recorded]
      rfl
    rw [alone_bind_error failed]
    exact iff_of_false (fun ⟨_, returned, _⟩ => nomatch returned) allowed

/-- Waiting for a child that has ended gives its status, unless waiting fails. -/
theorem tryWait_of_ended (kept : world.children pid = some managed)
    (ended : managed.status.isSome = true ∨ ((world.host.processes pid).bind exit).isSome = true) :
    (∃ status after, world.tryWait pid = (.ok (some status), after) ∧
        (managed.status.isSome = true ∨ world.answers.waits pid = true)) ∨
      world.tryWait pid = (.error .io, world) ∧ managed.status = none ∧
        world.answers.waits pid = false := by
  unfold AdapterWorld.tryWait
  rw [kept]
  cases remembered : managed.status with
  | some status => exact .inl ⟨status, world, by simp [remembered], .inl rfl⟩
  | none =>
    rw [remembered] at ended
    obtain ⟨status, left⟩ := Option.isSome_iff_exists.mp (ended.resolve_left Bool.false_ne_true)
    cases works : world.answers.waits pid with
    | true =>
      exact .inl ⟨status, world.reap pid managed status, by simp [remembered, left], .inr rfl⟩
    | false => exact .inr ⟨by simp [remembered], rfl, rfl⟩

theorem inspectManaged_terminal_iff (kept : world.children receipt.pid = some managed)
    (ended : managed.matches receipt = true → managed.status.isSome = true ∨
      ((world.host.processes receipt.pid).bind exit).isSome = true) :
    (∃ observed, (alone HostAction.perform (inspectManaged managed receipt) world).1 =
        .ok observed ∧ observed.observedState.isTerminal = true) ↔
      managed.matches receipt = true ∧ receipt.observedState ≠ .lost ∧
        (managed.status.isSome = true ∨ world.answers.waits receipt.pid = true) := by
  unfold inspectManaged
  by_cases agrees : managed.matches receipt = true
  · rw [if_pos agrees]
    rcases tryWait_of_ended kept (ended agrees) with
      ⟨status, after, waited, works⟩ | ⟨failed, unknown, broken⟩
    · have called : alone HostAction.perform (call (.tryWait receipt.pid)) world =
          (.ok (some status), after) := alone_attempt_eq_ok.mpr waited
      rw [alone_bind_ok called]
      exact observeExit_terminal.trans ⟨fun known => ⟨agrees, known, works⟩, fun parts => parts.2.1⟩
    · have called : alone HostAction.perform (call (.tryWait receipt.pid)) world =
          (.error .io, world) := alone_attempt_error failed
      rw [alone_bind_error called]
      refine iff_of_false (fun ⟨_, returned, _⟩ => nomatch returned) ?_
      rintro ⟨-, -, known | works⟩
      · rw [unknown] at known
        cases known
      · rw [broken] at works
        cases works
  · rw [if_neg agrees]
    exact iff_of_false (fun ⟨_, returned, _⟩ => nomatch returned) fun parts => agrees parts.1

/-- Whether the table of children lets the end of a receipt's process be reported. -/
def AdapterWorld.admitsEnd (world : AdapterWorld) (receipt : ProcessReceipt) : Prop :=
  ∀ managed, world.children receipt.pid = some managed →
    managed.matches receipt = true ∧ receipt.observedState ≠ .lost ∧
      (managed.status.isSome = true ∨ world.answers.waits receipt.pid = true)

/-- The receipt of a process that is gone is found terminal exactly if its id is not the one of a
child of another launch, and waiting for a child of its own works. -/
theorem inspect_gone_terminal_iff (receipt : ProcessReceipt) (world : AdapterWorld)
    (valid : receipt.validate = .ok ()) (gone : receipt.Gone world) :
    (∃ observed, (alone HostAction.perform (inspect receipt) world).1 = .ok observed ∧
      observed.observedState.isTerminal = true) ↔ world.admitsEnd receipt := by
  unfold AdapterWorld.admitsEnd
  cases kept : world.children receipt.pid with
  | none =>
    refine iff_of_true ⟨_, inspect_of_not_owned valid kept gone.not_owned, ?_⟩ ?_
    · split
      · assumption
      · rfl
    · intro managed listed
      cases listed
  | some managed =>
    rw [alone_inspect_managed valid kept,
      inspectManaged_terminal_iff kept (gone.ended managed kept)]
    constructor
    · intro parts other listed
      cases listed
      exact parts
    · intro parts
      exact parts managed rfl

/-- The receipt of a process of the second agent that ended before the host was started anew. -/
def staleReceipt : ProcessReceipt :=
  startReceipt (sampleLaunch 2) none "900-0" 4711 900 (some 50) .configured

/-- A process that has nothing to do with the server. -/
def stranger : HostProcess := ⟨200, "/usr/sbin/cron", ∅, none, false, none, .inl rfl⟩

/-- A host that has given all its ids to processes that are no agent's. -/
def reusedWorld : AdapterWorld :=
  { sampleWorld "/bin/sh" with host := ⟨fun _ => some stranger, fun _ => none, fun _ => 1⟩ }

theorem inspect_gone_terminal_stale :
    ∃ observed, (alone HostAction.perform (inspect staleReceipt) reusedWorld).1 =
      .ok observed ∧ observed.observedState.isTerminal = true := by
  have gone : staleReceipt.Gone reusedWorld := by
    refine ⟨fun process found _ sameTicks => ?_, fun _ listed => (nomatch listed)⟩
    cases found
    cases sameTicks
  refine (inspect_gone_terminal_iff _ _ (by decide +kernel) gone).mpr ?_
  intro managed listed
  cases listed

/-- The id of a process that is gone was given to a child of another launch. Its receipt cannot be
inspected. -/
theorem reused_pid_receipt_mismatch : ∃ receipt started,
      alone HostAction.perform (start sampleAdapter (sampleLaunch 1) fun _ => .error .io)
          (sampleWorld "/bin/sh") = (.ok receipt, started) ∧
      staleReceipt.validate = .ok () ∧ staleReceipt.Gone started ∧
      (alone HostAction.perform (inspect staleReceipt) started).1 = .error .receiptMismatch := by
  have mismatch : sampleStarts "/bin/sh" (fun receipt started =>
      decide (receipt.pid = 4711) && !(ManagedChild.matches ⟨receipt, none⟩ staleReceipt) &&
        decide (started.processStartTicks 4711 = some 100) &&
        match (alone HostAction.perform (inspect staleReceipt) started).1 with
        | .error error => decide (error = .receiptMismatch)
        | .ok _ => false) = true := by decide +kernel
  obtain ⟨receipt, started, returned, passes⟩ := exists_of_sampleStarts mismatch
  simp only [Bool.and_eq_true, decide_eq_true_eq, Bool.not_eq_true'] at passes
  obtain ⟨⟨⟨samePid, differs⟩, ticks⟩, failed⟩ := passes
  obtain ⟨process, start⟩ := start_started returned
  have child : started.children 4711 = some ⟨receipt, none⟩ := samePid ▸ start.child
  refine ⟨receipt, started, returned, by decide +kernel, ⟨?_, ?_⟩, ?_⟩
  · intro holder found _ sameTicks
    rw [AdapterWorld.processStartTicks, show started.host.processes 4711 = _ from found,
      Option.map_some] at ticks
    rw [ticks] at sameTicks
    cases sameTicks
  · intro managed listed agrees
    have same : some (⟨receipt, none⟩ : ManagedChild) = some managed := child.symm.trans listed
    rw [← Option.some.inj same, differs] at agrees
    cases agrees
  · split at failed
    · next error inspected => rw [inspected, of_decide_eq_true failed]
    · cases failed

end BuzzServer.Local
