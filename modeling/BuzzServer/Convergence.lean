/-
This file is about calls of the reconciler that follow one another.

The reconciler starts, adopts and stops processes and knows them only by their
receipts. If receipts can always be read and written and no call is cut short,
every live process is named by the stored receipt of its agent, whatever the
calls before ask for, whichever processes exit in between and however often the
supervisor fails. From that follows what a call that succeeds leaves, and that
making the same call again changes nothing.
-/

import BuzzServer.Daemon.Schedule
import BuzzServer.Daemon.Supervision

namespace BuzzServer

open Relational Concurrent Concurrent.Fallible World

/-! ### What the calls keep -/

/-- Receipts can be read, written and removed. -/
def Faults.SparesReceipts (faults : Faults) : Prop :=
  faults.receiptRead = false ∧ faults.receiptWrite = false ∧ faults.receiptDelete = false

variable (world : World)

/-- Every live process is named by the stored receipt of its agent. -/
def World.Named : Prop :=
  ∀ pid id, world.processes.lookup pid = some id →
    ∃ receipt, world.storedReceipt id = some receipt ∧ receipt.pid = pid

/-- The processes are named, and no live process has an id that is still to be given out. -/
structure World.Supervised (world : World) : Prop where
  named : world.Named
  numbered : ∀ pid ∈ world.processes, pid < world.nextPid
  positive : 0 < world.nextPid

/-- Exactly one process of the agent is live, and its stored receipt can be adopted for the
launch. -/
def World.Runs (desired : LaunchSpec) : Prop :=
  ∃ receipt, world.storedReceipt desired.agentId = some receipt ∧ desired.canAdopt receipt = true ∧
      ∀ pid, world.processes.lookup pid = some desired.agentId ↔ pid = receipt.pid

variable (id : AgentId)

/-- The agent has neither a process nor a receipt. -/
def World.Vacant : Prop :=
  ¬world.Live id ∧ world.storedReceipt id = none

/-- The world after a receipt was written. -/
def World.noted (receipt : ProcessReceipt) : World :=
  { world with receipts := world.receipts.insert receipt.agentId receipt }

/-- The world after the receipt of an agent was removed. -/
def World.unnoted : World :=
  { world with receipts := world.receipts.erase id }

/-- The world after a process exited. -/
def World.exited (pid : Nat) : World :=
  { world with processes := world.processes.erase pid }

/-- The world after a process of an agent was started. -/
def World.spawned : World :=
  { world with
    processes := world.processes.insert world.nextPid id
    nextPid := world.nextPid + 1 }

/-- The world after the supervisor failed to start a process. -/
def World.unspawned : World := { world with nextPid := world.nextPid + 1 }

variable {durable : ProcessReceipt} {desired : LaunchSpec} {world : World} {id : AgentId}

section

theorem World.Named.gone (named : world.Named)
    (unnamed : ∀ receipt, world.storedReceipt id = some receipt →
      world.processes.lookup receipt.pid ≠ some id) : ¬world.Live id := by
  rintro ⟨pid, live⟩
  obtain ⟨receipt, stored, rfl⟩ := named pid id live
  exact unnamed receipt stored live

theorem World.noted_storedReceipt (written : ProcessReceipt) (id : AgentId) :
    (world.noted written).storedReceipt id =
      if id = written.agentId then some written else world.storedReceipt id :=
  storedReceipt_insert world written id

theorem World.unnoted_storedReceipt (removed id : AgentId) :
    (world.unnoted removed).storedReceipt id =
      if id = removed then none else world.storedReceipt id :=
  storedReceipt_erase world removed id

variable (supervised : world.Supervised)

include supervised

/-- Processes may exit. -/
theorem World.Supervised.exit (pid : Nat) : (world.exited pid).Supervised where
  named := by
    intro other id live
    have found : (world.processes.erase pid).lookup other = some id := live
    rw [Table.lookup_erase_eq] at found
    split at found
    · cases found
    · exact supervised.named other id found
  numbered := fun other member =>
    supervised.numbered other (AList.mem_erase.mp member).2
  positive := supervised.positive

/-- A receipt may be replaced by one that names the same process. -/
theorem World.Supervised.put (written : ProcessReceipt)
    (stored : world.storedReceipt written.agentId = some durable)
    (same : written.pid = durable.pid) : (world.noted written).Supervised where
  named := by
    intro pid id live
    obtain ⟨receipt, found, names⟩ := supervised.named pid id live
    rw [noted_storedReceipt]
    split
    · next owner =>
      subst owner
      rw [stored] at found
      cases found
      exact ⟨written, rfl, same.trans names⟩
    · exact ⟨receipt, found, names⟩
  numbered := supervised.numbered
  positive := supervised.positive

/-- The receipt of an agent without a process may be removed or replaced. -/
theorem World.Supervised.remove (gone : ¬world.Live id) : (world.unnoted id).Supervised where
  named := by
    intro pid other live
    obtain ⟨receipt, found, names⟩ := supervised.named pid other live
    rw [unnoted_storedReceipt, if_neg]
    · exact ⟨receipt, found, names⟩
    · rintro rfl
      exact gone ⟨pid, live⟩
  numbered := supervised.numbered
  positive := supervised.positive

/-- A process that was stopped leaves its agent without one. -/
theorem World.Supervised.stopped (stored : world.storedReceipt id = some durable)
    (written : ProcessReceipt) (owner : written.agentId = id) (same : written.pid = durable.pid) :
    ((world.exited durable.pid).noted written).Supervised ∧
      ¬((world.exited durable.pid).noted written).Live id := by
  have before : (world.exited durable.pid).storedReceipt written.agentId = some durable := by
    rw [owner]
    exact stored
  have after := (supervised.exit durable.pid).put written before same
  refine ⟨after, after.named.gone fun receipt found alive => ?_⟩
  rw [noted_storedReceipt, if_pos owner.symm] at found
  cases found
  have erased : (world.processes.erase durable.pid).lookup written.pid = some id := alive
  rw [same, AList.lookup_erase] at erased
  cases erased

omit supervised

/-- The world after a process was started and its receipt written. -/
def World.launched (world : World) (desired : LaunchSpec) : World :=
  (world.spawned desired.agentId).noted (world.startedReceipt desired)

theorem World.launched_storedReceipt (desired : LaunchSpec) (id : AgentId) :
    (world.launched desired).storedReceipt id =
      if id = desired.agentId then some (world.startedReceipt desired)
      else world.storedReceipt id :=
  noted_storedReceipt (world.startedReceipt desired) id

/-- Starting a process for an agent that has none. -/
theorem World.Supervised.launched (supervised : world.Supervised)
    (gone : ¬world.Live desired.agentId) : (world.launched desired).Supervised where
  named := by
    intro pid id live
    rw [World.launched_storedReceipt]
    have found : (world.processes.insert world.nextPid desired.agentId).lookup pid = some id := live
    rw [Table.lookup_insert_eq] at found
    split at found
    · next fresh =>
      cases found
      exact ⟨world.startedReceipt desired, if_pos rfl, fresh.symm⟩
    · rw [if_neg]
      · exact supervised.named pid id found
      · rintro rfl
        exact gone ⟨pid, found⟩
  numbered := by
    intro pid member
    rcases (AList.mem_insert _).mp member with rfl | earlier
    · exact Nat.lt_succ_self _
    · exact Nat.lt_succ_of_lt (supervised.numbered pid earlier)
  positive := Nat.succ_pos _

theorem World.Supervised.runs (supervised : world.Supervised)
    (gone : ¬world.Live desired.agentId) : (world.launched desired).Runs desired := by
  refine ⟨world.startedReceipt desired, ?_, ?_, fun pid => ?_⟩
  · rw [World.launched_storedReceipt, if_pos rfl]
  · simp [LaunchSpec.canAdopt, World.startedReceipt, ObservedProcessState.isTerminal,
      supervised.positive]
  · show (world.processes.insert world.nextPid desired.agentId).lookup pid = _ ↔ _
    rw [Table.lookup_insert_eq]
    constructor
    · intro live
      split at live
      · next fresh => exact fresh
      · exact absurd ⟨pid, live⟩ gone
    · rintro rfl
      exact if_pos rfl

end

/-! ### One call -/

section

variable (world : World) (receipt : ProcessReceipt)

theorem alone_inspect_error (broken : world.faults.inspect = true) :
    alone (perform .worker) (attempt ReconcileError.supervisor (.inspect receipt)) world =
      (.error (.supervisor .io), world) := by
  simp [perform, broken, failIf, Except.mapError]

theorem alone_inspect_ok (working : world.faults.inspect = false) :
    alone (perform .worker) (attempt ReconcileError.supervisor (.inspect receipt)) world =
      (.ok (world.observe receipt), world) := by
  simp [perform, working, failIf, Except.mapError]

theorem alone_stop_error (broken : world.faults.stop = true) :
    alone (perform .worker) (attempt ReconcileError.supervisor (.stop receipt)) world =
      (.error (.supervisor .io), world) := by
  simp [perform, broken, failIf, Except.mapError]

theorem alone_stop_ok (working : world.faults.stop = false)
    (live : world.processes.lookup receipt.pid = some receipt.agentId) :
    alone (perform .worker) (attempt ReconcileError.supervisor (.stop receipt)) world =
      (.ok { receipt with observedState := .exited }, world.exited receipt.pid) := by
  simp [perform, working, live, failIf, Except.mapError, World.exited]

/-- What the supervisor reports about the process a receipt names. -/
theorem World.observe_terminal : (world.observe receipt).observedState.isTerminal = true ↔
      world.processes.lookup receipt.pid ≠ some receipt.agentId := by
  unfold observe
  by_cases live : world.processes.lookup receipt.pid = some receipt.agentId <;>
    simp [live, ObservedProcessState.isTerminal]

variable (spares : world.faults.SparesReceipts)

include spares

theorem alone_putReceipt (receipt : ProcessReceipt) : alone (perform .worker)
      (Reconciler.putReceipt receipt) world = (.ok (), world.noted receipt) := by
  simp [Reconciler.putReceipt, perform, spares.2.1, failIf, Except.mapError, World.noted]

theorem alone_deleteReceipt (id : AgentId) : alone (perform .worker)
        (attempt ReconcileError.storage (.deleteReceipt id)) world =
      (.ok (), world.unnoted id) := by
  simp [perform, spares.2.2, failIf, Except.mapError, World.unnoted]

/-- A start of a process succeeds, or fails and leaves none. -/
theorem alone_startProcess (desired : LaunchSpec) :
    alone (perform .worker) (Reconciler.startProcess desired) world = match world.faults.start with
      | none => (.ok .started, world.launched desired)
      | some .preflight => (.ok .failedPreflight, world.unspawned)
      | some .secretResolution | some .invalidSpec => (.ok .noPresence, world.unspawned)
      | some .io => (.error (.supervisor .io), world.unspawned) := by
  unfold Reconciler.startProcess
  rw [alone_bind_ok (alone_always ..)]
  cases starting : world.faults.start with
  | none =>
    simp only [perform, starting]
    exact alone_bind_ok
      (alone_putReceipt (world.spawned desired.agentId) spares (world.startedReceipt desired))
  | some error => cases error <;> simp [perform, starting, unspawned]

end

/-- What a call for an enabled agent leaves. -/
structure World.Brought (world : World) (desired : LaunchSpec)
    (outcome : Except ReconcileError ReconcileOutcome) (after : World) : Prop where
  supervised : after.Supervised
  faults : after.faults = world.faults
  running : outcome = .ok .started ∨ outcome = .ok .adopted → after.Runs desired
  failing : outcome = .ok .failedPreflight ∨ outcome = .ok .noPresence →
    ¬after.Live desired.agentId ∧ after.faults.start ≠ none
  otherwise : outcome ≠ .ok .stopped ∧ outcome ≠ .ok .unchanged ∧ outcome ≠ .ok .deferred

theorem World.Brought.congr {world other after : World}
    {outcome : Except ReconcileError ReconcileOutcome}
    (brought : other.Brought desired outcome after) (same : other.faults = world.faults) :
    world.Brought desired outcome after :=
  ⟨brought.supervised, brought.faults.trans same, brought.running, brought.failing,
    brought.otherwise⟩

variable {program : Reconciliation ReconcileOutcome} {receipt : Option ProcessReceipt}
  (supervised : world.Supervised) (spares : world.faults.SparesReceipts)

section

include supervised spares

theorem startProcess_brought (gone : ¬world.Live desired.agentId) : world.Brought desired
      (alone (perform .worker) (Reconciler.startProcess desired) world).1
      (alone (perform .worker) (Reconciler.startProcess desired) world).2 := by
  have tried : world.unspawned.Supervised :=
    ⟨supervised.named, fun pid member => Nat.lt_succ_of_lt (supervised.numbered pid member),
      Nat.succ_pos _⟩
  rw [alone_startProcess world spares]
  cases starting : world.faults.start with
  | none =>
    exact ⟨supervised.launched gone, rfl, fun _ => supervised.runs gone, by simp, by simp⟩
  | some error =>
    have failing : world.faults.start ≠ none := by simp [starting]
    cases error <;> exact ⟨tried, rfl, by simp, fun _ => ⟨gone, failing⟩, by simp⟩

/-- The rest of a call for an enabled agent after its process was observed. -/
theorem observed_brought (observed : ProcessReceipt)
    (stored : world.storedReceipt desired.agentId = some observed)
    (truthful : observed.observedState.isTerminal = true ↔
      world.processes.lookup observed.pid ≠ some desired.agentId)
    (continues : program = if desired.canAdopt observed then pure .adopted
      else if observed.observedState.isTerminal then Reconciler.startProcess desired
      else do
        let stopped ← attempt .supervisor (.stop observed)
        Reconciler.putReceipt stopped
        Reconciler.startProcess desired) :
    world.Brought desired (alone (perform .worker) program world).1
      (alone (perform .worker) program world).2 := by
  have owner : observed.agentId = desired.agentId := World.storedReceipt_agentId stored
  subst continues
  by_cases adopts : desired.canAdopt observed = true
  · rw [if_pos adopts]
    refine ⟨supervised, rfl, fun _ => ⟨observed, stored, adopts, fun pid => ?_⟩, by simp, by simp⟩
    have live : world.processes.lookup observed.pid = some desired.agentId := by
      by_contra dead
      have terminal := truthful.mpr dead
      simp [LaunchSpec.canAdopt, terminal] at adopts
    constructor
    · intro alive
      obtain ⟨receipt, found, rfl⟩ := supervised.named pid _ alive
      cases stored.symm.trans found
      rfl
    · rintro rfl
      exact live
  · rw [if_neg adopts]
    by_cases terminal : observed.observedState.isTerminal = true
    · rw [if_pos terminal]
      refine startProcess_brought supervised spares (supervised.named.gone fun receipt found => ?_)
      cases stored.symm.trans found
      exact truthful.mp terminal
    · rw [if_neg terminal]
      have live : world.processes.lookup observed.pid = some observed.agentId := by
        by_contra dead
        exact terminal (truthful.mpr (owner ▸ dead))
      cases broken : world.faults.stop with
      | true =>
        rw [alone_bind_error (alone_stop_error world observed broken)]
        exact ⟨supervised, rfl, by simp, by simp, by simp⟩
      | false =>
        rw [alone_bind_ok (alone_stop_ok world observed broken live),
          alone_bind_ok (alone_putReceipt (world.exited observed.pid) spares
            { observed with observedState := .exited })]
        obtain ⟨stopped, gone⟩ :=
          supervised.stopped stored { observed with observedState := .exited } owner rfl
        exact (startProcess_brought stopped spares gone).congr rfl

/-- A call for an enabled agent, from the receipt it read. -/
theorem ensureStarted_brought (stored : world.storedReceipt desired.agentId = receipt) :
    world.Brought desired
      (alone (perform .worker) (Reconciler.ensureStarted desired receipt) world).1
      (alone (perform .worker) (Reconciler.ensureStarted desired receipt) world).2 := by
  cases receipt with
  | none =>
    refine startProcess_brought supervised spares (supervised.named.gone fun receipt found => ?_)
    cases stored.symm.trans found
  | some durable =>
    have owner : durable.agentId = desired.agentId := World.storedReceipt_agentId stored
    unfold Reconciler.ensureStarted
    cases broken : world.faults.inspect with
    | true =>
      rw [alone_bind_error (alone_inspect_error world durable broken)]
      exact ⟨supervised, rfl, by simp, by simp, by simp⟩
    | false =>
      rw [alone_bind_ok (alone_inspect_ok world durable broken),
        alone_bind_ok (alone_putReceipt world spares (world.observe durable))]
      have before : world.storedReceipt (world.observe durable).agentId = some durable := by
        rw [← stored, ← owner]
        rfl
      refine (observed_brought (supervised.put (world.observe durable) before rfl) spares
        (world.observe durable) ?_ ?_ rfl).congr rfl
      · rw [noted_storedReceipt]
        exact if_pos owner.symm
      · rw [observe_terminal, owner]
        rfl

end

/-- What a call for a disabled or deleted agent leaves. -/
structure World.Cleared (world : World) (id : AgentId)
    (outcome : Except ReconcileError ReconcileOutcome) (after : World) : Prop where
  supervised : after.Supervised
  faults : after.faults = world.faults
  vacant : (∃ result, outcome = .ok result) → after.Vacant id
  outcomes : ∀ result, outcome = .ok result → result = .stopped ∨ result = .unchanged

section

include supervised spares

omit spares in
theorem World.Supervised.cleared (gone : ¬world.Live id) (outcome : ReconcileOutcome)
    (quiet : outcome = .stopped ∨ outcome = .unchanged) :
    world.Cleared id (.ok outcome) (world.unnoted id) := by
  refine ⟨supervised.remove gone, rfl, fun _ => ⟨gone, ?_⟩, ?_⟩
  · rw [unnoted_storedReceipt, if_pos rfl]
  · rintro _ ⟨⟩
    exact quiet

/-- The rest of a call for an agent that shall not run after its process was found alive. -/
theorem stop_cleared (stored : world.storedReceipt id = some durable)
    (running : ¬(world.observe durable).observedState.isTerminal = true) (continues : program = do
      let stopped ← attempt .supervisor (.stop (world.observe durable))
      Reconciler.putReceipt stopped
      attempt .storage (.deleteReceipt id)
      return .stopped) :
    world.Cleared id (alone (perform .worker) program world).1
      (alone (perform .worker) program world).2 := by
  have owner : durable.agentId = id := World.storedReceipt_agentId stored
  have live : world.processes.lookup durable.pid = some durable.agentId := by
    by_contra dead
    exact running ((world.observe_terminal durable).mpr dead)
  subst continues
  cases broken : world.faults.stop with
  | true =>
    rw [alone_bind_error (alone_stop_error world _ broken)]
    exact ⟨supervised, rfl, by simp, by simp⟩
  | false =>
    let stopped : ProcessReceipt := { durable with observedState := .exited }
    obtain ⟨named, gone⟩ := supervised.stopped stored stopped owner rfl
    have stopping : alone (perform .worker)
        (attempt ReconcileError.supervisor (.stop (world.observe durable))) world =
          (.ok stopped, world.exited durable.pid) :=
      alone_stop_ok world (world.observe durable) broken live
    rw [alone_bind_ok stopping,
      alone_bind_ok (alone_putReceipt (world.exited durable.pid) spares stopped),
      alone_bind_ok (alone_deleteReceipt ((world.exited durable.pid).noted stopped) spares id)]
    have cleared := named.cleared gone .stopped (Or.inl rfl)
    exact ⟨cleared.supervised, rfl, cleared.vacant, cleared.outcomes⟩

/-- A call for an agent that shall not run, from the receipt it read. -/
theorem ensureStopped_cleared (stored : world.storedReceipt id = receipt) :
    world.Cleared id (alone (perform .worker) (Reconciler.ensureStopped id receipt) world).1
      (alone (perform .worker) (Reconciler.ensureStopped id receipt) world).2 := by
  cases receipt with
  | none =>
    refine ⟨supervised, rfl, fun _ => ⟨supervised.named.gone fun receipt found => ?_, stored⟩, ?_⟩
    · cases stored.symm.trans found
    · rintro _ ⟨⟩
      exact Or.inr rfl
  | some durable =>
    have owner : durable.agentId = id := World.storedReceipt_agentId stored
    unfold Reconciler.ensureStopped
    cases broken : world.faults.inspect with
    | true =>
      rw [alone_bind_error (alone_inspect_error world durable broken)]
      exact ⟨supervised, rfl, by simp, by simp⟩
    | false =>
      rw [alone_bind_ok (alone_inspect_ok world durable broken)]
      by_cases terminal : (world.observe durable).observedState.isTerminal = true
      · rw [if_pos terminal, alone_bind_ok (alone_deleteReceipt world spares id)]
        refine supervised.cleared (supervised.named.gone fun receipt found => ?_)
          .unchanged (Or.inr rfl)
        cases stored.symm.trans found
        exact owner ▸ (world.observe_terminal durable).mp terminal
      · rw [if_neg terminal]
        exact stop_cleared supervised spares stored terminal rfl

end

/-! ### Histories of calls -/

/-- One call of `reconcile_desired`, with what it answers and the world it leaves. -/
def World.callReconciler (agent : AgentSpec) (launch : Option LaunchSpec) :
    Except ReconcileError ReconcileOutcome × World :=
  alone (perform .worker) (Reconciler.reconcileDesired agent launch) world

/-- What happens between two moments of a history: a call runs, a process exits, or something
that neither receipts nor processes depend on changes, such as whether the supervisor works. -/
inductive World.CallStep : World → World → Prop
  | call (world : World) (agent : AgentSpec) (launch : Option LaunchSpec) :
      CallStep world (world.callReconciler agent launch).2
  | exit (world : World) (pid : Nat) : CallStep world (world.exited pid)
  | elsewhere (world after : World) (receipts : after.receipts = world.receipts)
      (processes : after.processes = world.processes) (nextPid : after.nextPid = world.nextPid)
      (spares : after.faults.SparesReceipts) : CallStep world after

section

/-- A call whose agent is valid, up to the receipt it reads. -/
theorem World.callReconciler_eq (spares : world.faults.SparesReceipts) (agent : AgentSpec)
    (launch : Option LaunchSpec) :
    world.callReconciler agent launch = match agent.validate with
      | .error error => (.error (.storage (.invalidData error.toText)), world)
      | .ok () =>
        alone (perform .worker) (match agent.desiredState with
          | .disabled => Reconciler.ensureStopped agent.id (world.storedReceipt agent.id)
          | .deleted => Reconciler.ensureStopped agent.id (world.storedReceipt agent.id)
          | .enabled =>
              match launch with
              | none => throw .missingLaunch
              | some desired =>
                  if desired.agentId ≠ agent.id then throw .launchAgentMismatch
                  else Reconciler.ensureStarted desired (world.storedReceipt agent.id)) world := by
  unfold World.callReconciler Reconciler.reconcileDesired
  cases agent.validate with
  | error error => rfl
  | ok => exact alone_bind_ok (by simp [perform, spares.1, failIf, Except.mapError])

include supervised spares

/-- A call either fails and leaves the receipts' account of the processes right, or brings the
agent where its desired state and the launch say. -/
theorem World.callReconciler_cases (agent : AgentSpec) (launch : Option LaunchSpec) :
    (∃ error, world.callReconciler agent launch = (.error error, world)) ∨
    (agent.desiredState ≠ .enabled ∧ world.Cleared agent.id (world.callReconciler agent launch).1
        (world.callReconciler agent launch).2) ∨
    ∃ desired, agent.desiredState = .enabled ∧ launch = some desired ∧ desired.agentId = agent.id ∧
      world.Brought desired (world.callReconciler agent launch).1
        (world.callReconciler agent launch).2 := by
  rw [World.callReconciler_eq spares]
  cases agent.validate with
  | error error => exact Or.inl ⟨_, rfl⟩
  | ok =>
    cases state : agent.desiredState with
    | disabled | deleted =>
      exact Or.inr (Or.inl ⟨by simp, ensureStopped_cleared supervised spares rfl⟩)
    | enabled =>
      cases launch with
      | none => exact Or.inl ⟨_, rfl⟩
      | some desired =>
        by_cases owner : desired.agentId = agent.id
        · refine Or.inr (Or.inr ⟨desired, rfl, rfl, owner, ?_⟩)
          simp only [owner, ne_eq]
          exact ensureStarted_brought supervised spares (owner ▸ rfl)
        · exact Or.inl ⟨.launchAgentMismatch, by simp [owner]⟩

/-- One step of a history keeps the receipts' account of the processes. -/
theorem World.CallStep.keeps {after : World} (step : world.CallStep after) :
    after.Supervised ∧ after.faults.SparesReceipts := by
  cases step with
  | call agent launch =>
    rcases callReconciler_cases supervised spares agent launch with
      ⟨error, failed⟩ | ⟨-, cleared⟩ | ⟨desired, -, -, -, brought⟩
    · rw [failed]
      exact ⟨supervised, spares⟩
    · refine ⟨cleared.supervised, ?_⟩
      rw [cleared.faults]
      exact spares
    · refine ⟨brought.supervised, ?_⟩
      rw [brought.faults]
      exact spares
  | exit pid => exact ⟨supervised.exit pid, spares⟩
  | elsewhere _ receipts processes nextPid kept =>
    refine ⟨⟨fun pid id live => ?_, fun pid member => ?_, ?_⟩, kept⟩
    · rw [processes] at live
      obtain ⟨receipt, stored, names⟩ := supervised.named pid id live
      refine ⟨receipt, ?_, names⟩
      unfold storedReceipt at stored ⊢
      rw [receipts, stored]
    · rw [nextPid]
      exact supervised.numbered pid (processes ▸ member)
    · rw [nextPid]
      exact supervised.positive

end

/-- A history that starts without processes keeps the receipts' account of the processes. -/
theorem World.supervised_of_calls {start world : World} (idle : start.processes = ∅)
    (positive : 0 < start.nextPid) (spares : start.faults.SparesReceipts)
    (calls : Relation.ReflTransGen World.CallStep start world) :
    world.Supervised ∧ world.faults.SparesReceipts := by
  induction calls with
  | refl =>
    refine ⟨⟨fun pid id live => ?_, fun pid member => ?_, positive⟩, spares⟩
    · rw [idle] at live
      cases live
    · rw [idle] at member
      exact absurd member (AList.notMem_empty pid)
  | tail _ step inductionHypothesis =>
    exact step.keeps inductionHypothesis.1 inductionHypothesis.2

/-! ### The same call again -/

/-- A call that stopped no process and started none. -/
def World.Keeps (agent : AgentSpec) (launch : Option LaunchSpec) : Prop :=
  (world.callReconciler agent launch).2.processes = world.processes

section

variable {agent : AgentSpec}

include spares

theorem World.Vacant.keeps (vacant : world.Vacant agent.id) (state : agent.desiredState ≠ .enabled)
    (launch : Option LaunchSpec) : world.Keeps agent launch := by
  unfold World.Keeps
  rw [World.callReconciler_eq spares, vacant.2]
  cases agent.validate with
  | error error => rfl
  | ok =>
    cases desired : agent.desiredState with
    | disabled => rfl
    | deleted => rfl
    | enabled => exact absurd desired state

/-- A call for an enabled agent changes no process if the rest of it does not, once the process
that the stored receipt names was observed. -/
theorem World.keeps_of_observed (owner : desired.agentId = agent.id)
    (state : agent.desiredState = .enabled) (keeps : (alone (perform .worker)
      (Reconciler.ensureStarted desired (world.storedReceipt agent.id)) world).2.processes =
        world.processes) : world.Keeps agent (some desired) := by
  unfold World.Keeps
  rw [World.callReconciler_eq spares, state]
  cases agent.validate with
  | error error => rfl
  | ok =>
    simp only [owner, ne_eq]
    exact keeps

theorem World.Runs.keeps (runs : world.Runs desired) (owner : desired.agentId = agent.id)
    (state : agent.desiredState = .enabled) : world.Keeps agent (some desired) := by
  obtain ⟨receipt, stored, adopts, alive⟩ := runs
  refine World.keeps_of_observed spares owner state ?_
  rw [← owner, stored]
  unfold Reconciler.ensureStarted
  cases broken : world.faults.inspect with
  | true =>
    rw [alone_bind_error (alone_inspect_error world receipt broken)]
  | false =>
    have observed : desired.canAdopt (world.observe receipt) = true := by
      have live := (alive receipt.pid).mpr rfl
      unfold LaunchSpec.canAdopt observe at *
      simp_all [ObservedProcessState.isTerminal]
    rw [alone_bind_ok (alone_inspect_ok world receipt broken),
      alone_bind_ok (alone_putReceipt world spares (world.observe receipt)),
      if_pos observed]
    rfl

/-- A start that failed fails again. -/
theorem startProcess_keeps (desired : LaunchSpec) (failing : world.faults.start ≠ none) :
    (alone (perform .worker) (Reconciler.startProcess desired) world).2.processes =
      world.processes := by
  rw [alone_startProcess world spares]
  cases starting : world.faults.start with
  | none => exact absurd starting failing
  | some error => cases error <;> rfl

theorem World.keeps_of_failing (gone : ¬world.Live desired.agentId)
    (failing : world.faults.start ≠ none) (owner : desired.agentId = agent.id)
    (state : agent.desiredState = .enabled) : world.Keeps agent (some desired) := by
  refine World.keeps_of_observed spares owner state ?_
  rw [← owner]
  cases stored : world.storedReceipt desired.agentId with
  | none => exact startProcess_keeps spares desired failing
  | some receipt =>
    unfold Reconciler.ensureStarted
    cases broken : world.faults.inspect with
    | true =>
      rw [alone_bind_error (alone_inspect_error world receipt broken)]
    | false =>
      have terminal : (world.observe receipt).observedState.isTerminal = true := by
        rw [observe_terminal, World.storedReceipt_agentId stored]
        exact fun live => gone ⟨receipt.pid, live⟩
      have refused : desired.canAdopt (world.observe receipt) = false := by
        simp [LaunchSpec.canAdopt, terminal]
      rw [alone_bind_ok (alone_inspect_ok world receipt broken),
        alone_bind_ok (alone_putReceipt world spares (world.observe receipt)),
        if_neg (by simp [refused]), if_pos terminal]
      have starting : (world.noted (world.observe receipt)).faults.SparesReceipts := spares
      exact startProcess_keeps starting desired failing

end

/-- Where calls of `reconcile_desired` lead, in every history of calls, exits and failures of
the supervisor: a start or an adoption leaves exactly one process, with a receipt that the
launch can adopt; a success for an agent that shall not run leaves no process and no receipt;
a start that failed leaves no process; and a call that succeeded, made again, starts and stops
nothing. -/
theorem reconcileDesired_converges (start : World) {world : World} (idle : start.processes = ∅)
    (positive : 0 < start.nextPid) (spares : start.faults.SparesReceipts)
    (calls : Relation.ReflTransGen World.CallStep start world) (agent : AgentSpec)
    (launch : Option LaunchSpec) (outcome : ReconcileOutcome) (after : World)
    (returns : world.callReconciler agent launch = (.ok outcome, after)) :
    (outcome = .started ∨ outcome = .adopted →
      ∃ desired, launch = some desired ∧ desired.agentId = agent.id ∧ after.Runs desired) ∧
    (agent.desiredState ≠ .enabled → after.Vacant agent.id) ∧
    (outcome = .failedPreflight ∨ outcome = .noPresence → ¬after.Live agent.id) ∧
    after.Keeps agent launch := by
  obtain ⟨supervised, spared⟩ := World.supervised_of_calls idle positive spares calls
  rcases World.callReconciler_cases supervised spared agent launch with
    ⟨error, failed⟩ | ⟨state, cleared⟩ | ⟨desired, state, rfl, owner, brought⟩
  · cases returns.symm.trans failed
  · rw [returns] at cleared
    have vacant := cleared.vacant ⟨outcome, rfl⟩
    have kept : after.faults.SparesReceipts := cleared.faults ▸ spared
    refine ⟨?_, fun _ => vacant, fun _ => vacant.1, vacant.keeps kept state launch⟩
    rcases cleared.outcomes outcome rfl with rfl | rfl <;> simp
  · rw [returns] at brought
    have kept : after.faults.SparesReceipts := brought.faults ▸ spared
    refine ⟨fun running => ⟨desired, rfl, owner, brought.running ?_⟩,
      fun other => absurd state other,
      fun failing => ?_, ?_⟩
    · rcases running with rfl | rfl <;> simp
    · rw [← owner]
      exact (brought.failing (by rcases failing with rfl | rfl <;> simp)).1
    · cases outcome with
      | started => exact (brought.running (Or.inl rfl)).keeps kept owner state
      | adopted => exact (brought.running (Or.inr rfl)).keeps kept owner state
      | failedPreflight =>
        obtain ⟨gone, failing⟩ := brought.failing (Or.inl rfl)
        exact World.keeps_of_failing kept gone failing owner state
      | noPresence =>
        obtain ⟨gone, failing⟩ := brought.failing (Or.inr rfl)
        exact World.keeps_of_failing kept gone failing owner state
      | stopped => exact absurd rfl brought.otherwise.1
      | unchanged => exact absurd rfl brought.otherwise.2.1
      | deferred => exact absurd rfl brought.otherwise.2.2

namespace Deployment

def supervisedAgent : AgentSpec := ⟨⟨1⟩, ⟨0⟩, "helper", "help", ⟨⟨"goose"⟩, ∅⟩, .enabled⟩

def supervisedLaunch : LaunchSpec :=
  ⟨⟨1⟩, ⟨supervisedAgent, none, none, none, none, ⟨none⟩, [], 1, .ownerOnly, [], none, none⟩⟩

/-- The agent was started once and its process exited. -/
def crashed : World :=
  (host.callReconciler supervisedAgent (some supervisedLaunch)).2.exited 1

theorem crashed_calls : Relation.ReflTransGen World.CallStep host crashed :=
  .tail (.single (World.CallStep.call host supervisedAgent (some supervisedLaunch)))
    (World.CallStep.exit _ 1)

end Deployment

open Deployment

/-- An agent whose process exited is started again, and the next call leaves the new process
alone. -/
theorem reconcileDesired_converges_restarted :
    (crashed.callReconciler supervisedAgent (some supervisedLaunch)).1 = .ok .started ∧
      (crashed.callReconciler supervisedAgent (some supervisedLaunch)).2.Runs supervisedLaunch ∧
      (crashed.callReconciler supervisedAgent (some supervisedLaunch)).2.Keeps supervisedAgent
        (some supervisedLaunch) := by
  have started : (crashed.callReconciler supervisedAgent (some supervisedLaunch)).1 =
    .ok .started := by decide +kernel
  obtain ⟨runs, -, -, keeps⟩ := reconcileDesired_converges host rfl (by decide)
    ⟨rfl, rfl, rfl⟩ crashed_calls supervisedAgent (some supervisedLaunch) .started _
    (Prod.ext started rfl)
  obtain ⟨desired, same, -, running⟩ := runs (Or.inl rfl)
  cases same
  exact ⟨started, running, keeps⟩

end BuzzServer
