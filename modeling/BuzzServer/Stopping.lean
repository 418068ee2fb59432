/-
This file asks when the worker stops a process that shall not run any more.

The process of a disabled or deleted agent is stopped by the reconciler, which
needs nothing but its receipt. Before the worker lets the reconciler act it
prepares a launch, though it will launch nothing: it resolves the agent's file,
its persona and prompt, provisions its identity, loads the owner's key, records
the projections and resolves the runtime. Each of these can fail, and then the
process goes on. The condition under which it is stopped is that none does.
-/

import BuzzServer.Convergence
import BuzzServer.Daemon.Calls
import BuzzServer.Daemon.Worker

namespace BuzzServer

open Relational Concurrent Concurrent.Fallible BuzzServer.SqliteStore

/-! ### Programs that leave processes alone -/

/-- The actions that start or stop a process. -/
def Action.supervises {Response : Type} : Action Response → Bool
  | .start _ => true
  | .stop _ => true
  | _ => false

/-- No action of the program starts or stops a process. -/
abbrev HandsOff {Error Result : Type} (program : Fallible Action Error Result) : Prop :=
  Program.Uses (fun ⦃_⦄ action => action.supervises = false) program.run

variable {world : World}

section

variable {Error Result Other First Second : Type} {thread : Thread}

theorem run_processes {program : Program Action Result}
    (aside : Program.Uses (fun ⦃_⦄ action => action.supervises = false) program) (world : World) :
    (Program.run (perform thread) program world).2.processes = world.processes := by
  refine aside.run_keeps (fun after : World => after.processes = world.processes) ?_ rfl
  intro Response action after off same
  cases action with
  | start launch => cases off
  | stop receipt => cases off
  | _ => simpa only [perform] using same

theorem alone_faults (thread : Thread) (program : Fallible Action Error Result) (world : World) :
    (alone (perform thread) program world).2.faults = world.faults := by
  unfold alone
  induction program.run generalizing world with
  | done result => rfl
  | step action next inductionHypothesis =>
    rw [Program.run_step, inductionHypothesis]
    cases action <;> simp only [perform]

theorem handsOff_within {kinds : List ActionKind} {program : Fallible Action Error Result}
    (within : Within kinds program.run)
    (disjoint : ∀ kind ∈ [ActionKind.start, .stop], kind ∉ kinds) : HandsOff program := by
  refine uses_of_disjoint (fun Response action spared => ?_) within disjoint
  cases action <;> first | rfl | cases spared

variable {program : Fallible Action Error First}
  {continuation : First → Fallible Action Error Second}

/-- What follows a program leaves its processes if it starts and stops none. -/
theorem alone_bind_processes (aside : ∀ value, HandsOff (continuation value)) (world : World) :
    (alone (perform thread) (program >>= continuation) world).2.processes =
      (alone (perform thread) program world).2.processes := by
  rcases first : alone (perform thread) program world with ⟨outcome, after⟩
  cases outcome with
  | ok value =>
    rw [alone_bind_ok first]
    exact run_processes (aside value) after
  | error error => rw [alone_bind_error first]

/-- A program that fails keeps what follows it from running. -/
theorem alone_bind_failed (aside : HandsOff program)
    {world : World} (fails : ¬Fallible.Returns (perform thread) program world) :
    (alone (perform thread) (program >>= continuation) world).2.processes = world.processes := by
  have kept : (alone (perform thread) program world).2.processes = world.processes :=
    run_processes aside world
  rcases first : alone (perform thread) program world with ⟨outcome, after⟩
  rw [first] at kept
  cases outcome with
  | ok value => exact absurd ⟨value, by rw [first]⟩ fails
  | error error =>
    rw [alone_bind_error first]
    exact kept

end

/-! ### What the preparation of a launch needs -/

/-- A projection can be recorded, or left to the outbox if the relay does not answer. -/
def Faults.Publishes (faults : Faults) : Prop :=
  if faults.relay then faults.writes .insertPublication = false
  else faults.writes .upsertProjection = false

/-- Every step of the preparation of a launch succeeds. -/
structure LaunchReady (faults : Faults) (files : Files)
    (communities : Table CommunityConfigId CommunityConfig) (resolved : ResolvedAgentConfig) :
    Prop where
  community : ∃ community, communities.lookup resolved.spec.communityConfigId = some community ∧
    community.identityPubkey.isSome = true
  agentUser : faults.agentUser = false
  directories : faults.directories = false
  custody : faults.custody = false
  ownerKeys : faults.ownerKeys = false
  publishes : faults.Publishes
  persona : ∀ id, resolved.personaId = some id → ∃ persona, files.loadPersona id = .ok persona
  launch : faults.launch = false

variable {after : World}

section

variable {Result : Type}

theorem returns_syncProjection_iff (available : world.faults.storeUnavailable = false)
    (kind : RelayProjectionKind) (fallback : RelayPublicationAction) (subjectId : String)
    (scope : RelayProjectionScope) :
    Fallible.Returns (perform .worker) (syncProjection kind fallback subjectId scope) world ↔
      world.faults.Publishes := by
  unfold syncProjection Faults.Publishes Task.store
  rw [returns_always_bind]
  cases answered : world.faults.relay with
  | false =>
    simp only [perform, answered, failIf, Bool.false_eq_true, if_false]
    rw [returns_attempt]
    simp [perform, World.method, available, recordRelayProjection, autocommit,
      Transaction.atomically_succeeds_iff]
  | true =>
    simp only [perform, answered, failIf, if_true]
    rw [returns_always_bind, returns_attempt]
    simp [perform, World.method, available, enqueueRelayPublication, autocommit,
      Transaction.atomically_succeeds_iff]

theorem alone_syncProjection_files (kind : RelayProjectionKind)
    (fallback : RelayPublicationAction) (subjectId : String) (scope : RelayProjectionScope)
    (world : World) :
    (alone (perform .worker) (syncProjection kind fallback subjectId scope)
      world).2.files = world.files := by
  unfold syncProjection
  rw [alone_bind_ok (alone_always ..)]
  cases answered : world.faults.relay with
  | false => simp [perform, answered, failIf, Task.store]
  | true =>
    simp only [perform, answered, failIf, if_true]
    rw [alone_bind_ok (alone_always ..)]
    simp [perform, Task.store]

variable (available : world.faults.storeUnavailable = false)
  (readable : world.faults.fileRead = false)

include available readable

theorem returns_syncPersona_iff (publishes : world.faults.Publishes) (personaId : Option String)
    (scope : RelayProjectionScope) :
    Fallible.Returns (perform .worker) (syncPersona personaId scope) world ↔
      ∀ id, personaId = some id → ∃ persona, world.files.loadPersona id = .ok persona := by
  unfold syncPersona
  cases personaId with
  | none => simp [returns_pure]
  | some id =>
    unfold Task.file
    simp only [returns_attempt_bind, perform, World.readable_eq_files readable,
      returns_syncProjection_iff available, publishes, and_true, Option.some.injEq, forall_eq']

/-- The projections of an agent and the launch. -/
theorem returns_projections_iff (agentId : AgentId) (resolved : ResolvedAgentConfig)
    (scope : RelayProjectionScope) :
    Fallible.Returns (perform .worker) (do
        syncProjection .managedAgent .syncManagedAgent agentId.toText scope
        syncPersona resolved.personaId scope
        let launch ← attempt (fun error => error) (.resolveLaunch resolved)
        return (⟨scope, launch⟩ : Preparation)) world ↔
      world.faults.Publishes ∧
        (∀ id, resolved.personaId = some id → ∃ persona, world.files.loadPersona id = .ok persona) ∧
          world.faults.launch = false := by
  rw [returns_bind]
  have published := alone_syncProjection_files .managedAgent .syncManagedAgent agentId.toText scope
    world
  have faults := alone_faults .worker
    (syncProjection .managedAgent .syncManagedAgent agentId.toText scope) world
  generalize after : (alone (perform .worker)
    (syncProjection .managedAgent .syncManagedAgent agentId.toText scope) world).2 = middle
      at published faults ⊢
  constructor
  · rintro ⟨_, first, rest⟩
    have publishes := (returns_syncProjection_iff available ..).mp ⟨_, first⟩
    obtain ⟨_, second, last⟩ := returns_bind.mp rest
    have persona := (returns_syncPersona_iff (faults ▸ available) (faults ▸ readable)
      (faults ▸ publishes) _ _).mp ⟨_, second⟩
    obtain ⟨launch, resolves, -⟩ := returns_attempt_bind.mp last
    have working := (failIf_eq_ok.mp resolves).1
    rw [alone_faults, faults] at working
    exact ⟨publishes, published ▸ persona, working⟩
  · rintro ⟨publishes, persona, working⟩
    obtain ⟨_, first⟩ := (returns_syncProjection_iff available .managedAgent .syncManagedAgent
      agentId.toText scope).mpr publishes
    have second :
        Fallible.Returns (perform .worker) (syncPersona resolved.personaId scope) middle :=
      (returns_syncPersona_iff (faults ▸ available) (faults ▸ readable) (faults ▸ publishes)
        _ _).mpr (published ▸ persona)
    obtain ⟨_, second⟩ := second
    refine ⟨_, first, returns_bind.mpr ⟨_, second, ?_⟩⟩
    refine returns_attempt_bind.mpr ⟨⟨resolved.spec.id, resolved⟩, ?_, returns_pure _ _⟩
    refine failIf_eq_ok.mpr ⟨?_, rfl⟩
    rw [alone_faults, faults, working]

theorem returns_prepareLaunch_iff (agentId : AgentId) (resolved : ResolvedAgentConfig) :
    Fallible.Returns (perform .worker) (prepareLaunch agentId resolved) world ↔
      LaunchReady world.faults world.files world.db.communityConfigs resolved := by
  unfold prepareLaunch Task.store Task.host
  simp only [returns_attempt_bind, perform, World.query, available, Bool.false_eq_true,
    if_false, Except.ok.injEq, exists_eq_left']
  cases found : world.db.communityConfigs.lookup resolved.spec.communityConfigId with
  | none =>
    refine iff_of_false (fun returns => ?_) fun ready => ?_
    · obtain ⟨value, absent, -⟩ := returns_bind.mp returns
      cases absent
    · obtain ⟨community, known, -⟩ := ready.community
      cases found.symm.trans known
  | some community =>
    simp only [Task.found, pure_bind, returns_attempt_bind,
      returns_always_bind, perform, failIf_eq_ok]
    constructor
    · rintro ⟨_, ⟨agentUser, -⟩, _, ⟨directories, -⟩, _, ⟨custody, -⟩, owner, loaded, rest⟩
      obtain ⟨publishes, persona, launch⟩ :=
        (returns_projections_iff (by exact available) (by exact readable) ..).mp rest
      cases identity : community.identityPubkey with
      | none => simp [identity] at loaded
      | some pubkey =>
        rw [identity] at loaded
        exact ⟨⟨community, found, by simp [identity]⟩, agentUser, directories, custody,
          (failIf_eq_ok.mp loaded).1, publishes, persona, launch⟩
    · intro ready
      obtain ⟨_, known, identified⟩ := ready.community
      cases found.symm.trans known
      obtain ⟨pubkey, identity⟩ := Option.isSome_iff_exists.mp identified
      refine ⟨(), ⟨ready.agentUser, trivial⟩, (), ⟨ready.directories, trivial⟩, _,
        ⟨ready.custody, rfl⟩, pubkey, ?_, ?_⟩
      · rw [identity]
        exact failIf_eq_ok.mpr ⟨ready.ownerKeys, rfl⟩
      · exact (returns_projections_iff (by exact available) (by exact readable) ..).mpr
          ⟨ready.publishes, ready.persona, ready.launch⟩

omit available readable

/-- The agent's file can be provided, read, resolved and written over its row. -/
structure World.WritesBack (world : World) (agent : AgentSpec) (resolved : ResolvedAgentConfig) :
    Prop where
  provides : world.Provides agent
  readable : world.faults.fileRead = false
  resolves : ∃ file, (world.provided agent).loadAgent agent.id = .ok file ∧
    (world.provided agent).resolve file agent.communityConfigId agent.desiredState = .ok resolved
  known : agent.communityConfigId ∈ world.db.communityConfigs
  writes : world.faults.writes .upsertAgentSpec = false

/-- The launch of an agent can be prepared. -/
def World.Prepares (world : World) (agent : AgentSpec) : Prop :=
  ∃ resolved, world.WritesBack agent resolved ∧
    LaunchReady world.faults (world.provided agent) world.db.communityConfigs resolved

theorem World.Prepares.congr {before after : World} {agent : AgentSpec}
    (prepares : before.Prepares agent) (files : before.files = after.files)
    (faults : before.faults = after.faults)
    (communities : before.db.communityConfigs = after.db.communityConfigs) :
    after.Prepares agent := by
  obtain ⟨resolved, ⟨provides, readable, resolves, known, writes⟩, ready⟩ := prepares
  have provided : before.provided agent = after.provided agent := by
    unfold World.provided
    rw [files]
  rw [provided] at resolves ready
  rw [faults] at readable writes ready
  rw [communities] at known ready
  refine ⟨resolved, ⟨?_, readable, resolves, known, writes⟩, ready⟩
  unfold World.Provides World.Writes at provides ⊢
  rw [← files, ← faults]
  exact provides

/-- The world after a resolved spec was written over the row of its agent. -/
def World.writtenBack (world : World) (agent : AgentSpec) (resolved : ResolvedAgentConfig) :
    World :=
  { world with
    files := world.provided agent
    db := { world.db with
      agentSpecs := world.db.agentSpecs.insert resolved.spec.id resolved.spec }
    cached := none }

/-- The same, for the thread that wrote it. -/
def World.writtenBackBy (world : World) (thread : Thread) (agent : AgentSpec)
    (resolved : ResolvedAgentConfig) : World :=
  { world.writtenBack agent resolved with
    cached := if thread = .worker then none else world.cached
    starting := if thread = .main then world.starting.tail else world.starting }

/-- What a method of the store does if it succeeds is what its transaction does. -/
theorem World.method_eq_ok (leaves : Database → World)
    (available : world.faults.storeUnavailable = false) {conditions : Prop} {tables : Database}
    {call : Database → Except StorageError Result × Database} {value : Result}
    (meaning : ∀ db, call world.db = (.ok value, db) ↔ conditions ∧ db = tables) :
    ((world.method call).1, leaves (world.method call).2) = (.ok value, after) ↔
      conditions ∧ after = leaves tables := by
  rcases called : call world.db with ⟨result, db⟩
  simp only [World.method, available, called, Prod.mk.injEq]
  constructor
  · rintro ⟨rfl, rfl⟩
    obtain ⟨held, rfl⟩ := (meaning db).mp called
    exact ⟨held, rfl⟩
  · rintro ⟨held, rfl⟩
    cases ((meaning tables).mpr ⟨held, rfl⟩).symm.trans called
    exact ⟨rfl, rfl⟩

theorem perform_putAgent_eq_ok (available : world.faults.storeUnavailable = false)
    {thread : Thread} {spec : AgentSpec} :
    perform thread (.putAgent spec) world = (.ok (), after) ↔
      spec.validate = .ok () ∧ world.faults.writes .upsertAgentSpec = false ∧
        spec.communityConfigId ∈ world.db.communityConfigs ∧ after = { world with
            db := { world.db with agentSpecs := world.db.agentSpecs.insert spec.id spec }
            cached := if thread = .worker then none else world.cached
            starting := if thread = .main then world.starting.tail else world.starting } := by
  refine ((World.method_eq_ok (fun db => { world with
    db := db
    cached := if thread = .worker then none else world.cached
    starting := if thread = .main then world.starting.tail else world.starting })
    available fun _ => (putAgent_eq_ok.trans and_assoc.symm).trans
      and_assoc.symm).trans and_assoc).trans and_assoc

/-- Whether a spec can be tied to its file and written back, and what that leaves. -/
theorem alone_writeBack_eq_ok (available : world.faults.storeUnavailable = false)
    (thread : Thread) (agent : AgentSpec) (resolved : ResolvedAgentConfig) (after : World) :
    alone (perform thread) (writeBack agent.id agent) world = (.ok resolved, after) ↔
      world.WritesBack agent resolved ∧ after = world.writtenBackBy thread agent resolved := by
  unfold writeBack Task.file Task.store
  by_cases provides : world.Provides agent
  · rw [alone_bind_ok (alone_ensureAgentFile_ok thread provides)]
    simp only [alone_bind_eq_ok_at, alone_attempt_eq_ok]
    constructor
    · rintro ⟨file, _, loaded, config, _, resolves, _, _, written, done⟩
      cases readable : world.faults.fileRead with
      | true => simp [perform, readable] at loaded
      | false =>
        simp only [perform, readable, Prod.mk.injEq] at loaded
        obtain ⟨loaded, rfl⟩ := loaded
        rw [perform, World.readable_eq_files (by exact readable), Prod.mk.injEq] at resolves
        obtain ⟨resolves, rfl⟩ := resolves
        have community := (Files.resolve_spec resolves).2.1
        cases done
        obtain ⟨-, writes, known, rfl⟩ := (perform_putAgent_eq_ok (by exact available)).mp written
        exact ⟨⟨provides, readable, ⟨file, loaded, resolves⟩, community ▸ known, writes⟩, rfl⟩
    · rintro ⟨⟨-, readable, ⟨file, loaded, resolves⟩, known, writes⟩, rfl⟩
      have community := (Files.resolve_spec resolves).2.1
      refine ⟨file, { world with files := world.provided agent }, ?_, resolved,
        { world with files := world.provided agent }, ?_, (),
        world.writtenBackBy thread agent resolved, ?_, rfl⟩
      · simp [perform, readable, loaded]
      · rw [perform, World.readable_eq_files (by exact readable), resolves]
      · exact (perform_putAgent_eq_ok (by exact available)).mpr
          ⟨Files.resolve_valid resolves, writes, by rw [community]; exact known, rfl⟩
  · obtain ⟨error, failed⟩ : ∃ error, alone (perform thread)
        (ensureAgentFile DaemonError.agentFile agent) world = (.error error, world) :=
      alone_ensureAgentFile_error thread provides
    rw [alone_bind_error failed]
    exact iff_of_false (by simp) fun back => provides back.1.provides

end

/-! ### The stop -/

variable {operation : DurableOperation} {agent : AgentSpec} {receipt : ProcessReceipt}
  (available : world.faults.storeUnavailable = false)

section

variable (world : World) {spec : AgentSpec}

/-- The reconciler stops the process that the receipt of an agent names, if the agent shall
not run and the receipt can be read. -/
theorem reconcileDesired_stops (readable : world.faults.receiptRead = false)
    (inspects : world.faults.inspect = false) (stops : world.faults.stop = false)
    (valid : spec.validate = .ok ()) (state : spec.desiredState ≠ .enabled)
    (stored : world.storedReceipt spec.id = some receipt)
    (live : world.processes.lookup receipt.pid = some spec.id) (launch : Option LaunchSpec) :
    (alone (perform .worker) (Reconciler.reconcileDesired spec launch)
      world).2.processes = world.processes.erase receipt.pid := by
  have owner : receipt.agentId = spec.id := World.storedReceipt_agentId stored
  have reads : alone (perform .worker)
      (attempt ReconcileError.storage (.getReceipt spec.id)) world =
        (.ok (some receipt), world) := by
    simp [perform, readable, failIf, Except.mapError, stored]
  have inspected := alone_inspect_ok world receipt inspects
  have running : ¬(world.observe receipt).observedState.isTerminal = true := by
    rw [World.observe_terminal, owner, not_not]
    exact live
  have stopping := alone_stop_ok world (world.observe receipt) stops (owner ▸ live)
  have stopped : (alone (perform .worker)
      (Reconciler.ensureStopped spec.id (some receipt)) world).2.processes =
        world.processes.erase receipt.pid := by
    unfold Reconciler.ensureStopped
    rw [alone_bind_ok inspected, if_neg running, alone_bind_ok stopping, alone_bind_processes]
    · rfl
    · intro _
      exact uses_attemptBind rfl fun _ => .done _
  unfold Reconciler.reconcileDesired
  rw [valid, alone_bind_ok reads]
  cases desired : spec.desiredState with
  | disabled | deleted => exact stopped
  | enabled => exact absurd desired state

/-- Without the receipt the reconciler does nothing. -/
theorem reconcileDesired_unread (unreadable : world.faults.receiptRead = true)
    (launch : Option LaunchSpec) :
    (alone (perform .worker) (Reconciler.reconcileDesired spec launch)
      world).2.processes = world.processes := by
  have fails : alone (perform .worker)
      (attempt ReconcileError.storage (.getReceipt spec.id)) world =
        (.error (.storage (.invalidData "receipt cannot be read")), world) := by
    simp [perform, unreadable, failIf, Except.mapError]
  unfold Reconciler.reconcileDesired
  cases spec.validate with
  | error error => rfl
  | ok =>
    rw [alone_bind_error fails]

variable {world}

theorem alone_reconcile (available : world.faults.storeUnavailable = false)
    (names : operation.agentId = some spec.id)
    (running : operation.status = .running) (row : world.db.agentSpecs.lookup spec.id = some spec)
    (launch : Option LaunchSpec) :
    alone (perform .worker) (Reconciler.reconcile spec.id operation launch) world =
      alone (perform .worker) (Reconciler.reconcileDesired spec launch)
        { world with reconciled := some spec } := by
  have reads : alone (perform .worker)
      (attempt ReconcileError.storage (.getAgent .reconciled spec.id)) world =
        (.ok (some spec), { world with reconciled := some spec }) := by
    simp [perform, World.query, available, row, World.noteRead, Except.mapError]
  unfold Reconciler.reconcile
  rw [if_neg (by simp [names]), running]
  rw [alone_bind_ok reads]

end

/-! ### The claim of an operation -/

section

/-- The world with other tables. -/
def World.withTables (world : World) (db : Database) : World := { world with db := db }

theorem alone_auditCommunity (agentId : Option AgentId) (world : World) :
    ∃ community, alone (perform .worker) (auditCommunity agentId) world =
      (.ok community, world) := by
  unfold auditCommunity
  cases agentId with
  | none => exact ⟨none, rfl⟩
  | some id =>
    rw [alone_bind_ok (alone_always ..), perform_getAgent_unshared]
    cases world.query fun db => db.agentSpecs.lookup id with
    | error error => exact ⟨none, rfl⟩
    | ok row => cases row <;> exact ⟨_, rfl⟩

theorem perform_appendAudit_eq_ok (available : world.faults.storeUnavailable = false)
    {record : NewAuditRecord} (plain : record.redactedDetail = none) :
    perform .worker (.appendAudit record) world = (.ok (), after) ↔
      world.faults.writes .insertAudit = false ∧ after = world.withTables
          { world.db with auditRecords := world.db.auditRecords ++ [record] } :=
  World.method_eq_ok world.withTables available fun _ => appendAudit_eq_ok plain

theorem alone_now (world : World) :
    alone (perform .worker) (Request.always .now) world = (.ok world.clock, world) := rfl

include available

/-- An audit record of the worker is written exactly if its statement does not fail. -/
theorem returns_auditReconciliation_iff (operation : DurableOperation) (action outcome : String) :
    Fallible.Returns (perform .worker) (auditReconciliation operation action outcome) world ↔
      world.faults.writes .insertAudit = false := by
  obtain ⟨community, read⟩ := alone_auditCommunity operation.agentId world
  unfold Fallible.Returns auditReconciliation
  rw [alone_bind_ok read, alone_bind_ok (alone_now world)]
  constructor
  · rintro ⟨_, returned⟩
    exact ((perform_appendAudit_eq_ok available (by rfl)).mp
      (alone_attempt_eq_ok.mp (Prod.ext returned rfl))).1
  · intro writes
    refine ⟨(), ?_⟩
    unfold Request.store
    rw [alone_attempt_eq_ok.mpr ((perform_appendAudit_eq_ok available (by rfl)).mpr ⟨writes, rfl⟩)]

theorem alone_auditReconciliation {action outcome : String}
    (recorded : alone (perform .worker) (auditReconciliation operation action outcome)
      world = (.ok (), after)) :
    ∃ records, after = world.withTables { world.db with auditRecords := records } := by
  obtain ⟨community, read⟩ := alone_auditCommunity operation.agentId world
  unfold auditReconciliation at recorded
  rw [alone_bind_ok read] at recorded
  obtain ⟨-, rfl⟩ := (perform_appendAudit_eq_ok available (by rfl)).mp
    (alone_attempt_eq_ok.mp recorded)
  exact ⟨_, rfl⟩

theorem perform_transitionOperation_eq_ok {id : OperationId}
    (stored : world.db.operations.lookup id = some operation) {next : OperationStatus}
    (allowed : operation.status.canTransitionTo next = true) {errorCode : Option ErrorCode}
    {now : Int} :
    perform .worker (.transitionOperation id next errorCode now) world = (.ok (), after) ↔
      world.faults.writes .updateOperation = false ∧ world.faults.writes .commit = false ∧
        after = world.withTables { world.db with
            operations := world.db.operations.insert id
              { operation with status := next, errorCode := errorCode, updatedAt := now } } :=
  (World.method_eq_ok world.withTables available fun _ =>
    (transitionOperation_eq_ok stored allowed).trans and_assoc.symm).trans and_assoc

theorem alone_lookupOperation {id : OperationId}
    (stored : world.db.operations.lookup id = some operation) :
    alone (perform .worker) (lookupOperation id) world = (.ok operation, world) := by
  have read : alone (perform .worker) (Request.store (.getOperation id)) world =
      (.ok (some operation), world) := by
    simp [Request.store, perform, World.query, available, stored, Except.mapError]
  unfold lookupOperation
  rw [alone_bind_ok read]
  rfl

omit available

/-- The statements of a claim of a pending operation do not fail. -/
def Faults.Claims (faults : Faults) : Prop :=
  faults.writes .updateOperation = false ∧ faults.writes .commit = false ∧
    faults.writes .insertAudit = false

/-- What a claim leaves: the operation is running, and agents and communities are as they
were. -/
structure Database.Claimed (before : Database) (operation : DurableOperation) (after : Database) :
    Prop where
  claimed : ∃ durable, after.operations.lookup operation.id = some durable ∧
    durable.status = .running ∧ durable.agentId = operation.agentId
  agentSpecs : after.agentSpecs = before.agentSpecs
  communityConfigs : after.communityConfigs = before.communityConfigs

section

variable (stored : world.db.operations.lookup operation.id = some operation)
  (pending : operation.status = .pending)

include available stored pending

theorem returns_startOperation_iff :
    Fallible.Returns (perform .worker) (startOperation operation.id) world ↔
      world.faults.Claims := by
  have allowed : operation.status.canTransitionTo .running = true := by rw [pending]; rfl
  unfold startOperation Request.store Fallible.Returns
  rw [alone_bind_ok (alone_lookupOperation available stored), alone_bind_ok (alone_now world)]
  constructor
  · rintro ⟨_, returned⟩
    obtain ⟨_, after, moved, rest⟩ := alone_bind_eq_ok.mp returned
    obtain ⟨writes, commits, rfl⟩ := (perform_transitionOperation_eq_ok available stored
      allowed).mp (alone_attempt_eq_ok.mp moved)
    have audits := (returns_auditReconciliation_iff (by exact available) ..).mp ⟨_, rest⟩
    exact ⟨writes, commits, audits⟩
  · rintro ⟨writes, commits, audits⟩
    rw [alone_bind_ok (alone_attempt_eq_ok.mpr
      ((perform_transitionOperation_eq_ok available stored allowed).mpr ⟨writes, commits, rfl⟩))]
    exact (returns_auditReconciliation_iff (by exact available) ..).mpr audits

theorem alone_startOperation
    (started : alone (perform .worker) (startOperation operation.id) world =
      (.ok (), after)) : ∃ db, after = world.withTables db ∧ world.db.Claimed operation db := by
  have allowed : operation.status.canTransitionTo .running = true := by rw [pending]; rfl
  unfold startOperation Request.store at started
  rw [alone_bind_ok (alone_lookupOperation available stored),
    alone_bind_ok (alone_now world)] at started
  obtain ⟨_, middle, moved, rest⟩ := alone_bind_eq_ok_at.mp started
  obtain ⟨-, -, rfl⟩ := (perform_transitionOperation_eq_ok available stored
    allowed).mp (alone_attempt_eq_ok.mp moved)
  obtain ⟨records, rfl⟩ := alone_auditReconciliation (by exact available) rest
  exact ⟨_, rfl, ⟨_, AList.lookup_insert _, rfl, rfl⟩, rfl, rfl⟩

end

end

/-! ### The worker -/

/-- Every step before the stop succeeds. -/
structure World.StopReady (world : World) (operation : DurableOperation) (agent : AgentSpec) :
    Prop where
  available : world.faults.storeUnavailable = false
  claims : operation.status = .pending → world.faults.Claims
  prepares : world.Prepares agent
  readable : world.faults.receiptRead = false

section

/-- The tail of a reconciliation, from the outcome of the reconciler on. -/
theorem handsOff_conclusion (finishOperation : Bool) (preparation : Preparation)
    (outcome : Except ReconcileError ReconcileOutcome) :
    HandsOff (do
      let _ ← Task.store (.getReceipt agent.id)
      Task.store .appendReconciliationJournal
      stampReceiptLifecycle agent.id
      concludeOperation operation agent.id preparation.scope finishOperation outcome) := by
  refine uses_attemptBind rfl fun _ => ?_
  refine uses_attemptBind rfl fun _ => ?_
  refine uses_bind (handsOff_within (within_stampReceiptLifecycle agent.id) (by decide)) fun _ => ?_
  exact handsOff_within (within_concludeOperation operation agent.id ..) (by decide)

variable (names : operation.agentId = some agent.id)
  (row : world.db.agentSpecs.lookup agent.id = some agent) (finishOperation : Bool)

/-- The rest of a reconciliation once the row of its agent was read. -/
def reconcileRead (operation : DurableOperation) (finishOperation : Bool) (agent : AgentSpec) :
    Task Unit := do
  let resolved ← writeBack agent.id agent
  let preparation ← prepareLaunch agent.id resolved
  let outcome ← capture
    (Reconciler.reconcile agent.id operation (some preparation.launch))
  let _ ← Task.store (.getReceipt agent.id)
  Task.store .appendReconciliationJournal
  stampReceiptLifecycle agent.id
  concludeOperation operation agent.id preparation.scope finishOperation outcome

include available names row in
theorem alone_reconcileDynamicBody :
    alone (perform .worker) (reconcileDynamicBody operation finishOperation) world =
      alone (perform .worker) (reconcileRead operation finishOperation agent)
        { world with cached := some agent } := by
  have reads : alone (perform .worker) (Task.store (.getAgent .cached agent.id)) world =
      (.ok (some agent), { world with cached := some agent }) := by
    simp [Task.store, perform, World.query, available, row, World.noteRead, Except.mapError]
  unfold reconcileDynamicBody reconcileRead
  rw [names]
  show alone _ (Task.store (.getAgent .cached agent.id) >>= _) world = _
  rw [alone_bind_ok reads]
  rfl

end

section

variable (finishOperation : Bool)

include available

/-- A preparation that fails leaves every process. -/
theorem reconcileRead_unprepared (fails : ¬world.Prepares agent) :
    (alone (perform .worker) (reconcileRead operation finishOperation agent)
      world).2.processes = world.processes := by
  unfold reconcileRead
  by_cases back : Fallible.Returns (perform .worker) (writeBack agent.id agent) world
  · obtain ⟨resolved, returned⟩ := back
    obtain ⟨writesBack, after⟩ :=
      (alone_writeBack_eq_ok available .worker agent resolved _).mp (Prod.ext returned rfl)
    have written : alone (perform .worker) (writeBack agent.id agent) world =
        (.ok resolved, world.writtenBack agent resolved) := Prod.ext returned after
    rw [alone_bind_ok written]
    refine alone_bind_failed (handsOff_within
      (within_prepareLaunch agent.id resolved) (by decide)) ?_
    intro prepared
    refine fails ⟨resolved, writesBack, ?_⟩
    exact (returns_prepareLaunch_iff (by exact available) (by exact writesBack.readable) _ _).mp
      prepared
  · exact alone_bind_failed (handsOff_within (within_writeBack agent.id agent) (by decide)) back

omit available in
/-- The preparation of a launch touches no row of an agent, no receipt and no process. -/
theorem prepareLaunch_keeps (agentId : AgentId) (resolved : ResolvedAgentConfig) (before : World) :
    (alone (perform .worker) (prepareLaunch agentId resolved) before).2.receipts = before.receipts ∧
      (alone (perform .worker) (prepareLaunch agentId resolved) before).2.processes =
        before.processes ∧
      (alone (perform .worker) (prepareLaunch agentId resolved) before).2.db.agentSpecs =
        before.db.agentSpecs := by
  refine (gentle_prepareLaunch agentId resolved).run_keeps (fun after : World =>
    after.receipts = before.receipts ∧ after.processes = before.processes ∧
      after.db.agentSpecs = before.db.agentSpecs) ?_ ⟨rfl, rfl, rfl⟩
  rintro Response action after ⟨calm, -⟩ ⟨receipts, processes, agents⟩
  have same : after.SameCore (perform .worker action after).2 := sameCore_of_calm calm
  exact ⟨same.receipts.trans receipts, same.processes.trans processes,
    same.tables.agentSpecs.trans agents⟩

/-- A preparation that succeeds leaves the world as it was but for the agent's row and file. -/
theorem reconcileRead_prepared {resolved : ResolvedAgentConfig}
    (back : world.WritesBack agent resolved)
    (ready : LaunchReady world.faults (world.provided agent) world.db.communityConfigs resolved) :
    ∃ (launch : LaunchSpec) (after : World),
      after.receipts = world.receipts ∧ after.processes = world.processes ∧
      after.db.agentSpecs = world.db.agentSpecs.insert resolved.spec.id resolved.spec ∧
      after.faults = world.faults ∧
      (alone (perform .worker) (reconcileRead operation finishOperation agent) world).2.processes =
      (alone (perform .worker) (Reconciler.reconcile agent.id operation (some launch))
        after).2.processes := by
  have written : alone (perform .worker) (writeBack agent.id agent) world =
      (.ok resolved, world.writtenBack agent resolved) :=
    (alone_writeBack_eq_ok available .worker agent resolved _).mpr ⟨back, rfl⟩
  have prepares : Fallible.Returns (perform .worker) (prepareLaunch agent.id resolved)
      (world.writtenBack agent resolved) :=
    (returns_prepareLaunch_iff (by exact available) (by exact back.readable) _ _).mpr ready
  obtain ⟨preparation, returned⟩ := prepares
  let after := (alone (perform .worker) (prepareLaunch agent.id resolved)
    (world.writtenBack agent resolved)).2
  obtain ⟨receipts, processes, agents⟩ :=
    prepareLaunch_keeps agent.id resolved (world.writtenBack agent resolved)
  refine ⟨preparation.launch, after, receipts, processes, agents, alone_faults .., ?_⟩
  unfold reconcileRead
  rw [alone_bind_ok written, alone_bind_ok (Prod.ext returned rfl),
    alone_bind_processes (handsOff_conclusion finishOperation preparation)]
  rw [alone_capture]

variable (names : operation.agentId = some agent.id) (running : operation.status = .running)
  (state : agent.desiredState ≠ .enabled)

include names running state

/-- Once the row of an agent that shall not run was read, its process is stopped exactly if
the preparation succeeds and the receipt can be read. -/
theorem reconcileRead_stops_iff (inspects : world.faults.inspect = false)
    (stops : world.faults.stop = false) (stored : world.storedReceipt agent.id = some receipt)
    (live : world.processes.lookup receipt.pid = some agent.id) :
    (alone (perform .worker) (reconcileRead operation finishOperation agent)
        world).2.processes.lookup receipt.pid ≠ some agent.id ↔
      world.Prepares agent ∧ world.faults.receiptRead = false := by
  by_cases prepares : world.Prepares agent
  · obtain ⟨resolved, back, ready⟩ := prepares
    obtain ⟨file, loaded, resolves⟩ := back.resolves
    obtain ⟨same, -, desired⟩ := Files.resolve_spec resolves
    have owner : resolved.spec.id = agent.id := same.trans (Files.loadAgent_id loaded)
    obtain ⟨launch, after, receipts, processes, agents, faults, reached⟩ :=
      reconcileRead_prepared available finishOperation back ready
    have found : after.db.agentSpecs.lookup resolved.spec.id = some resolved.spec := by
      rw [agents, Table.lookup_insert_eq, if_pos rfl]
    rw [reached, ← owner, alone_reconcile (faults ▸ available) (owner ▸ names) running found]
    cases unreadable : world.faults.receiptRead with
    | true =>
      rw [reconcileDesired_unread { after with reconciled := some resolved.spec }
        (faults ▸ unreadable)]
      simp [processes, live, owner]
    | false =>
      have kept : after.storedReceipt resolved.spec.id = some receipt := by
        rw [owner, ← stored]
        unfold World.storedReceipt
        rw [receipts]
      have running : after.processes.lookup receipt.pid = some resolved.spec.id := by
        rw [processes, owner, live]
      rw [reconcileDesired_stops { after with reconciled := some resolved.spec }
        (faults ▸ unreadable) (faults ▸ inspects) (faults ▸ stops) (Files.resolve_valid resolves)
        (desired ▸ state) kept running, AList.lookup_erase]
      simp only [ne_eq, reduceCtorEq, not_false_eq_true, and_true, true_iff]
      exact ⟨resolved, back, ready⟩
  · rw [reconcileRead_unprepared available finishOperation prepares, live]
    simp [prepares]

end

section

/-- Around the reconciliation of an operation no process is started or stopped. -/
theorem reconcileOperationContained_processes (id : OperationId) (world : World) :
    (Program.run (perform .worker) (reconcileOperationContained id) world).2.processes =
      (alone (perform .worker) (reconcileLifecycleOperation id) world).2.processes := by
  unfold reconcileOperationContained
  rw [Program.run_bind, Program.run_bind]
  refine run_processes ?_ _
  split
  · exact .done ()
  · exact Program.Uses.bind (handsOff_within (within_failOperation id) (by decide))
      fun _ => .done ()

theorem reconcileDynamicLifecycleOperation_processes (finishOperation : Bool) (world : World) :
    (alone (perform .worker)
        (reconcileDynamicLifecycleOperation operation finishOperation) world).2.processes =
      (alone (perform .worker) (reconcileDynamicBody operation finishOperation)
        world).2.processes := by
  unfold reconcileDynamicLifecycleOperation withinScope
  rw [alone_bind_processes, alone_capture]
  intro outcome
  refine uses_alwaysBind rfl fun _ => ?_
  cases outcome <;> exact .done _

theorem alone_application {Result : Type} {program : Request Result} {before after : World}
    {result : Result}
    (returned : alone (perform .worker) program before = (.ok result, after)) :
    alone (perform .worker) (Task.application program) before = (.ok result, after) := by
  unfold Task.application
  rw [alone_mapError, returned]
  rfl

/-- An operation that is running is reconciled under its row. -/
theorem reconcileLifecycleOperation_running (available : world.faults.storeUnavailable = false)
    (stored : world.db.operations.lookup operation.id = some operation)
    (running : operation.status = .running) :
    alone (perform .worker) (reconcileLifecycleOperation operation.id) world =
      alone (perform .worker) (reconcileDynamicLifecycleOperation operation true) world := by
  have read := alone_application (alone_lookupOperation available stored)
  have claimed : alone (perform .worker)
      (Task.application (claim operation operation.id)) world = (.ok (), world) := by
    refine alone_application ?_
    unfold claim
    rw [if_neg (by simp [running])]
    rfl
  unfold reconcileLifecycleOperation
  rw [alone_bind_ok read, alone_bind_ok claimed, alone_bind_ok read, if_pos running]

theorem reconcileLifecycleOperation_pending (available : world.faults.storeUnavailable = false)
    (stored : world.db.operations.lookup operation.id = some operation)
    (pending : operation.status = .pending) (claims : world.faults.Claims) :
    ∃ db durable, world.db.Claimed operation db ∧
      db.operations.lookup operation.id = some durable ∧ durable.status = .running ∧
      durable.agentId = operation.agentId ∧
      alone (perform .worker) (reconcileLifecycleOperation operation.id) world =
        alone (perform .worker) (reconcileDynamicLifecycleOperation durable true)
          (world.withTables db) := by
  obtain ⟨_, returned⟩ := (returns_startOperation_iff available stored pending).mpr claims
  rcases started : alone (perform .worker) (startOperation operation.id) world with
    ⟨outcome, after⟩
  rw [started] at returned
  cases returned
  obtain ⟨db, rfl, claimed⟩ := alone_startOperation available stored pending started
  obtain ⟨durable, found, running, names⟩ := claimed.claimed
  have first := alone_application (alone_lookupOperation available stored)
  have starts : alone (perform .worker)
      (Task.application (claim operation operation.id)) world = (.ok (), world.withTables db) := by
    refine alone_application ?_
    unfold claim
    rw [if_pos pending, started]
  have reachable : (world.withTables db).faults.storeUnavailable = false := available
  have again := alone_application (alone_lookupOperation reachable found)
  refine ⟨db, durable, claimed, found, running, names, ?_⟩
  unfold reconcileLifecycleOperation
  rw [alone_bind_ok first, alone_bind_ok starts, alone_bind_ok again, if_pos running]

/-- An operation that cannot be read or claimed leaves every process. -/
theorem reconcileLifecycleOperation_unclaimed (refused : world.faults.storeUnavailable = true ∨
      (world.faults.storeUnavailable = false ∧ operation.status = .pending ∧ ¬world.faults.Claims))
    (stored : world.db.operations.lookup operation.id = some operation) :
    (alone (perform .worker) (reconcileLifecycleOperation operation.id)
      world).2.processes = world.processes := by
  unfold reconcileLifecycleOperation
  rcases refused with unavailable | ⟨available, pending, fails⟩
  · refine alone_bind_failed (uses_mapError
      (handsOff_within (within_lookupOperation _) (by decide))) ?_
    rw [returns_mapError]
    unfold lookupOperation Request.store
    rw [returns_attempt_bind]
    simp [perform, World.query, unavailable]
  · rw [alone_bind_ok (alone_application (alone_lookupOperation available stored))]
    refine alone_bind_failed (uses_mapError
      (handsOff_within (within_claim operation _) (by decide))) ?_
    rw [returns_mapError]
    unfold claim
    rw [if_pos pending, returns_startOperation_iff available stored pending]
    exact fails

section

variable (names : operation.agentId = some agent.id) (state : agent.desiredState ≠ .enabled)
  {receipt : ProcessReceipt}

include names state

/-- A running operation of an agent that shall not run stops its process exactly if the launch
can be prepared and the receipt can be read. -/
theorem reconcileDynamic_stops_iff (running : operation.status = .running)
    (available : world.faults.storeUnavailable = false)
    (row : world.db.agentSpecs.lookup agent.id = some agent)
    (kept : world.storedReceipt agent.id = some receipt)
    (live : world.processes.lookup receipt.pid = some agent.id)
    (inspects : world.faults.inspect = false) (stops : world.faults.stop = false) :
    (alone (perform .worker) (reconcileDynamicLifecycleOperation operation true)
        world).2.processes.lookup receipt.pid ≠ some agent.id ↔
      world.Prepares agent ∧ world.faults.receiptRead = false := by
  rw [reconcileDynamicLifecycleOperation_processes,
    alone_reconcileDynamicBody available names row true]
  refine (reconcileRead_stops_iff (by exact available) true names running state
    (by exact inspects) (by exact stops) (by exact kept) (by exact live)).trans ?_
  constructor
  all_goals
    rintro ⟨prepares, readable⟩
    exact ⟨prepares.congr rfl rfl rfl, readable⟩

/-- Processing an operation of an agent that shall not run, with a live process that its
receipt names, stops that process exactly if every step before the stop succeeds. -/
theorem reconcileOperationContained_stops_iff
    (stored : world.db.operations.lookup operation.id = some operation)
    (nonterminal : operation.status = .pending ∨ operation.status = .running)
    (row : world.db.agentSpecs.lookup agent.id = some agent)
    (kept : world.storedReceipt agent.id = some receipt)
    (live : world.processes.lookup receipt.pid = some agent.id)
    (inspects : world.faults.inspect = false) (stops : world.faults.stop = false) :
    (Program.run (perform .worker) (reconcileOperationContained operation.id)
        world).2.processes.lookup receipt.pid ≠ some agent.id ↔
      world.StopReady operation agent := by
  rw [reconcileOperationContained_processes]
  cases available : world.faults.storeUnavailable with
  | true =>
    rw [reconcileLifecycleOperation_unclaimed (Or.inl available) stored, live]
    refine iff_of_false (fun different => different rfl) fun ready => ?_
    rw [ready.available] at available
    cases available
  | false =>
    rcases nonterminal with pending | running
    · by_cases claims : world.faults.Claims
      · obtain ⟨db, durable, claimed, found, running, same, reached⟩ :=
          reconcileLifecycleOperation_pending available stored pending claims
        have present : db.agentSpecs.lookup agent.id = some agent := by
          rw [claimed.agentSpecs, row]
        rw [reached]
        refine (reconcileDynamic_stops_iff (same.trans names) state running (by exact available)
          present (by exact kept) (by exact live) (by exact inspects) (by exact stops)).trans ?_
        constructor
        · rintro ⟨prepares, readable⟩
          exact ⟨available, fun _ => claims, prepares.congr rfl rfl claimed.communityConfigs,
            readable⟩
        · intro ready
          exact ⟨ready.prepares.congr rfl rfl claimed.communityConfigs.symm, ready.readable⟩
      · rw [reconcileLifecycleOperation_unclaimed (Or.inr ⟨available, pending, claims⟩) stored,
          live]
        exact iff_of_false (fun different => different rfl) fun ready =>
          claims (ready.claims pending)
    · rw [reconcileLifecycleOperation_running available stored running,
        reconcileDynamic_stops_iff names state running available row kept live inspects stops]
      constructor
      · rintro ⟨prepares, readable⟩
        refine ⟨available, fun pending => ?_, prepares, readable⟩
        rw [running] at pending
        cases pending
      · intro ready
        exact ⟨ready.prepares, ready.readable⟩

end

end

namespace Deployment

/-- The worker is about to process the operation that disables a running agent. -/
def disabling : World :=
  (playAll ⟨3600, False⟩ host
    (answer (create "k1") ++ work ++ answer (changeState "k2" ⟨1⟩ .disabled))).world

def disablingOperation : DurableOperation :=
  (disabling.db.operations.lookup ⟨3⟩).getD ⟨⟨0⟩, .createAgent, .pending, none, none, 0, 0, ""⟩

def disabledAgent : AgentSpec := { supervisedAgent with desiredState := .disabled }

def disabledReceipt : ProcessReceipt :=
  (disabling.storedReceipt ⟨1⟩).getD ⟨⟨0⟩, 0, supervisedLaunch.identity, .exited⟩

/-- The runtime of the agent is no longer in the catalog. -/
def unlaunchable : World :=
  { disabling with faults := { Faults.none with launch := true } }

/-- The owner's key cannot be loaded. -/
def unowned : World := { disabling with faults := { Faults.none with ownerKeys := true } }

/-- A world in which a running agent was disabled, with the operation still to be processed. -/
structure Disabling (world : World) : Prop where
  stored : world.db.operations.lookup disablingOperation.id = some disablingOperation
  kind : disablingOperation.kind = .disableAgent
  pending : disablingOperation.status = .pending
  names : disablingOperation.agentId = some disabledAgent.id
  row : world.db.agentSpecs.lookup disabledAgent.id = some disabledAgent
  kept : world.storedReceipt disabledAgent.id = some disabledReceipt
  live : world.processes.lookup disabledReceipt.pid = some disabledAgent.id
  inspects : world.faults.inspect = false
  stops : world.faults.stop = false

theorem disabling_rows : Disabling disabling := by
  have rows : disabling.db.operations.lookup disablingOperation.id = some disablingOperation ∧
      disablingOperation.kind = .disableAgent ∧ disablingOperation.status = .pending ∧
      disablingOperation.agentId = some disabledAgent.id ∧
      disabling.db.agentSpecs.lookup disabledAgent.id = some disabledAgent ∧
      disabling.storedReceipt disabledAgent.id = some disabledReceipt ∧
      disabling.processes.lookup disabledReceipt.pid = some disabledAgent.id ∧
      disabling.faults.inspect = false ∧ disabling.faults.stop = false := by decide +kernel
  obtain ⟨stored, kind, pending, names, row, kept, live, inspects, stops⟩ := rows
  exact ⟨stored, kind, pending, names, row, kept, live, inspects, stops⟩

/-- What fails does not matter to the rows. -/
theorem Disabling.withFaults {world : World} (rows : Disabling world) {faults : Faults}
    (inspects : faults.inspect = false) (stops : faults.stop = false) :
    Disabling { world with faults := faults } :=
  ⟨rows.stored, rows.kind, rows.pending, rows.names, rows.row, rows.kept, rows.live, inspects,
    stops⟩

/-- What the worker leaves of the process. -/
def processed (world : World) : Option AgentId :=
  (Program.run (perform .worker) (reconcileOperationContained disablingOperation.id)
    world).2.processes.lookup disabledReceipt.pid

end Deployment

open Deployment

/-- If nothing fails the process of a disabled agent is stopped. -/
theorem reconcileOperationContained_stops_disabled :
    Disabling disabling ∧ disabling.StopReady disablingOperation disabledAgent := by
  have world := disabling_rows
  have stopped : processed disabling ≠ some disabledAgent.id := by decide +kernel
  exact ⟨world, (reconcileOperationContained_stops_iff world.names (by decide) world.stored
    (Or.inl world.pending) world.row world.kept world.live world.inspects world.stops).mp stopped⟩

/-- A launch that cannot be resolved, or an owner's key that cannot be loaded, leaves the
process of a disabled agent running. -/
theorem reconcileOperationContained_leaves_disabled :
    (Disabling unlaunchable ∧ processed unlaunchable = some disabledAgent.id) ∧
      Disabling unowned ∧ processed unowned = some disabledAgent.id :=
  ⟨⟨disabling_rows.withFaults rfl rfl, by decide +kernel⟩, disabling_rows.withFaults rfl rfl,
    by decide +kernel⟩

end BuzzServer
