/-
This file proves that the worker keeps the terms, and with the requests and the
main thread that the whole daemon does.

Along a job the worker holds at most one agent it has read and not yet written
back, it has the operation running, and it concludes only what the reconciler
settled. Whatever fails, it ends with its local variables dropped and every
process accounted for.
-/

import BuzzServer.Daemon.Supervision

namespace BuzzServer

open Relational Concurrent Discipline Concurrent.Fallible Proves Triple World

/-! ### Reading and preparing -/

variable {item : Option OperationId} {Result : Type} {world : World} {assertion : World → Prop}
  {setting : Setting} {terms : Terms} {job : Job}

section

theorem gentle_taskFound (row : Option Result) : Gentle (Task.found row) := by
  cases row with
  | none => exact gentle_throw _
  | some value => exact gentle_pure value

theorem gentle_prepareLaunch (agentId : AgentId) (resolved : ResolvedAgentConfig) :
    Gentle (prepareLaunch agentId resolved) :=
  gentle_within (within_prepareLaunch agentId resolved) (by decide)

theorem proves_taskFound {pre : World → Prop} {failure : DaemonError → World → Prop}
    (row : Option Result) (abandon : ∀ error world, pre world → failure error world) :
    Proves setting terms .worker pre (Task.found row)
      (fun value world => pre world ∧ row = some value) failure := by
  cases row with
  | none => exact .throw fun world holds => abandon _ world holds
  | some value => exact .pure fun _ holds => ⟨holds, rfl⟩

/-- The worker has ended its job, and every process is accounted for. -/
def World.Ended (terms : Terms) (item : Option OperationId) (world : World) : Prop :=
  world.processing = item ∧ world.Accounted terms

theorem stands_ended (item : Option OperationId) :
    Stands setting terms .worker fun world => world.Ended terms item :=
  (stands_processing item).and stands_accounted

theorem World.Stage.ended {cached reconciled : Option AgentSpec}
    (stage : world.Stage terms job cached reconciled) (accounted : world.Accounted terms) :
    world.Ended terms job.item :=
  ⟨stage.processing, accounted⟩

theorem World.Carrying.ended (carrying : world.Carrying terms job)
    (accounted : world.Accounted terms) : world.Ended terms job.item :=
  carrying.choose_spec.ended accounted

/-- A program of calm actions in the middle of a job. -/
theorem proves_gentle {program : Task Result} (gentle : Gentle program)
    (stands : Stands setting terms .worker assertion)
    (ends : ∀ world, assertion world → world.Ended terms item) :
    Proves setting terms .worker assertion program (fun _ => assertion)
      fun _ world => world.Ended terms item :=
  Proves.consequence (fun _ => id) (Proves.calm gentle stands) (fun _ _ => id) fun _ => ends

/-- Writing an agent leaves the operations and the tombstones alone. -/
theorem perform_putAgent_tables (thread : Thread) (spec : AgentSpec) (world : World) :
    (perform thread (.putAgent spec) world).2.db.operations = world.db.operations ∧
      (perform thread (.putAgent spec) world).2.db.purgedAgentTombstones =
        world.db.purgedAgentTombstones := by
  simp only [perform]
  rcases method_cases_of (SqliteStore.putAgent_cases world.faults.writes world.db spec) with
    ⟨error, failed⟩ | ⟨same, known, done⟩
  · rw [failed]
    exact ⟨rfl, rfl⟩
  · rw [same, done]
    exact ⟨rfl, rfl⟩

/-- The worker's write back ends its hold on the agent it read. -/
theorem proves_writeBackCached {agent : AgentSpec} {agentId : AgentId} (same : agent.id = agentId) :
    Proves setting terms .worker
      (fun world => world.Stage terms job (some agent) none ∧ world.Accounted terms)
      (writeBack agentId agent)
      (fun _ world => world.Stage terms job none none ∧ world.Accounted terms)
      fun _ world => world.Ended terms job.item := by
  refine .consequence (fun _ => id) (proves_writeBack same
    (stands_extraAccounted (stands_stage job (some agent) none)) ?_
    (fun _ _ holds => holds.1.ended holds.2) fun _ _ holds => holds.1.ended holds.2)
    (fun _ _ holds => holds.1) fun _ _ => id
  intro spec world _ holds agrees
  obtain ⟨operations, tombstones⟩ := perform_putAgent_tables .worker spec world
  refine ⟨⟨fun _ impossible => impossible.elim,
    .inl ⟨rfl, holds.1.reconciled, agent, holds.1.cached, agrees⟩⟩,
    ⟨holds.1.processing, fun finish => ?_, rfl, holds.1.reconciled⟩, ?_⟩
  · obtain ⟨item, running⟩ := holds.1.running finish
    refine ⟨item, ?_⟩
    unfold World.RunningFor
    rw [operations]
    exact running
  · intro kept pid other live
    rw [tombstones]
    exact holds.2 kept pid other live

end

/-! ### Concluding -/

variable {agentId : AgentId}

section

/-- Tombstones are never taken back. -/
theorem Effect.tombstones {thread : Thread} {before after : World} {Response : Type}
    {action : Action Response} (effect : Effect thread before action after) (id : AgentId)
    (removed : id ∈ before.db.purgedAgentTombstones) :
    id ∈ after.db.purgedAgentTombstones := by
  cases effect with
  | quiet same =>
    rw [same.tables.tombstones]
    exact removed
  | removeCommunity _ removal | completePurge _ _ _ _ _ _ removal =>
    exact (removal.tombstones id).mpr (.inl removed)
  | _ => exact removed

theorem World.Accounted.of_tombstones {before after : World}
    (accounted : before.Accounted terms) (processes : after.processes = before.processes)
    (receipts : after.receipts = before.receipts)
    (grown : ∀ id ∈ before.db.purgedAgentTombstones, id ∈ after.db.purgedAgentTombstones) :
    after.Accounted terms := by
  intro kept pid id live
  rw [processes] at live
  rcases accounted kept pid id live with removed | ⟨receipt, stored, names⟩
  · exact .inl (grown id removed)
  · refine .inr ⟨receipt, ?_, names⟩
    unfold storedReceipt
    rw [receipts]
    exact stored

theorem proves_stampReceiptLifecycle {extra : World → Prop}
    (stands : Stands setting terms .worker extra) (free : ReceiptFree extra)
    (processing : ∀ world, extra world → world.processing = item) :
    Proves setting terms .worker (Accounting terms extra)
      (stampReceiptLifecycle agentId) (fun _ => Accounting terms extra)
      fun _ world => world.Ended terms item := by
  refine .bind (proves_getReceipt stands fun _ world held accounted =>
    ⟨processing world held, accounted⟩) fun receipt => ?_
  cases receipt with
  | none => exact .pure fun _ watching => ⟨watching.extra, watching.accounted⟩
  | some receipt =>
    refine given (fun world watching =>
      ⟨watching, storedReceipt_agentId watching.stored⟩) (assume fun named => ?_)
    exact .consequence (fun _ => id)
      (proves_putReceipt stands (fun _ world held => .intro (processing world held)) free named rfl)
      (fun _ _ watching => ⟨watching.extra, watching.accounted⟩) fun _ _ => id

/-- Programs that may destroy what belongs to the agent whose purge was settled. -/
theorem proves_purging {Error : Type} {program : Fallible Action Error Result}
    (uses : Program.Uses (fun ⦃_⦄ action => action.calm = true ∧
      ∀ id, action.Destroys id → agentId.toText = id.toText) program.run)
    (stands : Stands setting terms .worker assertion)
    (purging : ∀ world, assertion world → world.Purging terms agentId) :
    Proves setting terms .worker assertion program (fun _ => assertion) fun _ => assertion := by
  refine fallibleFrame stands (uses.mono ?_) fun _ _ => id
  rintro Response action ⟨calm, only⟩ world sound holds admitted
  exact execute_calm calm (duty_of_spared setting calm fun id destroys _ _ =>
    ⟨agentId, only id destroys, purging world holds⟩) stands sound holds admitted

/-- The worker may end its job with the status. -/
def World.Concluding (terms : Terms) (job : Job) (agentId : AgentId) (status : OperationStatus)
    (world : World) : Prop :=
  world.Carrying terms job ∧ (status = .succeeded → world.Settled terms agentId)

theorem stands_concluding (status : OperationStatus) :
    Stands setting terms .worker fun world => world.Concluding terms job agentId status :=
  (stands_carrying job).and fun before after tolerated held kept settled succeeded =>
    stands_settled agentId before after tolerated held kept (settled succeeded)

theorem receiptFree_concluding (status : OperationStatus) :
    ReceiptFree fun world => world.Concluding terms job agentId status :=
  fun _ _ ⟨⟨reconciled, stage⟩, settled⟩ => ⟨⟨reconciled, { stage with }⟩, settled⟩

theorem World.Concluding.ended {status : OperationStatus}
    (concluding : world.Concluding terms job agentId status) (accounted : world.Accounted terms) :
    world.Ended terms job.item :=
  concluding.1.ended accounted

theorem World.Concluding.purging (concluding : world.Concluding terms job agentId .succeeded)
    (finish : job.finishOperation = true) (purge : job.operation.kind = .purgeAgent)
    (names : job.operation.agentId = some agentId) : world.Purging terms agentId := by
  obtain ⟨⟨reconciled, stage⟩, settled⟩ := concluding
  obtain ⟨item, running⟩ := stage.running finish
  rw [purge, names] at running
  exact ⟨job.operation.id, stage.processing.trans item, running, settled rfl⟩

/-- What a purge removes, it removes of the agent it is for and after that agent was
settled. -/
theorem proves_purgeArtifacts (finish : job.finishOperation = true)
    (purge : job.operation.kind = .purgeAgent) (names : job.operation.agentId = some agentId)
    (scope : RelayProjectionScope) :
    Proves setting terms .worker
      (fun world => world.Concluding terms job agentId .succeeded ∧ world.Accounted terms)
      (purgeArtifacts agentId scope)
      (fun status world => (world.Concluding terms job agentId status ∧ world.Accounted terms) ∧
        (status = .succeeded ∨ status = .failed))
      fun _ world => world.Ended terms job.item := by
  have purges : ∀ {Result : Type} {program : Task Result},
      Program.Uses (fun ⦃_⦄ action => action.calm = true ∧
        ∀ id, action.Destroys id → agentId.toText = id.toText) program.run →
      Proves setting terms .worker
        (fun world => world.Concluding terms job agentId .succeeded ∧ world.Accounted terms)
        program
        (fun _ world => world.Concluding terms job agentId .succeeded ∧ world.Accounted terms)
        fun _ world => world.Ended terms job.item := fun uses =>
    Proves.consequence (fun _ => id)
      (proves_purging uses (stands_extraAccounted (stands_concluding .succeeded))
        fun _ holds => holds.1.purging finish purge names)
      (fun _ _ => id) fun _ _ holds => holds.1.ended holds.2
  refine .bind (purges (.step ⟨rfl, fun _ none => none.elim⟩ fun _ => .done _))
    fun tombstonedAt => ?_
  refine .bind (purges (.step ⟨rfl, fun _ destroys => destroys.2⟩ fun _ => .done _))
    fun _ => ?_
  refine .bind (purges (.step ⟨rfl, fun _ none => none.elim⟩ fun _ => .done _))
    fun archivedAt => ?_
  refine .bind (purges (.step ⟨rfl, fun _ destroys => destroys.2⟩ fun _ => .done _))
    fun _ => ?_
  refine .bind (purges (uses_capture ?_)) fun cleaned => ?_
  · have same : ∀ id, agentId = id → agentId.toText = id.toText := fun _ same => congrArg _ same
    refine uses_bind ?_ fun _ => ?_
    · exact .step ⟨rfl, same⟩ fun _ => .done _
    refine uses_bind ?_ fun _ => ?_
    · exact .step ⟨rfl, same⟩ fun _ => .done _
    · exact .step ⟨rfl, same⟩ fun _ => .done _
  · cases cleaned with
    | ok _ => exact .pure fun _ holds => ⟨holds, .inl rfl⟩
    | error _ =>
      exact .pure fun _ holds =>
        ⟨⟨⟨holds.1.1, fun failed => by cases failed⟩, holds.2⟩, .inr rfl⟩

theorem proves_concludeStatus (names : job.operation.agentId = some agentId)
    (finishes : job.operation.kind = .purgeAgent → job.finishOperation = true)
    (scope : RelayProjectionScope) (outcome : Except ReconcileError ReconcileOutcome) :
    Proves setting terms .worker
      (fun world => world.Concluding terms job agentId (completionStatus outcome) ∧
        world.Accounted terms)
      (concludeStatus job.operation.kind agentId scope outcome)
      (fun status world => (world.Concluding terms job agentId status ∧ world.Accounted terms) ∧
        (status = .succeeded ∨ status = .failed))
      fun _ world => world.Ended terms job.item := by
  unfold concludeStatus
  split
  · next purging =>
    rw [purging.1]
    exact proves_purgeArtifacts (finishes purging.2) purging.2 names scope
  · refine .pure fun _ holds => ⟨holds, ?_⟩
    unfold completionStatus
    split <;> simp

end

/-! ### Operations -/

variable {id : OperationId}

section

variable {pre extra : World → Prop}

theorem proves_lookupOperation {fact : DurableOperation → World → Prop}
    {failure : ApplicationError → World → Prop} (stands : Stands setting terms .worker pre)
    (learns : ∀ world row, world.Sound → pre world → world.db.operations.lookup id = some row →
      fact row world) (abandon : ∀ error world, pre world → failure error world) :
    Proves setting terms .worker pre (lookupOperation id)
      (fun row world => pre world ∧ fact row world) failure := by
  refine .bindTo
    (fun found world => pre world ∧ ∀ row, found = some row → fact row world) ?_ fun found => ?_
  · refine attemptCalm rfl rfl stands ?_ abandon
    intro world sound holds found read row same
    subst same
    simp only [perform, query] at read ⊢
    split at read
    · cases read
    · exact learns world row sound holds (Except.ok.inj read)
  · cases found with
    | none => exact .throw fun world holds => abandon _ world holds.1
    | some row => exact .pure fun world holds => ⟨holds.1, holds.2 row rfl⟩

/-- An assertion about the local variables of the worker. -/
def Local (extra : World → Prop) : Prop :=
  ∀ world db, extra world → extra { world with db := db }

/-- A store call of the worker that keeps receipts and processes. -/
theorem accounted_withDb {Response : Type} {action : Action Response} {db : Database}
    (accounted : world.Accounted terms)
    (same : (perform .worker action world).2 = { world with db := db }) :
    (perform .worker action world).2.Accounted terms := by
  refine accounted.of_tombstones ?_ ?_ (perform_effect .worker world action).tombstones
  · rw [same]
  · rw [same]

theorem stands_terminal (id : OperationId) :
    Stands setting terms .worker fun world => world.Terminal id := by
  rintro before after tolerated _ _ ⟨operation, found, ended⟩
  obtain ⟨current, later, -, sameStatus, -⟩ := (tolerated.worker rfl).operations id operation found
  exact ⟨current, later, by rw [sameStatus, ended]⟩

theorem terminal_of_transition {next : OperationStatus} {errorCode : Option ErrorCode} {now : Int}
    (ended : next.isTerminal = true)
    (done : (perform .worker (.transitionOperation id next errorCode now) world).1 = .ok ()) :
    (perform .worker (.transitionOperation id next errorCode now) world).2.Terminal id := by
  simp only [perform] at done ⊢
  rcases method_cases_of (SqliteStore.transitionOperation_cases world.faults.writes world.db id next
      errorCode now) with ⟨error, failed⟩ | ⟨same, operation, -, -, moved⟩
  · rw [failed] at done
    cases done
  · rw [same, moved]
    exact ⟨_, AList.lookup_insert _, ended⟩

theorem proves_transition {next : OperationStatus} {errorCode : Option ErrorCode} {now : Int}
    (stands : Stands setting terms .worker pre)
    (weakens : ∀ world, pre world → Accounting terms extra world) (locally : Local extra)
    (obliged : ∀ world, pre world → world.processing = some id ∧ world.cached = none ∧
      (next = .running ∧ world.reconciled = none ∨ next = .failed ∨
        next = .succeeded ∧ world.MaySucceed terms id)) :
    Proves setting terms .worker pre (Request.store (.transitionOperation id next errorCode now))
      (fun _ world => Accounting terms extra world ∧ (next.isTerminal = true → world.Terminal id))
      fun _ => Accounting terms extra := by
  refine .attempt stands fun world _ holds _ => ?_
  have reached : extra (perform .worker (.transitionOperation id next errorCode now) world).2 ∧
      (perform .worker (.transitionOperation id next errorCode now) world).2.Accounted terms :=
    ⟨locally world _ (weakens world holds).1, accounted_withDb (weakens world holds).2 rfl⟩
  exact ⟨⟨fun _ impossible => impossible.elim, rfl, obliged world holds⟩,
    fun _ done => ⟨reached, fun ended => terminal_of_transition ended done⟩, fun _ _ => reached⟩

theorem proves_completePurgeOperation (operation : DurableOperation)
    (stands : Stands setting terms .worker pre)
    (weakens : ∀ world, pre world → Accounting terms extra world) (locally : Local extra)
    (obliged : ∀ world, pre world → world.processing = some id ∧ world.cached = none) :
    Proves setting terms .worker pre (completePurgeOperation id operation)
      (fun _ => Accounting terms extra)
      fun _ => Accounting terms extra := by
  unfold completePurgeOperation
  split
  · exact .throw weakens
  refine .bind (.calmTo stands weakens (gentle_attempt rfl rfl)) fun row => ?_
  refine .bind (.calmTo stands weakens (gentle_found row)) fun agent => ?_
  refine .bind (.calmTo stands weakens (gentle_always rfl rfl)) fun now => ?_
  refine .bind (.calmTo stands weakens (gentle_always rfl rfl)) fun occurredAt => ?_
  refine .attempt stands fun world _ holds _ => ?_
  have reached := (weakens world holds).2
  refine ⟨⟨fun _ impossible => impossible.elim, rfl, (obliged world holds).1,
    (obliged world holds).2, rfl, rfl, rfl⟩, fun _ _ => ?_, fun _ _ => ?_⟩
  all_goals exact ⟨locally world _ (weakens world holds).1, accounted_withDb reached rfl⟩

/-- Completing an operation: it may fail at any time, and succeed once its agent was
settled. -/
theorem proves_completeOperation {status : OperationStatus} (errorCode : Option ErrorCode)
    (stands : Stands setting terms .worker pre)
    (weakens : ∀ world, pre world → Accounting terms extra world) (locally : Local extra)
    (standsAfter : Stands setting terms .worker extra)
    (obliged : ∀ world, pre world → world.processing = some id ∧ world.cached = none)
    (may : status = .failed ∨ status = .succeeded ∧ ∃ kind agentId, ∀ world, pre world →
      world.RunningFor terms id kind (some agentId) ∧ world.Settled terms agentId) :
    Proves setting terms .worker pre (completeOperation id status errorCode)
      (fun _ => Accounting terms extra)
      fun _ => Accounting terms extra := by
  refine .bind (.calmTo stands weakens (gentle_valid _)) fun _ => ?_
  refine .bindTo (fun row world => pre world ∧ row.id = id ∧
    (∀ kind agentId, (∀ world, pre world → world.RunningFor terms id kind (some agentId)) →
      row.kind = kind)) ?_ fun row => assume fun ⟨named, kinds⟩ => ?_
  · refine proves_lookupOperation stands ?_ fun _ => weakens
    intro world row sound holds found
    refine ⟨sound.consistent.operationKeyed id row found, fun kind agentId running => ?_⟩
    obtain ⟨operation, same, ofKind, -⟩ := running world holds
    rw [found] at same
    rw [Option.some.inj same]
    exact ofKind
  split
  · exact proves_completePurgeOperation row stands weakens locally obliged
  next other =>
  refine .bind (.calmTo stands weakens (gentle_always rfl rfl)) fun now => ?_
  have terminal : status.isTerminal = true := by
    rcases may with rfl | ⟨rfl, -⟩ <;> rfl
  have audits : Proves setting terms .worker
      (fun world => Accounting terms extra world ∧ world.Terminal id)
      (auditReconciliation row "operation.complete"
        (if status = .succeeded then "succeeded" else "failed"))
      (fun _ => Accounting terms extra) fun _ => Accounting terms extra :=
    Proves.consequence (fun _ holds => holds) (proves_auditReconciliation _
      ((standsAfter.and stands_accounted).and (stands_terminal id))
      fun _ _ holds => named ▸ holds.2) (fun _ _ holds => holds.1) fun _ _ holds => holds.1
  refine .bind (proves_transition stands weakens locally fun world holds => ?_) fun _ =>
    given (fun _ holds => ⟨holds.1, holds.2 terminal⟩) audits
  refine ⟨(obliged world holds).1, (obliged world holds).2, .inr (may.imp_right ?_)⟩
  rintro ⟨succeeded, kind, agentId, settled⟩
  have ofKind := kinds kind agentId fun world holds => (settled world holds).1
  exact ⟨succeeded, kind, agentId, fun purge => other ⟨succeeded, ofKind.trans purge⟩,
    settled world holds⟩

end

/-! ### Jobs -/

section

theorem local_processing (item : Option OperationId) : Local fun world => world.processing = item :=
  fun _ _ => id

theorem local_unburdened (item : Option OperationId) : Local fun world => world.Unburdened item :=
  fun _ _ rest => { rest with }

theorem proves_concludeOperation (names : job.operation.agentId = some agentId)
    (finishes : job.operation.kind = .purgeAgent → job.finishOperation = true)
    (scope : RelayProjectionScope) (outcome : Except ReconcileError ReconcileOutcome) :
    Proves setting terms .worker
      (fun world => world.Concluding terms job agentId (completionStatus outcome) ∧
        world.Accounted terms)
      (concludeOperation job.operation agentId scope job.finishOperation outcome)
      (fun _ world => world.Ended terms job.item) fun _ world => world.Ended terms job.item := by
  refine .bind (proves_concludeStatus names finishes scope outcome) fun status =>
    assume fun terminal => ?_
  by_cases finish : job.finishOperation = true
  · rw [if_pos finish]
    have carried : ∀ world : World, world.Concluding terms job agentId status →
        world.cached = none ∧ world.processing = some job.operation.id ∧
          world.RunningFor terms job.operation.id job.operation.kind (some agentId) := by
      rintro world ⟨⟨reconciled, stage⟩, -⟩
      obtain ⟨item, running⟩ := stage.running finish
      rw [names] at running
      exact ⟨stage.cached, stage.processing.trans item, running⟩
    refine .mapError (proves_completeOperation (completionError status)
      (stands_extraAccounted (stands_concluding status)) (fun world holds =>
        holds.1.ended holds.2) (local_processing job.item) (stands_processing job.item)
      (fun world holds => ⟨(carried world holds.1).2.1, (carried world holds.1).1⟩) ?_)
      fun _ _ => id
    rcases terminal with succeeded | failed
    · exact .inr ⟨succeeded, job.operation.kind, agentId, fun world holds =>
        ⟨(carried world holds.1).2.2, holds.1.2 succeeded⟩⟩
    · exact .inl failed
  · rw [if_neg finish]
    split
    · exact .throw fun _ holds => holds.1.ended holds.2
    · exact .pure fun _ holds => holds.1.ended holds.2

theorem proves_reconcileDynamicBody (job : Job) (running : job.operation.status = .running)
    (finishes : job.operation.kind = .purgeAgent → job.finishOperation = true) :
    Proves setting terms .worker
      (fun world => world.Stage terms job none none ∧ world.Accounted terms)
      (reconcileDynamicBody job.operation job.finishOperation)
      (fun _ world => world.Ended terms job.item) fun _ world => world.Ended terms job.item := by
  have ends : ∀ (error : DaemonError) (world : World),
      world.Stage terms job none none ∧ world.Accounted terms → world.Ended terms job.item :=
    fun _ _ holds => holds.1.ended holds.2
  refine .bind (proves_taskFound _ ends) fun agentId => assume fun names => ?_
  refine .bind (proves_getAgent .cached fun _ _ stage => stage.ended)
    fun row => assume fun keyed => ?_
  refine .bind (proves_taskFound row fun _ _ holds => holds.1.ended holds.2)
    fun agent => assume fun found => ?_
  subst found
  refine .bind (proves_writeBackCached (keyed agent rfl)) fun resolved => ?_
  refine .bind (proves_gentle (gentle_prepareLaunch agentId resolved)
    (stands_extraAccounted (stands_stage job none none)) (ends (.task ""))) fun preparation => ?_
  refine .bindTo (fun outcome world =>
    world.Concluding terms job agentId (completionStatus outcome) ∧ world.Accounted terms) ?_
    fun outcome => ?_
  · refine .consequence (fun _ => id)
      (Proves.capture (proves_reconcile running (some preparation.launch))) ?_
      fun _ _ => id
    intro outcome world holds
    cases outcome with
    | ok value => exact ⟨⟨holds.1.1, fun _ => holds.2⟩, holds.1.2⟩
    | error error => exact ⟨⟨holds.1, fun failed => by cases failed⟩, holds.2⟩
  have stands : Stands setting terms .worker fun world =>
      world.Concluding terms job agentId (completionStatus outcome) ∧ world.Accounted terms :=
    stands_extraAccounted (stands_concluding _)
  have concluded : ∀ world : World,
      world.Concluding terms job agentId (completionStatus outcome) ∧ world.Accounted terms →
        world.Ended terms job.item := fun _ holds => holds.1.ended holds.2
  refine .bind (proves_gentle (gentle_attempt rfl rfl) stands concluded) fun _ => ?_
  refine .bind (proves_gentle (gentle_attempt rfl rfl) stands concluded) fun _ => ?_
  refine .bind (proves_stampReceiptLifecycle (stands_concluding _)
    (receiptFree_concluding _) fun _ concluding =>
      concluding.1.choose_spec.processing) fun _ => ?_
  exact proves_concludeOperation names finishes preparation.scope outcome

/-- Leaving the scope of a job drops the local variables. -/
theorem proves_withinScope {pre : World → Prop} {task : Task Unit}
    (proves : Proves setting terms .worker pre task (fun _ world => world.Ended terms item)
      fun _ world => world.Ended terms item) :
    Proves setting terms .worker pre (withinScope task)
      (fun _ world => world.Unburdened item ∧ world.Accounted terms)
      fun _ world => world.Unburdened item ∧ world.Accounted terms := by
  refine .bindTo (fun _ world => world.Ended terms item) ?_ fun outcome => ?_
  · refine .consequence (fun _ => id) proves.capture ?_ fun _ _ => id
    intro outcome world holds
    cases outcome <;> exact holds
  refine .bindTo (fun _ world => world.Unburdened item ∧ world.Accounted terms) ?_ fun _ => ?_
  · refine .always (stands_ended item) fun world _ holds _ => ?_
    exact ⟨⟨fun _ impossible => impossible.elim, trivial⟩, ⟨holds.1, rfl, rfl⟩, holds.2⟩
  · cases outcome with
    | ok _ => exact .pure fun _ => id
    | error _ => exact .throw fun _ => id

end

/-! ### The programs of the worker -/

section

/-- The worker holds nothing, and every process is accounted for. -/
abbrev World.AtRest (terms : Terms) (item : Option OperationId) (world : World) : Prop :=
  world.Unburdened item ∧ world.Accounted terms

/-- A program that begins and ends at rest. -/
abbrev Rests (setting : Setting) (terms : Terms) (item : Option OperationId)
    {Error Result : Type} (program : Fallible Action Error Result) : Prop :=
  Proves setting terms .worker (fun world => world.AtRest terms item) program
    (fun _ world => world.AtRest terms item) fun _ world => world.AtRest terms item

theorem stands_atRest (item : Option OperationId) :
    Stands setting terms .worker fun world => world.AtRest terms item :=
  stands_extraAccounted (stands_unburdened item)

theorem rests_gentle {Error : Type} {program : Fallible Action Error Result}
    (gentle : Gentle program) : Rests setting terms item program :=
  Proves.calm gentle (stands_atRest item)

theorem rests_startOperation : Rests setting terms (some id) (startOperation id) := by
  refine .bind (rests_gentle (gentle_lookupOperation id)) fun operation => ?_
  refine .bind (rests_gentle (gentle_always rfl rfl)) fun now => ?_
  refine .bind (proves_transition (stands_atRest _) (fun _ holds => holds)
    (local_unburdened _) fun world rest => ?_) fun _ => given (fun _ holds => holds.1)
      (proves_auditReconciliation _ (stands_atRest _) (by simp))
  exact ⟨rest.1.processing, rest.1.cached, .inl ⟨rfl, rest.1.reconciled⟩⟩

theorem rests_claim (operation : DurableOperation) :
    Rests setting terms (some id) (claim operation id) := by
  unfold claim
  split
  · exact rests_startOperation
  · exact rests_gentle (gentle_pure _)

theorem rests_reconcileLifecycleOperation :
    Rests setting terms (some id) (reconcileLifecycleOperation id) := by
  have application : ∀ {Result : Type} {program : Request Result},
      Rests setting terms (some id) program →
        Rests setting terms (some id) (Task.application program) :=
    fun rests => Proves.mapError rests fun _ _ holds => holds
  refine .bind (application (rests_gentle (gentle_lookupOperation id))) fun operation => ?_
  refine .bind (application (rests_claim operation)) fun _ => ?_
  refine .bindTo (fun row world => world.AtRest terms (some id) ∧
    (row.status = .running → row.id = id ∧
      world.RunningFor terms row.id row.kind row.agentId)) ?_ fun durable => ?_
  · refine .mapError (proves_lookupOperation (stands_atRest _) ?_ fun _ _ holds => holds)
      fun _ _ holds => holds
    intro world row sound _ found running
    have keyed := (sound.consistent.operationKeyed id row found)
    refine ⟨keyed, row, ?_, rfl, running, .inl rfl⟩
    rw [keyed]
    exact found
  split
  · next running =>
    refine given (fun world holds => ?_)
      (proves_withinScope (proves_reconcileDynamicBody ⟨some id, durable, true⟩ running
        fun _ => rfl))
    obtain ⟨⟨rest, accounted⟩, known⟩ := holds
    obtain ⟨keyed, ready⟩ := known running
    exact ⟨⟨rest.processing, fun _ => ⟨congrArg some keyed.symm, ready⟩, rest.cached,
      rest.reconciled⟩, accounted⟩
  · exact .pure fun _ holds => holds.1

theorem rests_failOperation : Rests setting terms (some id) (failOperation id) := by
  refine .bind (rests_gentle (gentle_lookupOperation id)) fun operation => ?_
  split
  · exact rests_gentle (gentle_pure _)
  refine .bind (rests_claim operation) fun _ => ?_
  exact proves_completeOperation _ (stands_atRest _) (fun _ holds => holds) (local_unburdened _)
    (stands_unburdened _) (fun _ rest => ⟨rest.1.processing, rest.1.cached⟩) (.inl rfl)

theorem rests_reconcileStartupAgent (agentId : AgentId) :
    Rests setting terms none (reconcileStartupAgent agentId) := by
  refine .bind (rests_gentle (gentle_attempt rfl rfl)) fun row => ?_
  refine .bind (rests_gentle (gentle_taskFound row)) fun agent => ?_
  refine .bind (rests_gentle (gentle_always rfl rfl)) fun drawn => ?_
  refine .bind (rests_gentle (gentle_always rfl rfl)) fun now => ?_
  refine .bind (rests_gentle (gentle_attempt rfl rfl)) fun _ => ?_
  refine given (fun world rest => ?_) (proves_withinScope (proves_reconcileDynamicBody
    ⟨none, ⟨drawn, startupKind agent.desiredState, .running, some agent.id, none, now, now,
      "startup:" ++ agent.id.toText⟩, false⟩ rfl fun purge => ?_))
  · exact ⟨⟨rest.1.processing, fun finish => absurd finish Bool.false_ne_true, rest.1.cached,
      rest.1.reconciled⟩, rest.2⟩
  · unfold startupKind at purge
    split at purge <;> cases purge

theorem rests_observeAgent (agent : AgentSpec) : Rests setting terms none (observeAgent agent) := by
  have stands : Stands setting terms .worker fun world => world.Unburdened none :=
    stands_unburdened none
  refine .bind (proves_getReceipt stands fun _ _ rest accounted => ⟨rest, accounted⟩)
    fun receipt => ?_
  cases receipt with
  | none => exact .pure fun _ watching => ⟨watching.extra, watching.accounted⟩
  | some receipt =>
    refine .bind (proves_inspect stands fun _ _ rest accounted => ⟨rest, accounted⟩)
      fun observed => assume fun same => ?_
    refine .bind (Proves.consequence
      (fun _ watching => ⟨watching.extra.1, watching.accounted, watching.stored⟩)
      (proves_putReceipt stands (fun _ _ => .intro) (detached_unburdened none).receiptFree
        same.1 same.2)
      (fun _ _ watching => ⟨watching.extra, watching.accounted⟩) fun _ _ => id)
      fun _ => rests_gentle (gentle_attempt rfl rfl)

/-- What is cleaned up belongs to agents that were removed. -/
theorem proves_cleanupPurgedAgent (agentId : AgentId) (rest : List AgentId) :
    Proves setting terms .worker (fun world => world.AtRest terms none ∧
        ∀ id ∈ agentId :: rest, id ∈ world.db.purgedAgentTombstones)
      (cleanupPurgedAgent agentId)
      (fun _ world => world.AtRest terms none ∧ ∀ id ∈ rest, id ∈ world.db.purgedAgentTombstones)
      fun _ world => world.AtRest terms none := by
  have stands : Stands setting terms .worker fun world => world.AtRest terms none ∧
      ∀ id ∈ agentId :: rest, id ∈ world.db.purgedAgentTombstones :=
    (stands_atRest none).and (stands_tombstone _)
  refine .bind (Proves.consequence (fun _ => id) (Proves.calmAside ?_ stands
    fun _ world holds => holds.1.1.processing) (fun _ _ => id)
    fun _ _ holds => holds.1) fun _ => ?_
  · refine uses_bind ?_ fun _ => ?_
    · exact .step rfl fun _ => .done _
    refine uses_bind ?_ fun _ => ?_
    · exact .step rfl fun _ => .done _
    · exact .step rfl fun _ => .done _
  · refine .attempt stands fun world _ holds _ => ?_
    obtain ⟨⟨rest, accounted⟩, removed⟩ := holds
    have after : (perform .worker (.removeStateRoot agentId) world).2.Accounted terms := by
      intro kept
      simp only [perform]
      split
      · exact accounted kept
      · refine (accounted kept).withReceipts fun other receipt remains _ stored => ?_
        rw [storedReceipt_erase]
        split
        · next same =>
          rw [same] at remains
          exact absurd (removed agentId List.mem_cons_self) remains
        · exact ⟨receipt, stored, rfl⟩
    exact ⟨⟨fun _ impossible => impossible.elim, rfl⟩,
      fun _ _ => ⟨⟨{ rest with }, after⟩, fun id member =>
        removed id (List.mem_cons_of_mem _ member)⟩,
      fun _ _ => ⟨{ rest with }, after⟩⟩

theorem rests_cleanupPurgedAgentArtifacts :
    Rests setting terms none cleanupPurgedAgentArtifacts := by
  refine .bindTo (fun purged world => world.AtRest terms none ∧
    ∀ id ∈ purged, id ∈ world.db.purgedAgentTombstones) ?_ fun purged => ?_
  · refine attemptCalm rfl rfl (stands_atRest none) ?_ fun _ _ => id
    intro world _ _ purged listed
    simp only [perform, query] at listed ⊢
    split at listed
    · cases listed
    · rw [← Except.ok.inj listed]
      exact fun id => SqliteStore.mem_of_listPurgedAgentIds
  · exact .consequence (fun _ => id)
      (Proves.forEach (fun ids world => world.AtRest terms none ∧
        ∀ id ∈ ids, id ∈ world.db.purgedAgentTombstones) proves_cleanupPurgedAgent purged)
      (fun _ _ holds => holds.1) fun _ _ => id

theorem triple_observePass : (conduct setting terms).Triple (daemon setting) terms.admits .worker
      (fun world => world.AtRest terms none) observePass
      fun _ world => world.AtRest terms none := by
  have observes : Rests setting terms none observeDynamicAgents := by
    refine .bind (rests_gentle (gentle_attempt rfl rfl)) fun agents => ?_
    exact .forEach (fun _ world => world.AtRest terms none)
      (fun agent _ => rests_observeAgent agent) agents
  exact bind observes.anyway fun _ => rests_cleanupPurgedAgentArtifacts.dropped

theorem triple_reconcileOperationContained :
    (conduct setting terms).Triple (daemon setting) terms.admits .worker
      (fun world => world.AtRest terms (some id)) (reconcileOperationContained id)
      fun _ world => world.AtRest terms (some id) := by
  have journals : (conduct setting terms).Triple (daemon setting) terms.admits .worker
      (fun world => world.AtRest terms (some id))
      (Program.perform .appendReconciliationJournal)
      fun _ world => world.AtRest terms (some id) :=
    step (stands_atRest (some id)) (fun world sound rest admitted =>
      execute_calm rfl (duty_of_gentle setting terms rfl rfl) (stands_atRest (some id)) sound rest
        admitted) fun _ => done fun _ _ holds => holds
  refine bind journals fun _ => ?_
  refine bind rests_reconcileLifecycleOperation.anyway fun outcome => ?_
  cases outcome with
  | ok _ => exact done fun _ _ holds => holds
  | error _ => exact rests_failOperation.dropped

/-- Whatever the worker takes from its queue, it ends at rest. -/
theorem triple_process (work : ReconcileWork) :
    (conduct setting terms).Triple (daemon setting) terms.admits .worker
      (fun world => world.AtRest terms work.operationId?) work.process
      fun _ world => world.AtRest terms work.operationId? := by
  cases work with
  | operation id => exact triple_reconcileOperationContained
  | startupAgent id => exact (rests_reconcileStartupAgent id).dropped

end

end BuzzServer
