/-
This file proves that the reconciler keeps the terms.

The reconciler knows a process only by its receipt, so what it may conclude
rests on every live process being named by the receipt of its agent. That is
broken only between the start of a process and the write of its receipt, and
restored by that write. As long as it holds, a reconciler that saw the agent
disabled or deleted leaves it without a process.
-/

import BuzzServer.Daemon.Requests

namespace BuzzServer

open Relational Concurrent Discipline Concurrent.Fallible BuzzServer.Proves Reconciler World

/-! ### Assertions -/

variable (terms : Terms) (world : World)

/-- Every live process is named by its receipt, if receipts are durable. -/
def World.Accounted : Prop := terms.durable → world.Tracked

/-- The agent was removed or has no process, if receipts are durable. -/
def World.Gone (id : AgentId) : Prop :=
  terms.durable → id ∈ world.db.purgedAgentTombstones ∨ ¬world.Live id

/-- Every live process is named by its receipt, except for the one that was just started. -/
def World.Starting (receipt : ProcessReceipt) : Prop :=
  terms.durable → ∀ pid id, world.processes.lookup pid = some id →
    id ∈ world.db.purgedAgentTombstones ∨ (id = receipt.agentId ∧ pid = receipt.pid) ∨
      (id ≠ receipt.agentId ∧ ∃ stored, world.storedReceipt id = some stored ∧ stored.pid = pid)

/-- What the worker has taken on: the item of its queue, and the operation it reconciles,
which is to be finished unless it stands for an agent of the startup loop. -/
structure Job where
  item : Option OperationId
  operation : DurableOperation
  finishOperation : Bool

/-- The worker carries out a job, with these agents in its local variables. -/
structure World.Stage (terms : Terms) (job : Job) (cached reconciled : Option AgentSpec)
    (world : World) : Prop where
  processing : world.processing = job.item
  running : job.finishOperation = true → job.item = some job.operation.id ∧
    world.RunningFor terms job.operation.id job.operation.kind job.operation.agentId
  cached : world.cached = cached
  reconciled : world.reconciled = reconciled

/-- The worker has nothing in its local variables. -/
structure World.Unburdened (item : Option OperationId) (world : World) : Prop where
  processing : world.processing = item
  cached : world.cached = none
  reconciled : world.reconciled = none

variable {id : AgentId} {setting : Setting}

section

variable {terms : Terms}

theorem stands_accounted : Stands setting terms .worker fun world => world.Accounted terms :=
  fun _ _ tolerated _ _ accounted durable => (tolerated.worker rfl).tracked (accounted durable)

theorem stands_processing (item : Option OperationId) :
    Stands setting terms .worker fun world => world.processing = item :=
  fun _ _ tolerated _ _ same => (tolerated.worker rfl).processing.trans same

theorem stands_cached (agent : Option AgentSpec) :
    Stands setting terms .worker fun world => world.cached = agent :=
  fun _ _ tolerated _ _ same => (tolerated.worker rfl).cached.trans same

theorem stands_reconciled (agent : Option AgentSpec) :
    Stands setting terms .worker fun world => world.reconciled = agent :=
  fun _ _ tolerated _ _ same => (tolerated.worker rfl).reconciled.trans same

theorem stands_unburdened (item : Option OperationId) :
    Stands setting terms .worker fun world => world.Unburdened item :=
  fun before after tolerated held kept rest =>
    ⟨stands_processing item before after tolerated held kept rest.processing,
      stands_cached none before after tolerated held kept rest.cached,
      stands_reconciled none before after tolerated held kept rest.reconciled⟩

theorem WorkerTolerates.notLive {before after : World}
    (tolerated : WorkerTolerates terms before after) (gone : ¬before.Live id) :
    ¬after.Live id :=
  fun ⟨pid, live⟩ => gone ⟨pid, tolerated.processes pid id live⟩

theorem stands_gone (id : AgentId) :
    Stands setting terms .worker fun world => world.Gone terms id :=
  fun _ _ tolerated _ _ gone durable =>
    (gone durable).imp ((tolerated.worker rfl).tombstones id) (tolerated.worker rfl).notLive

theorem WorkerTolerates.storedReceipt {before after : World}
    (tolerated : WorkerTolerates terms before after) (id : AgentId) :
    after.storedReceipt id = before.storedReceipt id := by
  unfold World.storedReceipt
  rw [tolerated.receipts]

theorem stands_starting_process (receipt : ProcessReceipt) :
    Stands setting terms .worker fun world => world.Starting terms receipt := by
  intro before after tolerated _ _ starting durable pid id live
  have tolerates := tolerated.worker rfl
  rcases starting durable pid id (tolerates.processes pid id live) with
    removed | new | ⟨other, stored, found, names⟩
  · exact .inl (tolerates.tombstones id removed)
  · exact .inr (.inl new)
  · exact .inr (.inr ⟨other, stored, (tolerates.storedReceipt id).trans found, names⟩)

theorem stands_runningFor (id : OperationId) (kind : OperationKind) (agentId : Option AgentId) :
    Stands setting terms .worker fun world => world.RunningFor terms id kind agentId := by
  rintro before after tolerated _ _ ⟨operation, found, ofKind, running, names⟩
  obtain ⟨current, later, sameKind, sameStatus, sameAgent⟩ :=
    (tolerated.worker rfl).operations id operation found
  refine ⟨current, later, sameKind.trans ofKind, sameStatus.trans running, ?_⟩
  rcases sameAgent with same | gone
  · rw [same]
    exact names
  · exact .inr gone

theorem stands_stage (job : Job) (cached reconciled : Option AgentSpec) :
    Stands setting terms .worker fun world => world.Stage terms job cached reconciled :=
  fun before after tolerated held kept stage =>
    ⟨stands_processing job.item before after tolerated held kept stage.processing,
      fun finish => ⟨(stage.running finish).1,
        stands_runningFor _ _ _ before after tolerated held kept (stage.running finish).2⟩,
      stands_cached cached before after tolerated held kept stage.cached,
      stands_reconciled reconciled before after tolerated held kept stage.reconciled⟩

theorem stands_settled (id : AgentId) :
    Stands setting terms .worker fun world => world.Settled terms id := by
  rintro before after tolerated _ _ ⟨agent, seen, named, settled⟩
  have tolerates := tolerated.worker rfl
  exact ⟨agent, tolerates.reconciled.trans seen, named, fun inactive durable =>
    (settled inactive durable).imp (tolerates.tombstones id) tolerates.notLive⟩

theorem stands_tombstone (ids : List AgentId) : Stands setting terms .worker
      fun world => ∀ id ∈ ids, id ∈ world.db.purgedAgentTombstones :=
  fun _ _ tolerated _ _ removed id member =>
    (tolerated.worker rfl).tombstones id (removed id member)

end

/-! ### Receipts -/

/-- An assertion about neither receipts nor processes. -/
def Detached (extra : World → Prop) : Prop :=
  ∀ world receipts processes nextPid, extra world →
    extra { world with receipts := receipts, processes := processes, nextPid := nextPid }

/-- An assertion that does not depend on receipts. -/
def ReceiptFree (extra : World → Prop) : Prop :=
  ∀ world receipts, extra world → extra { world with receipts := receipts }

/-- The worker knows the receipt of an agent. -/
structure World.Watching (terms : Terms) (extra : World → Prop) (id : AgentId)
    (receipt : Option ProcessReceipt) (world : World) : Prop where
  extra : extra world
  accounted : world.Accounted terms
  stored : world.storedReceipt id = receipt

theorem Detached.receiptFree {extra : World → Prop} (detached : Detached extra) :
    ReceiptFree extra :=
  fun world receipts holds => detached world receipts world.processes world.nextPid holds

theorem detached_stage (job : Job) (cached reconciled : Option AgentSpec) :
    Detached fun world => world.Stage terms job cached reconciled :=
  fun _ _ _ _ stage => { stage with }

theorem detached_unburdened (item : Option OperationId) :
    Detached fun world => world.Unburdened item :=
  fun _ _ _ _ rest => { rest with }

variable {world : World}

theorem World.storedReceipt_agentId {receipt : ProcessReceipt}
    (stored : world.storedReceipt id = some receipt) : receipt.agentId = id := by
  obtain ⟨-, named⟩ := Option.filter_eq_some_iff.mp stored
  exact of_decide_eq_true named

theorem World.storedReceipt_insert (world : World) (written : ProcessReceipt) (id : AgentId) :
    { world with
      receipts := world.receipts.insert written.agentId written : World }.storedReceipt id =
      if id = written.agentId then some written else world.storedReceipt id := by
  unfold World.storedReceipt
  rw [Table.lookup_insert_eq]
  split
  · next same => simp [same]
  · rfl

theorem World.storedReceipt_erase (world : World) (removed id : AgentId) :
    { world with receipts := world.receipts.erase removed : World }.storedReceipt id =
      if id = removed then none else world.storedReceipt id := by
  unfold World.storedReceipt
  rw [Table.lookup_erase_eq]
  split <;> rfl

/-- Receipts may change as long as the agents with a process keep theirs. -/
theorem World.Tracked.withReceipts (tracked : world.Tracked)
    {receipts : Table AgentId ProcessReceipt}
    (kept : ∀ id receipt, id ∉ world.db.purgedAgentTombstones → world.Live id →
      world.storedReceipt id = some receipt →
        ∃ later, { world with receipts := receipts : World }.storedReceipt id = some later ∧
          later.pid = receipt.pid) :
    { world with receipts := receipts : World }.Tracked := by
  intro pid id live
  by_cases removed : id ∈ world.db.purgedAgentTombstones
  · exact .inl removed
  · rcases tracked pid id live with gone | ⟨receipt, stored, names⟩
    · exact absurd gone removed
    · obtain ⟨later, found, same⟩ := kept id receipt removed ⟨pid, live⟩ stored
      exact .inr ⟨later, found, same.trans names⟩

/-- An agent whose receipt names no process has none. -/
theorem World.Accounted.gone {terms : Terms} (accounted : world.Accounted terms)
    (unnamed : ∀ receipt, world.storedReceipt id = some receipt →
      world.processes.lookup receipt.pid ≠ some id) : world.Gone terms id := by
  intro durable
  by_cases removed : id ∈ world.db.purgedAgentTombstones
  · exact .inl removed
  · refine .inr fun ⟨pid, live⟩ => ?_
    rcases accounted durable pid id live with gone | ⟨receipt, stored, rfl⟩
    · exact removed gone
    · exact unnamed receipt stored live

theorem World.Watching.gone {terms : Terms} {extra : World → Prop}
    (watching : world.Watching terms extra id none) : world.Gone terms id :=
  watching.accounted.gone fun _ stored => nomatch watching.stored.symm.trans stored

/-! ### The supervisor and the receipt store -/

variable {extra : World → Prop}

section

variable {terms : Terms}
variable {Error : Type} {durable written : ProcessReceipt}

theorem stands_watching (stands : Stands setting terms .worker extra)
    (receipt : Option ProcessReceipt) :
    Stands setting terms .worker fun world => world.Watching terms extra id receipt :=
  fun before after tolerated held kept watching =>
    ⟨stands before after tolerated held kept watching.extra,
      stands_accounted before after tolerated held kept watching.accounted,
      ((tolerated.worker rfl).storedReceipt id).trans watching.stored⟩

/-- The accounts hold next to what else does. -/
abbrev Accounting (terms : Terms) (extra : World → Prop) (world : World) : Prop :=
  extra world ∧ world.Accounted terms

theorem stands_extraAccounted (stands : Stands setting terms .worker extra) :
    Stands setting terms .worker (Accounting terms extra) :=
  stands.and stands_accounted

theorem detached_receiptFree_gone (detached : Detached extra) {condition : Prop} :
    ReceiptFree fun world => extra world ∧ (condition → world.Gone terms id) :=
  fun world receipts holds => ⟨detached.receiptFree world receipts holds.1, holds.2⟩

theorem stands_extraGone (stands : Stands setting terms .worker extra) {condition : Prop} :
    Stands setting terms .worker fun world => extra world ∧ (condition → world.Gone terms id) :=
  stands.and fun before after tolerated held kept gone met =>
    stands_gone id before after tolerated held kept (gone met)

theorem World.putReceipt_cases (thread : Thread) (world : World) (written : ProcessReceipt) :
    (∃ error, perform thread (.putReceipt written) world = (.error error, world)) ∨
      perform thread (.putReceipt written) world =
        (.ok (), { world with receipts := world.receipts.insert written.agentId written }) := by
  simp only [perform, failIf]
  split
  · exact .inl ⟨_, rfl⟩
  · exact .inr rfl

theorem World.live_of_stop {thread : Thread} {pid : Nat}
    (live : (perform thread (.stop written) world).2.processes.lookup pid = some id) :
    world.processes.lookup pid = some id := by
  simp only [perform] at live
  split at live
  · exact live
  · rw [Table.lookup_erase_eq] at live
    split at live
    · cases live
    · exact live

/-- A stop that succeeds returns the receipt it was given, and the process is gone. -/
theorem World.stop_ok {thread : Thread} {stopped : ProcessReceipt}
    (outcome : (perform thread (.stop written) world).1 = .ok stopped) :
    (stopped.agentId = written.agentId ∧ stopped.pid = written.pid) ∧
      (perform thread (.stop written) world).2.processes.lookup written.pid ≠
        some written.agentId := by
  simp only [perform, failIf] at outcome ⊢
  split at outcome
  · cases outcome
  · next working =>
    cases outcome
    refine ⟨⟨rfl, rfl⟩, ?_⟩
    split
    · next kept => exact kept.resolve_left working
    · simp

variable {failure : Error → World → Prop} {translate : StorageError → Error}
variable (stands : Stands setting terms .worker extra)
  (abandon : ∀ error world, extra world → world.Accounted terms → failure error world)

include stands abandon

theorem proves_getReceipt : Proves setting terms .worker (Accounting terms extra)
      (attempt translate (.getReceipt id))
      (fun receipt world => world.Watching terms extra id receipt) failure := by
  refine attempt (stands_extraAccounted stands) fun world _ holds _ => ?_
  refine ⟨duty_of_gentle setting terms rfl rfl,
    fun receipt found => ?_, fun error _ => abandon _ _ holds.1 holds.2⟩
  simp only [perform, failIf] at found ⊢
  split at found
  · cases found
  · exact ⟨holds.1, holds.2, Except.ok.inj found⟩

/-- A terminal observation of the process that the receipt names tells that the agent has
none. -/
theorem proves_inspect {translate : SupervisorError → Error} :
    Proves setting terms .worker (fun world => world.Watching terms extra id (some durable))
      (attempt translate (.inspect durable))
      (fun observed world =>
        world.Watching terms (fun world => extra world ∧
          (observed.observedState.isTerminal = true → world.Gone terms id)) id (some durable) ∧
        (observed.agentId = id ∧ observed.pid = durable.pid))
      failure := by
  refine attempt (stands_watching stands _) fun world sound watching admitted => ?_
  refine ⟨duty_of_gentle setting terms rfl rfl,
    fun observed outcome => ?_, fun error _ => abandon _ _ watching.extra watching.accounted⟩
  simp only [perform, failIf] at outcome ⊢
  have named := storedReceipt_agentId watching.stored
  split at outcome
  · cases outcome
  · cases outcome
    refine ⟨⟨⟨watching.extra, fun terminal => ?_⟩, watching.accounted, watching.stored⟩, named, rfl⟩
    refine watching.accounted.gone fun receipt stored live => ?_
    obtain rfl : durable = receipt := Option.some.inj (watching.stored.symm.trans stored)
    rw [observe, named, if_pos live] at terminal
    cases terminal

/-- Writing a receipt that names the same process. -/
theorem proves_putReceipt (free : ReceiptFree extra) (named : written.agentId = id)
    (same : written.pid = durable.pid) :
    Proves setting terms .worker (fun world => world.Watching terms extra id (some durable))
      (attempt translate (.putReceipt written))
      (fun _ world => world.Watching terms extra id (some written)) failure := by
  refine attempt (stands_watching stands _) fun world sound watching admitted => ?_
  refine ⟨⟨fun _ impossible => impossible.elim, rfl⟩, ?_⟩
  rcases putReceipt_cases .worker world written with ⟨error, failed⟩ | wrote
  · rw [failed]
    exact ⟨nofun, fun _ _ => abandon _ _ watching.extra watching.accounted⟩
  · rw [wrote]
    refine ⟨fun _ _ => ⟨free world _ watching.extra, fun kept => ?_, ?_⟩, nofun⟩
    · refine (watching.accounted kept).withReceipts fun other receipt _ _ stored => ?_
      rw [storedReceipt_insert]
      split
      · next this =>
        rw [this, named, watching.stored] at stored
        exact ⟨written, rfl, same.trans (congrArg _ (Option.some.inj stored))⟩
      · exact ⟨receipt, stored, rfl⟩
    · rw [storedReceipt_insert, if_pos named.symm]

/-- Stopping the process that the receipt names leaves the agent without one. -/
theorem proves_stop {translate : SupervisorError → Error} (detached : Detached extra)
    (named : written.agentId = id) (same : written.pid = durable.pid) :
    Proves setting terms .worker (fun world => world.Watching terms extra id (some durable))
      (attempt translate (.stop written))
      (fun stopped world =>
        world.Watching terms (fun world => extra world ∧ (True → world.Gone terms id)) id
          (some durable) ∧ (stopped.agentId = id ∧ stopped.pid = durable.pid))
      failure := by
  refine attempt (stands_watching stands _) fun world sound watching admitted => ?_
  have accounted : (perform .worker (.stop written) world).2.Accounted terms := by
    intro kept pid other live
    exact watching.accounted kept pid other (live_of_stop live)
  have carried : extra (perform .worker (.stop written) world).2 :=
    detached world world.receipts _ world.nextPid watching.extra
  refine ⟨⟨fun _ impossible => impossible.elim, trivial⟩, fun stopped outcome => ?_,
    fun error _ => abandon _ _ carried accounted⟩
  obtain ⟨returned, gone⟩ := stop_ok outcome
  rw [named, same] at returned gone
  refine ⟨⟨⟨carried, fun _ => accounted.gone fun receipt stored => ?_⟩, accounted,
    watching.stored⟩, returned⟩
  cases watching.stored.symm.trans stored
  exact gone

/-- The receipt of an agent without a process can be removed. -/
theorem proves_deleteReceipt (free : ReceiptFree extra) :
    Proves setting terms .worker (fun world => Accounting terms extra world ∧ world.Gone terms id)
      (attempt translate (.deleteReceipt id))
      (fun _ world => Accounting terms extra world ∧ world.Gone terms id) failure := by
  refine attempt ((stands_extraAccounted stands).and (stands_gone id)) fun world _ holds _ => ?_
  obtain ⟨⟨held, accounted⟩, gone⟩ := holds
  have carried : extra (perform .worker (.deleteReceipt id) world).2 := free world _ held
  have after : (perform .worker (.deleteReceipt id) world).2.Accounted terms := by
    intro kept
    simp only [perform]
    split
    · exact accounted kept
    · refine (accounted kept).withReceipts fun other receipt remains live stored => ?_
      rw [storedReceipt_erase]
      split
      · next same =>
        subst same
        exact absurd live ((gone kept).resolve_left remains)
      · exact ⟨receipt, stored, rfl⟩
  exact ⟨⟨fun _ impossible => impossible.elim, rfl⟩, fun _ _ => ⟨⟨carried, after⟩, gone⟩,
    fun _ _ => abandon _ _ carried after⟩

/-- Writing the receipt of a process that was just started. -/
theorem proves_putStarted (free : ReceiptFree extra) :
    Proves setting terms .worker (fun world => extra world ∧ world.Starting terms written)
      (attempt translate (.putReceipt written)) (fun _ => Accounting terms extra)
      failure := by
  refine attempt (stands.and (stands_starting_process written)) fun world _ holds admitted => ?_
  have carried : extra (perform .worker (.putReceipt written) world).2 := free world _ holds.1
  have after : (perform .worker (.putReceipt written) world).2.Accounted terms := by
    intro kept pid other live
    simp only [perform, show world.faults.receiptWrite = false from admitted kept,
      Bool.false_eq_true, if_false] at live ⊢
    rw [storedReceipt_insert]
    rcases holds.2 kept pid other live with removed | ⟨same, pid⟩ | ⟨different, named⟩
    · exact .inl removed
    · exact .inr ⟨written, if_pos same, pid.symm⟩
    · rw [if_neg different]
      exact .inr named
  exact ⟨⟨fun _ impossible => impossible.elim, rfl⟩, fun _ _ => ⟨carried, after⟩,
    fun _ _ => abandon _ _ carried after⟩

end

/-! ### The reconciler -/

section

variable {terms : Terms}

theorem proves_startProcess {desired : LaunchSpec}
    (stands : Stands setting terms .worker extra) (detached : Detached extra)
    (permitted : ∀ world, extra world → ∃ agent, world.reconciled = some agent ∧
      agent.id = desired.agentId ∧ agent.desiredState = .enabled) :
    Proves setting terms .worker
      (fun world => Accounting terms extra world ∧ world.Gone terms desired.agentId)
      (startProcess desired) (fun _ => Accounting terms extra)
      fun _ => Accounting terms extra := by
  refine bindTo (fun outcome world => extra world ∧ match outcome with
    | .ok started => world.Starting terms started
    | .error _ => world.Accounted terms) ?_ fun outcome => ?_
  · refine always ((stands_extraAccounted stands).and (stands_gone _)) fun world _ holds _ => ?_
    obtain ⟨⟨held, accounted⟩, gone⟩ := holds
    refine ⟨⟨fun _ impossible => impossible.elim, rfl, permitted world held⟩,
      detached world world.receipts _ _ held, ?_⟩
    cases failing : world.faults.start with
    | some error =>
      simp only [perform, failing]
      exact accounted
    | none =>
      simp only [perform, failing]
      intro kept pid other live
      simp only [Option.isSome_none, Bool.false_eq_true, if_false] at live
      rw [Table.lookup_insert_eq] at live
      split at live
      · next new => exact .inr (.inl ⟨(Option.some.inj live).symm, new⟩)
      · by_cases same : other = desired.agentId
        · subst same
          exact (gone kept).imp id fun absent => absurd ⟨pid, live⟩ absent
        · exact (accounted kept pid other live).imp id fun named => .inr ⟨same, named⟩
  · cases outcome with
    | ok started =>
      exact bind (proves_putStarted stands (fun _ _ => .intro) detached.receiptFree)
        fun _ => pure fun _ => id
    | error error =>
      cases error with
      | io => exact throw fun _ => id
      | _ => exact pure fun _ => id

/-- What was written stays known, and so does that the process was gone. -/
theorem proves_ensureStarted {desired : LaunchSpec} (receipt : Option ProcessReceipt)
    (stands : Stands setting terms .worker extra) (detached : Detached extra)
    (permitted : ∀ world, extra world → ∃ agent, world.reconciled = some agent ∧
      agent.id = desired.agentId ∧ agent.desiredState = .enabled) :
    Proves setting terms .worker (fun world => world.Watching terms extra desired.agentId receipt)
      (ensureStarted desired receipt)
      (fun _ => Accounting terms extra)
      fun _ => Accounting terms extra := by
  have starts := proves_startProcess stands detached permitted
  cases receipt with
  | none =>
    exact starts.given fun world watching => ⟨⟨watching.extra, watching.accounted⟩, watching.gone⟩
  | some durable =>
    refine bind (proves_inspect stands fun _ _ => .intro)
      fun observed => assume fun same => ?_
    refine bind (proves_putReceipt (stands_extraGone stands) (fun _ _ held => .intro held.1)
      (detached_receiptFree_gone detached) same.1 same.2) fun _ => ?_
    split
    · exact pure fun world watching => ⟨watching.extra.1, watching.accounted⟩
    split
    · next terminal =>
      exact starts.given fun world watching =>
        ⟨⟨watching.extra.1, watching.accounted⟩, watching.extra.2 terminal⟩
    refine bind (given
      (fun world watching => ⟨watching.extra.1, watching.accounted, watching.stored⟩)
      (proves_stop stands (fun _ _ => .intro) detached same.1 rfl))
      fun stopped => assume fun still => ?_
    refine bind (proves_putReceipt (stands_extraGone stands) (fun _ _ held => .intro held.1)
      (detached_receiptFree_gone detached) still.1 still.2) fun _ => ?_
    exact starts.given fun world watching =>
      ⟨⟨watching.extra.1, watching.accounted⟩, watching.extra.2 trivial⟩

theorem proves_ensureStopped (receipt : Option ProcessReceipt)
    (stands : Stands setting terms .worker extra) (detached : Detached extra) :
    Proves setting terms .worker (fun world => world.Watching terms extra id receipt)
      (ensureStopped id receipt)
      (fun _ world => Accounting terms extra world ∧ world.Gone terms id)
      fun _ => Accounting terms extra := by
  have deletes : Proves setting terms .worker
      (fun world => Accounting terms extra world ∧ world.Gone terms id)
      (attempt ReconcileError.storage (.deleteReceipt id))
      (fun _ world => Accounting terms extra world ∧ world.Gone terms id)
      fun _ => Accounting terms extra :=
    proves_deleteReceipt stands (fun _ _ => .intro) detached.receiptFree
  cases receipt with
  | none =>
    exact pure fun world watching => ⟨⟨watching.extra, watching.accounted⟩, watching.gone⟩
  | some durable =>
    refine bind (proves_inspect stands fun _ _ => .intro)
      fun observed => assume fun same => ?_
    split
    · next terminal =>
      exact bind (deletes.given fun world watching =>
        ⟨⟨watching.extra.1, watching.accounted⟩, watching.extra.2 terminal⟩)
        fun _ => pure fun _ holds => holds
    refine bind (given
      (fun world watching => ⟨watching.extra.1, watching.accounted, watching.stored⟩)
      (proves_stop stands (fun _ _ => .intro) detached same.1 same.2))
      fun stopped => assume fun still => ?_
    refine bind (proves_putReceipt (stands_extraGone stands) (fun _ _ held => .intro held.1)
      (detached_receiptFree_gone detached) still.1 still.2) fun _ => ?_
    exact bind (deletes.given fun world watching =>
      ⟨⟨watching.extra.1, watching.accounted⟩, watching.extra.2 trivial⟩)
      fun _ => pure fun _ holds => holds

/-- Once the reconciler has dealt with an agent it saw disabled or deleted, the agent has no
process. -/
theorem proves_reconcileDesired {agent : AgentSpec} (launch : Option LaunchSpec)
    (stands : Stands setting terms .worker extra) (detached : Detached extra)
    (seen : ∀ world, extra world → world.reconciled = some agent) :
    Proves setting terms .worker (Accounting terms extra) (reconcileDesired agent launch)
      (fun _ world => Accounting terms extra world ∧
        (agent.desiredState ≠ .enabled → world.Gone terms agent.id))
      fun _ => Accounting terms extra := by
  have stops : ∀ receipt, Proves setting terms .worker
      (fun world => world.Watching terms extra agent.id receipt)
      (ensureStopped agent.id receipt)
      (fun _ world => Accounting terms extra world ∧
        (agent.desiredState ≠ .enabled → world.Gone terms agent.id))
      fun _ => Accounting terms extra := fun receipt =>
    consequence (fun _ => id) (proves_ensureStopped receipt stands detached)
      (fun _ _ holds => ⟨holds.1, fun _ => holds.2⟩) fun _ _ => id
  unfold reconcileDesired
  split
  · exact throw fun _ => id
  refine bind (proves_getReceipt stands fun _ _ => .intro)
    fun receipt => ?_
  split
  · exact stops receipt
  · exact stops receipt
  · next enabled =>
    split
    · exact throw fun _ watching => ⟨watching.extra, watching.accounted⟩
    split
    · exact throw fun _ watching => ⟨watching.extra, watching.accounted⟩
    · next desired same =>
      have named : desired.agentId = agent.id := not_not.mp same
      rw [← named]
      refine consequence (fun _ => id)
        (proves_ensureStarted receipt stands detached fun world held => ?_)
        (fun _ _ holds => ⟨holds, fun disabled => absurd enabled disabled⟩) fun _ _ => id
      exact ⟨agent, seen world held, named.symm, enabled⟩

/-- The worker carries out a job and has written back what it read. -/
def World.Carrying (terms : Terms) (job : Job) (world : World) : Prop :=
  ∃ reconciled, world.Stage terms job none reconciled

theorem stands_carrying (job : Job) :
    Stands setting terms .worker fun world => world.Carrying terms job :=
  fun before after tolerated held kept ⟨reconciled, stage⟩ =>
    ⟨reconciled, stands_stage job none reconciled before after tolerated held kept stage⟩

/-- The worker keeps the agent it has read in the slot it reads into. -/
theorem proves_getAgent {Error : Type} {translate : StorageError → Error} {job : Job}
    {agentId : AgentId} {failure : Error → World → Prop} (slot : AgentSlot)
    (abandon : ∀ error world, world.Stage terms job none none → world.Accounted terms →
      failure error world) :
    Proves setting terms .worker
      (fun world => world.Stage terms job none none ∧ world.Accounted terms)
      (attempt translate (.getAgent slot agentId))
      (fun row world => (world.Stage terms job (if slot = .cached then row else none)
          (if slot = .reconciled then row else none) ∧ world.Accounted terms) ∧
        (∀ agent, row = some agent → agent.id = agentId)) failure := by
  refine attempt (stands_extraAccounted (stands_stage job none none)) fun world sound holds _ => ?_
  refine ⟨⟨fun _ impossible => impossible.elim, trivial⟩, fun row found => ?_, fun _ failed => ?_⟩
  · simp only [perform] at found ⊢
    rw [found]
    refine ⟨⟨⟨holds.1.processing, holds.1.running, ?_, ?_⟩, holds.2⟩, fun agent same => ?_⟩
    · cases row <;> cases slot <;> first | rfl | exact holds.1.cached
    · cases row <;> cases slot <;> first | rfl | exact holds.1.reconciled
    · subst same
      unfold query at found
      split at found
      · cases found
      · exact sound.consistent.agentKeyed _ _ (Except.ok.inj found)
  · simp only [perform] at failed ⊢
    rw [failed]
    exact abandon _ _ { holds.1 with } holds.2

theorem proves_reconcile {job : Job} {agentId : AgentId}
    (running : job.operation.status = .running) (launch : Option LaunchSpec) :
    Proves setting terms .worker
      (fun world => world.Stage terms job none none ∧ world.Accounted terms)
      (reconcile agentId job.operation launch)
      (fun _ world => (world.Carrying terms job ∧ world.Accounted terms) ∧
        world.Settled terms agentId)
      fun _ world => world.Carrying terms job ∧ world.Accounted terms := by
  unfold reconcile
  split
  · exact throw fun _ holds => ⟨⟨none, holds.1⟩, holds.2⟩
  rw [running]
  refine bind (proves_getAgent .reconciled fun _ _ stage accounted =>
    ⟨⟨none, stage⟩, accounted⟩) fun row => assume fun keyed => ?_
  cases row with
  | none => exact throw fun _ holds => ⟨⟨none, holds.1⟩, holds.2⟩
  | some agent =>
    refine consequence (fun _ => id) (proves_reconcileDesired launch
      (stands_stage job none (some agent)) (detached_stage terms job none (some agent))
      fun _ stage => stage.reconciled) ?_ fun _ _ holds => ⟨⟨_, holds.1⟩, holds.2⟩
    intro _ world ⟨⟨stage, accounted⟩, gone⟩
    refine ⟨⟨⟨_, stage⟩, accounted⟩, agent, stage.reconciled, keyed agent rfl, ?_⟩
    rw [← keyed agent rfl]
    exact gone

end

end BuzzServer
