/-
This file is about calls of the reconciler that are cut short.

A process is started before its receipt is written, and after a crash the next
call knows only what the receipts say. So an agent can end up with two
processes: the one whose receipt was never written is started once more. As
long as no crash and no failing write falls into that window, every agent has
at most one process, whatever the calls ask for and whatever else fails.
-/

import BuzzServer.Convergence

namespace BuzzServer

open Relational Concurrent Discipline Concurrent.Fallible Discipline.Triple World

/-! ### Calls, crashes and what happens in between -/

/-- Changes that write no receipt and start no process: processes exit, rows and files change,
and so does what fails. -/
structure World.Drifts (before after : World) : Prop where
  receipts : after.receipts = before.receipts
  nextPid : after.nextPid = before.nextPid
  processes : ∀ pid id, after.processes.lookup pid = some id → before.processes.lookup pid = some id

/-- The calls of the reconciler. Their outcome does not matter to what they leave. -/
inductive ReconcilerCall : Program Action Unit → Prop
  | reconcile (agentId : AgentId) (operation : DurableOperation) (launch : Option LaunchSpec) :
      ReconcilerCall ((Reconciler.reconcile agentId operation launch).run.bind fun _ => .done ())
  | reconcileDesired (agent : AgentSpec) (launch : Option LaunchSpec) :
      ReconcilerCall ((Reconciler.reconcileDesired agent launch).run.bind fun _ => .done ())

/-- Runs of calls, one after another. A crash in a world that permits it ends the call that is
under way, between any two of its actions. -/
def reconciliations (crashes : World → Prop) : System Unit Action World where
  perform := fun _ => perform .worker
  starts := fun _ world program after => ReconcilerCall program ∧ after = world
  environment := World.Drifts
  restarts := fun world after threads =>
    crashes world ∧ world.Drifts after ∧ threads = fun _ => .done ()

/-- No write of a receipt fails while a live process is not named by a receipt. -/
def recordsStarts : Condition Unit Action World :=
  fun _ _ action world =>
    match action with
    | .putReceipt _ => world.faults.receiptWrite = true → world.Named
    | _ => True

/-! ### The terms of the calls -/

/-- No agent has two live processes, and none has an id that is still to be given out. -/
structure World.Single (world : World) : Prop where
  single : ∀ id first second, world.processes.lookup first = some id →
    world.processes.lookup second = some id → first = second
  numbered : ∀ pid id, world.processes.lookup pid = some id → pid < world.nextPid

/-- Every live process is named by its receipt, except for the one that was just started. -/
def World.Spawning (started : ProcessReceipt) (world : World) : Prop :=
  ∀ pid id, world.processes.lookup pid = some id → (id = started.agentId ∧ pid = started.pid) ∨
      (id ≠ started.agentId ∧ ∃ receipt, world.storedReceipt id = some receipt ∧ receipt.pid = pid)

/-- The live processes are named, this is the stored receipt of the agent, and under a
condition the agent has no process. -/
structure World.Watched (id : AgentId) (receipt : Option ProcessReceipt) (gone : Prop)
    (world : World) : Prop where
  named : world.Named
  stored : world.storedReceipt id = receipt
  absent : gone → ¬world.Live id

/-- Between calls every live process is named. -/
def supervision : Discipline Unit Action World where
  invariant := World.Single
  rely := fun _ => World.Drifts
  duty := unrestricted Unit Action World
  idle := fun _ => World.Named

/-- A program of the reconciler leads from one assertion to another, and to named processes if
it fails. -/
abbrev Supervises {Result : Type} (pre : World → Prop) (program : Reconciliation Result)
    (post : Result → World → Prop) : Prop :=
  supervision.Triple (reconciliations World.Named) recordsStarts () pre program.run
    (onOutcome post fun _ => World.Named)

section

variable {before after : World}

theorem World.Drifts.refl (world : World) : world.Drifts world := ⟨rfl, rfl, fun _ _ => id⟩

theorem World.Drifts.trans {later : World} (first : before.Drifts after)
    (second : after.Drifts later) : before.Drifts later :=
  ⟨second.receipts.trans first.receipts, second.nextPid.trans first.nextPid,
    fun pid id live => first.processes pid id (second.processes pid id live)⟩

variable (drifts : before.Drifts after)

include drifts

theorem World.Drifts.storedReceipt (id : AgentId) :
    after.storedReceipt id = before.storedReceipt id := by
  unfold World.storedReceipt
  rw [drifts.receipts]

theorem World.Drifts.single (single : before.Single) : after.Single where
  single := fun id first second one other =>
    single.single id first second (drifts.processes _ _ one) (drifts.processes _ _ other)
  numbered := fun pid id live => by
    rw [drifts.nextPid]
    exact single.numbered pid id (drifts.processes _ _ live)

theorem World.Drifts.named (named : before.Named) : after.Named := by
  intro pid id live
  rw [drifts.storedReceipt]
  exact named pid id (drifts.processes pid id live)

theorem World.Drifts.gone {id : AgentId} (gone : ¬before.Live id) : ¬after.Live id :=
  fun ⟨pid, live⟩ => gone ⟨pid, drifts.processes pid id live⟩

theorem World.Drifts.spawning {started : ProcessReceipt} (spawning : before.Spawning started) :
    after.Spawning started := by
  intro pid id live
  rw [drifts.storedReceipt]
  exact spawning pid id (drifts.processes pid id live)

theorem World.Drifts.watched {id : AgentId} {receipt : Option ProcessReceipt} {gone : Prop}
    (watched : before.Watched id receipt gone) : after.Watched id receipt gone :=
  ⟨drifts.named watched.named, (drifts.storedReceipt id).trans watched.stored,
    fun condition => drifts.gone (watched.absent condition)⟩

end

/-- An assertion that nothing destroys between two actions. -/
abbrev Lasts (assertion : World → Prop) : Prop := supervision.Stable () assertion

theorem lasts_named : Lasts World.Named := fun _ _ drifts _ _ named => drifts.named named

theorem lasts_spawning (started : ProcessReceipt) : Lasts (World.Spawning started) :=
  fun _ _ drifts _ _ spawning => drifts.spawning spawning

theorem lasts_watched (id : AgentId) (receipt : Option ProcessReceipt) (gone : Prop) :
    Lasts (World.Watched id receipt gone) :=
  fun _ _ drifts _ _ watched => drifts.watched watched

theorem lasts_absent (id : AgentId) : Lasts fun world => world.Named ∧ ¬world.Live id :=
  fun _ _ drifts _ _ holds => ⟨drifts.named holds.1, drifts.gone holds.2⟩

/-! ### Rules -/

namespace Supervises

variable {Result First Second Other : Type} {pre : World → Prop}
variable {post : Result → World → Prop}

theorem pure {result : Result} (implies : ∀ world, pre world → post result world) :
    Supervises pre (Pure.pure result : Reconciliation Result) post :=
  done fun world _ holds => implies world holds

theorem throw {error : ReconcileError} (named : ∀ world, pre world → world.Named) :
    Supervises pre (MonadExcept.throw error : Reconciliation Result) post :=
  done fun world _ holds => named world holds

theorem bind {program : Reconciliation First} {continuation : First → Reconciliation Second}
    {middle : First → World → Prop} {post : Second → World → Prop}
    (first : Supervises pre program middle)
    (rest : ∀ value, Supervises (middle value) (continuation value) post) :
    Supervises pre (program >>= continuation) post :=
  fallibleBind first rest

variable {program : Reconciliation Result}

theorem given {stronger : World → Prop}
    (implies : ∀ world, stronger world → pre world) (triple : Supervises pre program post) :
    Supervises stronger program post :=
  consequence (fun world _ holds => implies world holds) triple fun _ _ => id

/-- A fact about what was returned can be used for the rest. -/
theorem assume {fact : Prop} (triple : fact → Supervises pre program post) :
    Supervises (fun world => fact ∧ pre world) program post :=
  ⟨fun world held holds => (triple holds.1).meets world held holds.2⟩

theorem attempt {translate : Other → ReconcileError} {action : Action (Except Other Result)}
    (lasts : Lasts pre)
    (execute : ∀ world, world.Single → pre world → recordsStarts () action world →
      (perform .worker action world).2.Single ∧
        (∀ value, (perform .worker action world).1 = .ok value →
          post value (perform .worker action world).2) ∧
        ∀ error, (perform .worker action world).1 = .error error →
          (perform .worker action world).2.Named) :
    Supervises pre (attempt translate action) post := by
  have finish : ∀ outcome : Except Other Result,
      supervision.Triple (reconciliations World.Named) recordsStarts ()
        (onOutcome post (fun _ => World.Named) (outcome.mapError translate))
        (.done (outcome.mapError translate)) (onOutcome post fun _ => World.Named) :=
    fun outcome => done fun _ _ => id
  refine step lasts (fun world single holds admitted => ?_) finish
  obtain ⟨kept, succeeds, fails⟩ := execute world single holds admitted
  refine ⟨trivial, ⟨kept, fun _ differs => absurd rfl differs⟩, ?_⟩
  show onOutcome post (fun _ => World.Named)
    (Except.mapError translate (perform .worker action world).1) (perform .worker action world).2
  cases outcome : (perform .worker action world).1 with
  | ok value => exact succeeds value outcome
  | error error => exact fails error outcome

end Supervises

/-! ### The reconciler keeps the terms -/

section

variable {id : AgentId} {durable written : ProcessReceipt}

theorem supervises_getReceipt (id : AgentId) :
    Supervises World.Named (attempt .storage (.getReceipt id))
      fun receipt => World.Watched id receipt (receipt = none) := by
  refine Supervises.attempt lasts_named fun world single named _ => ⟨single, ?_, fun _ _ => named⟩
  intro receipt outcome
  simp only [perform, failIf] at outcome
  split at outcome
  · cases outcome
  · cases outcome
    refine ⟨named, rfl, fun nothing => named.gone fun receipt found => ?_⟩
    cases nothing.symm.trans found

/-- A terminal observation of the process that the receipt names tells that the agent has
none. -/
theorem supervises_inspect (gone : Prop) : Supervises (World.Watched id (some durable) gone)
      (attempt .supervisor (.inspect durable)) fun observed world =>
        (observed.agentId = id ∧ observed.pid = durable.pid) ∧
          world.Watched id (some durable) (observed.observedState.isTerminal = true) := by
  refine Supervises.attempt (lasts_watched _ _ _) fun world single watched _ =>
    ⟨single, ?_, fun _ _ => watched.named⟩
  intro observed outcome
  simp only [perform, failIf] at outcome ⊢
  split at outcome
  · cases outcome
  · cases outcome
    have owner := storedReceipt_agentId watched.stored
    refine ⟨⟨owner, rfl⟩, watched.named, watched.stored, fun terminal => ?_⟩
    refine watched.named.gone fun receipt found => ?_
    cases watched.stored.symm.trans found
    exact owner ▸ (world.observe_terminal durable).mp terminal

/-- Writing a receipt that names the same process. -/
theorem supervises_putReceipt {gone : Prop} (owner : written.agentId = id)
    (same : written.pid = durable.pid) :
    Supervises (World.Watched id (some durable) gone) (Reconciler.putReceipt written)
      fun _ => World.Watched id (some written) gone := by
  refine Supervises.attempt (lasts_watched _ _ _) fun world single watched _ =>
    ⟨⟨single.single, single.numbered⟩, ?_⟩
  rcases putReceipt_cases .worker world written with ⟨error, failed⟩ | wrote
  · rw [failed]
    exact ⟨nofun, fun _ _ => watched.named⟩
  · rw [wrote]
    refine ⟨fun _ _ => ⟨fun pid other live => ?_, ?_, watched.absent⟩, nofun⟩
    · obtain ⟨receipt, found, names⟩ := watched.named pid other live
      rw [storedReceipt_insert]
      split
      · next this =>
        rw [this, owner, watched.stored] at found
        cases found
        exact ⟨written, rfl, same.trans names⟩
      · exact ⟨receipt, found, names⟩
    · rw [storedReceipt_insert, if_pos owner.symm]

/-- Stopping a process drifts. -/
theorem World.drifts_stop (world : World) (receipt : ProcessReceipt) :
    world.Drifts (perform .worker (.stop receipt) world).2 :=
  ⟨rfl, rfl, fun _ _ => live_of_stop⟩

/-- Stopping the process that the receipt names leaves the agent without one. -/
theorem supervises_stop {gone : Prop} (owner : written.agentId = id)
    (same : written.pid = durable.pid) :
    Supervises (World.Watched id (some durable) gone)
      (attempt .supervisor (.stop written)) fun stopped world =>
        (stopped.agentId = id ∧ stopped.pid = durable.pid) ∧
          world.Watched id (some durable) True := by
  refine Supervises.attempt (lasts_watched _ _ _) fun world single watched _ => ?_
  have drifts := world.drifts_stop written
  have after := drifts.watched watched
  refine ⟨drifts.single single, fun stopped outcome => ?_, fun _ _ => after.named⟩
  obtain ⟨returned, gone⟩ := stop_ok outcome
  rw [owner, same] at returned gone
  refine ⟨returned, after.named, after.stored, fun _ => after.named.gone fun receipt found => ?_⟩
  cases after.stored.symm.trans found
  exact gone

/-- The receipt of an agent without a process can be removed. -/
theorem supervises_deleteReceipt : Supervises (fun world => world.Named ∧ ¬world.Live id)
      (attempt .storage (.deleteReceipt id)) fun _ => World.Named := by
  refine Supervises.attempt (lasts_absent id) fun world single holds _ => ?_
  have after : (perform .worker (.deleteReceipt id) world).2.Named := by
    intro pid other live
    obtain ⟨receipt, found, names⟩ := holds.1 pid other live
    simp only [perform]
    split
    · exact ⟨receipt, found, names⟩
    · refine ⟨receipt, ?_, names⟩
      rw [storedReceipt_erase, if_neg, found]
      rintro rfl
      exact holds.2 ⟨pid, live⟩
  exact ⟨⟨single.single, single.numbered⟩, fun _ _ => after, fun _ _ => after⟩

/-- Writing the receipt of a process that was just started. This write may not fail. -/
theorem supervises_putStarted :
    Supervises (World.Spawning written) (Reconciler.putReceipt written) fun _ => World.Named := by
  refine Supervises.attempt (lasts_spawning written) fun world single spawning admitted => ?_
  have after : (perform .worker (.putReceipt written) world).2.Named := by
    intro pid id live
    simp only [perform] at live ⊢
    split
    · next broken => exact admitted broken pid id live
    · rw [storedReceipt_insert]
      rcases spawning pid id live with ⟨rfl, rfl⟩ | ⟨other, receipt, found, names⟩
      · exact ⟨written, if_pos rfl, rfl⟩
      · exact ⟨receipt, by rw [if_neg other, found], names⟩
  exact ⟨⟨single.single, single.numbered⟩, fun _ _ => after, fun _ _ => after⟩

/-- What a start answered, and whether a process was started. -/
def World.StartOutcome (outcome : Except SupervisorError ProcessReceipt) (world : World) : Prop :=
  match outcome with
  | .ok started => world.Spawning started
  | .error _ => world.Named

/-- The start of a process for an agent that has none. -/
theorem World.Single.start {world : World} (single : world.Single) (named : world.Named)
    {desired : LaunchSpec} (gone : ¬world.Live desired.agentId) :
    (world.spawned desired.agentId).Single ∧
      (world.spawned desired.agentId).Spawning (world.startedReceipt desired) := by
  have lives : ∀ pid id, (world.spawned desired.agentId).processes.lookup pid = some id →
      (id = desired.agentId ∧ pid = world.nextPid) ∨
        (id ≠ desired.agentId ∧ world.processes.lookup pid = some id) := by
    intro pid id live
    have found : (world.processes.insert world.nextPid desired.agentId).lookup pid = some id := live
    rw [Table.lookup_insert_eq] at found
    split at found
    · next fresh => exact Or.inl ⟨(Option.some.inj found).symm, fresh⟩
    · refine Or.inr ⟨?_, found⟩
      rintro rfl
      exact gone ⟨pid, found⟩
  refine ⟨⟨fun id first second one other => ?_, fun pid id live => ?_⟩, fun pid id live => ?_⟩
  · rcases lives first id one with ⟨owner, rfl⟩ | ⟨differs, one⟩
    · rcases lives second id other with ⟨-, rfl⟩ | ⟨differs, -⟩
      · rfl
      · exact absurd owner differs
    · rcases lives second id other with ⟨owner, -⟩ | ⟨-, other⟩
      · exact absurd owner differs
      · exact single.single id first second one other
  · rcases lives pid id live with ⟨-, rfl⟩ | ⟨-, earlier⟩
    · exact Nat.lt_succ_self _
    · exact Nat.lt_succ_of_lt (single.numbered pid id earlier)
  · rcases lives pid id live with new | ⟨differs, earlier⟩
    · exact Or.inl new
    · exact Or.inr ⟨differs, named pid id earlier⟩

variable (desired : LaunchSpec)

theorem supervises_start :
    Supervises (fun world => world.Named ∧ ¬world.Live desired.agentId) (always (.start desired))
      World.StartOutcome := by
  have finish : ∀ outcome : Except SupervisorError ProcessReceipt,
      supervision.Triple (reconciliations World.Named) recordsStarts ()
        (World.StartOutcome outcome) (.done (.ok outcome))
        (onOutcome World.StartOutcome fun _ : ReconcileError => World.Named) :=
    fun outcome => done fun _ _ => id
  refine step (lasts_absent desired.agentId) (fun world single holds _ => ?_) finish
  suffices kept : (perform .worker (.start desired) world).2.Single ∧
      World.StartOutcome (perform .worker (.start desired) world).1
        (perform .worker (.start desired) world).2 from
    ⟨trivial, ⟨kept.1, fun _ differs => absurd rfl differs⟩, kept.2⟩
  cases failing : world.faults.start with
  | some error =>
    simp only [perform, failing]
    exact ⟨⟨single.single, fun pid id live => Nat.lt_succ_of_lt (single.numbered pid id live)⟩,
      holds.1⟩
  | none =>
    simp only [perform, failing]
    exact single.start holds.1 holds.2

theorem supervises_startProcess :
    Supervises (fun world => world.Named ∧ ¬world.Live desired.agentId)
      (Reconciler.startProcess desired) fun _ => World.Named := by
  refine Supervises.bind (supervises_start desired) fun outcome => ?_
  cases outcome with
  | ok started =>
    exact Supervises.bind supervises_putStarted fun _ => Supervises.pure fun _ => id
  | error error =>
    cases error with
    | io => exact Supervises.throw fun _ => id
    | _ => exact Supervises.pure fun _ => id

theorem supervises_ensureStarted (receipt : Option ProcessReceipt) :
    Supervises (World.Watched desired.agentId receipt (receipt = none))
      (Reconciler.ensureStarted desired receipt) fun _ => World.Named := by
  cases receipt with
  | none =>
    exact Supervises.given (fun world watched => ⟨watched.named, watched.absent rfl⟩)
      (supervises_startProcess desired)
  | some durable =>
    refine Supervises.bind (supervises_inspect _) fun observed => Supervises.assume fun same => ?_
    refine Supervises.bind (supervises_putReceipt same.1 same.2) fun _ => ?_
    split
    · exact Supervises.pure fun _ watched => watched.named
    split
    · next terminal =>
      exact Supervises.given (fun world watched => ⟨watched.named, watched.absent terminal⟩)
        (supervises_startProcess desired)
    refine Supervises.bind (supervises_stop same.1 rfl) fun stopped =>
      Supervises.assume fun still => ?_
    refine Supervises.bind (supervises_putReceipt still.1 still.2) fun _ => ?_
    exact Supervises.given (fun world watched => ⟨watched.named, watched.absent trivial⟩)
      (supervises_startProcess desired)

theorem supervises_ensureStopped (id : AgentId) (receipt : Option ProcessReceipt) :
    Supervises (World.Watched id receipt (receipt = none)) (Reconciler.ensureStopped id receipt)
      fun _ => World.Named := by
  cases receipt with
  | none => exact Supervises.pure fun _ watched => watched.named
  | some durable =>
    refine Supervises.bind (supervises_inspect _) fun observed => Supervises.assume fun same => ?_
    split
    · next terminal =>
      refine Supervises.bind (Supervises.given (fun world watched =>
        ⟨watched.named, watched.absent terminal⟩) supervises_deleteReceipt) fun _ => ?_
      exact Supervises.pure fun _ holds => holds
    · refine Supervises.bind (supervises_stop same.1 same.2) fun stopped =>
        Supervises.assume fun still => ?_
      refine Supervises.bind (supervises_putReceipt still.1 still.2) fun _ => ?_
      refine Supervises.bind (Supervises.given (fun world watched =>
        ⟨watched.named, watched.absent trivial⟩) supervises_deleteReceipt) fun _ => ?_
      exact Supervises.pure fun _ holds => holds

theorem supervises_reconcileDesired (agent : AgentSpec) (launch : Option LaunchSpec) :
    Supervises World.Named (Reconciler.reconcileDesired agent launch) fun _ => World.Named := by
  unfold Reconciler.reconcileDesired
  cases agent.validate with
  | error error => exact Supervises.throw fun _ => id
  | ok =>
    refine Supervises.bind (supervises_getReceipt agent.id) fun receipt => ?_
    cases agent.desiredState with
    | disabled | deleted => exact supervises_ensureStopped agent.id receipt
    | enabled =>
      cases launch with
      | none => exact Supervises.throw fun _ watched => watched.named
      | some desired =>
        by_cases owner : desired.agentId = agent.id
        · simp only [owner, ne_eq]
          exact owner ▸ supervises_ensureStarted desired receipt
        · simp only [ne_eq, owner]
          exact Supervises.throw fun _ watched => watched.named

theorem supervises_getAgent (agentId : AgentId) :
    Supervises World.Named (attempt .storage (.getAgent .reconciled agentId))
      fun _ => World.Named :=
  Supervises.attempt lasts_named fun _ single named _ =>
    ⟨⟨single.single, single.numbered⟩, fun _ _ => named, fun _ _ => named⟩

theorem supervises_reconcile (agentId : AgentId) (operation : DurableOperation)
    (launch : Option LaunchSpec) :
    Supervises World.Named (Reconciler.reconcile agentId operation launch)
      fun _ => World.Named := by
  unfold Reconciler.reconcile
  split
  · exact Supervises.throw fun _ => id
  · cases operation.status with
    | running =>
      refine Supervises.bind (supervises_getAgent agentId) fun row => ?_
      cases row with
      | none => exact Supervises.throw fun _ => id
      | some agent => exact supervises_reconcileDesired agent launch
    | _ => exact Supervises.pure fun _ => id

end

/-! ### Runs of calls -/

variable {program : Program Action Unit}

theorem meets_call (call : ReconcilerCall program) :
    supervision.Triple (reconciliations World.Named) recordsStarts () World.Named program
      fun _ => World.Named := by
  have finish : ∀ outcome : Except ReconcileError ReconcileOutcome,
      supervision.Triple (reconciliations World.Named) recordsStarts ()
        (onOutcome (fun _ => World.Named) (fun _ => World.Named) outcome) (.done ())
        fun _ => World.Named := by
    intro outcome
    cases outcome <;> exact done fun _ _ => id
  cases call with
  | reconcile agentId operation launch =>
    exact bind (supervises_reconcile agentId operation launch) finish
  | reconcileDesired agent launch =>
    exact bind (supervises_reconcileDesired agent launch) finish

theorem supervision_lawful : supervision.Lawful (reconciliations World.Named) recordsStarts where
  rely_refl := fun _ world => World.Drifts.refl world
  rely_trans := fun _ _ _ _ first second => first.trans second
  idle_stable := fun _ => lasts_named
  start := by
    rintro thread world program after ⟨call, rfl⟩ single named
    exact ⟨single, fun _ _ => World.Drifts.refl _, (meets_call call).meets _ single named⟩
  environment := fun _ _ drifts single => ⟨drifts.single single, fun _ => drifts⟩
  restart := by
    rintro world after threads ⟨named, drifts, rfl⟩ single
    exact ⟨drifts.single single, fun _ => drifts.named named⟩

/-- No call is under way. -/
def betweenCalls (world : World) : Pool Unit Action World := ⟨world, fun _ => .done ()⟩

variable {pool : Pool Unit Action World}

section

variable {start : World} (idle : start.processes = ∅)
  (reaches : (reconciliations World.Named).Reaches recordsStarts (betweenCalls start) pool)

include idle reaches

theorem supervision_holds : supervision.Holds (reconciliations World.Named) recordsStarts pool := by
  have nothing : ∀ pid id, start.processes.lookup pid ≠ some id := by
    intro pid id live
    rw [idle] at live
    cases live
  exact supervision_lawful.holds reaches
    ⟨⟨fun _ _ _ live => absurd live (nothing _ _), fun _ _ live => absurd live (nothing _ _)⟩,
      fun _ pid id live => absurd live (nothing pid id)⟩

/-- Between calls every live process is named. -/
theorem named_of_finished (finished : pool.threads () = .done ()) : pool.world.Named := by
  have meets := (supervision_holds idle reaches).2 ()
  rw [finished] at meets
  exact meets

end

/-- In every run of calls that starts without processes, with any crashes and failures but
those between the start of a process and the write of its receipt, no agent ever has two
processes. -/
theorem reconciler_single {start : World} (idle : start.processes = ∅)
    {pool : Pool Unit Action World}
    (reaches : (reconciliations World.Named).Reaches recordsStarts (betweenCalls start) pool)
    (id : AgentId) (first second : Nat) (one : pool.world.processes.lookup first = some id)
    (other : pool.world.processes.lookup second = some id) : first = second :=
  (supervision_holds idle reaches).1.single id first second one other

/-- The pool after the next call has begun. -/
def beginCall (program : Program Action Unit) (pool : Pool Unit Action World) :
    Pool Unit Action World :=
  ⟨pool.world, Function.update pool.threads () program⟩

variable {admits : Condition Unit Action World}

theorem reaches_beginCall {crashes : World → Prop} (call : ReconcilerCall program)
    (finished : pool.threads () = .done ()) :
    (reconciliations crashes).Reaches admits pool (beginCall program pool) :=
  (System.Reaches.refl pool).tail (.start finished ⟨call, rfl⟩)

theorem reaches_crash {crashes : World → Prop} (crash : crashes pool.world) :
    (reconciliations crashes).Reaches admits pool (betweenCalls pool.world) :=
  (System.Reaches.refl pool).tail (.restart ⟨crash, World.Drifts.refl _, rfl⟩)

namespace Deployment

/-- A call that asks for the supervised agent to run. -/
def launchCall : Program Action Unit :=
  (Reconciler.reconcileDesired supervisedAgent (some supervisedLaunch)).run.bind fun _ => .done ()

theorem launchCall_call : ReconcilerCall launchCall := .reconcileDesired _ _

/-- The host with a call that goes on for some actions. -/
def launching (crashes : World → Prop) (world : World) (count : Nat) : Pool Unit Action World :=
  (reconciliations crashes).acts () count (beginCall launchCall (betweenCalls world))

theorem reaches_launching (crashes : World → Prop) (world : World) (count : Nat) :
    (reconciliations crashes).Reaches (unrestricted Unit Action World) (betweenCalls world)
      (launching crashes world count) :=
  (reaches_beginCall launchCall_call rfl).trans (System.reaches_acts_always () count _)

/-- A host that cannot write receipts. -/
def unwritable : World := { host with faults := { Faults.none with receiptWrite := true } }

/-- The agent was started, its receipt written, and the daemon crashed. -/
def relaunched : Pool Unit Action World :=
  launching World.Named (launching World.Named host 3).world 3

theorem reaches_recorded (world : World) (count : Nat)
    (passes : (reconciliations World.Named).actsPass
      (fun _ _ _ world => !world.faults.receiptWrite) () count
      (beginCall launchCall (betweenCalls world)) = true) :
    (reconciliations World.Named).Reaches recordsStarts (betweenCalls world)
      (launching World.Named world count) := by
  refine (reaches_beginCall launchCall_call rfl).trans (System.reaches_acts ?_ passes)
  intro thread Response action world working
  cases action with
  | putReceipt receipt => exact fun broken => by simp [broken] at working
  | _ => trivial

theorem relaunched_reaches : (reconciliations World.Named).Reaches recordsStarts
    (betweenCalls host) relaunched := by
  have first := reaches_recorded host 3 (by decide +kernel)
  have named := named_of_finished rfl first rfl
  exact (first.trans (reaches_crash named)).trans (reaches_recorded _ 3 (by decide +kernel))

end Deployment

open Deployment

/-- The call after a crash between two calls adopts the process that is there. -/
theorem reconciler_single_relaunched : relaunched.world.processes.lookup 1 = some ⟨1⟩ ∧
      ∀ pid, relaunched.world.processes.lookup pid = some ⟨1⟩ → pid = 1 := by
  have live : relaunched.world.processes.lookup 1 = some ⟨1⟩ := by decide +kernel
  exact ⟨live, fun pid other => reconciler_single rfl relaunched_reaches ⟨1⟩ pid 1 other live⟩

/-- A crash after the start of a process and before its receipt is written, or a write of that
receipt that fails, lets the next call start a second process. -/
theorem reconciler_doubled :
    (∃ pool, (reconciliations fun _ => True).Reaches (unrestricted Unit Action World)
        (betweenCalls host) pool ∧
      pool.world.processes.lookup 1 = some ⟨1⟩ ∧ pool.world.processes.lookup 2 = some ⟨1⟩) ∧
    ∃ pool, (reconciliations fun _ => False).Reaches (unrestricted Unit Action World)
        (betweenCalls unwritable) pool ∧
      pool.world.processes.lookup 1 = some ⟨1⟩ ∧ pool.world.processes.lookup 2 = some ⟨1⟩ := by
  constructor
  · let interrupted := launching (fun _ => True) host 2
    refine ⟨launching (fun _ => True) interrupted.world 3, ?_, by decide +kernel⟩
    exact ((reaches_launching _ host 2).trans (reaches_crash trivial)).trans
      (reaches_launching _ interrupted.world 3)
  · let unrecorded := launching (fun _ => False) unwritable 3
    have finished : unrecorded.threads () = .done () := rfl
    refine ⟨(reconciliations fun _ => False).acts () 3 (beginCall launchCall unrecorded), ?_,
      by decide +kernel⟩
    exact ((reaches_launching _ unwritable 3).trans
      (reaches_beginCall launchCall_call finished)).trans (System.reaches_acts_always () 3 _)

end BuzzServer
