/-
This file follows the status of an operation through whole runs of the daemon.

A status is written in three places: when the worker claims an operation, when
it completes one, and when it records that a reconciliation failed. All three
ask the store for a transition, the store decides by the status it finds in the
same transaction, and nobody but the worker asks. So the different statuses of
an operation that was accepted form an initial part of pending, running and one
terminal status, whatever is replayed, queued twice or cut off by a crash.

That the worker touches processes, files and the relay for a running operation
only is a second discipline on top of the first: it takes for granted that every
action does its duty, and so leaves only the text of the worker to be looked at.
-/

import BuzzServer.Daemon.Ledger
import BuzzServer.Daemon.Schedule

namespace BuzzServer

open Relational Concurrent Discipline Concurrent.Fallible BuzzServer.Deployment Discipline.Triple
  OperationStatus World

/-! ### One step -/

/-- The status the store has of an operation. -/
def World.operationStatus (id : OperationId) (world : World) : Option OperationStatus :=
  (world.db.operations.lookup id).map DurableOperation.status

variable {id : OperationId} {status : OperationStatus}

theorem World.operationStatus_eq_some {world : World} : world.operationStatus id = some status ↔
      ∃ row, world.db.operations.lookup id = some row ∧ row.status = status :=
  Option.map_eq_some_iff

theorem World.operationStatus_eq_none {world : World} :
    world.operationStatus id = none ↔ world.db.operations.lookup id = none :=
  Option.map_eq_none_iff

/-- The next status of an operation. -/
def OperationStatus.Precedes (earlier later : OperationStatus) : Prop :=
  (earlier = .pending ∧ later = .running) ∨ (earlier = .running ∧ later.isTerminal = true)

theorem OperationStatus.precedes_of_canTransitionTo {earlier later : OperationStatus}
    (permitted : earlier.canTransitionTo later = true) (requested : later ≠ .cancelled) :
    earlier.Precedes later := by
  cases earlier <;> cases later <;> first
    | exact .inl ⟨rfl, rfl⟩
    | exact .inr ⟨rfl, rfl⟩
    | exact absurd rfl requested
    | cases permitted

/-- The actions that ask the store to move an operation. -/
def Action.advances {Response : Type} : Action Response → Bool
  | .transitionOperation _ _ _ _ => true
  | .completePurge _ _ _ _ => true
  | _ => false

variable {setting : Setting} {thread : Thread} {Response : Type} {terms : Terms}

section

variable {before after : World}
variable {action : Action Response}

theorem World.operationStatus_congr (same : after.db.operations = before.db.operations) :
    after.operationStatus id = before.operationStatus id := by
  unfold operationStatus
  rw [same]

/-- The rows of a removal keep their status. -/
theorem operationStatus_of_removal {bound : Nat} {ids : List AgentId} {earlier later : Database}
    (removal : Database.Removal bound ids earlier later)
    (found : (earlier.operations.lookup id).map DurableOperation.status = some status) :
    (later.operations.lookup id).map DurableOperation.status = some status := by
  obtain ⟨row, present, rfl⟩ := Option.map_eq_some_iff.mp found
  rw [removal.kept id row present]
  rfl

/-- The row of an operation whose status was written. -/
theorem operationStatus_of_transition {operations : Table OperationId DurableOperation}
    {current : OperationId} {operation : DurableOperation} {next : OperationStatus}
    (errorCode : Option ErrorCode) (now : Int)
    (present : operations.lookup current = some operation)
    (precedes : operation.status.Precedes next)
    (found : (operations.lookup id).map DurableOperation.status = some status) :
    ∃ later, ((operations.insert current { operation with
        status := next, errorCode := errorCode, updatedAt := now }).lookup id).map
          DurableOperation.status = some later ∧ (later = status ∨ status.Precedes later) := by
  rw [Table.lookup_insert_eq]
  by_cases same : id = current
  · subst same
    rw [present, Option.map_some, Option.some.injEq] at found
    subst found
    rw [if_pos rfl]
    exact ⟨next, rfl, .inr precedes⟩
  · rw [if_neg same]
    exact ⟨status, found, .inl rfl⟩

/-- The step: the store keeps the status of an operation, unless the worker asks for the
next one. -/
theorem Effect.operationStatus (effect : Effect thread before action after)
    (done : duty setting terms thread action before)
    (found : before.operationStatus id = some status) :
    after.operationStatus id = some status ∨ thread = .worker ∧ action.advances = true ∧
        ∃ later, after.operationStatus id = some later ∧
          (later = status ∨ status.Precedes later) := by
  cases effect with
  | quiet same =>
    rw [operationStatus_congr same.tables.operations]
    exact .inl found
  | removeCommunity checked removal =>
    have kept := operationStatus_of_removal removal found
    exact .inl kept
  | @acceptCommand command acceptable =>
    obtain ⟨row, present, -⟩ := operationStatus_eq_some.mp found
    have other : id ≠ command.operation.id := by
      rintro rfl
      exact acceptable.operationFresh (Table.mem_of_lookup present)
    refine .inl ?_
    show ((before.db.operations.insert _ _).lookup id).map _ = some status
    rw [AList.lookup_insert_ne other]
    exact found
  | @transition current next errorCode now operation present permitted =>
    obtain ⟨worker, -, -, request⟩ := done.2
    have requested : next ≠ .cancelled := by
      rintro rfl
      simp at request
    exact .inr ⟨worker, rfl, operationStatus_of_transition errorCode now present
      (precedes_of_canTransitionTo permitted requested) found⟩
  | @completePurge agentId current now audit operation agent removed present names kind
      permitted stored marked removal =>
    obtain ⟨later, between, moved⟩ := operationStatus_of_transition none now present
      (precedes_of_canTransitionTo permitted (by simp)) found
    have kept := operationStatus_of_removal removal between
    exact .inr ⟨done.2.1, rfl, later, kept, moved⟩
  | _ => exact .inl found

/-- What a step does to the operations: each stays, with its status or the next one, and a
command that is new came with a pending operation that was not there before. -/
structure World.Moves (before after : World) : Prop where
  kept : ∀ id status, before.operationStatus id = some status →
    ∃ later, after.operationStatus id = some later ∧ (later = status ∨ status.Precedes later)
  accepted : ∀ command ∈ after.accepted, command ∈ before.accepted ∨
    before.operationStatus command.operation.id = none ∧
      after.operationStatus command.operation.id = some .pending

theorem World.moves_of_same (operations : after.db.operations = before.db.operations)
    (accepted : after.accepted = before.accepted) : before.Moves after where
  kept := by
    intro id status found
    rw [operationStatus_congr operations]
    exact ⟨status, found, .inl rfl⟩
  accepted := by
    rw [accepted]
    exact fun command member => .inl member

theorem Effect.moves (effect : Effect thread before action after)
    (done : duty setting terms thread action before) : before.Moves after where
  kept := by
    intro id status found
    rcases effect.operationStatus done found with same | ⟨-, -, moved⟩
    · exact ⟨status, same, .inl rfl⟩
    · exact moved
  accepted := by
    intro command member
    rcases effect.keys with ⟨added, submits, acceptable, grown, committed⟩ | ⟨same, -⟩
    · rw [grown, List.mem_append, List.mem_singleton] at member
      rcases member with earlier | rfl
      · exact .inl earlier
      · refine .inr ⟨operationStatus_eq_none.mpr
          (AList.lookup_eq_none.mpr acceptable.operationFresh), ?_⟩
        have conforms : command.Conforms thread before := by
          cases action <;> cases submits
          exact done.2.2
        refine operationStatus_eq_some.mpr ⟨command.operation, ?_, conforms.pending⟩
        rw [committed]
        exact AList.lookup_insert _
    · rw [same] at member
      exact .inl member

end

/-! ### Runs -/

variable {next : Pool Thread Action World} {world : World}

section

variable {pool last : Pool Thread Action World} {passed : List (Pool Thread Action World)}

/-- The daemon conducts itself, whatever a run does. -/
theorem Reachable.conducted
    (reachable : Reachable setting (unrestricted Thread Action World) pool) :
    (conduct setting .unconditional).Holds (daemon setting) Terms.unconditional.admits pool :=
  reachable.holds (fun durable => durable.elim)
    fun thread _ action world _ => Terms.unconditional_admits thread action world

theorem conduct_unconditional (setting : Setting) :
    (conduct setting .unconditional).Lawful (daemon setting) Terms.unconditional.admits :=
  conduct_lawful fun durable => durable.elim

theorem step_dutiful (reachable : Reachable setting (unrestricted Thread Action World) pool)
    (step : (daemon setting).Step (unrestricted Thread Action World) pool next) :
    (daemon setting).Step (duty setting .unconditional) pool next :=
  (conduct_unconditional setting).dutiful_step reachable.conducted
    (step.mono fun thread _ action world _ => Terms.unconditional_admits thread action world)

/-- Every step of the daemon moves operations forward. -/
theorem step_moves (step : (daemon setting).Step (duty setting .unconditional) pool next) :
    pool.world.Moves next.world := by
  cases step with
  | act running done => exact (perform_effect _ _ _).moves done
  | start finished begins => cases begins <;> exact moves_of_same rfl rfl
  | environment changes => cases changes <;> exact moves_of_same rfl rfl
  | restart restarts =>
    obtain ⟨-, rfl, -⟩ := restarts
    exact moves_of_same rfl rfl

/-- The histories an operation can have, by the status it has now. -/
inductive OperationStatus.Historic : List OperationStatus → OperationStatus → Prop
  | pending : Historic [.pending] .pending
  | running : Historic [.pending, .running] .running
  | ended {ending : OperationStatus} (terminal : ending.isTerminal = true) :
      Historic [.pending, .running, ending] ending

theorem OperationStatus.Historic.note {history : List OperationStatus}
    {status later : OperationStatus} (historic : OperationStatus.Historic history status)
    (moved : later = status ∨ status.Precedes later) :
    OperationStatus.Historic (Concurrent.note history (some later)) later := by
  rcases moved with rfl | ⟨rfl, rfl⟩ | ⟨rfl, terminal⟩
  · have seen : history.getLast? = some later := by cases historic <;> rfl
    rw [Concurrent.note, if_pos seen]
    exact historic
  · cases historic with
    | pending => exact .running
    | ended terminal => cases terminal
  · cases historic with
    | running =>
      have unseen : ¬[OperationStatus.pending, .running].getLast? = some later := by
        rintro same
        cases same
        cases terminal
      rw [Concurrent.note, if_neg unseen]
      exact .ended terminal
    | ended impossible => cases impossible

theorem OperationStatus.Historic.isPrefix {history : List OperationStatus}
    (historic : OperationStatus.Historic history status) :
    ∃ ending : OperationStatus, ending.isTerminal = true ∧
      history <+: [.pending, .running, ending] := by
  cases historic with
  | pending | running => exact ⟨.succeeded, rfl, ⟨_, rfl⟩⟩
  | ended terminal => exact ⟨status, terminal, List.prefix_refl _⟩

/-- What a run knows of an operation: nothing while it has no row, and one of the possible
histories once its command was accepted. -/
structure Chronicle (id : OperationId) (passed : List (Pool Thread Action World))
    (world : World) : Prop where
  absent : world.operationStatus id = none → history (World.operationStatus id) passed = []
  accepted : (∃ command ∈ world.accepted, command.operation.id = id) →
    ∃ status, world.operationStatus id = some status ∧
      OperationStatus.Historic (history (World.operationStatus id) passed) status

theorem Chronicle.step (chronicle : Chronicle id passed pool.world)
    (moves : pool.world.Moves next.world) :
    Chronicle id (passed ++ [next]) next.world where
  absent := by
    intro missing
    have before : pool.world.operationStatus id = none := by
      cases found : pool.world.operationStatus id with
      | none => rfl
      | some status =>
        obtain ⟨later, present, -⟩ := moves.kept id status found
        rw [missing] at present
        cases present
    rw [history_append, missing, chronicle.absent before]
    rfl
  accepted := by
    rintro ⟨command, member, rfl⟩
    rw [history_append]
    rcases moves.accepted command member with earlier | ⟨missing, pending⟩
    · obtain ⟨status, found, historic⟩ := chronicle.accepted ⟨command, earlier, rfl⟩
      obtain ⟨later, present, moved⟩ := moves.kept _ status found
      rw [present]
      exact ⟨later, rfl, historic.note moved⟩
    · rw [pending, chronicle.absent missing]
      exact ⟨.pending, rfl, .pending⟩

/-- The run: the chronicle is right wherever a run leads. -/
theorem Chronicle.run (id : OperationId) (fresh : world.Fresh)
    (run : (daemon setting).Run (unrestricted _ _ _) (idlePool world) passed last) :
    Chronicle id passed last.world := by
  induction run with
  | start =>
    have missing : world.operationStatus id = none := by
      rw [operationStatus_eq_none, fresh.operations]
      rfl
    refine ⟨fun _ => ?_, ?_⟩
    · show note [] (world.operationStatus id) = []
      rw [missing]
      rfl
    · rintro ⟨command, member, -⟩
      rw [show (idlePool world).world.accepted = [] from fresh.accepted] at member
      cases member
  | @step passed before after run step inductionHypothesis =>
    exact inductionHypothesis.step (step_moves (step_dutiful ⟨world, fresh, run.reaches⟩ step))

end

/-! ### What the worker touches -/

/-- The actions on processes, on files and on the relay: agent files, personas, receipts,
directories, accounts and keys, and what is published or queued to be published. -/
def Action.external {Response : Type} : Action Response → Bool
  | .agentFileExists _ | .loadAgentFile _ | .loadPersona _ | .resolveAgentFile _ _ _
  | .buildCreateFile _ _ | .writeAgentFile _ | .removeAgentFile _ | .verifyCommunityJoin _
  | .createAgentDirectories _ | .ensureAgentUser _ | .provisionIdentity _ | .communityOwnerKeys _
  | .syncRelay | .recordRelayProjection _ _ _ | .enqueueRelayPublication _ | .resolveLaunch _
  | .getReceipt _ | .putReceipt _ | .deleteReceipt _ | .inspect _ | .stop _ | .start _
  | .purgeAgentPaths _ | .purgeCustody _ | .removeStateRoot _ => true
  | _ => false

/-- The worker's claim on the operation it processes stands: a running operation still
runs. -/
def World.ClaimKept (before after : World) : Prop :=
  after.processing = before.processing ∧
    ∀ id, before.operationStatus id = some .running → after.operationStatus id = some .running

/-- The second discipline: whatever the worker does outside the store for an operation, it
does while the operation is running. -/
def claims : Discipline Thread Action World where
  invariant := fun _ => True
  rely := fun thread before after => thread = .worker → before.ClaimKept after
  duty := fun thread _ action world => thread = .worker → action.external = true →
    ∀ id, world.processing = some id → world.operationStatus id = some .running
  idle := fun _ _ => True

section

variable {before after world : World}
variable {action : Action Response}

theorem Effect.processing (effect : Effect thread before action after) :
    after.processing = before.processing := by
  cases effect with
  | quiet same => exact same.processing
  | _ => rfl

/-- An action that asks for no transition, or that somebody else performs, keeps the claim. -/
theorem Effect.claimKept (effect : Effect thread before action after)
    (done : duty setting terms thread action before)
    (aside : thread ≠ .worker ∨ action.advances = false) : before.ClaimKept after := by
  refine ⟨effect.processing, fun id running => ?_⟩
  rcases effect.operationStatus done running with same | ⟨worker, advances, -⟩
  · exact same
  · rcases aside with other | still
    · exact absurd worker other
    · rw [still] at advances
      cases advances

/-- The actions of the others are of no concern to the claim. -/
theorem meets_aside (other : thread ≠ .worker) (program : Program Action Unit) (world : World) :
    claims.Meets (daemon setting) (duty setting terms) thread program
      (fun _ => claims.idle thread) world := by
  induction program generalizing world with
  | done result => exact trivial
  | step action next inductionHypothesis =>
    intro current _ _ done
    refine ⟨fun worker => absurd worker other, ⟨trivial, fun _ _ _ => ?_⟩, inductionHypothesis _ _⟩
    exact (perform_effect thread current action).claimKept done (.inl other)

/-- The worker has no operation to claim when it looks after agents on its own. -/
theorem meets_unassigned (program : Program Action Unit) (unassigned : world.processing = none) :
    claims.Meets (daemon setting) (duty setting terms) .worker program
      (fun _ => claims.idle .worker) world := by
  induction program generalizing world with
  | done result => exact trivial
  | step action next inductionHypothesis =>
    intro current tolerated _ _
    have none : current.processing = none := (tolerated rfl).1.trans unassigned
    refine ⟨fun _ _ id assigned => ?_, ⟨trivial, fun other different worker =>
      absurd worker different⟩, inductionHypothesis _ ?_⟩
    · rw [none] at assigned
      cases assigned
    · exact (perform_effect .worker current action).processing.trans none

/-- The worker processes the operation. -/
def World.Assigned (id : OperationId) (world : World) : Prop := world.processing = some id

/-- The worker processes the operation and has it running. -/
def World.Claimed (id : OperationId) (world : World) : Prop :=
  world.processing = some id ∧ world.operationStatus id = some .running

theorem stable_assigned (id : OperationId) : claims.Stable .worker (World.Assigned id) :=
  fun _ _ tolerated _ _ assigned => (tolerated rfl).1.trans assigned

theorem stable_claimed (id : OperationId) : claims.Stable .worker (World.Claimed id) :=
  fun _ _ tolerated _ _ claimed =>
    ⟨(tolerated rfl).1.trans claimed.1, (tolerated rfl).2 id claimed.2⟩

variable {Error Result : Type} (program : Fallible Action Error Result)

/-- Every action of the program is one inside the store. -/
abbrev Inward : Prop :=
  Program.Uses (fun ⦃_⦄ action => action.external = false) program.run

/-- No action of the program asks for a transition. -/
abbrev KeepsStatus : Prop :=
  Program.Uses (fun ⦃_⦄ action => action.advances = false) program.run

/-- The worker keeps its claims as it runs the program. -/
abbrev Claims (setting : Setting) (terms : Terms) (pre : World → Prop)
    (program : Program Action Result) (post : Result → World → Prop) : Prop :=
  claims.Triple (daemon setting) (duty setting terms) .worker pre program post

/-- Programs inside the store may run in any state of the operation. -/
theorem triple_inward {program : Program Action Result}
    (inward : Program.Uses (fun ⦃_⦄ action => action.external = false) program) :
    Claims setting terms (World.Assigned id) program fun _ => World.Assigned id := by
  refine frame (stable_assigned id) (inward.mono ?_)
  intro Response action inside world _ assigned _
  refine ⟨fun _ outside => ?_, ⟨trivial, fun other different worker => absurd worker different⟩,
    (perform_effect .worker world action).processing.trans assigned⟩
  rw [inside] at outside
  cases outside

variable {program : Fallible Action Error Result}

/-- Programs that leave statuses alone may do anything for a running operation. -/
theorem triple_claimed (keeps : KeepsStatus program) :
    Claims setting terms (World.Claimed id) program.run
      (onOutcome (fun _ => World.Claimed id) fun _ => World.Assigned id) := by
  refine fallibleFrame (stable_claimed id) (keeps.mono ?_) fun _ _ claimed => claimed.1
  intro Response action still world _ claimed done
  have kept := (perform_effect .worker world action).claimKept done (.inr still)
  refine ⟨fun _ _ other assigned => ?_, ⟨trivial, fun other different worker =>
    absurd worker different⟩, kept.1.trans claimed.1, kept.2 id claimed.2⟩
  rw [claimed.1] at assigned
  cases assigned
  exact claimed.2

/-! ### The text of the worker -/

theorem inward_within {kinds : List ActionKind} (within : Within kinds program.run)
    (store : kinds ⊆ operationKinds) : Inward program := by
  refine within.mono fun Response action listed => ?_
  have inside : decide (action.kind ∈ operationKinds) = true :=
    decide_eq_true (store (of_decide_eq_true listed))
  cases action with
  | getAgent slot id => rfl
  | enqueueRelayPublication publication =>
    simp only [Action.kind] at inside
    split at inside <;> cases inside
  | _ => first | rfl | cases inside

theorem keepsStatus_within {kinds : List ActionKind} (within : Within kinds program.run)
    (disjoint : ∀ kind ∈ [ActionKind.transitionOperation, .completePurge], kind ∉ kinds) :
    KeepsStatus program := by
  refine uses_of_disjoint (fun Response action spared => ?_) within disjoint
  cases action <;> first | rfl | cases spared

/-! ### The worker keeps the claims -/

/-- A program of the worker on an operation it was assigned. -/
theorem triple_inwardTask (inward : Inward program) :
    Claims setting terms (World.Assigned id) program.run
      (onOutcome (fun _ => World.Assigned id) fun _ => World.Assigned id) :=
  consequence (fun _ _ holds => holds) (triple_inward inward) fun outcome _ holds => by
    cases outcome <;> exact holds

/-- An operation that was read as running is running. -/
def World.ReadAs (id : OperationId) (durable : DurableOperation) (world : World) : Prop :=
  world.Assigned id ∧ (durable.status = .running → world.Claimed id)

theorem claims_getOperation : Claims setting terms (World.Assigned id)
      (Request.store (.getOperation id)).run
      (onOutcome (fun row world => world.Assigned id ∧ ∀ durable, row = some durable →
        world.ReadAs id durable) fun _ => World.Assigned id) := by
  refine ⟨fun world _ assigned current tolerated _ _ => ?_⟩
  have still : current.Assigned id := (tolerated rfl).1.trans assigned
  refine ⟨fun _ outside => (by cases outside), ⟨trivial, fun other different worker =>
    absurd worker different⟩, ?_⟩
  show onOutcome _ _ ((current.query fun db => db.operations.lookup id).mapError _) current
  unfold query
  split
  · exact still
  · exact ⟨still, fun durable found => ⟨still, fun running =>
      ⟨still, operationStatus_eq_some.mpr ⟨durable, found, running⟩⟩⟩⟩

theorem claims_lookupOperation : Claims setting terms (World.Assigned id)
      (Task.application (lookupOperation id)).run
      (onOutcome (World.ReadAs id) fun _ => World.Assigned id) := by
  have looked : Claims setting terms (World.Assigned id)
      (lookupOperation id).run (onOutcome (World.ReadAs id) fun _ => World.Assigned id) := by
    refine fallibleBind claims_getOperation fun row => ?_
    cases row with
    | none => exact done fun _ _ read => read.1
    | some durable => exact done fun _ _ read => read.2 durable rfl
  refine bind looked fun outcome => ?_
  cases outcome <;> exact done fun _ _ holds => holds

theorem claims_reconcileDynamic (operation : DurableOperation) :
    Claims setting terms (World.Claimed id) (reconcileDynamicBody operation true).run
      (onOutcome (fun _ => World.Assigned id) fun _ => World.Assigned id) := by
  refine fallibleBind
    (triple_claimed (keepsStatus_within (within_taskFound _ : Within [] _) (by decide)))
    fun agentId => ?_
  refine fallibleBind (triple_claimed (uses_attempt rfl)) fun row => ?_
  refine fallibleBind
    (triple_claimed (keepsStatus_within (within_taskFound row : Within [] _) (by decide)))
    fun cachedAgent => ?_
  refine fallibleBind
    (triple_claimed (keepsStatus_within (within_writeBack agentId cachedAgent) (by decide)))
    fun resolved => ?_
  refine fallibleBind (triple_claimed
    (keepsStatus_within (within_prepareLaunch agentId resolved) (by decide))) fun preparation => ?_
  refine fallibleBind (triple_claimed (uses_capture
      (keepsStatus_within (within_reconcile agentId operation _) (by decide)))) fun outcome => ?_
  refine fallibleBind (triple_claimed (uses_attempt rfl)) fun _ => ?_
  refine fallibleBind (triple_claimed (uses_attempt rfl)) fun _ => ?_
  refine fallibleBind
    (triple_claimed (keepsStatus_within (within_stampReceiptLifecycle agentId) (by decide)))
    fun _ => ?_
  refine fallibleBind
    (triple_claimed (keepsStatus_within (within_concludeStatus _ agentId _ outcome) (by decide)))
    fun status => ?_
  exact consequence (fun _ _ claimed => claimed.1) (triple_inwardTask
    (uses_mapError (inward_within (within_completeOperation operation.id status _) (by decide))))
    fun _ _ holds => holds

theorem claims_capture {Other : Type} {pre : World → Prop}
    (triple : Claims setting terms pre program.run
      (onOutcome (fun _ => World.Assigned id) fun _ => World.Assigned id)) :
    Claims setting terms pre (capture program : Fallible Action Other _).run
      (onOutcome (fun _ => World.Assigned id) fun _ => World.Assigned id) := by
  refine bind triple fun outcome => ?_
  cases outcome <;> exact done fun _ _ holds => holds

theorem claims_reconcileLifecycleOperation : Claims setting terms (World.Assigned id)
      (reconcileLifecycleOperation id).run
      (onOutcome (fun _ => World.Assigned id) fun _ => World.Assigned id) := by
  refine fallibleBind (triple_inwardTask
    (uses_mapError (inward_within (within_lookupOperation id) (by decide)))) fun operation => ?_
  refine fallibleBind (triple_inwardTask
    (uses_mapError (inward_within (within_claim operation id) (by decide)))) fun _ => ?_
  refine fallibleBind claims_lookupOperation fun durable => ?_
  split
  · next running =>
    refine consequence (fun _ _ read => read.2 running) ?_ fun _ _ holds => holds
    refine fallibleBind (claims_capture (claims_reconcileDynamic durable)) fun outcome => ?_
    refine fallibleBind (triple_inwardTask (uses_always rfl)) fun _ => ?_
    cases outcome <;> exact done fun _ _ holds => holds
  · exact done fun _ _ holds => holds.1

theorem claims_reconcileOperationContained : Claims setting terms (World.Assigned id)
      (reconcileOperationContained id) fun _ => claims.idle .worker := by
  refine bind (triple_inward (.step rfl fun _ => .done _)) fun _ => ?_
  refine bind claims_reconcileLifecycleOperation fun outcome => ?_
  cases outcome with
  | ok _ => exact done fun _ _ _ => trivial
  | error _ =>
    refine bind (triple_inward (inward_within (within_failOperation id) (by decide))) fun _ => ?_
    exact done fun _ _ _ => trivial

theorem claims_process (work : ReconcileWork) (rest : List ReconcileWork) (world : World) :
    claims.Meets (daemon setting) (duty setting terms) .worker work.process
      (fun _ => claims.idle .worker) (world.receive work rest) := by
  cases work with
  | operation id => exact claims_reconcileOperationContained.meets _ trivial rfl
  | startupAgent id => exact meets_unassigned _ rfl

theorem claims_lawful : claims.Lawful (daemon setting) (duty setting terms) where
  rely_refl := fun _ _ _ => ⟨rfl, fun _ => id⟩
  rely_trans := fun _ _ _ _ earlier later worker =>
    ⟨(later worker).1.trans (earlier worker).1,
      fun id running => (later worker).2 id ((earlier worker).2 id running)⟩
  idle_stable := fun _ _ _ _ _ _ _ => trivial
  start := by
    intro thread world program after starts _ _
    cases starts with
    | request number actor request serving | retentionTick serving =>
      exact ⟨trivial, fun _ _ _ => ⟨rfl, fun _ => id⟩, meets_aside (by simp) _ _⟩
    | @receive _ work rest queued =>
      exact ⟨trivial, fun _ other worker => absurd worker other, claims_process work rest world⟩
    | timeout idle =>
      exact ⟨trivial, fun _ other worker => absurd worker other, meets_unassigned _ rfl⟩
  environment := by
    intro world after interferes _
    refine ⟨trivial, fun _ _ => ?_⟩
    cases interferes <;> exact ⟨rfl, fun _ => id⟩
  restart := by
    rintro world after threads ⟨-, rfl, rfl⟩ _
    refine ⟨trivial, fun thread => ?_⟩
    cases thread with
    | main => exact meets_aside (by simp) _ _
    | worker => exact trivial
    | request number => exact trivial

/-- What the worker is about to do outside the store, it does for a running operation. -/
theorem external_running {pool : Pool Thread Action World}
    (reachable : Reachable setting (unrestricted Thread Action World) pool)
    {next : Response → Program Action Unit}
    (acting : pool.threads .worker = .step action next) (external : action.external = true)
    (processing : pool.world.processing = some id) :
    pool.world.operationStatus id = some .running := by
  have done : duty setting .unconditional .worker action pool.world :=
    (conduct_unconditional setting).duty reachable.conducted acting
      (Terms.unconditional_admits _ action _)
  obtain ⟨world, fresh, reaches⟩ := reachable
  have holds : claims.Holds (daemon setting) (duty setting .unconditional) pool := by
    refine reaches.invariant (claims.Holds (daemon setting) (duty setting .unconditional))
      ⟨trivial, fun _ => trivial⟩ fun before after first step holds => ?_
    exact claims_lawful.holds_step (step_dutiful ⟨world, fresh, first⟩ step) holds
  exact claims_lawful.duty holds acting done rfl external id processing

end

/-! ### The history of an operation -/

section

variable {last later : Pool Thread Action World} {passed : List (Pool Thread Action World)}

/-- A status that is terminal stays. -/
theorem operationStatus_terminal
    (reachable : Reachable setting (unrestricted Thread Action World) last)
    (found : last.world.operationStatus id = some status) (terminal : status.isTerminal = true)
    (reaches : (daemon setting).Reaches (unrestricted Thread Action World) last later) :
    later.world.operationStatus id = some status := by
  obtain ⟨world, fresh, earlier⟩ := reachable
  refine reaches.invariant (fun pool => pool.world.operationStatus id = some status) found ?_
  intro before after first step present
  have moves := step_moves (step_dutiful ⟨world, fresh, earlier.trans first⟩ step)
  obtain ⟨next, stays, rfl | ⟨rfl, -⟩ | ⟨rfl, -⟩⟩ := moves.kept id status present
  · exact stays
  · cases terminal
  · cases terminal

/-- In every run of the daemon from a fresh world, with any number of requests, replays, items
queued twice, faults, crashes and restarts: the different statuses the store had of an
accepted operation are an initial part of pending, running and one terminal status; a terminal
status stays in whatever follows; and whenever the worker is about to touch a process, a file
or the relay for the operation, the store has it as running. -/
theorem operation_lifecycle (fresh : world.Fresh)
    (run : (daemon setting).Run (unrestricted Thread Action World) (idlePool world) passed last)
    {command : AgentCommand} (accepted : command ∈ last.world.accepted) :
    (∃ ending : OperationStatus, ending.isTerminal = true ∧
      history (World.operationStatus command.operation.id) passed <+:
        [.pending, .running, ending]) ∧
    (∀ status later, last.world.operationStatus command.operation.id = some status →
      status.isTerminal = true →
      (daemon setting).Reaches (unrestricted Thread Action World) last later →
        later.world.operationStatus command.operation.id = some status) ∧
    ∀ {Response : Type} {action : Action Response} {next : Response → Program Action Unit},
      last.threads .worker = .step action next → action.external = true →
      last.world.processing = some command.operation.id →
        last.world.operationStatus command.operation.id = some .running := by
  have reachable : Reachable setting (unrestricted Thread Action World) last :=
    ⟨world, fresh, run.reaches⟩
  refine ⟨?_, ?_, ?_⟩
  · obtain ⟨status, -, historic⟩ :=
      (Chronicle.run command.operation.id fresh run).accepted ⟨command, accepted, rfl⟩
    exact historic.isPrefix
  · intro status later found terminal reaches
    exact operationStatus_terminal reachable found terminal reaches
  · intro Response action next acting external processing
    exact external_running reachable acting external processing

/-- A creation that a crash interrupts: the worker has claimed it, the daemon starts again,
and the operation is queued and carried out once more. -/
def Deployment.interrupted : List Move :=
  answer (create "first") ++ [.receive, .acts .worker 12, .restart, .acts .main 40] ++ work

theorem operation_lifecycle_interrupted : ∃ passed command,
      (daemon ⟨2592000, True⟩).Run (unrestricted Thread Action World) (idlePool host)
        passed (playAll ⟨2592000, True⟩ host interrupted) ∧
      command ∈ (playAll ⟨2592000, True⟩ host interrupted).world.accepted ∧
      (playAll ⟨2592000, True⟩ host interrupted).world.operationStatus
        command.operation.id = some .succeeded ∧
      ∃ ending : OperationStatus, ending.isTerminal = true ∧
        history (World.operationStatus command.operation.id) passed <+:
          [.pending, .running, ending] := by
  have carriedOut : (playAll ⟨2592000, True⟩ host
      interrupted).world.accepted.map (fun command => command.operation.id) = [⟨2⟩] ∧
      (playAll ⟨2592000, True⟩ host interrupted).world.operationStatus ⟨2⟩ = some .succeeded := by
    decide +kernel
  obtain ⟨identifiers, succeeded⟩ := carriedOut
  have reached : (daemon ⟨2592000, True⟩).Reaches (unrestricted Thread Action World) (idlePool host)
      (playAll ⟨2592000, True⟩ host interrupted) :=
    reaches_playAll host interrupted fun _ => trivial
  obtain ⟨passed, run⟩ := reached.run
  have named : (⟨2⟩ : OperationId) ∈ (playAll ⟨2592000, True⟩ host
      interrupted).world.accepted.map (fun command => command.operation.id) := by
    rw [identifiers]
    exact List.mem_singleton_self _
  obtain ⟨command, accepted, same⟩ := List.mem_map.mp named
  refine ⟨passed, command, run, accepted, ?_, (operation_lifecycle host_fresh run accepted).1⟩
  rw [same]
  exact succeeded

end

end BuzzServer
