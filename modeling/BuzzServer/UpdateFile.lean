/-
This file is about the file of an agent when an update fails or is a replay.

An update rewrites the human-authored file before the store is asked, so
whatever the store then says the file has changed: for a key that was used
before, for a spec that does not validate, for a statement that fails. It stays
as it was only if the rewrite itself does not happen or writes the text that is
already there. `World.KeepsFile` is that condition on the world before the call,
together with the case in which the update is accepted and may change the file.
-/

import BuzzServer.Daemon.Calls
import BuzzServer.Daemon.Lawful
import BuzzServer.Daemon.Schedule

namespace BuzzServer

open Relational Concurrent Concurrent.Fallible World

/-! ### The condition -/

namespace World

variable (world : World)

/-- An update leaves the text of the agent's file alone: there is a file and what would be
written over it is what it says, or there is none and none can be written. -/
def SparesFile (current : AgentSpec) (changes : UpdateAgentInput) : Prop :=
  if current.id ∈ world.files.agents then
    ∀ updated, world.Rewrites current changes updated →
      world.files.agents.lookup current.id = some (.pretty updated)
  else ¬world.Provides current

/-- The statements that write an update. -/
def updateStatements : List WriteStatement :=
  [.commit, .updateAgentSpec, .insertOperation, .insertIdempotencyKey, .insertAudit]

/-- An update under a key that was never used goes through. -/
structure AcceptsUpdate (actor : AuthenticatedPrincipal) (request : UpdateAgentRequest)
    (current : AgentSpec) : Prop where
  rewrites : ∃ updated, world.Rewrites current request.changes updated
  keyUnused : world.db.idempotencyKeys.lookup
    (commandScope actor .updateAgent, request.metadata.idempotencyKey) = none
  valid : (request.changes.applyTo current).validate = .ok ()
  quiet : ∀ statement ∈ updateStatements, world.faults.writes statement = false
  running : world.faults.workerStopped = false

/-- The agent is out of reach, or its file is spared, or the update is accepted. -/
def KeepsFile (actor : AuthenticatedPrincipal) (request : UpdateAgentRequest) : Prop :=
  world.faults.storeUnavailable = true ∨
    ∀ current, world.db.agentSpecs.lookup request.agentId = some current →
      world.SparesFile current request.changes ∨ world.AcceptsUpdate actor request current

end World

/-! ### The command of an update -/

section

variable {world : World} {actor : AuthenticatedPrincipal} {request : UpdateAgentRequest}
  {current : AgentSpec}

/-- The command an update submits. -/
def World.updateCommand (world : World) (actor : AuthenticatedPrincipal)
    (request : UpdateAgentRequest) (current : AgentSpec) : AgentCommand :=
  world.planned actor request.metadata (.updateAgent request)
    (updatePlan request current.communityConfigId)

theorem updateCommand_acceptable_iff (sound : world.Sound)
    (found : world.db.agentSpecs.lookup request.agentId = some current) :
    (world.updateCommand actor request current).Acceptable world.db ↔
      world.db.idempotencyKeys.lookup
          (commandScope actor .updateAgent, request.metadata.idempotencyKey) = none ∧
        (request.changes.applyTo current).validate = .ok () := by
  constructor
  · rintro ⟨keyUnused, -, ⟨agent, present, valid, -⟩, -, -, -⟩
    obtain rfl := Option.some.inj (found.symm.trans present)
    exact ⟨keyUnused, valid⟩
  · rintro ⟨keyUnused, valid⟩
    have own : current.id = request.agentId := sound.consistent.agentKeyed _ _ found
    exact
      { keyUnused := keyUnused
        corresponds := ⟨rfl, rfl⟩
        applicable := ⟨current, found, valid, own ▸ Table.mem_of_lookup found⟩
        operationFresh := fun member => Nat.lt_irrefl _ (sound.operationDrawn _ member)
        promotable := fun _ promotes => by cases promotes
        redacted := rfl }

/-- An update that got as far as the store succeeds under an unused key exactly if its command
is accepted and the reconciler can be woken. -/
theorem execute_update_ok_iff (thread : Thread) (sound : world.Sound)
    (available : world.faults.storeUnavailable = false)
    (found : world.db.agentSpecs.lookup request.agentId = some current)
    (keyUnused : world.db.idempotencyKeys.lookup
      (commandScope actor .updateAgent, request.metadata.idempotencyKey) = none) :
    (∃ operation, (alone (perform thread) (execute actor request.metadata
        (.updateAgent request) (updatePlan request current.communityConfigId)) world).1 =
          .ok operation) ↔
      (request.changes.applyTo current).validate = .ok () ∧
        (∀ statement ∈ updateStatements, world.faults.writes statement = false) ∧
          world.faults.workerStopped = false := by
  have accepts : (world.answer (world.updateCommand actor request current)) =
      (.ok ((world.updateCommand actor request current).operation, false),
        (world.updateCommand actor request current).commit world.db) ↔
      (request.changes.applyTo current).validate = .ok () ∧
        ∀ statement ∈ updateStatements, world.faults.writes statement = false := by
    rw [answer_accepted_iff, updateCommand_acceptable_iff sound found]
    exact ⟨fun accepted => ⟨accepted.2.1.2, accepted.2.2⟩,
      fun accepted => ⟨available, ⟨keyUnused, accepted.1⟩, accepted.2⟩⟩
  by_cases accepted : (request.changes.applyTo current).validate = .ok () ∧
      ∀ statement ∈ updateStatements, world.faults.writes statement = false
  · have answer := congrArg Prod.fst (accepts.mpr accepted)
    cases running : world.faults.workerStopped with
    | false =>
      rw [alone_execute_ok thread answer (.inr (.inr running))]
      exact iff_of_true ⟨_, rfl⟩ ⟨accepted.1, accepted.2, rfl⟩
    | true =>
      rw [alone_execute_unwoken thread answer fun wakes => ?_]
      · simp
      · rcases wakes with idle | ended | awake
        · cases idle
        · cases ended
        · rw [running] at awake
          cases awake
  · refine iff_of_false ?_ fun all => accepted ⟨all.1, all.2.1⟩
    rcases SqliteStore.applyAgentCommand_cases world.faults.writes
        (world.updateCommand actor request current) world.db with
      ⟨error, failed⟩ | ⟨row, existing, bound, -⟩ | ⟨-, done⟩
    · rw [← answer_of_available available] at failed
      rw [alone_execute_refused thread (congrArg Prod.fst failed)]
      simp
    · exact absurd (keyUnused.symm.trans bound) (by simp)
    · rw [← answer_of_available available] at done
      exact absurd (accepts.mp done) accepted

variable (thread : Thread)

/-- Executing a plan does not touch the files. -/
theorem execute_files (world : World) (metadata : CommandMetadata) (body : RequestBody)
    (plan : ExecutionPlan) :
    (alone (perform thread) (execute actor metadata body plan) world).2.files = world.files := by
  rcases answer : (world.answer (world.planned actor metadata body plan)).1 with
    error | ⟨operation, replayed⟩
  · rw [alone_execute_refused thread answer]
    rfl
  · by_cases wakes : world.Wakes plan.wakeImmediately operation
    · rw [alone_execute_ok thread answer wakes]
      rfl
    · rw [alone_execute_unwoken thread answer wakes]
      rfl

/-- The text of an agent's file after a call and the outcome of the call. -/
def World.UpdateSpares (world : World) (thread : Thread) (actor : AuthenticatedPrincipal)
    (request : UpdateAgentRequest) : Prop :=
  (∃ error, (alone (perform thread) (updateAgent actor request) world).1 = .error error) ∨
    (commandScope actor .updateAgent, request.metadata.idempotencyKey) ∈ world.db.idempotencyKeys →
  (alone (perform thread) (updateAgent actor request) world).2.files.agents.lookup
      request.agentId = world.files.agents.lookup request.agentId

theorem updateSpares_of_unread (unread : world.faults.storeUnavailable = true ∨
      world.db.agentSpecs.lookup request.agentId = none) :
    world.UpdateSpares thread actor request := by
  intro _
  unfold updateAgent
  cases available : world.faults.storeUnavailable with
  | true => rw [alone_bind_error (alone_getAgent_error thread available)]
  | false =>
    have absent := unread.resolve_left (by simp [available])
    rw [alone_bind_ok (alone_getAgent_ok thread available), absent,
      alone_bind_error (alone_found_none thread)]

theorem lookup_provided {spec : AgentSpec} (present : spec.id ∈ world.files.agents) :
    world.provided spec = world.files :=
  if_pos present

theorem lookup_withAgent {files : Files} {file : AgentConfigFile} :
    (files.withAgent file).agents.lookup file.id = some (.pretty file) :=
  AList.lookup_insert _

/-- A rewrite spares the file exactly if the file says already what is written. -/
theorem World.Rewrites.spares_iff {updated : AgentConfigFile} {changes : UpdateAgentInput}
    (rewrites : world.Rewrites current changes updated) :
    world.SparesFile current changes ↔
      world.files.agents.lookup current.id = some (.pretty updated) := by
  unfold World.SparesFile
  by_cases present : current.id ∈ world.files.agents
  · rw [if_pos present]
    exact ⟨fun all => all updated rewrites, fun same other again => again.unique rewrites ▸ same⟩
  · rw [if_neg present, AList.lookup_eq_none.mpr present]
    exact iff_of_false (not_not.mpr rewrites.provides) (by simp)

theorem World.Rewrites.written {updated : AgentConfigFile} {changes : UpdateAgentInput}
    (rewrites : world.Rewrites current changes updated) :
    ((world.provided current).withAgent updated).agents.lookup current.id =
      some (.pretty updated) := by
  rw [← rewrites.id]
  exact lookup_withAgent

/-- Nor does it touch the file of another agent. -/
theorem World.Rewrites.lookup_iff {updated : AgentConfigFile} {changes : UpdateAgentInput}
    (rewrites : world.Rewrites current changes updated) :
    (∀ id, ((world.provided current).withAgent updated).agents.lookup id =
        world.files.agents.lookup id) ↔ world.SparesFile current changes := by
  rw [rewrites.spares_iff]
  constructor
  · intro spared
    exact (spared current.id).symm.trans rewrites.written
  · intro unchanged id
    by_cases own : id = current.id
    · rw [own, rewrites.written, unchanged]
    · rw [lookup_provided (Table.mem_of_lookup unchanged)]
      exact AList.lookup_insert_ne (rewrites.id ▸ own)

/-- Without a rewrite the call fails, and the file changed exactly if it was missing. -/
theorem updateSpares_of_unwritten_iff (available : world.faults.storeUnavailable = false)
    (found : world.db.agentSpecs.lookup request.agentId = some current)
    (own : current.id = request.agentId)
    (refused : ∀ updated, ¬world.Rewrites current request.changes updated) :
    world.UpdateSpares thread actor request ↔ world.SparesFile current request.changes := by
  unfold World.UpdateSpares World.SparesFile
  rw [updateAgent, alone_readAgent_of_found thread available found, ← own]
  by_cases provides : world.Provides current
  · obtain ⟨error, failed⟩ := alone_prepareAgentUpdate_error thread provides refused
    rw [alone_bind_error failed]
    by_cases present : current.id ∈ world.files.agents
    · rw [if_pos present, lookup_provided present]
      exact iff_of_true (fun _ => rfl) fun updated rewrites => absurd rewrites (refused updated)
    · rw [if_neg present]
      refine iff_of_false (fun same => ?_) (not_not.mpr provides)
      have written : (world.provided current).agents.lookup current.id =
          some (.pretty current.defaultFile) := by
        unfold provided
        rw [if_neg present]
        exact lookup_withAgent
      have kept := same (.inl ⟨error, rfl⟩)
      rw [written, AList.lookup_eq_none.mpr present] at kept
      cases kept
  · obtain ⟨error, failed⟩ := alone_prepareAgentUpdate_unprovided thread request.changes provides
    have absent : current.id ∉ world.files.agents := fun present => provides (.inl present)
    rw [alone_bind_error failed, if_neg absent]
    exact iff_of_true (fun _ => rfl) provides

/-- With a rewrite the file says what was written, and only an acceptance excuses that. -/
theorem updateSpares_of_written_iff (sound : world.Sound)
    (available : world.faults.storeUnavailable = false)
    (found : world.db.agentSpecs.lookup request.agentId = some current)
    {updated : AgentConfigFile} (rewrites : world.Rewrites current request.changes updated) :
    world.UpdateSpares thread actor request ↔
      world.SparesFile current request.changes ∨ world.AcceptsUpdate actor request current := by
  have own : current.id = request.agentId := sound.consistent.agentKeyed _ _ found
  have prepared : ({ world with
      files := (world.provided current).withAgent updated } : World).Sound := { sound with }
  unfold World.UpdateSpares
  rw [updateAgent, alone_readAgent_of_found thread available found,
    alone_bind_ok (alone_prepareAgentUpdate_ok thread rewrites), execute_files, ← own,
    rewrites.written, rewrites.spares_iff, eq_comm]
  by_cases keyUnused : world.db.idempotencyKeys.lookup
      (commandScope actor .updateAgent, request.metadata.idempotencyKey) = none
  · have unbound : (commandScope actor .updateAgent, request.metadata.idempotencyKey) ∉
        world.db.idempotencyKeys := AList.lookup_eq_none.mp keyUnused
    have succeeds := execute_update_ok_iff thread prepared available found keyUnused
    have fails : (∃ error, (alone (perform thread) (execute actor request.metadata
        (.updateAgent request) (updatePlan request current.communityConfigId))
          { world with files := (world.provided current).withAgent updated }).1 =
            .error error) ↔ ¬world.AcceptsUpdate actor request current := by
      rw [exists_error_iff, succeeds, not_iff_not]
      exact ⟨fun ⟨valid, quiet, running⟩ => ⟨⟨updated, rewrites⟩, keyUnused, valid, quiet, running⟩,
        fun accepts => ⟨accepts.valid, accepts.quiet, accepts.running⟩⟩
    rw [fails]
    constructor
    · intro same
      by_cases accepts : world.AcceptsUpdate actor request current
      · exact .inr accepts
      · exact .inl (same (.inl accepts))
    · rintro (same | accepts) excuse
      · exact same
      · exact excuse.elim (fun refused => absurd accepts refused)
          (fun bound => absurd bound unbound)
  · have bound : (commandScope actor .updateAgent, request.metadata.idempotencyKey) ∈
        world.db.idempotencyKeys := not_not.mp fun absent =>
      keyUnused (AList.lookup_eq_none.mpr absent)
    exact ⟨fun same => .inl (same (.inr bound)),
      fun spared _ => spared.resolve_right fun accepts => keyUnused accepts.keyUnused⟩

end

/-- An update that fails or is a replay leaves the agent's file as it was exactly if the agent is
out of reach, the file is spared, or the update is accepted after all. -/
theorem updateAgent_keepsFile_iff (setting : Setting) {pool : Pool Thread Action World}
    (reachable : Reachable setting (unrestricted Thread Action World) pool) (thread : Thread)
    (actor : AuthenticatedPrincipal) (request : UpdateAgentRequest) :
    ((∃ error, (alone (perform thread) (updateAgent actor request) pool.world).1 = .error error) ∨
      (commandScope actor .updateAgent, request.metadata.idempotencyKey) ∈
        pool.world.db.idempotencyKeys →
      (alone (perform thread) (updateAgent actor request)
        pool.world).2.files.agents.lookup request.agentId =
          pool.world.files.agents.lookup request.agentId) ↔
      pool.world.KeepsFile actor request := by
  have sound := reachable.sound
  show pool.world.UpdateSpares thread actor request ↔ _
  unfold World.KeepsFile
  cases available : pool.world.faults.storeUnavailable with
  | true => exact iff_of_true (updateSpares_of_unread thread (.inl available)) (.inl rfl)
  | false =>
    cases found : pool.world.db.agentSpecs.lookup request.agentId with
    | none => exact iff_of_true (updateSpares_of_unread thread (.inr found)) (.inr nofun)
    | some current =>
      have own : current.id = request.agentId := sound.consistent.agentKeyed _ _ found
      have keeps : pool.world.UpdateSpares thread actor request ↔
          pool.world.SparesFile current request.changes ∨
            pool.world.AcceptsUpdate actor request current := by
        by_cases written : ∃ updated, pool.world.Rewrites current request.changes updated
        · obtain ⟨updated, rewrites⟩ := written
          exact updateSpares_of_written_iff thread sound available found rewrites
        · have refused := not_exists.mp written
          rw [updateSpares_of_unwritten_iff thread available found own refused]
          exact ⟨.inl, fun spared => spared.resolve_right fun accepts => written accepts.rewrites⟩
      rw [keeps]
      simp

/-! ### A replay that reverts a newer edit -/

namespace Deployment

/-- A request that renames the agent. -/
def rename (key name : String) : UpdateAgentRequest :=
  ⟨⟨key, "c"⟩, ⟨1⟩, ⟨some name, none, none, none, none⟩⟩

/-- Two updates, both accepted and reconciled. -/
def renamedTwice : List Move :=
  answer (create "k1") ++ work ++ answer (.agent (.update (rename "k2" "first"))) ++ work ++
    answer (.agent (.update (rename "k3" "second"))) ++ work

/-- The name the agent's file gives it. -/
def nameOnDisk (world : World) : Option String :=
  ((world.files.agents.lookup ⟨1⟩).bind FileText.parse).map AgentConfigFile.displayName

end Deployment

/-- The first update sent again is a replay, and the file has the first name again. -/
theorem updateAgent_revertsFile : Reachable ⟨2592000, False⟩ (unrestricted Thread Action World)
        (playAll ⟨2592000, False⟩ Deployment.host Deployment.renamedTwice) ∧
      Deployment.nameOnDisk (playAll ⟨2592000, False⟩ Deployment.host
        Deployment.renamedTwice).world = some "second" ∧
      (alone (perform (.request 0)) (updateAgent Deployment.admin (Deployment.rename "k2" "first"))
        (playAll ⟨2592000, False⟩ Deployment.host Deployment.renamedTwice).world).1.toOption.map
          DurableOperation.id = some ⟨3⟩ ∧
      Deployment.nameOnDisk (alone (perform (.request 0))
        (updateAgent Deployment.admin (Deployment.rename "k2" "first"))
        (playAll ⟨2592000, False⟩ Deployment.host Deployment.renamedTwice).world).2 =
          some "first" := by
  refine ⟨reachable_playAll Deployment.host_fresh _ (by decide), ?_, ?_, ?_⟩
  all_goals decide +kernel

/-- An update under a fresh key is accepted, and may change the file. -/
theorem updateAgent_keepsFile_fresh :
    (playAll ⟨2592000, False⟩ Deployment.host Deployment.renamedTwice).world.KeepsFile
      Deployment.admin (Deployment.rename "k4" "third") := by
  refine (updateAgent_keepsFile_iff ⟨2592000, False⟩
    (reachable_playAll Deployment.host_fresh _ (by decide)) (.request 0) Deployment.admin
    (Deployment.rename "k4" "third")).mp ?_
  rintro (⟨error, failed⟩ | bound)
  · have succeeds : (alone (perform (.request 0))
        (updateAgent Deployment.admin (Deployment.rename "k4" "third"))
        (playAll ⟨2592000, False⟩ Deployment.host
          Deployment.renamedTwice).world).1.isOk = true := by decide +kernel
    rw [failed] at succeeds
    cases succeeds
  · exact absurd bound (by decide +kernel)

end BuzzServer
