/-
This file puts the threads' judgments together: the daemon keeps its terms in
every run from a fresh world, with any number of requests, interleaved in any
way, and with restarts unless receipts are assumed to be durable.

What follows is the induction rule that the properties of runs are proved by.
It leaves only the actions that change the core of the world, each with what is
known when a thread performs it.
-/

import BuzzServer.Daemon.Worker

namespace BuzzServer

open Relational Concurrent Discipline Tolerates World.SameCore

variable {world after : World}

section

variable {setting : Setting} {terms : Terms}

/-! ### The obligations -/

theorem World.Sound.receive (sound : world.Sound) (queue : List ReconcileWork)
    (item : Option OperationId) : { world with queue := queue, processing := item : World }.Sound :=
  { sound with }

theorem tolerates_receive (terms : Terms) {thread : Thread} (notWorker : thread ≠ .worker)
    (world : World) (queue : List ReconcileWork) (item : Option OperationId) :
    Tolerates terms thread world { world with queue := queue, processing := item } where
  nextUuid := Nat.le_refl _
  owned := fun _ owner => ⟨owner, fun created => created⟩
  starting := fun _ => rfl
  worker := fun worker => absurd worker notWorker

theorem resting_of_atRest {item : Option OperationId} (rest : world.AtRest terms item) :
    Resting terms .worker world :=
  ⟨nofun, fun _ => ⟨rest.1.cached, rest.1.reconciled, rest.2⟩⟩

variable {program : Program Action Unit}

theorem meets_worker {item : Option OperationId}
    (triple : (conduct setting terms).Triple (daemon setting) terms.admits .worker
      (fun world => world.AtRest terms item) program fun _ world => world.AtRest terms item)
    (sound : world.Sound) (resting : Resting terms .worker world) (queue : List ReconcileWork) :
    (conduct setting terms).Meets (daemon setting) terms.admits .worker program
      (fun _ => Resting terms .worker) { world with queue := queue, processing := item } := by
  obtain ⟨cached, reconciled, accounted⟩ := resting.2 rfl
  have weaker := Triple.consequence (fun _ _ => id) triple fun _ _ rest =>
    resting_of_atRest rest
  exact weaker.meets _ (sound.receive queue item) ⟨⟨rfl, cached, reconciled⟩, accounted⟩

theorem lawful_start {thread : Thread}
    (starts : Starts setting thread world program after) (sound : world.Sound)
    (resting : Resting terms thread world) :
    after.Sound ∧ (∀ other, other ≠ thread → Tolerates terms other world after) ∧
      (conduct setting terms).Meets (daemon setting) terms.admits thread program
        (fun _ => Resting terms thread) after := by
  cases starts with
  | request number actor request serving =>
    exact ⟨sound, fun other _ => refl terms other world,
      (triple_serve (by simp) _ actor request).meets world sound resting⟩
  | retentionTick serving =>
    exact ⟨sound, fun other _ => refl terms other world,
      (triple_retentionTick _).meets world sound resting⟩
  | @receive _ work rest queued =>
    exact ⟨sound.receive _ _, fun other notWorker => tolerates_receive terms notWorker ..,
      meets_worker (triple_process work) sound resting rest⟩
  | timeout idle =>
    exact ⟨sound.receive world.queue _,
      fun other notWorker => tolerates_receive terms notWorker _ world.queue _,
      meets_worker triple_observePass sound resting world.queue⟩

/-- Outside interference leaves the core alone, or ends a process. -/
theorem Interference.cases_core {before : World} (interferes : Interference before after) :
    before.SameCore after ∨
      ∃ pid, after = { before with processes := before.processes.erase pid } := by
  cases interferes with
  | files files | clock now later | faults faults => exact .inl { refl before with }
  | exit pid => exact .inr ⟨pid, rfl⟩
  | publications outbox projections =>
    exact .inl { refl before with
      tables := { Database.SameLifecycle.refl before.db with } }

theorem tolerates_exit (terms : Terms) (thread : Thread) (world : World) (pid : Nat) :
    Tolerates terms thread world { world with processes := world.processes.erase pid } :=
  { refl terms thread world with
    worker := fun _ =>
      { WorkerTolerates.refl terms world with
        processes := by
          intro other id live
          rw [Table.lookup_erase_eq] at live
          split at live
          · cases live
          · exact live } }

theorem lawful_environment (interferes : Interference world after) (sound : world.Sound) :
    after.Sound ∧ ∀ thread, Tolerates terms thread world after := by
  rcases interferes.cases_core with same | ⟨pid, rfl⟩
  · exact ⟨same.sound sound, same.tolerates terms⟩
  · exact ⟨{ sound with }, fun thread => tolerates_exit terms thread world pid⟩

theorem World.Sound.reboot (sound : world.Sound) : world.reboot.Sound := { sound with
    cachedCreated := fun _ none => by cases none
    startingCreated := fun _ none => by cases none }

theorem lawful_restart (restarts : setting.restarts) (volatile : ¬terms.durable)
    (sound : world.Sound) (thread : Thread) :
    (conduct setting terms).Meets (daemon setting) terms.admits thread (bootThreads thread)
      (fun _ => Resting terms thread) world.reboot := by
  cases thread with
  | main => exact (triple_startup restarts).meets _ sound.reboot rfl
  | worker => exact ⟨nofun, fun _ => ⟨rfl, rfl, fun durable => absurd durable volatile⟩⟩
  | request number => exact ⟨nofun, nofun⟩

/-- The daemon keeps its terms. -/
theorem conduct_lawful (crashFree : terms.durable → ¬setting.restarts) :
    (conduct setting terms).Lawful (daemon setting) terms.admits where
  rely_refl := refl terms
  rely_trans := fun _ _ _ _ earlier later => earlier.trans later
  idle_stable := fun _ => stands_resting
  start := fun _ _ _ _ starts sound resting => lawful_start starts sound resting
  environment := fun _ _ interferes sound => lawful_environment interferes sound
  restart := by
    rintro world after threads ⟨restarts, rfl, rfl⟩ sound
    exact ⟨sound.reboot, lawful_restart restarts (fun durable => crashFree durable restarts) sound⟩

/-! ### Runs from a fresh world -/

theorem World.Fresh.sound (fresh : world.Fresh) : world.Sound where
  consistent :=
    { agentKeyed := fun _ _ found => by simp [fresh.agentSpecs] at found
      operationKeyed := fun _ _ found => by simp [fresh.operations] at found
      agentReference := fun _ _ _ found => by simp [fresh.operations] at found
      retained := fun _ found => by simp [fresh.agentRetention] at found
      community := fun _ _ found => by simp [fresh.agentSpecs] at found }
  operationDrawn := fun _ member => by simp [fresh.operations] at member
  ownedDrawn := fun _ member => by simp [fresh.owners] at member
  createdDrawn := fun _ ⟨_, member, _⟩ => by simp [fresh.accepted] at member
  agentCreated := fun _ member => by simp [fresh.agentSpecs] at member
  tombstoneCreated := fun _ member => by simp [fresh.tombstones] at member
  cachedCreated := fun _ cached => by simp [fresh.cached] at cached
  startingCreated := fun _ member => by simp [fresh.starting] at member

theorem World.Fresh.resting (fresh : world.Fresh) (thread : Thread) : Resting terms thread world :=
  ⟨fun _ => fresh.starting, fun _ => ⟨fresh.cached, fresh.reconciled, fun _ _ _ live => by
    simp [fresh.processes] at live⟩⟩

theorem World.Fresh.holds (fresh : world.Fresh) :
    (conduct setting terms).Holds (daemon setting) terms.admits (idlePool world) :=
  ⟨fresh.sound, fresh.resting⟩

/-- The terms of results that assume nothing beyond their own condition. -/
def Terms.unconditional : Terms := ⟨False, True⟩

theorem Terms.unconditional_admits (thread : Thread) ⦃Response : Type⦄
    (action : Action Response) (world : World) :
    Terms.unconditional.admits thread action world := by
  cases action <;> first | exact trivial | exact fun durable => durable.elim

/-- What a property of worlds has to survive to hold along every run. -/
structure Persists (setting : Setting) (terms : Terms) (admits : Condition Thread Action World)
    (property : World → Prop) : Prop where
  act : ∀ {thread : Thread} {Response : Type} {action : Action Response} {before after : World},
    before.Sound → duty setting terms thread action before → admits thread action before →
      Effect thread before action after → property before → property after
  quiet : ∀ {before after : World}, before.SameCore after → property before → property after
  exit : ∀ {world : World} (pid : Nat), property world →
    property { world with processes := world.processes.erase pid }
  receive : ∀ {world : World} (queue : List ReconcileWork) (item : Option OperationId),
    Resting terms .worker world → property world →
      property { world with queue := queue, processing := item }
  reboot : ∀ {world : World}, setting.restarts → property world → property world.reboot

variable {admits : Condition Thread Action World} {pool : Pool Thread Action World}

/-- The pools a run reaches keep the terms. -/
theorem Reachable.holds (crashFree : terms.durable → ¬setting.restarts)
    (implies : ∀ thread ⦃Response : Type⦄ (action : Action Response) world,
      admits thread action world → terms.admits thread action world)
    (reachable : Reachable setting admits pool) :
    (conduct setting terms).Holds (daemon setting) terms.admits pool := by
  obtain ⟨world, fresh, reaches⟩ := reachable
  exact (conduct_lawful crashFree).holds (reaches.mono implies) fresh.holds

/-- Every world a run reaches is sound, whatever the run does. -/
theorem Reachable.sound (reachable : Reachable setting admits pool) : pool.world.Sound := by
  have holds : (conduct setting .unconditional).Holds (daemon setting) _ pool :=
    reachable.holds (fun durable => durable.elim)
      fun _ _ action world _ => Terms.unconditional_admits _ action world
  exact holds.1

/-- A property that persists is kept by every run. -/
theorem Persists.reaches {property : World → Prop} {last : Pool Thread Action World}
    (persists : Persists setting terms admits property)
    (crashFree : terms.durable → ¬setting.restarts)
    (implies : ∀ thread ⦃Response : Type⦄ (action : Action Response) world,
      admits thread action world → terms.admits thread action world)
    (holds : (conduct setting terms).Holds (daemon setting) terms.admits pool)
    (initially : property pool.world) (reaches : (daemon setting).Reaches admits pool last) :
    property last.world := by
  refine (conduct_lawful crashFree).invariant implies reaches holds initially ?_ ?_ ?_ ?_
  · intro thread Response action world sound done admitted holds
    exact persists.act sound done admitted (perform_effect thread world action) holds
  · intro thread world program after starts sound resting holds
    cases starts with
    | request number actor request serving => exact holds
    | retentionTick serving => exact holds
    | receive queued => exact persists.receive _ _ resting holds
    | timeout idle => exact persists.receive world.queue none resting holds
  · intro world after interferes _ holds
    rcases interferes.cases_core with same | ⟨pid, rfl⟩
    · exact persists.quiet same holds
    · exact persists.exit pid holds
  · rintro world after threads ⟨restarts, rfl, -⟩ _ holds
    exact persists.reboot restarts holds

/-- A property that holds of fresh worlds and persists holds of every world a run reaches. -/
theorem Persists.reachable {property : World → Prop}
    (persists : Persists setting terms admits property)
    (crashFree : terms.durable → ¬setting.restarts)
    (implies : ∀ thread ⦃Response : Type⦄ (action : Action Response) world,
      admits thread action world → terms.admits thread action world)
    (initially : ∀ world : World, world.Fresh → property world)
    (reachable : Reachable setting admits pool) : property pool.world := by
  obtain ⟨world, fresh, reaches⟩ := reachable
  exact persists.reaches crashFree implies fresh.holds (initially world fresh) reaches

end

end BuzzServer
