/-
This file is about what happens to a commanded state.

A command commits the desired state of an agent in one transaction. The worker
and the startup loop read an agent, resolve it against its file and write the
whole spec back, desired state included, without looking at the row again. A
command that commits in between is overwritten, and the operation it queued
then reconciles the old state. Runs in which no command commits a state that
contradicts a spec somebody holds keep every agent at the state that was
commanded last.
-/

import BuzzServer.Daemon.Provenance
import BuzzServer.Daemon.Schedule

namespace BuzzServer

open Relational Concurrent

/-! ### The last commanded state -/

/-- The state a mutation commands for its target. -/
def AgentCommandMutation.commandedState : AgentCommandMutation → Option DesiredAgentState
  | .create agent => some agent.desiredState
  | .update _ _ => none
  | .setState _ desiredState _ => some desiredState

/-- The state a command commands for an agent. -/
def AgentCommand.commands (command : AgentCommand) (id : AgentId) : Option DesiredAgentState :=
  if command.mutation.target = id then command.mutation.commandedState else none

/-- The state that the last create, enable, disable, delete or purge command for the agent
commanded, in commit order. -/
def lastCommanded (accepted : List AgentCommand) (id : AgentId) : Option DesiredAgentState :=
  (accepted.filterMap fun command => command.commands id).getLast?

theorem lastCommanded_append (accepted : List AgentCommand) (command : AgentCommand)
    (id : AgentId) :
    lastCommanded (accepted ++ [command]) id =
      (command.commands id).or (lastCommanded accepted id) := by
  unfold lastCommanded
  cases commanded : command.commands id with
  | none => simp [commanded]
  | some state => simp [commanded]

/-! ### Commands that contradict nobody -/

/-- No command commits a state for an agent while a thread holds a spec of that agent with
another state. -/
def UncontradictedCommands : Condition Thread Action World :=
  fun _ _ action world => ∀ command, action.submits = some command →
    command.Acceptable world.db → ∀ id state deadline,
      command.mutation = .setState id state deadline →
        ∀ spec ∈ world.held, spec.id = id → spec.desiredState = state

/-- Every row and every held spec has the state that was commanded last. -/
structure World.Obedient (world : World) : Prop where
  rows : ∀ id agent, world.db.agentSpecs.lookup id = some agent →
    lastCommanded world.accepted id = some agent.desiredState
  held : ∀ spec ∈ world.held, lastCommanded world.accepted spec.id = some spec.desiredState

section

variable {setting : Setting} {terms : Terms} {thread : Thread} {before after : World}
variable {Response : Type} {action : Action Response}

theorem World.Obedient.accept {command : AgentCommand} (sound : before.Sound)
    (conforms : command.Conforms thread before)
    (uncontradicted : ∀ id state deadline, command.mutation = .setState id state deadline →
      ∀ spec ∈ before.held, spec.id = id → spec.desiredState = state)
    (obedient : before.Obedient) :
    { before with
      db := command.commit before.db
      accepted := before.accepted ++ [command] : World }.Obedient := by
  constructor
  · intro id agent found
    change (command.mutation.agents before.db.agentSpecs).lookup id = _ at found
    rw [command.mutation.lookup_agents sound.consistent.agentKeyed] at found
    rw [lastCommanded_append, AgentCommand.commands]
    split at found
    · next target =>
      rw [if_pos target.symm]
      cases mutation : command.mutation with
      | create created =>
        rw [mutation] at found
        cases found
        rfl
      | update target changes =>
        rw [mutation] at found
        obtain ⟨earlier, present, rfl⟩ := Option.map_eq_some_iff.mp found
        exact obedient.rows id earlier present
      | setState target state deadline =>
        rw [mutation] at found
        obtain ⟨earlier, present, rfl⟩ := Option.map_eq_some_iff.mp found
        rfl
    · next other =>
      rw [if_neg (Ne.symm other)]
      exact obedient.rows id agent found
  · intro spec held
    rw [lastCommanded_append, AgentCommand.commands]
    split
    · next target =>
      cases mutation : command.mutation with
      | create created =>
        rw [mutation] at target
        have created := sound.heldCreated (show spec ∈ before.held from held)
        rw [← target] at created
        exact absurd created (conforms.create _ mutation).2.2
      | update id changes => exact obedient.held spec held
      | setState id state deadline =>
        rw [mutation] at target
        rw [uncontradicted id state deadline mutation spec held target.symm]
        rfl
    · exact obedient.held spec held

theorem World.Obedient.act (sound : before.Sound) (done : duty setting terms thread action before)
    (uncontradicted : UncontradictedCommands thread action before)
    (effect : Effect thread before action after) (obedient : before.Obedient) :
    after.Obedient := by
  rcases effect.sources done with ⟨command, submits, acceptable, rfl⟩ | rewritten
  · exact obedient.accept sound (duty_conforms done submits).2
      (uncontradicted command submits acceptable)
  · constructor
    · intro id agent found
      rw [rewritten.accepted]
      rcases rewritten.rows id agent found with kept | ⟨spec, held, same, rfl⟩
      · exact obedient.rows id agent kept
      · rw [same.1, same.2.2]
        exact obedient.held spec held
    · intro spec held
      rw [rewritten.accepted]
      rcases effect.held sound.consistent.agentKeyed held with kept | read
      · exact obedient.held spec kept
      · exact obedient.rows spec.id spec read

theorem World.Obedient.congr (obedient : before.Obedient)
    (rows : after.db.agentSpecs = before.db.agentSpecs)
    (held : ∀ spec ∈ after.held, spec ∈ before.held)
    (accepted : after.accepted = before.accepted) : after.Obedient := by
  constructor
  · rw [rows, accepted]
    exact obedient.rows
  · rw [accepted]
    exact fun spec member => obedient.held spec (held spec member)

theorem obedient_persists : Persists setting terms UncontradictedCommands World.Obedient where
  act := World.Obedient.act
  quiet := fun same obedient => obedient.congr same.tables.agentSpecs
    (fun _ member => same.held ▸ member) same.accepted
  exit := fun _ obedient => obedient.congr rfl (fun _ => id) rfl
  receive := fun _ _ _ obedient => obedient.congr rfl (fun _ => id) rfl
  reboot := fun _ obedient => obedient.congr rfl (fun _ member => by cases member) rfl

end

theorem World.Fresh.obedient {world : World} (fresh : world.Fresh) : world.Obedient where
  rows := fun _ _ found => by simp [fresh.agentSpecs] at found
  held := fun _ held => by simp [World.held, fresh.cached, fresh.starting] at held

/-- In a run in which no command contradicts a spec that a thread holds, every agent has the
state that the last command for it set, in every state and so in every quiescent one. -/
theorem desiredState_eq_lastCommanded (setting : Setting) {pool : Pool Thread Action World}
    (reachable : Reachable setting UncontradictedCommands pool) (id : AgentId)
    (agent : AgentSpec) (found : pool.world.db.agentSpecs.lookup id = some agent) :
    lastCommanded pool.world.accepted id = some agent.desiredState := by
  have obedient : pool.world.Obedient :=
    (obedient_persists : Persists setting .unconditional _ _).reachable
      (fun durable => durable.elim)
      (fun _ _ action world _ => Terms.unconditional_admits _ action world)
      (fun _ fresh => fresh.obedient) reachable
  exact obedient.rows id agent found

/-! ### Both kinds of runs -/

/-- No request is in flight, and the worker has nothing left to do. -/
structure Quiescent (pool : Pool Thread Action World) : Prop where
  requests : ∀ number, pool.threads (.request number) = .done ()
  worker : (pool.threads .worker).isDone = true
  queue : pool.world.queue = []

namespace Deployment

/-- A disable that comes in between the worker's read of the agent and its write. -/
def overtaking : List Move :=
  answer (create "k1") ++ work ++ answer (changeState "k2" ⟨1⟩ .enabled) ++
    [.receive, .acts .worker 13] ++ answer (changeState "k3" ⟨1⟩ .disabled) ++
      [.acts .worker 80] ++ work

/-- The same disable after the worker is done. -/
def inTurn : List Move :=
  answer (create "k1") ++ work ++ answer (changeState "k2" ⟨1⟩ .enabled) ++ work ++
    answer (changeState "k3" ⟨1⟩ .disabled) ++ work

/-- Whether no spec is held when a command is submitted. -/
def commandsUnheld : Check Thread Action World :=
  fun _ _ action world => !action.submits.isSome || world.held.isEmpty

theorem commandsUnheld_sound (thread : Thread) ⦃Response : Type⦄ (action : Action Response)
    (world : World) (passes : commandsUnheld thread action world = true) :
    UncontradictedCommands thread action world := by
  intro command submits _ id state deadline _ spec held
  simp only [commandsUnheld, submits, Option.isSome_some, Bool.not_true, Bool.false_or,
    List.isEmpty_iff] at passes
  rw [passes] at held
  cases held

end Deployment

/-- A request that a schedule does not name is not in flight, and the first one is not if it
has been answered. -/
theorem quiescent_playAll {setting : Setting} {world : World} {moves : List Move}
    (aside : ∀ number, moves.any (Move.concerns (number + 1)) = false)
    (answered : ((playAll setting world moves).threads (.request 0)).isDone = true)
    (worker : ((playAll setting world moves).threads .worker).isDone = true)
    (queue : (playAll setting world moves).world.queue = []) :
    Quiescent (playAll setting world moves) := by
  refine ⟨fun number => ?_, worker, queue⟩
  cases number with
  | zero =>
    cases program : (playAll setting world moves).threads (.request 0) with
    | done => rfl
    | step action next =>
      rw [program] at answered
      cases answered
  | succ number => exact threads_playAll (aside number)

/-- The disable was accepted and reconciled, and the agent is enabled. -/
theorem desiredState_overtaken : Reachable ⟨2592000, False⟩ (unrestricted Thread Action World)
        (playAll ⟨2592000, False⟩ Deployment.host Deployment.overtaking) ∧
      Quiescent (playAll ⟨2592000, False⟩ Deployment.host Deployment.overtaking) ∧
      ((playAll ⟨2592000, False⟩ Deployment.host
        Deployment.overtaking).world.db.agentSpecs.lookup ⟨1⟩).map AgentSpec.desiredState =
          some .enabled ∧
      lastCommanded (playAll ⟨2592000, False⟩ Deployment.host
        Deployment.overtaking).world.accepted ⟨1⟩ = some .disabled := by
  refine ⟨reachable_playAll Deployment.host_fresh _ (by decide), quiescent_playAll ?_ ?_ ?_ ?_,
    ?_, ?_⟩
  · intro number
    simp [Deployment.overtaking, Deployment.answer, Deployment.work, Move.concerns]
  all_goals decide +kernel

theorem desiredState_inTurn : ∃ agent, (playAll ⟨2592000, False⟩ Deployment.host
        Deployment.inTurn).world.db.agentSpecs.lookup ⟨1⟩ = some agent ∧
      agent.desiredState = .disabled ∧
      lastCommanded (playAll ⟨2592000, False⟩ Deployment.host
        Deployment.inTurn).world.accepted ⟨1⟩ = some agent.desiredState := by
  have disabled : ((playAll ⟨2592000, False⟩ Deployment.host
      Deployment.inTurn).world.db.agentSpecs.lookup ⟨1⟩).map AgentSpec.desiredState =
        some .disabled := by decide +kernel
  obtain ⟨agent, found, state⟩ := Option.map_eq_some_iff.mp disabled
  refine ⟨agent, found, state, desiredState_eq_lastCommanded ⟨2592000, False⟩ ?_ ⟨1⟩ agent found⟩
  exact reachable_of_passes Deployment.commandsUnheld_sound Deployment.host_fresh _ (by decide)
    (by decide +kernel)

end BuzzServer
