/-
This file gives pools of threads their interleaving semantics.

A pool is a shared world and, for each thread, the program that thread still
has to run. One step lets one thread perform its next action, starts a program
on a thread that has finished, lets the environment change the world, or
restarts the whole pool with a volatile part of the world lost. Which programs
may start, what the environment may do and what a restart leaves behind are the
parameters of a system.

Runs are restricted by a predicate on action steps, `admits`: a statement about
"every run in which no such action happens" is a statement about the pools that
are reachable under that predicate. With the predicate that admits everything
these are all the reachable pools.
-/

import BuzzServer.Concurrent.Program
import Mathlib.Logic.Function.Basic
import Mathlib.Logic.Relation

namespace Concurrent

/-- A shared world and the program each thread still has to run. -/
structure Pool (Thread : Type) (Action : Type → Type) (World : Type) : Type 1 where
  world : World
  threads : Thread → Program Action Unit

/-- What the steps of a pool can be. -/
structure System (Thread : Type) (Action : Type → Type) (World : Type) : Type 1 where
  /-- The response of an action and the world it leaves. -/
  perform : Thread → ∀ ⦃Response : Type⦄, Action Response → World → Response × World
  /-- The programs a thread may start in a world, with the world the start leaves. -/
  starts : Thread → World → Program Action Unit → World → Prop
  /-- The changes the environment may make on its own. -/
  environment : World → World → Prop
  /-- The worlds and programs a restart may leave. -/
  restarts : World → World → (Thread → Program Action Unit) → Prop

variable (Thread : Type) (Action : Type → Type) (World : Type)

/-- A condition on the action a thread is about to perform. -/
abbrev Condition : Type 1 :=
  Thread → ∀ ⦃Response : Type⦄, Action Response → World → Prop

/-- A condition that can be computed. -/
abbrev Check : Type 1 :=
  Thread → ∀ ⦃Response : Type⦄, Action Response → World → Bool

/-- The condition every action meets. -/
def unrestricted : Condition Thread Action World :=
  fun _ _ _ _ => True

namespace System

variable {Thread : Type} [DecidableEq Thread] {Action : Type → Type} {World : Type}
variable (system : System Thread Action World)

/-- One step of a pool in which every action meets the condition. -/
inductive Step (admits : Condition Thread Action World) :
    Pool Thread Action World → Pool Thread Action World → Prop where
  | act {pool : Pool Thread Action World} {thread : Thread} {Response : Type}
      {action : Action Response} {next : Response → Program Action Unit}
      (running : pool.threads thread = .step action next)
      (admitted : admits thread action pool.world) :
      Step admits pool ⟨(system.perform thread action pool.world).2,
          Function.update pool.threads thread (next (system.perform thread action pool.world).1)⟩
  | start {pool : Pool Thread Action World} {thread : Thread}
      {program : Program Action Unit} {world : World}
      (finished : pool.threads thread = .done ())
      (begins : system.starts thread pool.world program world) :
      Step admits pool ⟨world, Function.update pool.threads thread program⟩
  | environment {pool : Pool Thread Action World} {world : World}
      (changes : system.environment pool.world world) :
      Step admits pool ⟨world, pool.threads⟩
  | restart {pool : Pool Thread Action World} {world : World}
      {threads : Thread → Program Action Unit}
      (restarts : system.restarts pool.world world threads) :
      Step admits pool ⟨world, threads⟩

/-- Some run whose actions all meet the condition leads from one pool to the other. -/
def Reaches (admits : Condition Thread Action World) :
    Pool Thread Action World → Pool Thread Action World → Prop :=
  Relation.ReflTransGen (system.Step admits)

variable {system}
variable {pool last : Pool Thread Action World} {thread : Thread}
  {admits weaker : Condition Thread Action World} {next : Pool Thread Action World}

theorem Step.mono (implies : ∀ thread ⦃Response : Type⦄ (action : Action Response) world,
      admits thread action world → weaker thread action world)
    (step : system.Step admits pool next) : system.Step weaker pool next := by
  cases step with
  | act running admitted => exact .act running (implies _ _ _ admitted)
  | start finished begins => exact .start finished begins
  | environment changes => exact .environment changes
  | restart restarts => exact .restart restarts

theorem Reaches.mono (implies : ∀ thread ⦃Response : Type⦄ (action : Action Response) world,
      admits thread action world → weaker thread action world)
    (reaches : system.Reaches admits pool last) : system.Reaches weaker pool last := by
  exact Relation.ReflTransGen.mono (fun _ _ step => Step.mono implies step) _ _ reaches

variable {admits : Condition Thread Action World}

theorem Reaches.refl (pool : Pool Thread Action World) : system.Reaches admits pool pool :=
  Relation.ReflTransGen.refl

variable {middle : Pool Thread Action World}

theorem Reaches.trans
    (first : system.Reaches admits pool middle) (rest : system.Reaches admits middle last) :
    system.Reaches admits pool last :=
  Relation.ReflTransGen.trans first rest

theorem Reaches.tail
    (first : system.Reaches admits pool middle) (step : system.Step admits middle last) :
    system.Reaches admits pool last :=
  Relation.ReflTransGen.tail first step

/-- A property that holds at first and survives every step holds wherever a run leads. -/
theorem Reaches.invariant
    (holds : Pool Thread Action World → Prop) (reaches : system.Reaches admits pool last)
    (initially : holds pool) (preserved : ∀ before after, system.Reaches admits pool before →
      system.Step admits before after → holds before → holds after) : holds last := by
  induction reaches with
  | refl => exact initially
  | tail first step inductionHypothesis =>
    exact preserved _ _ first step inductionHypothesis

/-- A run meets every further condition that follows from what its steps preserve. -/
theorem Reaches.strengthen
    (stronger : Condition Thread Action World) (holds : Pool Thread Action World → Prop)
    (reaches : system.Reaches admits pool last) (initially : holds pool)
    (preserved : ∀ before after, system.Step admits before after → holds before → holds after)
    (implies : ∀ before thread ⦃Response : Type⦄ (action : Action Response) rest, holds before →
      before.threads thread = .step action rest → admits thread action before.world →
        stronger thread action before.world) : holds last ∧ system.Reaches stronger pool last := by
  induction reaches with
  | refl => exact ⟨initially, .refl pool⟩
  | tail _ step inductionHypothesis =>
    obtain ⟨held, reached⟩ := inductionHypothesis
    refine ⟨preserved _ _ step held, reached.tail ?_⟩
    cases step with
    | act running admitted => exact .act running (implies _ _ _ _ held running admitted)
    | start finished begins => exact .start finished begins
    | environment changes => exact .environment changes
    | restart restarts => exact .restart restarts

/-! ### The pools a run passes -/

/-- A run from a pool to the last one, with all the pools it passes on its way. -/
inductive Run (system : System Thread Action World) (admits : Condition Thread Action World)
    (pool : Pool Thread Action World) :
    List (Pool Thread Action World) → Pool Thread Action World → Prop where
  | start : Run system admits pool [pool] pool
  | step {passed : List (Pool Thread Action World)} {before after : Pool Thread Action World}
      (run : Run system admits pool passed before) (step : system.Step admits before after) :
      Run system admits pool (passed ++ [after]) after

theorem Run.reaches
    {passed : List (Pool Thread Action World)} (run : system.Run admits pool passed last) :
    system.Reaches admits pool last := by
  induction run with
  | start => exact .refl pool
  | step _ step inductionHypothesis => exact inductionHypothesis.tail step

theorem Reaches.run
    {pool last : Pool Thread Action World} (reaches : system.Reaches admits pool last) :
    ∃ passed, system.Run admits pool passed last := by
  induction reaches with
  | refl => exact ⟨_, .start⟩
  | tail _ step inductionHypothesis =>
    obtain ⟨passed, run⟩ := inductionHypothesis
    exact ⟨_, .step run step⟩

/-! ### Computing a run -/

/-- Lets one thread perform its next action, if it has one. -/
def act (system : System Thread Action World) (thread : Thread)
    (pool : Pool Thread Action World) : Pool Thread Action World :=
  match pool.threads thread with
  | .done _ => pool
  | .step action next =>
      ⟨(system.perform thread action pool.world).2, Function.update pool.threads thread
          (next (system.perform thread action pool.world).1)⟩

theorem act_of_step {Response : Type} {action : Action Response}
    {next : Response → Program Action Unit} (running : pool.threads thread = .step action next) :
    system.act thread pool = ⟨(system.perform thread action pool.world).2,
        Function.update pool.threads thread
          (next (system.perform thread action pool.world).1)⟩ := by
  unfold act
  rw [running]

/-- Lets one thread perform its next actions, up to a number of them. -/
def acts (system : System Thread Action World) (thread : Thread) :
    Nat → Pool Thread Action World → Pool Thread Action World
  | 0, pool => pool
  | count + 1, pool => acts system thread count (system.act thread pool)

/-- Lets a thread that has finished its last program run another one. -/
def launch (thread : Thread) (program : Program Action Unit)
    (pool : Pool Thread Action World) : Pool Thread Action World :=
  match pool.threads thread with
  | .done _ => ⟨pool.world, Function.update pool.threads thread program⟩
  | .step _ _ => pool

/-- Whether the next action of a thread passes a check. -/
def actPasses (check : Check Thread Action World) (thread : Thread)
    (pool : Pool Thread Action World) : Bool :=
  match pool.threads thread with
  | .done _ => true
  | .step action _ => check thread action pool.world

/-- Whether each of the next actions of a thread passes a check when its turn comes. -/
def actsPass (system : System Thread Action World) (check : Check Thread Action World)
    (thread : Thread) : Nat → Pool Thread Action World → Bool
  | 0, _ => true
  | count + 1, pool =>
      actPasses check thread pool && actsPass system check thread count (system.act thread pool)

section

variable {check : Check Thread Action World}
variable (sound : ∀ thread ⦃Response : Type⦄ (action : Action Response) world,
  check thread action world = true → admits thread action world)

include sound

theorem reaches_act (passes : actPasses check thread pool = true) :
    system.Reaches admits pool (system.act thread pool) := by
  unfold act
  split
  case h_1 => exact .refl pool
  case h_2 action next running =>
    simp only [actPasses, running] at passes
    exact (Reaches.refl pool).tail (.act running (sound _ _ _ passes))

theorem reaches_acts {count : Nat} (passes : system.actsPass check thread count pool = true) :
    system.Reaches admits pool (system.acts thread count pool) := by
  induction count generalizing pool with
  | zero => exact .refl pool
  | succ count inductionHypothesis =>
    simp only [actsPass, Bool.and_eq_true] at passes
    exact (reaches_act sound passes.1).trans (inductionHypothesis passes.2)

end

theorem reaches_launch {program : Program Action Unit}
    (starts : system.starts thread pool.world program pool.world) :
    system.Reaches admits pool (launch thread program pool) := by
  unfold launch
  split
  case h_1 finished => exact (Reaches.refl pool).tail (.start finished starts)
  case h_2 => exact .refl pool

theorem actsPass_always (thread : Thread) (count : Nat) (pool : Pool Thread Action World) :
    system.actsPass (fun _ _ _ _ => true) thread count pool = true := by
  induction count generalizing pool with
  | zero => rfl
  | succ count inductionHypothesis =>
    simp only [actsPass, inductionHypothesis]
    unfold actPasses
    split <;> rfl

/-- Every thread may go on if nothing is restricted. -/
theorem reaches_acts_always (thread : Thread) (count : Nat) (pool : Pool Thread Action World) :
    system.Reaches (unrestricted Thread Action World) pool (system.acts thread count pool) :=
  reaches_acts (fun _ _ _ _ _ => trivial) (actsPass_always thread count pool)

/-- A thread lets the programs of the others be. -/
theorem acts_threads_of_ne {other : Thread} (different : other ≠ thread) (count : Nat)
    (pool : Pool Thread Action World) :
    (system.acts thread count pool).threads other = pool.threads other := by
  induction count generalizing pool with
  | zero => rfl
  | succ count inductionHypothesis =>
    refine (inductionHypothesis _).trans ?_
    unfold act
    split
    · rfl
    · exact Function.update_of_ne different _ _

end System

/-! ### Histories -/

section

variable {Thread : Type} {Action : Type → Type} {World Observation : Type}
variable [DecidableEq Observation]

/-- A history after one more look: nothing is added if there is nothing to see, or if it is
what was seen last. -/
def note (history : List Observation) (current : Option Observation) : List Observation :=
  match current with
  | none => history
  | some seen => if history.getLast? = some seen then history else history ++ [seen]

/-- The different observations along the pools of a run, in order. -/
def history (observe : World → Option Observation) (passed : List (Pool Thread Action World)) :
    List Observation :=
  passed.foldl (fun earlier pool => note earlier (observe pool.world)) []

theorem history_append (observe : World → Option Observation)
    (passed : List (Pool Thread Action World)) (pool : Pool Thread Action World) :
    history observe (passed ++ [pool]) = note (history observe passed) (observe pool.world) := by
  unfold history
  rw [List.foldl_append]
  rfl

end

end Concurrent
