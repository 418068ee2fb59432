/-
This file develops auxiliary variables for systems of threads.

An auxiliary variable is written along with the actions of the threads and read
by nobody. It lets a condition on a run speak about what a thread did before, so
that "no such step between these two steps" becomes a condition on a single
step. Adding it changes no run: every run of the system is one of the annotated
system, with the notes that go with it, and without its notes every run of the
annotated system is one of the system. So a discipline of the system may be
taken for granted in the annotated one.
-/

import BuzzServer.Concurrent.Discipline

namespace Concurrent

/-- How a note is kept: what it becomes with an action, and what a restart leaves of it. -/
structure Auxiliary (Thread : Type) (Action : Type → Type) (World Note : Type) : Type 1 where
  act : Thread → ∀ ⦃Response : Type⦄, Action Response → World → Note → Note
  restart : Note → Note

/-- A pool with a note. -/
def Pool.withNote {Thread : Type} {Action : Type → Type} {World Note : Type}
    (pool : Pool Thread Action World) (note : Note) : Pool Thread Action (World × Note) :=
  ⟨(pool.world, note), pool.threads⟩

/-- A pool without its note. -/
def Pool.withoutNote {Thread : Type} {Action : Type → Type} {World Note : Type}
    (pool : Pool Thread Action (World × Note)) : Pool Thread Action World :=
  ⟨pool.world.1, pool.threads⟩

namespace System

variable {Thread : Type} {Action : Type → Type} {World Note : Type}
variable (system : System Thread Action World) (auxiliary : Auxiliary Thread Action World Note)

/-- The system with a note next to its world. -/
def annotated : System Thread Action (World × Note) where
  perform := fun thread _ action state =>
    ((system.perform thread action state.1).1,
      (system.perform thread action state.1).2, auxiliary.act thread action state.1 state.2)
  starts := fun thread state program after =>
    system.starts thread state.1 program after.1 ∧ after.2 = state.2
  environment := fun state after => system.environment state.1 after.1 ∧ after.2 = state.2
  restarts := fun state after threads =>
    system.restarts state.1 after.1 threads ∧ after.2 = auxiliary.restart state.2

variable {system auxiliary} [DecidableEq Thread]

theorem Step.forget {admits : Condition Thread Action (World × Note)}
    {weaker : Condition Thread Action World}
    (implies : ∀ thread ⦃Response : Type⦄ (action : Action Response) state,
      admits thread action state → weaker thread action state.1)
    {pool next : Pool Thread Action (World × Note)}
    (step : (system.annotated auxiliary).Step admits pool next) :
    system.Step weaker pool.withoutNote next.withoutNote := by
  cases step with
  | act running admitted => exact Step.act running (implies _ _ _ admitted)
  | start finished begins => exact .start finished begins.1
  | environment changes => exact .environment changes.1
  | restart restarts => exact .restart restarts.1

end System

/-- The annotated system keeps the terms of the system: in each of its runs, the actions do
their duty. -/
theorem Discipline.Lawful.annotated {Thread : Type} {Action : Type → Type} {World Note : Type}
    [DecidableEq Thread] {system : System Thread Action World}
    {auxiliary : Auxiliary Thread Action World Note}
    {discipline : Discipline Thread Action World}
    {admits : Condition Thread Action (World × Note)} {weaker : Condition Thread Action World}
    (lawful : discipline.Lawful system weaker)
    (implies : ∀ thread ⦃Response : Type⦄ (action : Action Response) state,
      admits thread action state → weaker thread action state.1)
    {pool last : Pool Thread Action (World × Note)}
    (reaches : (system.annotated auxiliary).Reaches admits pool last)
    (initially : discipline.Holds system weaker pool.withoutNote) :
    discipline.invariant last.world.1 ∧ (system.annotated auxiliary).Reaches
        (fun thread _ action state => admits thread action state ∧
          discipline.invariant state.1 ∧ discipline.duty thread action state.1) pool last := by
  have strengthened := reaches.strengthen (fun thread _ action state => admits thread action state ∧
      discipline.invariant state.1 ∧ discipline.duty thread action state.1)
    (fun pool => discipline.Holds system weaker pool.withoutNote) initially
    (fun _ _ step holds => lawful.holds_step (step.forget implies) holds)
    fun before thread _ action rest holds running admitted =>
      ⟨admitted, holds.1, lawful.duty holds running (implies _ _ _ admitted)⟩
  exact ⟨strengthened.1.1, strengthened.2⟩

end Concurrent
