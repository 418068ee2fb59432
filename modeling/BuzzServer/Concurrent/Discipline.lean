/-
This file develops a rely/guarantee discipline for pools of threads.

A discipline fixes an invariant of the world, for each thread the changes it
tolerates from everyone else, the duty every action it performs has to meet,
and what holds of the world while a thread is idle. A program *meets* the
discipline in a world when, whatever tolerated changes happen between its
actions, each of its actions does its duty, keeps the invariant and changes the
world only in ways all other threads tolerate.

Two results carry every later argument. `Discipline.Lawful.holds` says that a
lawful discipline holds in every pool a run reaches, so that the action a
thread is about to perform does its duty there. `Discipline.Lawful.invariant`
turns that into an induction rule: to prove a property of all reachable worlds
it is enough to look at the actions that do their duty, one at a time and with
no program text left in sight.
-/

import BuzzServer.Concurrent.Pool

namespace Concurrent

/-- The terms on which the threads of a pool share their world. -/
structure Discipline (Thread : Type) (Action : Type → Type) (World : Type) : Type 1 where
  /-- What holds of the world between any two actions. -/
  invariant : World → Prop
  /-- The changes a thread tolerates from the others. -/
  rely : Thread → World → World → Prop
  /-- What has to hold when a thread performs an action. -/
  duty : Condition Thread Action World
  /-- What a thread that runs no program may count on. -/
  idle : Thread → World → Prop

variable {Other : Type}

namespace Discipline

variable {Thread : Type} {Action : Type → Type} {World : Type}
variable {Result First Second Error Item : Type}
variable (discipline : Discipline Thread Action World) (system : System Thread Action World)
variable (admits : Condition Thread Action World) (thread : Thread)

/-- An action keeps the invariant and the terms of every other thread. -/
def Keeps {Response : Type} (action : Action Response) (world : World) : Prop :=
  discipline.invariant (system.perform thread action world).2 ∧ ∀ other, other ≠ thread →
      discipline.rely other world (system.perform thread action world).2

/-- A program run by a thread from a world meets the discipline and, if it ends, ends in
the postcondition. -/
def Meets (thread : Thread) : Program Action Result → (Result → World → Prop) → World → Prop
  | .done result, post, world => post result world
  | .step action next, post, world =>
      ∀ current, discipline.rely thread world current → discipline.invariant current →
        admits thread action current →
          discipline.duty thread action current ∧ discipline.Keeps system thread action current ∧
            Meets thread (next (system.perform thread action current).1) post
              (system.perform thread action current).2

/-- From every world that satisfies the precondition, the program meets the discipline. -/
structure Triple (thread : Thread) (pre : World → Prop) (program : Program Action Result)
    (post : Result → World → Prop) : Prop where
  meets : ∀ world, discipline.invariant world → pre world →
    discipline.Meets system admits thread program post world

/-- An assertion no tolerated change destroys. -/
def Stable (assertion : World → Prop) : Prop :=
  ∀ before after, discipline.rely thread before after → discipline.invariant before →
    discipline.invariant after → assertion before → assertion after

/-- The postcondition of a fallible program, by its outcome. -/
def onOutcome (success : Result → World → Prop) (failure : Error → World → Prop) :
    Except Error Result → World → Prop
  | .ok value => success value
  | .error error => failure error

variable {discipline system admits} {thread : Thread}

theorem Stable.and {first second : World → Prop} (left : discipline.Stable thread first)
    (right : discipline.Stable thread second) :
    discipline.Stable thread fun world => first world ∧ second world :=
  fun before after tolerated held kept holds =>
    ⟨left before after tolerated held kept holds.1, right before after tolerated held kept holds.2⟩

variable {failure : Error → World → Prop} {middle : First → World → Prop}
  {pool : Pool Thread Action World} {program : Program Action Result}
  {post weaker success : Result → World → Prop} {world : World} {pre : World → Prop}

theorem Meets.weaken (implies : ∀ result world, post result world → weaker result world)
    (meets : discipline.Meets system admits thread program post world) :
    discipline.Meets system admits thread program weaker world := by
  induction program generalizing world with
  | done result => exact implies result world meets
  | step action next inductionHypothesis =>
    intro current tolerated held admitted
    obtain ⟨duty, keeps, rest⟩ := meets current tolerated held admitted
    exact ⟨duty, keeps, inductionHypothesis _ rest⟩

variable {continuation : First → Program Action Second}

theorem Meets.bind {program : Program Action First}
    {post : Second → World → Prop} (meets : discipline.Meets system admits thread program
      (fun result after => discipline.invariant after →
        discipline.Meets system admits thread (continuation result) post after) world)
    (held : discipline.invariant world) :
    discipline.Meets system admits thread (program.bind continuation) post world := by
  induction program generalizing world with
  | done result => exact meets held
  | step action next inductionHypothesis =>
    intro current tolerated kept admitted
    obtain ⟨duty, keeps, rest⟩ := meets current tolerated kept admitted
    exact ⟨duty, keeps, inductionHypothesis _ rest keeps.1⟩

/-! ### Rules for programs -/

theorem Triple.done {result : Result}
    (implies : ∀ world, discipline.invariant world → pre world → post result world) :
    discipline.Triple system admits thread pre (.done result) post :=
  ⟨implies⟩

theorem Triple.consequence {stronger : World → Prop}
    (before : ∀ world, discipline.invariant world → stronger world → pre world)
    (triple : discipline.Triple system admits thread pre program post)
    (after : ∀ result world, post result world → weaker result world) :
    discipline.Triple system admits thread stronger program weaker :=
  ⟨fun world held holds => (triple.meets world held (before world held holds)).weaken after⟩

/-- The rule for one action: the precondition is stable, and performing the action in any
world that satisfies it does its duty and leads to the assertion the rest starts from. -/
theorem Triple.step {Response : Type} {action : Action Response}
    {next : Response → Program Action Result} {middle : Response → World → Prop}
    (stable : discipline.Stable thread pre)
    (execute : ∀ world, discipline.invariant world → pre world → admits thread action world →
      discipline.duty thread action world ∧ discipline.Keeps system thread action world ∧
        middle (system.perform thread action world).1 (system.perform thread action world).2)
    (rest : ∀ response,
      discipline.Triple system admits thread (middle response) (next response) post) :
    discipline.Triple system admits thread pre (.step action next) post := by
  refine ⟨fun world held holds current tolerated kept admitted => ?_⟩
  obtain ⟨duty, keeps, reached⟩ :=
    execute current kept (stable world current tolerated held kept holds) admitted
  exact ⟨duty, keeps, (rest _).meets _ keeps.1 reached⟩

theorem Triple.bind {program : Program Action First} {post : Second → World → Prop}
    (first : discipline.Triple system admits thread pre program middle) (rest : ∀ result,
      discipline.Triple system admits thread (middle result) (continuation result) post) :
    discipline.Triple system admits thread pre (program.bind continuation) post := by
  refine ⟨fun world held holds => ?_⟩
  refine Meets.bind ((first.meets world held holds).weaken ?_) held
  intro result after reached kept
  exact (rest result).meets after kept reached

variable {assertion : World → Prop}

/-- The frame rule: a program whose actions all do their duty and leave an assertion true,
whatever they respond, leaves it true as a whole. -/
theorem Triple.frame (stable : discipline.Stable thread assertion) (quiet : Program.Uses
      (fun ⦃Response : Type⦄ (action : Action Response) => ∀ world, discipline.invariant world →
        assertion world → admits thread action world →
          discipline.duty thread action world ∧ discipline.Keeps system thread action world ∧
            assertion (system.perform thread action world).2) program) :
    discipline.Triple system admits thread assertion program fun _ => assertion := by
  induction quiet with
  | done result => exact Triple.done fun _ _ => id
  | step gentle _ inductionHypothesis => exact Triple.step stable gentle inductionHypothesis

variable {program : Fallible Action Error First}
  {continuation : First → Fallible Action Error Second}

theorem Triple.fallibleBind {success : Second → World → Prop}
    (first : discipline.Triple system admits thread pre program.run (onOutcome middle failure))
    (rest : ∀ value, discipline.Triple system admits thread (middle value)
      (continuation value).run (onOutcome success failure)) :
    discipline.Triple system admits thread pre (program >>= continuation).run
      (onOutcome success failure) := by
  refine Triple.bind first fun outcome => ?_
  cases outcome with
  | ok value => exact rest value
  | error error => exact Triple.done fun _ _ => id

theorem Triple.fallibleFrame {program : Fallible Action Error Result}
    (stable : discipline.Stable thread assertion) (quiet : Program.Uses
      (fun ⦃Response : Type⦄ (action : Action Response) => ∀ world, discipline.invariant world →
        assertion world → admits thread action world →
          discipline.duty thread action world ∧ discipline.Keeps system thread action world ∧
            assertion (system.perform thread action world).2) program.run)
    (abandon : ∀ error world, assertion world → failure error world) :
    discipline.Triple system admits thread assertion program.run
      (onOutcome (fun _ => assertion) failure) := by
  refine Triple.consequence (fun _ _ => id) (Triple.frame stable quiet) ?_
  intro outcome world holds
  cases outcome with
  | ok value => exact holds
  | error error => exact abandon error world holds

variable {failed : Error → World → Prop}

/-- Weaker postconditions of a fallible program, by its outcome. -/
theorem Triple.weaken {stronger : World → Prop} {program : Fallible Action Error Result}
    (triple : discipline.Triple system admits thread pre program.run (onOutcome success failed))
    (before : ∀ world, stronger world → pre world)
    (after : ∀ result world, success result world → weaker result world)
    (abandon : ∀ error world, failed error world → failure error world) :
    discipline.Triple system admits thread stronger program.run (onOutcome weaker failure) := by
  refine Triple.consequence (fun world _ => before world) triple fun outcome world holds => ?_
  cases outcome with
  | ok result => exact after result world holds
  | error error => exact abandon error world holds

/-- The rule for a sequence whose first part promises more when it fails. -/
theorem Triple.sequence {success : Second → World → Prop}
    (first : discipline.Triple system admits thread pre program.run (onOutcome middle failed))
    (abandon : ∀ error world, failed error world → failure error world)
    (rest : ∀ value, discipline.Triple system admits thread (middle value)
      (continuation value).run (onOutcome success failure)) :
    discipline.Triple system admits thread pre (program >>= continuation).run
      (onOutcome success failure) :=
  Triple.fallibleBind (first.weaken (fun _ => id) (fun _ _ => id) abandon) rest

/-- The rule for one action of a fallible program that cannot fail. -/
theorem Triple.always {action : Action Result} (stable : discipline.Stable thread pre)
    (execute : ∀ world, discipline.invariant world → pre world → admits thread action world →
      discipline.duty thread action world ∧ discipline.Keeps system thread action world ∧
        post (system.perform thread action world).1 (system.perform thread action world).2) :
    discipline.Triple system admits thread pre (Fallible.always action).run
      (onOutcome post failure) := by
  have finish : ∀ response : Result, discipline.Triple system admits thread (post response)
      (.done (.ok response)) (onOutcome post failure) :=
    fun _ => Triple.done fun _ _ => id
  exact Triple.step stable execute finish

variable {translate : Other → Error}

/-- The rule for one action of a fallible program. -/
theorem Triple.attempt {action : Action (Except Other Result)}
    (stable : discipline.Stable thread pre)
    (execute : ∀ world, discipline.invariant world → pre world → admits thread action world →
      discipline.duty thread action world ∧ discipline.Keeps system thread action world ∧
        onOutcome post (fun error => failure (translate error))
          (system.perform thread action world).1 (system.perform thread action world).2) :
    discipline.Triple system admits thread pre (Fallible.attempt translate action).run
      (onOutcome post failure) := by
  refine Triple.step stable execute fun outcome => ?_
  cases outcome <;> exact Triple.done fun _ _ => id

/-- The rule for an outcome that was computed without an action. -/
theorem Triple.ofExcept {outcome : Except Error Result}
    (returns : ∀ value, outcome = .ok value → ∀ world, pre world → post value world)
    (fails : ∀ error world, pre world → failure error world) :
    discipline.Triple system admits thread pre
      (MonadExcept.ofExcept outcome : Fallible Action Error Result).run
      (onOutcome post failure) := by
  cases outcome with
  | ok value => exact Triple.done fun world _ holds => returns value rfl world holds
  | error error => exact Triple.done fun world _ holds => fails error world holds

variable {program : Fallible Action Other Result}

/-- The rule for a fallible program whose outcome is looked at. -/
theorem Triple.capture {failure : Other → World → Prop} {abandon : Error → World → Prop}
    (triple : discipline.Triple system admits thread pre program.run (onOutcome success failure)) :
    discipline.Triple system admits thread pre
      (Fallible.capture program : Fallible Action Error (Except Other Result)).run
      (onOutcome (onOutcome success failure) abandon) :=
  Triple.bind triple fun _ => Triple.done fun _ _ => id

/-- The rule for a fallible program whose errors are translated. -/
theorem Triple.mapError (triple : discipline.Triple system admits thread pre program.run
      (onOutcome success fun error => failure (translate error))) :
    discipline.Triple system admits thread pre (Fallible.mapError translate program).run
      (onOutcome success failure) := by
  refine Triple.bind triple fun outcome => ?_
  cases outcome <;> exact Triple.done fun _ _ => id

theorem Triple.forEach {assertion : List Item → World → Prop}
    {body : Item → Fallible Action Error Unit}
    (each : ∀ item rest, discipline.Triple system admits thread (assertion (item :: rest))
      (body item).run (onOutcome (fun _ => assertion rest) failure)) (items : List Item) :
    discipline.Triple system admits thread (assertion items) (Fallible.forEach body items).run
      (onOutcome (fun _ => assertion []) failure) := by
  induction items with
  | nil => exact Triple.done fun _ _ => id
  | cons item rest inductionHypothesis =>
    exact Triple.fallibleBind (each item rest) fun _ => inductionHypothesis

/-! ### Soundness -/

variable (discipline system admits)

/-- Every thread of the pool runs a program that meets the discipline. -/
def Holds (pool : Pool Thread Action World) : Prop :=
  discipline.invariant pool.world ∧
    ∀ thread, discipline.Meets system admits thread (pool.threads thread)
      (fun _ => discipline.idle thread) pool.world

/-- The obligations under which a discipline holds along every run. -/
structure Lawful : Prop where
  rely_refl : ∀ thread world, discipline.rely thread world world
  rely_trans : ∀ thread first second third, discipline.rely thread first second →
    discipline.rely thread second third → discipline.rely thread first third
  idle_stable : ∀ thread, discipline.Stable thread (discipline.idle thread)
  start : ∀ thread world program after, system.starts thread world program after →
    discipline.invariant world → discipline.idle thread world → discipline.invariant after ∧
        (∀ other, other ≠ thread → discipline.rely other world after) ∧
        discipline.Meets system admits thread program (fun _ => discipline.idle thread) after
  environment : ∀ world after, system.environment world after → discipline.invariant world →
    discipline.invariant after ∧ ∀ thread, discipline.rely thread world after
  restart : ∀ world after threads, system.restarts world after threads →
    discipline.invariant world → discipline.invariant after ∧
      ∀ thread, discipline.Meets system admits thread (threads thread)
        (fun _ => discipline.idle thread) after

variable {discipline system admits}

theorem Lawful.meets_of_rely (lawful : discipline.Lawful system admits)
    {program : Program Action Unit} {after : World} (tolerated : discipline.rely thread world after)
    (held : discipline.invariant world) (kept : discipline.invariant after)
    (meets : discipline.Meets system admits thread program (fun _ => discipline.idle thread)
      world) :
    discipline.Meets system admits thread program (fun _ => discipline.idle thread) after := by
  cases program with
  | done result => exact lawful.idle_stable thread world after tolerated held kept meets
  | step action next =>
    intro current later
    exact meets current (lawful.rely_trans thread _ _ _ tolerated later)

/-- The action a thread is about to perform does its duty. -/
theorem Lawful.duty (lawful : discipline.Lawful system admits)
    (holds : discipline.Holds system admits pool) {Response : Type} {action : Action Response}
    {next : Response → Program Action Unit} (running : pool.threads thread = .step action next)
    (admitted : admits thread action pool.world) : discipline.duty thread action pool.world := by
  have own := holds.2 thread
  rw [running] at own
  exact (own pool.world (lawful.rely_refl thread pool.world) holds.1 admitted).1

variable [DecidableEq Thread] (lawful : discipline.Lawful system admits)

include lawful

variable {next : Pool Thread Action World}

theorem Lawful.holds_step (step : system.Step admits pool next)
    (holds : discipline.Holds system admits pool) : discipline.Holds system admits next := by
  obtain ⟨held, meets⟩ := holds
  cases step with
  | @act thread Response action next running admitted =>
    have own := meets thread
    rw [running] at own
    obtain ⟨-, ⟨kept, tolerated⟩, rest⟩ :=
      own pool.world (lawful.rely_refl thread pool.world) held admitted
    refine ⟨kept, fun other => ?_⟩
    by_cases same : other = thread
    · subst same
      simpa only [Function.update_self] using rest
    · simp only [Function.update_of_ne same]
      exact lawful.meets_of_rely (tolerated other same) held kept (meets other)
  | @start thread program world finished begins =>
    have resting := meets thread
    rw [finished] at resting
    obtain ⟨kept, tolerated, own⟩ :=
      lawful.start thread pool.world program world begins held resting
    refine ⟨kept, fun other => ?_⟩
    by_cases same : other = thread
    · subst same
      simpa only [Function.update_self] using own
    · simp only [Function.update_of_ne same]
      exact lawful.meets_of_rely (tolerated other same) held kept (meets other)
  | @environment world changes =>
    obtain ⟨kept, tolerated⟩ := lawful.environment pool.world world changes held
    exact ⟨kept, fun thread =>
      lawful.meets_of_rely (tolerated thread) held kept (meets thread)⟩
  | @restart world threads restarts =>
    exact lawful.restart pool.world world threads restarts held

/-- A lawful discipline that holds at first holds in every pool a run reaches. -/
theorem Lawful.holds {pool last : Pool Thread Action World}
    (reaches : system.Reaches admits pool last) (initially : discipline.Holds system admits pool) :
    discipline.Holds system admits last :=
  reaches.invariant (discipline.Holds system admits) initially
    fun _ _ _ step holds => lawful.holds_step step holds

/-- The induction rule for properties of the world: it is enough that the property survives
the actions that do their duty, the starts, the environment and the restarts. -/
theorem Lawful.invariant {narrower : Condition Thread Action World}
    (implies : ∀ thread ⦃Response : Type⦄ (action : Action Response) world,
      narrower thread action world → admits thread action world) {property : World → Prop}
    {last : Pool Thread Action World} (reaches : system.Reaches narrower pool last)
    (disciplined : discipline.Holds system admits pool) (initially : property pool.world)
    (act : ∀ thread ⦃Response : Type⦄ (action : Action Response) world,
      discipline.invariant world → discipline.duty thread action world →
        narrower thread action world → property world →
          property (system.perform thread action world).2)
    (start : ∀ thread world program after, system.starts thread world program after →
      discipline.invariant world → discipline.idle thread world → property world →
        property after) (environment : ∀ world after, system.environment world after →
      discipline.invariant world → property world → property after)
    (restart : ∀ world after threads, system.restarts world after threads →
      discipline.invariant world → property world → property after) : property last.world := by
  refine reaches.invariant (fun pool => property pool.world) initially ?_
  intro before after first step holds
  have terms := lawful.holds (first.mono implies) disciplined
  cases step with
  | act running admitted =>
    exact act _ _ _ terms.1 (lawful.duty terms running (implies _ _ _ admitted)) admitted holds
  | @start thread program world finished begins =>
    have resting := terms.2 thread
    rw [finished] at resting
    exact start _ _ _ _ begins terms.1 resting holds
  | environment changes => exact environment _ _ changes terms.1 holds
  | restart restarts => exact restart _ _ _ restarts terms.1 holds

/-- A step of a lawful discipline is a step whose action does its duty. A second discipline
may take that for granted. -/
theorem Lawful.dutiful_step
    (holds : discipline.Holds system admits pool) (step : system.Step admits pool next) :
    system.Step (fun thread _ action world => discipline.duty thread action world) pool next := by
  cases step with
  | act running admitted => exact .act running (lawful.duty holds running admitted)
  | start finished begins => exact .start finished begins
  | environment changes => exact .environment changes
  | restart restarts => exact .restart restarts

omit lawful

end Discipline

end Concurrent
