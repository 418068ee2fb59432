/-
This file develops programs as trees of atomic actions.

A program either is done or performs one action and continues with the
response. The tree is pure syntax: what an action does to the shared world is
given by a separate `perform` function, so that one program can be run alone,
interleaved with other programs one action at a time, or inspected for which
actions it can ever perform.

Fallible programs are programs whose result is an `Except`; the early return of
their monad is Lean's own `ExceptT`.
-/

import Mathlib.Control.Monad.Basic

namespace Concurrent

/-- A program over a family of atomic actions. -/
inductive Program (Action : Type → Type) (Result : Type) : Type 1 where
  | done (result : Result) : Program Action Result
  | step {Response : Type} (action : Action Response)
      (next : Response → Program Action Result) : Program Action Result

namespace Program

variable {Action : Type → Type} {Result First Second Error World : Type}

/-- Runs one program and continues with its result. -/
def bind : Program Action First → (First → Program Action Second) → Program Action Second
  | .done result, continuation => continuation result
  | .step action next, continuation =>
      .step action fun response => (next response).bind continuation

instance : Monad (Program Action) where
  pure := .done
  bind := bind

/-- The program that performs one action and returns its response. -/
def perform (action : Action Result) : Program Action Result :=
  .step action .done

/-- Whether a program has performed its last action. -/
def isDone : Program Action Result → Bool
  | .done _ => true
  | .step _ _ => false

@[simp] theorem step_bind {Response : Type} (action : Action Response)
    (next : Response → Program Action First) (continuation : First → Program Action Second) :
    (Program.step action next).bind continuation =
      .step action fun response => (next response).bind continuation := rfl

/-! ### Running a program alone -/

section

variable (semantics : ∀ ⦃Response : Type⦄, Action Response → World → Response × World)

/-- Runs a program to its end with no other program interfering. -/
def run : Program Action Result → World → Result × World
  | .done result, world => (result, world)
  | .step action next, world =>
      run (next (semantics action world).1) (semantics action world).2

@[simp] theorem run_step {Response : Type} (action : Action Response)
    (next : Response → Program Action Result) (world : World) :
    run semantics (.step action next) world =
      run semantics (next (semantics action world).1) (semantics action world).2 := rfl

@[simp] theorem run_bind (program : Program Action First)
    (continuation : First → Program Action Second) (world : World) :
    run semantics (program.bind continuation) world =
      run semantics (continuation (run semantics program world).1)
        (run semantics program world).2 := by
  induction program generalizing world with
  | done result => rfl
  | step action next inductionHypothesis =>
    rw [step_bind, run_step, run_step, inductionHypothesis]

end

/-! ### The actions a program can perform -/

section

variable (permitted : ∀ ⦃Response : Type⦄, Action Response → Prop)

/-- Every action the program can ever perform is permitted. -/
inductive Uses : Program Action Result → Prop where
  | done (result : Result) : Uses (.done result)
  | step {Response : Type} {action : Action Response}
      {next : Response → Program Action Result} (allowed : permitted action)
      (rest : ∀ response, Uses (next response)) : Uses (.step action next)

variable {permitted}

theorem Uses.perform {action : Action Result} (allowed : permitted action) :
    Uses permitted (perform action) :=
  .step allowed .done

theorem Uses.bind {program : Program Action First}
    {continuation : First → Program Action Second} (first : Uses permitted program)
    (rest : ∀ result, Uses permitted (continuation result)) :
    Uses permitted (program.bind continuation) := by
  induction first with
  | done result => exact rest result
  | step allowed _ inductionHypothesis => exact .step allowed inductionHypothesis

variable {program : Program Action Result}

theorem Uses.mono {stronger : ∀ ⦃Response : Type⦄, Action Response → Prop}
    (implies : ∀ ⦃Response : Type⦄ (action : Action Response), stronger action → permitted action)
    (uses : Uses stronger program) :
    Uses permitted program := by
  induction uses with
  | done result => exact .done result
  | step allowed _ inductionHypothesis => exact .step (implies _ allowed) inductionHypothesis

/-- A property that every permitted action keeps is kept by a whole run. -/
theorem Uses.run_keeps {semantics : ∀ ⦃Response : Type⦄, Action Response → World → Response × World}
    (property : World → Prop)
    (keeps : ∀ ⦃Response : Type⦄ (action : Action Response) world, permitted action →
      property world → property (semantics action world).2)
    (uses : Uses permitted program) {world : World}
    (initially : property world) : property (run semantics program world).2 := by
  induction uses generalizing world with
  | done result => exact initially
  | step allowed _ inductionHypothesis =>
    exact inductionHypothesis _ (keeps _ world allowed initially)

end

end Program

/-! ### Fallible programs -/

/-- A program that may stop early with an error. -/
abbrev Fallible (Action : Type → Type) (Error : Type) : Type → Type 1 :=
  ExceptT Error (Program Action)

namespace Fallible

variable {Action : Type → Type} {Result First Second Error Other Item World : Type}

/-- Continues after a fallible program, or stops with its error. -/
def continueWith (continuation : First → Program Action (Except Error Second)) :
    Except Error First → Program Action (Except Error Second)
  | .ok value => continuation value
  | .error error => .done (.error error)

variable (translate : Other → Error)

/-- The fallible program that performs one action with an outcome, its error translated. -/
def attempt (action : Action (Except Other Result)) : Fallible Action Error Result :=
  ExceptT.mk (.step action fun outcome => .done (outcome.mapError translate))

/-- The fallible program that performs one action that cannot fail. -/
def always (action : Action Result) : Fallible Action Error Result :=
  ExceptT.mk (.step action fun response => .done (.ok response))

variable (program : Fallible Action Other Result)

/-- A fallible program with its errors translated. -/
def mapError : Fallible Action Error Result :=
  ExceptT.mk (program.run.bind fun outcome => .done (outcome.mapError translate))

/-- A fallible program whose outcome is a value, so that its error does not stop the rest. -/
def capture : Fallible Action Error (Except Other Result) :=
  ExceptT.mk (program.run.bind fun outcome => .done (.ok outcome))

/-- Runs the body once for each item, stopping at the first error. -/
def forEach (body : Item → Fallible Action Error Unit) : List Item → Fallible Action Error Unit
  | [] => pure ()
  | item :: rest => do
      body item
      forEach body rest

@[simp] theorem bind_eq (program : Fallible Action Error First)
    (continuation : First → Fallible Action Error Second) :
    program >>= continuation = ExceptT.mk (Program.bind program.run
        (continueWith fun value => (continuation value).run)) := by
  show ExceptT.mk (Program.bind program.run (ExceptT.bindCont continuation)) = _
  congr 2
  funext outcome
  cases outcome with
  | ok value => rfl
  | error error => rfl

theorem pure_bind (value : First) (continuation : First → Fallible Action Error Second) :
    (pure value >>= continuation : Fallible Action Error Second) = continuation value := rfl

variable {action : Action (Except Other Result)} {program : Fallible Action Error First}
  {continuation : First → Fallible Action Error Second} {translate : Other → Error}
  {world after : World}

section

variable {permitted : ∀ ⦃Response : Type⦄, Action Response → Prop}

theorem uses_attempt (allowed : permitted action) :
    Program.Uses permitted (attempt translate action).run :=
  .step allowed fun _ => .done _

theorem uses_always {action : Action Result} (allowed : permitted action) :
    Program.Uses permitted (always action : Fallible Action Error Result).run :=
  .step allowed fun _ => .done _

theorem uses_bind (first : Program.Uses permitted program.run)
    (rest : ∀ value, Program.Uses permitted (continuation value).run) :
    Program.Uses permitted (program >>= continuation).run := by
  refine Program.Uses.bind first fun outcome => ?_
  cases outcome with
  | ok value => exact rest value
  | error error => exact Program.Uses.done _

theorem uses_attemptBind {action : Action (Except Other First)} (allowed : permitted action)
    (rest : ∀ value, Program.Uses permitted (continuation value).run) :
    Program.Uses permitted (attempt translate action >>= continuation).run :=
  uses_bind (uses_attempt allowed) rest

theorem uses_alwaysBind {action : Action First} (allowed : permitted action)
    (rest : ∀ value, Program.Uses permitted (continuation value).run) :
    Program.Uses permitted (always action >>= continuation).run :=
  uses_bind (uses_always allowed) rest

theorem uses_mapError {program : Fallible Action Other Result}
    (uses : Program.Uses permitted program.run) :
    Program.Uses permitted (mapError translate program).run :=
  Program.Uses.bind uses fun _ => Program.Uses.done _

theorem uses_capture {program : Fallible Action Other Result}
    (uses : Program.Uses permitted program.run) :
    Program.Uses permitted (capture program : Fallible Action Error _).run :=
  Program.Uses.bind uses fun _ => Program.Uses.done _

theorem uses_forEach {body : Item → Fallible Action Error Unit} (items : List Item)
    (each : ∀ item ∈ items, Program.Uses permitted (body item).run) :
    Program.Uses permitted (forEach body items).run := by
  induction items with
  | nil => exact Program.Uses.done _
  | cons item rest inductionHypothesis =>
    refine uses_bind (each item (List.mem_cons_self ..)) fun _ => ?_
    exact inductionHypothesis fun later member => each later (List.mem_cons_of_mem _ member)

end

/-! ### Running a fallible program alone -/

section

variable (semantics : ∀ ⦃Response : Type⦄, Action Response → World → Response × World)

/-- Runs a fallible program to its end with no other program interfering. -/
def alone (program : Fallible Action Error Result) (world : World) : Except Error Result × World :=
  Program.run semantics program.run world

@[simp] theorem alone_pure (result : Result) (world : World) :
    alone semantics (pure result : Fallible Action Error Result) world = (.ok result, world) :=
  rfl

@[simp] theorem alone_throw (error : Error) (world : World) :
    alone semantics (throw error : Fallible Action Error Result) world = (.error error, world) :=
  rfl

@[simp] theorem alone_always (action : Action Result) (world : World) :
    alone semantics (always action : Fallible Action Error Result) world =
      (.ok (semantics action world).1, (semantics action world).2) :=
  rfl

@[simp] theorem alone_attempt (translate : Other → Error)
    (action : Action (Except Other Result)) (world : World) :
    alone semantics (attempt translate action) world =
      ((semantics action world).1.mapError translate, (semantics action world).2) :=
  rfl

@[simp] theorem alone_ofExcept (outcome : Except Error Result) (world : World) :
    alone semantics (MonadExcept.ofExcept outcome : Fallible Action Error Result) world =
      (outcome, world) := by
  cases outcome <;> rfl

variable {semantics}

theorem alone_bind_ok {value : First} (first : alone semantics program world = (.ok value, after)) :
    alone semantics (program >>= continuation) world =
      alone semantics (continuation value) after := by
  unfold alone at first ⊢
  show Program.run semantics (program.run.bind _) world = _
  rw [Program.run_bind, first]
  rfl

theorem alone_bind_error {error : Error}
    (first : alone semantics program world = (.error error, after)) :
    alone semantics (program >>= continuation) world = (.error error, after) := by
  unfold alone at first ⊢
  show Program.run semantics (program.run.bind _) world = _
  rw [Program.run_bind, first]
  rfl

/-- A sequence succeeds exactly if its parts do, and leaves the world its last part leaves. -/
theorem alone_bind_eq_ok_at {last : World} {result : Second} :
    alone semantics (program >>= continuation) world = (.ok result, last) ↔
      ∃ value after, alone semantics program world = (.ok value, after) ∧
        alone semantics (continuation value) after = (.ok result, last) := by
  rcases first : alone semantics program world with ⟨outcome, after⟩
  cases outcome with
  | ok value =>
    rw [alone_bind_ok first]
    constructor
    · intro succeeded
      exact ⟨value, after, rfl, succeeded⟩
    · rintro ⟨_, _, ⟨⟩, succeeded⟩
      exact succeeded
  | error error =>
    rw [alone_bind_error first]
    simp

/-- A sequence succeeds exactly if its parts do, one after the other. -/
theorem alone_bind_eq_ok {result : Second} :
    (alone semantics (program >>= continuation) world).1 = .ok result ↔
      ∃ value after, alone semantics program world = (.ok value, after) ∧
        (alone semantics (continuation value) after).1 = .ok result := by
  constructor
  · intro succeeded
    obtain ⟨value, after, first, rest⟩ := alone_bind_eq_ok_at.mp (Prod.ext succeeded rfl)
    exact ⟨value, after, first, by rw [rest]⟩
  · rintro ⟨value, after, first, rest⟩
    rw [alone_bind_ok first]
    exact rest

theorem alone_attempt_eq_ok {value : Result} :
    alone semantics (attempt translate action) world = (.ok value, after) ↔
      semantics action world = (.ok value, after) := by
  rw [alone_attempt]
  rcases semantics action world with ⟨outcome, left⟩
  cases outcome <;> simp [Except.mapError]

theorem alone_attempt_error {error : Other}
    (failed : semantics action world = (.error error, after)) :
    alone semantics (attempt translate action) world = (.error (translate error), after) := by
  rw [alone_attempt, failed]
  rfl

/-- A fallible program that runs alone returns a value. -/
def Returns (semantics : ∀ ⦃Response : Type⦄, Action Response → World → Response × World)
    (program : Fallible Action Error Result) (world : World) : Prop :=
  ∃ value, (alone semantics program world).1 = .ok value

theorem returns_pure (result : Result) (world : World) :
    Returns semantics (pure result : Fallible Action Error Result) world :=
  ⟨result, rfl⟩

theorem not_returns_throw (error : Error) (world : World) :
    ¬Returns semantics (throw error : Fallible Action Error Result) world :=
  fun ⟨_, returned⟩ => nomatch returned

theorem returns_bind : Returns semantics (program >>= continuation) world ↔
      ∃ value, (alone semantics program world).1 = .ok value ∧
        Returns semantics (continuation value) (alone semantics program world).2 := by
  unfold Returns
  simp only [alone_bind_eq_ok]
  constructor
  · rintro ⟨result, value, after, first, returned⟩
    rw [first]
    exact ⟨value, rfl, result, returned⟩
  · rintro ⟨value, first, result, returned⟩
    exact ⟨result, value, _, Prod.ext first rfl, returned⟩

theorem returns_attempt : Returns semantics (attempt translate action) world ↔
      ∃ value, (semantics action world).1 = .ok value := by
  unfold Returns
  simp only [alone_attempt]
  cases (semantics action world).1 <;> simp [Except.mapError]

theorem alone_capture (program : Fallible Action Other Result) (world : World) :
    alone semantics (capture program : Fallible Action Error _) world =
      (.ok (alone semantics program world).1, (alone semantics program world).2) := by
  exact Program.run_bind semantics program.run _ world

theorem alone_mapError (translate : Other → Error) (program : Fallible Action Other Result)
    (world : World) :
    alone semantics (mapError translate program) world =
      ((alone semantics program world).1.mapError translate,
        (alone semantics program world).2) := by
  exact Program.run_bind semantics program.run _ world

theorem returns_mapError {program : Fallible Action Other Result} :
    Returns semantics (mapError translate program) world ↔ Returns semantics program world := by
  unfold Returns
  rw [alone_mapError]
  cases (alone semantics program world).1 <;> simp [Except.mapError]

theorem returns_attempt_bind {action : Action (Except Other First)} :
    Returns semantics (attempt translate action >>= continuation) world ↔
      ∃ value, (semantics action world).1 = .ok value ∧
        Returns semantics (continuation value) (semantics action world).2 := by
  rw [returns_bind]
  simp only [alone_attempt]
  cases (semantics action world).1 <;> simp [Except.mapError]

theorem returns_always_bind {action : Action First} :
    Returns semantics (always action >>= continuation) world ↔
      Returns semantics (continuation (semantics action world).1) (semantics action world).2 := by
  rw [returns_bind]
  simp

end

end Fallible

end Concurrent
