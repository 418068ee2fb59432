/-
This file is about clients that wait for an operation to end.

A waiter takes a snapshot of a generation counter, reads the operation, and, if
it has not ended, sleeps until the counter differs from the snapshot. Whoever
completes an operation raises the counter, but only after the completion was
audited: if the audit record cannot be written, the operation has ended and
nobody is told. As long as the audit of a completion does not fail and the
counter does not wrap around, a waiter never sleeps over an operation whose
completion has returned.

The store is the one of the daemon. Beside the calls that complete and wait,
anything may happen to it that does not end an operation.
-/

import BuzzServer.Concurrent.Auxiliary
import BuzzServer.Concurrent.Discipline
import BuzzServer.Concurrent.Extension
import BuzzServer.Daemon.Effects
import BuzzServer.OperationHistory

namespace BuzzServer

open Relational Concurrent Discipline Concurrent.Fallible Discipline.Triple

/-! ### The signal -/

/-- The actions on the completion signal and the clock of a waiter, and the mark at the end of
a completion. Performing `wait` is waking up from it. -/
inductive Signal : Type → Type where
  | snapshot : Signal Nat
  | notify : Signal Unit
  | wait (id : OperationId) (snapshot : Nat) : Signal Unit
  | deadlinePassed : Signal Bool
  | returned : Signal Unit

/-- The values of the generation counter. -/
def generations : Nat := 2 ^ 64

structure SignalWorld where
  store : World
  generation : Nat
  late : Bool

abbrev SignalAction : Type → Type := Extended Action Signal

def Signal.perform {Response : Type} (signal : Signal Response) (world : SignalWorld) :
    Response × SignalWorld :=
  match signal with
  | .snapshot => (world.generation, world)
  | .notify => ((), { world with generation := (world.generation + 1) % generations })
  | .wait _ _ => ((), world)
  | .deadlinePassed => (world.late, world)
  | .returned => ((), world)

variable (thread : Thread)

/-- What an action responds, and the world it leaves. -/
def SignalWorld.perform ⦃Response : Type⦄ (action : SignalAction Response)
    (world : SignalWorld) : Response × SignalWorld :=
  match action with
  | .base action =>
      ((BuzzServer.perform thread action world.store).1,
        { world with store := (BuzzServer.perform thread action world.store).2 })
  | .extra signal => signal.perform world

/-! ### Completing and waiting -/

/-- A call of the application in which the signal may be used. -/
abbrev SignalRequest : Type → Type 1 := Fallible SignalAction ApplicationError

/-- The loop of a waiter, for a number of rounds. Every part of its execution is one of these. -/
def waitForOperationTerminal (id : OperationId) : Nat → SignalRequest (Option DurableOperation)
  | 0 => pure none
  | rounds + 1 => do
      let snapshot ← always (.extra .snapshot)
      let operation ← lift (lookupOperation id)
      if operation.status.isTerminal then return some operation
      else if ← always (.extra .deadlinePassed) then return some operation
      else do
        always (.extra (.wait id snapshot))
        waitForOperationTerminal id rounds

variable (id : OperationId)

/-- The completion of an operation as a whole: whoever waits is told at its end. -/
def completeAndNotify (status : OperationStatus)
    (errorCode : Option ErrorCode) : SignalRequest Unit := do
  lift (completeOperation id status errorCode)
  always (.extra .notify)

inductive SignalCall where
  | wait (id : OperationId) (rounds : Nat)
  | complete (id : OperationId) (status : OperationStatus) (errorCode : Option ErrorCode)

def SignalCall.serve : SignalCall → Program SignalAction Unit
  | .wait id rounds => (waitForOperationTerminal id rounds).run.bind fun _ => .done ()
  | .complete id status errorCode =>
      (completeAndNotify id status errorCode).run.bind fun _ =>
        Program.perform (.extra .returned)

/-! ### The system -/

/-- An operation that is stored and has not ended. -/
def World.Nonterminal (world : World) (id : OperationId) : Prop :=
  ∃ status, world.operationStatus id = some status ∧ status.isTerminal = false

/-- Anything may happen to the store that ends no operation, and time passes. -/
inductive SignalInterference (world : SignalWorld) : SignalWorld → Prop
  | store (after : World) (kept : ∀ id, world.store.Nonterminal id → after.Nonterminal id) :
      SignalInterference world { world with store := after }
  | time (late : Bool) : SignalInterference world { world with late := late }

/-- Any number of threads that complete operations and wait for them. -/
def signalling : System Thread SignalAction SignalWorld where
  perform := SignalWorld.perform
  starts := fun _ world program after => after = world ∧ ∃ call : SignalCall, program = call.serve
  environment := SignalInterference
  restarts := fun world after threads =>
    after = { world with generation := 0 } ∧ threads = fun _ => .done ()

/-- The operation an action may end. -/
def Action.concludes {Response : Type} : Action Response → Option OperationId
  | .transitionOperation id _ _ _ => some id
  | .completePurge _ id _ _ => some id
  | _ => none

/-- The calls that have ended an operation and not returned: for each thread, the operation and
the generation at that moment. -/
abbrev Finishing : Type := Table Thread (OperationId × Nat)

/-- Whether an operation has ended. -/
def World.ended (world : World) (id : OperationId) : Bool :=
  (world.operationStatus id).any OperationStatus.isTerminal

/-- A call is finishing from the step that ends the operation until it returns. -/
def Action.noteFinishing {Response : Type} (action : Action Response)
    (world : SignalWorld) (note : Finishing) : Finishing :=
  match action.concludes with
  | some id =>
      if !world.store.ended id && (perform thread action world.store).2.ended id then
        note.insert thread (id, world.generation)
      else note
  | none => note

def Signal.noteFinishing {Response : Type} (note : Finishing) : Signal Response → Finishing
  | .returned => note.erase thread
  | _ => note

/-- How the note follows the actions. -/
def noteFinishing ⦃Response : Type⦄ (action : SignalAction Response)
    (world : SignalWorld) (note : Finishing) : Finishing :=
  match action with
  | .base action => action.noteFinishing thread world note
  | .extra signal => signal.noteFinishing thread note

def finishingNotes : Auxiliary Thread SignalAction SignalWorld Finishing where
  act := noteFinishing
  restart := fun _ => ∅

abbrev SignalState : Type := SignalWorld × Finishing

def notedSignalling : System Thread SignalAction SignalState :=
  signalling.annotated finishingNotes

/-- Whether an action writes an audit record. -/
def Action.audits {Response : Type} : Action Response → Bool
  | .appendAudit _ => true
  | _ => false

def Signal.notifies {Response : Type} : Signal Response → Bool
  | .notify => true
  | _ => false

/-- The audit record of a completion can be written, and the counter does not wrap around. -/
def tellsAlways : Condition Thread SignalAction SignalState :=
  fun thread _ action state =>
    match action with
    | .base action => action.audits = true → thread ∈ state.2 →
        state.1.store.faults.storeUnavailable = false ∧
          state.1.store.faults.writes .insertAudit = false
    | .extra signal => signal.notifies = true → state.1.generation + 1 < generations

/-- The pools that can be reached from any store, with nobody waiting or completing. -/
def SignalReachable (admits : Condition Thread SignalAction SignalState)
    (pool : Pool Thread SignalAction SignalState) : Prop :=
  ∃ world : SignalWorld, notedSignalling.Reaches admits ⟨(world, ∅), fun _ => .done ()⟩ pool

/-! ### The terms -/

/-- A waiter with a snapshot need not worry: the operation goes on, the counter has been raised
since, or the call that ended the operation has yet to return. -/
def Awaits (snapshot : Nat) (state : SignalState) : Prop :=
  snapshot ≤ state.1.generation ∧ (state.1.store.Nonterminal id ∨ snapshot < state.1.generation ∨
      ∃ thread generation, state.2.lookup thread = some (id, generation) ∧ snapshot ≤ generation)

def Signal.duty {Response : Type} (state : SignalState) : Signal Response → Prop
  | .wait id seen => Awaits id seen state
  | .returned => ∀ id generation, state.2.lookup thread = some (id, generation) →
      generation < state.1.generation
  | _ => True

/-- The terms on which waiters and completions share the signal. -/
def signalTerms : Discipline Thread SignalAction SignalState where
  invariant := fun _ => True
  rely := fun thread before after =>
    before.1.generation ≤ after.1.generation ∧ after.2.lookup thread = before.2.lookup thread ∧
      ∀ id snapshot, Awaits id snapshot before → Awaits id snapshot after
  duty := fun thread _ action state =>
    match action with
    | .base action => action.concludes.isSome = true → state.2.lookup thread = none
    | .extra signal => signal.duty thread state
  idle := fun thread state => state.2.lookup thread = none

/-! ### What a step does to the operations -/

variable {Response : Type}

section

variable {thread : Thread} {before after : World} {action : Action Response}
variable {id : OperationId}

theorem World.nonterminal_or_ended {status : OperationStatus}
    (found : after.operationStatus id = some status) :
    after.Nonterminal id ∨ after.ended id = true := by
  cases terminal : status.isTerminal with
  | false => exact .inl ⟨status, found, terminal⟩
  | true =>
    refine .inr ?_
    unfold World.ended
    rw [found]
    exact terminal

theorem World.Nonterminal.not_ended (goesOn : before.Nonterminal id) : before.ended id = false := by
  obtain ⟨status, found, terminal⟩ := goesOn
  unfold World.ended
  rw [found]
  exact terminal

/-- An operation that goes on goes on after an action, unless it is the one the action may
end. -/
theorem Effect.nonterminal (effect : Effect thread before action after)
    (goesOn : before.Nonterminal id) :
    after.Nonterminal id ∨ action.concludes = some id ∧ after.ended id = true := by
  obtain ⟨status, found, terminal⟩ := goesOn
  have same : after.operationStatus id = some status → after.Nonterminal id :=
    fun kept => ⟨status, kept, terminal⟩
  cases effect with
  | quiet alike =>
    rw [World.operationStatus_congr alike.tables.operations] at same
    exact .inl (same found)
  | removeCommunity checked removal =>
    have kept := operationStatus_of_removal removal found
    exact .inl (same kept)
  | @acceptCommand command acceptable =>
    obtain ⟨row, present, -⟩ := World.operationStatus_eq_some.mp found
    have other : id ≠ command.operation.id := by
      rintro rfl
      exact acceptable.operationFresh (Table.mem_of_lookup present)
    refine .inl (same ?_)
    show ((before.db.operations.insert _ _).lookup id).map _ = some status
    rw [AList.lookup_insert_ne other]
    exact found
  | @transition current next errorCode now operation present permitted =>
    by_cases ends : id = current
    · subst ends
      have moved : World.operationStatus id { before with
          db := { before.db with
            operations := before.db.operations.insert id
              { operation with status := next, errorCode := errorCode, updatedAt := now } } } =
          some next := by
        simp [World.operationStatus]
      exact (World.nonterminal_or_ended moved).imp_right fun ended => ⟨rfl, ended⟩
    · refine .inl (same ?_)
      show ((before.db.operations.insert current _).lookup id).map _ = some status
      rw [AList.lookup_insert_ne ends]
      exact found
  | @completePurge agentId current now audit operation agent removed present names kind permitted
      stored marked removal =>
    by_cases ends : id = current
    · subst ends
      have moved : World.operationStatus id { before with db := removed } = some .succeeded := by
        refine operationStatus_of_removal removal ?_
        simp
      exact (World.nonterminal_or_ended moved).imp_right fun ended => ⟨rfl, ended⟩
    · refine .inl (same (operationStatus_of_removal removal ?_))
      rw [AList.lookup_insert_ne ends]
      exact found
  | _ => exact .inl (same found)

end

/-! ### Every action keeps the terms -/

section

variable {thread other : Thread} {world : SignalWorld} {note : Finishing}

/-- An action of the application touches the notes of its own thread only. -/
theorem noteFinishing_of_ne (different : other ≠ thread) (action : SignalAction Response) :
    (noteFinishing thread action world note).lookup other = note.lookup other := by
  cases action with
  | base action =>
    simp only [noteFinishing, Action.noteFinishing]
    split
    · split
      · exact AList.lookup_insert_ne different
      · rfl
    · rfl
  | extra signal =>
    cases signal with
    | returned => exact AList.lookup_erase_ne different
    | _ => rfl

/-- The waiters need not worry after an action of the application: if it ends their operation,
its thread has yet to return. -/
theorem Awaits.base {action : Action Response} {id : OperationId} {snapshot : Nat}
    (awaits : Awaits id snapshot (world, note))
    (duty : action.concludes.isSome = true → note.lookup thread = none) :
    Awaits id snapshot ({ world with store := (perform thread action world.store).2 },
        action.noteFinishing thread world note) := by
  obtain ⟨earlier, goesOn | raised | ⟨caller, generation, finishing, later⟩⟩ := awaits
  · rcases (perform_effect thread world.store action).nonterminal goesOn with
      still | ⟨concludes, ended⟩
    · exact ⟨earlier, .inl still⟩
    · refine ⟨earlier, .inr (.inr ⟨thread, world.generation, ?_, earlier⟩)⟩
      simp only [Action.noteFinishing, concludes, goesOn.not_ended, ended]
      exact AList.lookup_insert _
  · exact ⟨earlier, .inr (.inl raised)⟩
  · refine ⟨earlier, .inr (.inr ⟨caller, generation, ?_, later⟩)⟩
    simp only [Action.noteFinishing]
    split
    · next concludes =>
      split
      · have different : caller ≠ thread := by
          rintro rfl
          rw [show note.lookup caller = _ from finishing] at duty
          cases duty (by rw [concludes]; rfl)
        exact (AList.lookup_insert_ne different).trans finishing
      · exact finishing
    · exact finishing

theorem signalTerms_keeps {action : SignalAction Response}
    (duty : signalTerms.duty thread action (world, note))
    (admitted : tellsAlways thread action (world, note)) :
    signalTerms.Keeps notedSignalling thread action (world, note) := by
  refine ⟨trivial, fun other different => ?_⟩
  suffices kept : world.generation ≤ (SignalWorld.perform thread action world).2.generation ∧
      ∀ id snapshot, Awaits id snapshot (world, note) → Awaits id snapshot
        ((SignalWorld.perform thread action world).2, noteFinishing thread action world note) from
    ⟨kept.1, noteFinishing_of_ne different action, kept.2⟩
  cases action with
  | base action => exact ⟨Nat.le_refl _, fun id snapshot awaits => awaits.base duty⟩
  | extra signal =>
    cases signal with
    | notify =>
      have raised : (world.generation + 1) % generations = world.generation + 1 :=
        Nat.mod_eq_of_lt (admitted rfl)
      simp only [SignalWorld.perform, Signal.perform, raised]
      refine ⟨Nat.le_succ _, fun id snapshot awaits => ?_⟩
      exact ⟨Nat.le_succ_of_le awaits.1, .inr (.inl (Nat.lt_succ_of_le awaits.1))⟩
    | returned =>
      refine ⟨Nat.le_refl _, fun id snapshot awaits => ?_⟩
      obtain ⟨earlier, goesOn | raised | ⟨caller, generation, finishing, later⟩⟩ := awaits
      · exact ⟨earlier, .inl goesOn⟩
      · exact ⟨earlier, .inr (.inl raised)⟩
      · by_cases own : caller = thread
        · subst own
          exact ⟨earlier, .inr (.inl (Nat.lt_of_le_of_lt later (duty id generation finishing)))⟩
        · exact ⟨earlier, .inr (.inr ⟨caller, generation,
            (AList.lookup_erase_ne own).trans finishing, later⟩)⟩
    | snapshot | wait | deadlinePassed => exact ⟨Nat.le_refl _, fun _ _ => id⟩

end

/-! ### Every call keeps the terms -/

variable {Other : Type} {translate : Other → ApplicationError} {assertion : SignalState → Prop}

section

variable {thread : Thread} {Result : Type}

/-- From every state with the precondition, the call keeps the terms, and ends in one of the
postconditions. -/
abbrev Tells (thread : Thread) (pre : SignalState → Prop) (call : SignalRequest Result)
    (post : Result → SignalState → Prop) (failure : SignalState → Prop) : Prop :=
  signalTerms.Triple notedSignalling tellsAlways thread pre call.run
    (onOutcome post fun _ => failure)

/-- The thread is not finishing an operation. -/
def Unfinishing (thread : Thread) (state : SignalState) : Prop := state.2.lookup thread = none

/-- The thread is not finishing an operation, and has seen a generation. -/
def Watching (thread : Thread) (seen : Nat) (state : SignalState) : Prop :=
  Unfinishing thread state ∧ seen ≤ state.1.generation

/-- The operation the thread is finishing, if any, ended at this generation or before. -/
def Finished (thread : Thread) (state : SignalState) : Prop :=
  ∀ id generation, state.2.lookup thread = some (id, generation) → generation ≤ state.1.generation

/-- The counter was raised since the thread's operation ended. -/
def Told (thread : Thread) (state : SignalState) : Prop :=
  ∀ id generation, state.2.lookup thread = some (id, generation) → generation < state.1.generation

theorem Unfinishing.finished {state : SignalState} (unfinishing : Unfinishing thread state) :
    Finished thread state := by
  intro id generation found
  rw [show state.2.lookup thread = none from unfinishing] at found
  cases found

theorem stable_unfinishing : signalTerms.Stable thread (Unfinishing thread) :=
  fun _ _ rely _ _ holds => rely.2.1.trans holds

theorem stable_watching (seen : Nat) : signalTerms.Stable thread (Watching thread seen) :=
  fun _ _ rely _ _ holds => ⟨rely.2.1.trans holds.1, Nat.le_trans holds.2 rely.1⟩

theorem stable_finished : signalTerms.Stable thread (Finished thread) :=
  fun _ _ rely _ _ holds id generation found =>
    Nat.le_trans (holds id generation (rely.2.1 ▸ found)) rely.1

theorem stable_told : signalTerms.Stable thread (Told thread) :=
  fun _ _ rely _ _ holds id generation found =>
    Nat.lt_of_lt_of_le (holds id generation (rely.2.1 ▸ found)) rely.1

variable (id : OperationId)

theorem stable_awaits (seen : Nat) : signalTerms.Stable thread (Awaits id seen) :=
  fun _ _ rely _ _ awaits => rely.2.2 id seen awaits

/-- An action that ends no operation does its duty and leaves the notes alone. -/
theorem perform_idle (thread : Thread) {action : Action Result} (idle : action.concludes = none)
    (state : SignalState) :
    signalTerms.duty thread (.base action) state ∧
      notedSignalling.perform thread (.base action) state =
        ((perform thread action state.1.store).1,
          { state.1 with store := (perform thread action state.1.store).2 }, state.2) := by
  refine ⟨fun concludes => ?_, ?_⟩
  · rw [idle] at concludes
    cases concludes
  · have kept : action.noteFinishing thread state.1 state.2 = state.2 := by
      simp only [Action.noteFinishing, idle]
    show ((perform thread action state.1.store).1,
      { state.1 with store := (perform thread action state.1.store).2 },
      action.noteFinishing thread state.1 state.2) = _
    rw [kept]

variable {action : Action (Except Other Result)}

/-- The rule for an action of the application that ends no operation: it keeps what does not
depend on the store, and the thread learns what it responds. -/
theorem tells_learn {learned : Result → SignalState → Prop} (idle : action.concludes = none)
    (stable : signalTerms.Stable thread assertion)
    (store : ∀ world note after, assertion (world, note) →
      assertion ({ world with store := after }, note))
    (learn : ∀ world note, assertion (world, note) →
      ∀ result, (perform thread action world.store).1 = .ok result →
        learned result ({ world with store := (perform thread action world.store).2 }, note)) :
    Tells thread assertion (attempt translate (.base action))
      (fun result state => assertion state ∧ learned result state) assertion := by
  refine attempt stable fun state _ holds admitted => ?_
  obtain ⟨duty, same⟩ := perform_idle thread idle state
  refine ⟨duty, signalTerms_keeps duty admitted, ?_⟩
  rw [same]
  cases outcome : (perform thread action state.1.store).1 with
  | ok result =>
    exact ⟨store state.1 state.2 _ holds, learn state.1 state.2 holds result outcome⟩
  | error error => exact store state.1 state.2 _ holds

theorem tells_base (idle : action.concludes = none) (stable : signalTerms.Stable thread assertion)
    (store : ∀ world note after, assertion (world, note) →
      assertion ({ world with store := after }, note)) :
    Tells thread assertion (attempt translate (.base action)) (fun _ => assertion) assertion := by
  refine attempt stable fun state _ holds admitted => ?_
  obtain ⟨duty, same⟩ := perform_idle thread idle state
  refine ⟨duty, signalTerms_keeps duty admitted, ?_⟩
  rw [same]
  cases (perform thread action state.1.store).1 <;> exact store state.1 state.2 _ holds

theorem tells_baseAlways {action : Action Result} {failure : SignalState → Prop}
    (idle : action.concludes = none) (stable : signalTerms.Stable thread assertion)
    (store : ∀ world note after, assertion (world, note) →
      assertion ({ world with store := after }, note)) :
    Tells thread assertion (always (.base action)) (fun _ => assertion) failure := by
  refine always stable fun state _ holds admitted => ?_
  obtain ⟨duty, same⟩ := perform_idle thread idle state
  refine ⟨duty, signalTerms_keeps duty admitted, ?_⟩
  rw [same]
  exact store state.1 state.2 _ holds

/-! ### Waiting -/

theorem tells_lookupOperation (seen : Nat) :
    Tells thread (Watching thread seen) (lift (lookupOperation id))
      (fun operation state => Watching thread seen state ∧
        (operation.status.isTerminal = false → Awaits id seen state))
      (Watching thread seen) := by
  unfold lookupOperation
  rw [lift_bind]
  have reads : Tells thread (Watching thread seen)
      (attempt ApplicationError.ofStorage (.base (.getOperation id)))
      (fun row state => Watching thread seen state ∧ ∀ operation, row = some operation →
        operation.status.isTerminal = false → Awaits id seen state)
      (Watching thread seen) := by
    refine tells_learn rfl (stable_watching seen) (fun _ _ _ holds => holds) ?_
    intro world note holds row read operation present goesOn
    refine ⟨holds.2, .inl ⟨operation.status, ?_, goesOn⟩⟩
    simp only [perform, World.query] at read
    split at read
    · cases read
    · have found := Except.ok.inj read
      show (world.store.db.operations.lookup id).map _ = _
      rw [show world.store.db.operations.lookup id = row from found, present]
      rfl
  refine fallibleBind reads fun row => ?_
  cases row with
  | none => exact done fun _ _ holds => holds.1
  | some operation => exact done fun _ _ holds => ⟨holds.1, holds.2 operation rfl⟩

theorem tells_wait (rounds : Nat) :
    Tells thread (Unfinishing thread) (waitForOperationTerminal id rounds)
      (fun _ => Unfinishing thread) (Unfinishing thread) := by
  induction rounds with
  | zero => exact done fun _ _ holds => holds
  | succ rounds inductionHypothesis =>
    have looks : Tells thread (Unfinishing thread) (always (.extra .snapshot))
        (fun seen => Watching thread seen) (Unfinishing thread) :=
      always stable_unfinishing fun state _ holds admitted =>
        ⟨trivial, signalTerms_keeps trivial admitted, holds, Nat.le_refl _⟩
    refine fallibleBind looks fun seen => ?_
    refine sequence (tells_lookupOperation id seen) (fun _ _ holds => holds.1) fun operation => ?_
    split
    · exact done fun _ _ holds => holds.1.1
    · next goesOn =>
      have goesOn : operation.status.isTerminal = false := by simpa using goesOn
      have asks : Tells thread (fun state => Watching thread seen state ∧ Awaits id seen state)
          (always (.extra .deadlinePassed))
          (fun _ state => Watching thread seen state ∧ Awaits id seen state)
          (Unfinishing thread) :=
        always ((stable_watching seen).and (stable_awaits id seen)) fun state _ holds admitted =>
            ⟨trivial, signalTerms_keeps trivial admitted, holds⟩
      refine sequence (asks.weaken (fun _ holds => ⟨holds.1, holds.2 goesOn⟩)
        (fun _ _ holds => holds) fun _ _ holds => holds) (fun _ _ holds => holds) fun late => ?_
      split
      · exact done fun _ _ holds => holds.1.1
      · have sleeps : Tells thread (fun state => Watching thread seen state ∧ Awaits id seen state)
            (always (.extra (.wait id seen))) (fun _ => Unfinishing thread)
            (Unfinishing thread) :=
          always ((stable_watching seen).and (stable_awaits id seen))
            fun state _ holds admitted => ⟨holds.2, signalTerms_keeps holds.2 admitted, holds.1.1⟩
        exact fallibleBind sleeps fun _ => inductionHypothesis

/-! ### Completing -/

/-- The rule for an action that may end an operation. -/
theorem tells_concluding {action : Action (Except Other Unit)}
    (unchanged : ∀ world error, (perform thread action world).1 = .error error →
      (perform thread action world).2.db = world.db) :
    Tells thread (Unfinishing thread) (attempt translate (.base action))
      (fun _ => Finished thread) (Unfinishing thread) := by
  refine attempt stable_unfinishing fun state _ holds admitted => ?_
  have duty : signalTerms.duty thread (.base action) state := fun _ => holds
  refine ⟨duty, signalTerms_keeps duty admitted, ?_⟩
  show onOutcome _ _ (perform thread action state.1.store).1
    ({ state.1 with store := (perform thread action state.1.store).2 },
      action.noteFinishing thread state.1 state.2)
  cases outcome : (perform thread action state.1.store).1 with
  | ok =>
    intro id generation found
    simp only [Action.noteFinishing] at found
    split at found
    · split at found
      · rw [AList.lookup_insert] at found
        cases found
        exact Nat.le_refl _
      · exact Unfinishing.finished holds id generation found
    · exact Unfinishing.finished holds id generation found
  | error error =>
    have same := unchanged state.1.store error outcome
    simp only [Action.noteFinishing]
    split
    · next id _ =>
      have ended : (perform thread action state.1.store).2.ended id = state.1.store.ended id := by
        unfold World.ended World.operationStatus
        rw [same]
      rw [ended, Bool.not_and_self]
      exact holds
    · exact holds

/-- The audit of a completion: it fails only if nothing has ended. -/
theorem tells_appendAudit (record : NewAuditRecord) (plain : record.redactedDetail = none) :
    Tells thread (Finished thread) (attempt ApplicationError.ofStorage
      (.base (.appendAudit record))) (fun _ => Finished thread) (Unfinishing thread) := by
  refine attempt stable_finished fun state _ holds admitted => ?_
  have concludesNothing : (Action.appendAudit record).concludes = none := rfl
  obtain ⟨duty, same⟩ := perform_idle thread concludesNothing state
  refine ⟨duty, signalTerms_keeps duty admitted, ?_⟩
  rw [same]
  cases outcome : (perform thread (.appendAudit record) state.1.store).1 with
  | ok => exact holds
  | error error =>
    by_cases finishing : thread ∈ state.2
    · obtain ⟨available, writes⟩ := admitted rfl finishing
      have succeeds : SqliteStore.appendAudit state.1.store.faults.writes record
          state.1.store.db = _ := (SqliteStore.appendAudit_eq_ok plain).mpr ⟨writes, rfl⟩
      simp only [perform, World.method, available, succeeds] at outcome
      cases outcome
    · exact AList.lookup_eq_none.mpr finishing

theorem tells_auditCommunity (agentId : Option AgentId) :
    Tells thread (Finished thread) (lift (auditCommunity agentId))
      (fun _ => Finished thread) (Unfinishing thread) := by
  cases agentId with
  | none => exact done fun _ _ => id
  | some id =>
    unfold auditCommunity
    refine fallibleBind (tells_baseAlways rfl stable_finished fun _ _ _ holds => holds)
      fun row => ?_
    rcases row with _ | _ | _ <;> exact done fun _ _ holds => holds

theorem tells_auditReconciliation (operation : DurableOperation) (action outcome : String) :
    Tells thread (Finished thread) (lift (auditReconciliation operation action outcome))
      (fun _ => Finished thread) (Unfinishing thread) := by
  unfold auditReconciliation
  rw [lift_bind]
  refine fallibleBind (tells_auditCommunity operation.agentId) fun community => ?_
  have reads : Tells thread (Finished thread) (lift (Request.always .now))
      (fun _ => Finished thread) (Unfinishing thread) :=
    tells_baseAlways rfl stable_finished fun _ _ _ => id
  exact fallibleBind reads fun now => tells_appendAudit _ rfl

/-! A thread that has ended nothing reads the store. -/

theorem tells_read (idle : action.concludes = none) :
    Tells thread (Unfinishing thread) (attempt translate (.base action))
      (fun _ => Unfinishing thread) (Unfinishing thread) :=
  tells_base idle stable_unfinishing fun _ _ _ => id

theorem tells_valid (outcome : Except ValidationError Unit) :
    Tells thread (Unfinishing thread) (lift (Request.valid outcome))
      (fun _ => Unfinishing thread) (Unfinishing thread) := by
  cases outcome <;> exact done fun _ _ => id

theorem tells_found (row : Option Result) :
    Tells thread (Unfinishing thread) (lift (Request.found row))
      (fun _ => Unfinishing thread) (Unfinishing thread) := by
  cases row <;> exact done fun _ _ => id

theorem tells_now : Tells thread (Unfinishing thread) (lift (Request.always .now))
      (fun _ => Unfinishing thread) (Unfinishing thread) :=
  tells_baseAlways rfl stable_unfinishing fun _ _ _ => id

theorem tells_completePurgeOperation (operation : DurableOperation) :
    Tells thread (Unfinishing thread) (lift (completePurgeOperation id operation))
      (fun _ => Finished thread) (Unfinishing thread) := by
  unfold completePurgeOperation
  cases operation.agentId with
  | none => exact done fun _ _ holds => holds
  | some agentId =>
    rw [lift_bind]
    refine fallibleBind (tells_read rfl) fun row => ?_
    rw [lift_bind]
    refine fallibleBind (tells_found row) fun agent => ?_
    rw [lift_bind]
    refine fallibleBind tells_now fun now => ?_
    refine fallibleBind tells_now fun occurredAt => ?_
    exact tells_concluding fun world error => completePurge_unchanged thread world _ _ _ _ error

theorem tells_completeOperation (status : OperationStatus) (errorCode : Option ErrorCode) :
    Tells thread (Unfinishing thread) (lift (completeOperation id status errorCode))
      (fun _ => Finished thread) (Unfinishing thread) := by
  unfold completeOperation lookupOperation
  rw [lift_bind]
  refine fallibleBind (tells_valid _) fun _ => ?_
  rw [lift_bind, lift_bind]
  refine fallibleBind (fallibleBind (tells_read rfl) tells_found) fun operation => ?_
  split
  · exact tells_completePurgeOperation id operation
  · rw [lift_bind]
    refine fallibleBind tells_now fun now => ?_
    rw [lift_bind]
    have transitions : Tells thread (Unfinishing thread)
        (lift (Request.store (.transitionOperation id status errorCode now)))
        (fun _ => Finished thread) (Unfinishing thread) :=
      tells_concluding fun world error =>
        transitionOperation_unchanged thread world _ _ _ _ error
    exact fallibleBind transitions fun _ => tells_auditReconciliation ..

theorem tells_completeAndNotify (status : OperationStatus) (errorCode : Option ErrorCode) :
    Tells thread (Unfinishing thread) (completeAndNotify id status errorCode) (fun _ => Told thread)
      (Unfinishing thread) := by
  refine fallibleBind (tells_completeOperation id status errorCode) fun _ => ?_
  refine always stable_finished fun state _ holds admitted => ?_
  refine ⟨trivial, signalTerms_keeps trivial admitted, ?_⟩
  intro current generation found
  show generation < (state.1.generation + 1) % generations
  rw [Nat.mod_eq_of_lt (admitted rfl)]
  exact Nat.lt_succ_of_le (holds current generation found)

theorem SignalCall.serve_tells (call : SignalCall) :
    signalTerms.Triple notedSignalling tellsAlways thread (Unfinishing thread) call.serve
      fun _ => Unfinishing thread := by
  cases call with
  | wait id rounds =>
    refine bind (tells_wait id rounds) fun outcome => done fun _ _ holds => ?_
    cases outcome <;> exact holds
  | complete id status errorCode =>
    refine bind (tells_completeAndNotify id status errorCode) fun outcome => ?_
    have returns : signalTerms.Triple notedSignalling tellsAlways thread (Told thread)
        (Program.perform (.extra .returned)) fun _ => Unfinishing thread :=
      step stable_told (fun state _ holds admitted =>
          ⟨holds, signalTerms_keeps holds admitted, AList.lookup_erase thread state.2⟩)
        fun _ => done fun _ _ holds => holds
    refine consequence (fun state _ holds => ?_) returns fun _ _ holds => holds
    cases outcome with
    | ok => exact holds
    | error =>
      intro current generation found
      rw [show state.2.lookup thread = none from holds] at found
      cases found

end

/-! ### No waiter is left behind -/

/-- What a waiter sleeps for, if it does: the operation and its snapshot. -/
def Signal.blockedOn {Response : Type} : Signal Response → Option (OperationId × Nat)
  | .wait id seen => some (id, seen)
  | _ => none

def SignalAction.blockedOn {Response : Type} : SignalAction Response → Option (OperationId × Nat)
  | .base _ => none
  | .extra signal => signal.blockedOn

def blockedOn : Program SignalAction Unit → Option (OperationId × Nat)
  | .done _ => none
  | .step action _ => SignalAction.blockedOn action

theorem awaits_of_blockedOn {Response : Type} {action : SignalAction Response}
    {id : OperationId} {snapshot : Nat} {state : SignalState}
    (blocked : SignalAction.blockedOn action = some (id, snapshot)) :
    tellsAlways thread action state ∧
      (signalTerms.duty thread action state → Awaits id snapshot state) := by
  cases action with
  | base action => cases blocked
  | extra signal =>
    cases signal with
    | wait =>
      cases blocked
      exact ⟨(nomatch ·), fun duty => duty⟩
    | _ => cases blocked

theorem signalTerms_lawful : signalTerms.Lawful notedSignalling tellsAlways where
  rely_refl := fun _ _ => ⟨Nat.le_refl _, rfl, fun _ _ => id⟩
  rely_trans := fun _ _ _ _ first second =>
    ⟨Nat.le_trans first.1 second.1, second.2.1.trans first.2.1,
      fun id snapshot awaits => second.2.2 id snapshot (first.2.2 id snapshot awaits)⟩
  idle_stable := fun _ => stable_unfinishing
  start := by
    rintro thread ⟨world, note⟩ program ⟨after, later⟩ ⟨⟨same, call, begins⟩, kept⟩ _ idle
    obtain rfl : after = world := same
    obtain rfl : later = note := kept
    refine ⟨trivial, fun _ _ => ⟨Nat.le_refl _, rfl, fun _ _ => id⟩, ?_⟩
    rw [begins]
    exact call.serve_tells.meets _ trivial idle
  environment := by
    rintro ⟨world, note⟩ ⟨after, later⟩ ⟨changes, kept⟩ _
    obtain rfl : later = note := kept
    refine ⟨trivial, fun thread => ?_⟩
    cases changes with
    | store store nonterminal =>
      exact ⟨Nat.le_refl _, rfl, fun id _ awaits => ⟨awaits.1, awaits.2.imp_left (nonterminal id)⟩⟩
    | time => exact ⟨Nat.le_refl _, rfl, fun _ _ => id⟩
  restart := by
    rintro ⟨world, note⟩ ⟨after, later⟩ threads ⟨⟨-, idle⟩, kept⟩ _
    rw [show later = ∅ from kept, idle]
    exact ⟨trivial, fun _ => rfl⟩

/-- If the audit record of a completion can always be written and the counter does not wrap
around, nobody sleeps on the current generation for an operation that has ended, once the call
that ended it has returned. -/
theorem no_lost_wakeup {pool : Pool Thread SignalAction SignalState}
    (reachable : SignalReachable tellsAlways pool) {id : OperationId}
    (ended : pool.world.1.store.ended id = true)
    (returned : ∀ thread generation, pool.world.2.lookup thread ≠ some (id, generation))
    {waiter : Thread} {snapshot : Nat}
    (blocked : blockedOn (pool.threads waiter) = some (id, snapshot)) :
    snapshot ≠ pool.world.1.generation := by
  obtain ⟨world, reaches⟩ := reachable
  have holds := signalTerms_lawful.holds reaches ⟨trivial, fun _ => rfl⟩
  cases running : pool.threads waiter with
  | done result =>
    rw [running] at blocked
    cases blocked
  | step action rest =>
    rw [running] at blocked
    obtain ⟨admitted, awaits⟩ := awaits_of_blockedOn waiter blocked
    obtain ⟨-, goesOn | raised | ⟨thread, generation, finishing, -⟩⟩ :=
      awaits (signalTerms_lawful.duty holds running admitted)
    · rw [goesOn.not_ended] at ended
      cases ended
    · exact Nat.ne_of_lt raised
    · exact absurd finishing (returned thread generation)

namespace SmallSignal

def operation : DurableOperation := ⟨⟨7⟩, .enableAgent, .running, none, none, 0, 0, "c"⟩

variable (auditFails : Bool)

/-- A host with one running operation, whose audit records can be written or not. -/
def start : Pool Thread SignalAction SignalState :=
  ⟨(⟨{ Deployment.host with
        db := { Deployment.host.db with
          operations := (∅ : Table OperationId DurableOperation).insert ⟨7⟩ operation }
        faults := { Faults.none with
          writes := fun statement => auditFails && statement = .insertAudit } }, 0, false⟩, ∅),
    fun _ => .done ()⟩

/-- A client waits for the operation. -/
def waiting : Pool Thread SignalAction SignalState :=
  notedSignalling.acts (.request 0) 3
    (System.launch (.request 0) (SignalCall.wait ⟨7⟩ 2).serve (start auditFails))

/-- The worker is about to complete the operation. -/
def completing : Pool Thread SignalAction SignalState :=
  System.launch .worker (SignalCall.complete ⟨7⟩ .succeeded none).serve (waiting auditFails)

/-- The completion has returned. -/
def completed : Pool Thread SignalAction SignalState :=
  notedSignalling.acts .worker 10 (completing auditFails)

variable {admits : Condition Thread SignalAction SignalState}

theorem reaches_completing (reaches : notedSignalling.Reaches admits
      (System.launch (.request 0) (SignalCall.wait ⟨7⟩ 2).serve (start auditFails))
      (waiting auditFails)) :
    notedSignalling.Reaches admits (start auditFails) (completing auditFails) := by
  have arrives : notedSignalling.Reaches admits (start auditFails)
      (System.launch (.request 0) (SignalCall.wait ⟨7⟩ 2).serve (start auditFails)) :=
    System.reaches_launch ⟨⟨rfl, _, rfl⟩, rfl⟩
  have begins : notedSignalling.Reaches admits (waiting auditFails) (completing auditFails) :=
    System.reaches_launch ⟨⟨rfl, _, rfl⟩, rfl⟩
  exact (arrives.trans reaches).trans begins

/-- Whether an action is one on which nothing is lost. -/
def tells : Check Thread SignalAction SignalState :=
  fun thread _ action state =>
    match action with
    | .base action => !action.audits || decide (thread ∉ state.2) ||
        (!state.1.store.faults.storeUnavailable && !state.1.store.faults.writes .insertAudit)
    | .extra signal => !signal.notifies || decide (state.1.generation + 1 < generations)

theorem tellsAlways_of_tells ⦃Response : Type⦄ (action : SignalAction Response)
    (state : SignalState) (passes : tells thread action state = true) :
    tellsAlways thread action state := by
  cases action with
  | base action =>
    intro audits member
    simpa [tells, audits, member] using passes
  | extra signal =>
    intro notifies
    simpa [tells, notifies] using passes

theorem completed_reachable {check : Check Thread SignalAction SignalState}
    (sound : ∀ thread ⦃Response : Type⦄ (action : SignalAction Response) state,
      check thread action state = true → admits thread action state) (auditFails : Bool)
    (waits : notedSignalling.actsPass check (.request 0) 3
      (System.launch (.request 0) (SignalCall.wait ⟨7⟩ 2).serve (start auditFails)) = true)
    (completes : notedSignalling.actsPass check .worker 10 (completing auditFails) = true) :
    SignalReachable admits (completed auditFails) :=
  ⟨_, (reaches_completing auditFails (System.reaches_acts sound waits)).trans
    (System.reaches_acts sound completes)⟩

end SmallSignal

/-- The client is told, and does not sleep on the generation of its snapshot. -/
theorem no_lost_wakeup_small : ((SmallSignal.completed false).world.1.store.ended ⟨7⟩ = true ∧
      blockedOn ((SmallSignal.completed false).threads (.request 0)) = some (⟨7⟩, 0)) ∧
    0 ≠ (SmallSignal.completed false).world.1.generation := by
  have ended : (SmallSignal.completed false).world.1.store.ended ⟨7⟩ = true := by
    decide +kernel
  have blocked : blockedOn ((SmallSignal.completed false).threads (.request 0)) =
      some (⟨7⟩, 0) := by
    decide +kernel
  have nobody : (SmallSignal.completed false).world.2.entries = [] := by
    decide +kernel
  refine ⟨⟨ended, blocked⟩, no_lost_wakeup (SmallSignal.completed_reachable
    SmallSignal.tellsAlways_of_tells false (by decide +kernel) (by decide +kernel)) ended ?_
    blocked⟩
  intro thread generation
  unfold AList.lookup
  exact nofun

/-- The audit record of the completion cannot be written: the operation has succeeded, the
completion has returned, and the client sleeps on the current generation. -/
theorem failed_audit_loses_wakeup :
    SignalReachable (unrestricted Thread SignalAction SignalState) (SmallSignal.completed true) ∧
      (SmallSignal.completed true).world.1.store.ended ⟨7⟩ = true ∧
      (SmallSignal.completed true).world.2.entries = [] ∧
      blockedOn ((SmallSignal.completed true).threads (.request 0)) =
        some (⟨7⟩, (SmallSignal.completed true).world.1.generation) := by
  refine ⟨SmallSignal.completed_reachable (fun _ _ _ _ _ => trivial) true
    (System.actsPass_always ..) (System.actsPass_always ..), ?_⟩
  decide +kernel

end BuzzServer
