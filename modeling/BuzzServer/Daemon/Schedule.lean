/-
This file computes runs of the daemon from a schedule.

A schedule says which thread goes on for how many actions, which requests come
in, and what happens around the daemon. The pool it leads to is a function of
the schedule, so that it can be evaluated, and it is reachable: under a
condition on actions if each action passes a check that implies it.
-/

import BuzzServer.Concurrent.Auxiliary
import BuzzServer.Daemon.System

namespace BuzzServer

open Relational Concurrent

/-! ### Schedules -/

/-- One move of a scheduler. -/
inductive Move where
  | acts (thread : Thread) (count : Nat)
  | request (number : Nat) (actor : AuthenticatedPrincipal) (request : ApiRequest)
  | receive
  | clock (now : Int)
  | faults (faults : Faults)
  | restart

def Move.isRestart : Move → Bool
  | .restart => true
  | _ => false

/-- A program for a thread that has finished its last one. -/
def begin (thread : Thread) (program : Program Action Unit) (world : World)
    (pool : Pool Thread Action World) : Pool Thread Action World :=
  match pool.threads thread with
  | .done _ => ⟨world, Function.update pool.threads thread program⟩
  | .step _ _ => pool

variable (setting : Setting)

/-- The pool after a move, or the same pool if the move is not possible. -/
def play (pool : Pool Thread Action World) : Move → Pool Thread Action World
  | .acts thread count => (daemon setting).acts thread count pool
  | .request number actor request =>
      if pool.world.serving then
        begin (.request number) (request.serve setting.retentionSeconds actor) pool.world pool
      else pool
  | .receive =>
      match pool.world.queue with
      | [] => pool
      | work :: rest => begin .worker work.process (pool.world.receive work rest) pool
  | .clock now =>
      if pool.world.clock ≤ now then ⟨{ pool.world with clock := now }, pool.threads⟩ else pool
  | .faults faults => ⟨{ pool.world with faults := faults }, pool.threads⟩
  | .restart => ⟨pool.world.reboot, bootThreads⟩

/-- The pool after a schedule, starting with no thread at work. -/
def playAll (world : World) (moves : List Move) : Pool Thread Action World :=
  moves.foldl (play setting) (idlePool world)

/-- Whether the actions of a move pass a check. -/
def Move.passes (check : Check Thread Action World) (pool : Pool Thread Action World) : Move → Bool
  | .acts thread count => (daemon setting).actsPass check thread count pool
  | _ => true

/-- Whether the actions of a schedule pass a check. -/
def passesFrom (setting : Setting) (check : Check Thread Action World) :
    List Move → Pool Thread Action World → Bool
  | [], _ => true
  | move :: rest, pool =>
      move.passes setting check pool && passesFrom setting check rest (play setting pool move)

/-! ### Schedules are runs -/

variable {world : World} {program : Program Action Unit} {setting : Setting}

section

variable {admits : Condition Thread Action World}
variable {check : Check Thread Action World} {pool : Pool Thread Action World}

theorem reaches_begin {thread : Thread} (starts : Starts setting thread pool.world program world) :
    (daemon setting).Reaches admits pool (begin thread program world pool) := by
  unfold begin
  split
  case h_1 finished => exact (System.Reaches.refl pool).tail (.start finished starts)
  case h_2 => exact .refl pool

variable (sound : ∀ thread ⦃Response : Type⦄ (action : Action Response) world,
  check thread action world = true → admits thread action world)

include sound

theorem reaches_play (move : Move) (permitted : move.isRestart = true → setting.restarts)
    (passes : move.passes setting check pool = true) :
    (daemon setting).Reaches admits pool (play setting pool move) := by
  cases move with
  | acts thread count => exact System.reaches_acts sound passes
  | request number actor request =>
    simp only [play]
    split
    · next serving => exact reaches_begin (.request number actor request serving)
    · exact .refl pool
  | receive =>
    simp only [play]
    split
    · exact .refl pool
    · next queued => exact reaches_begin (.receive queued)
  | clock now =>
    simp only [play]
    split
    · next later =>
      exact (System.Reaches.refl pool).tail (.environment (.clock pool.world now later))
    · exact .refl pool
  | faults faults =>
    exact (System.Reaches.refl pool).tail (.environment (.faults pool.world faults))
  | restart => exact (System.Reaches.refl pool).tail (.restart ⟨permitted rfl, rfl, rfl⟩)

theorem reaches_moves (moves : List Move)
    (permitted : moves.any Move.isRestart = true → setting.restarts)
    (passes : passesFrom setting check moves pool = true) :
    (daemon setting).Reaches admits pool (moves.foldl (play setting) pool) := by
  induction moves generalizing pool with
  | nil => exact .refl pool
  | cons move rest inductionHypothesis =>
    simp only [passesFrom, Bool.and_eq_true] at passes
    have first := reaches_play sound move (fun restart =>
      permitted (by rw [List.any_cons, restart, Bool.true_or])) passes.1
    refine first.trans (inductionHypothesis (fun later => permitted ?_) passes.2)
    rw [List.any_cons, later, Bool.or_true]

/-- A schedule whose actions pass a check is a run. -/
theorem reachable_of_passes (fresh : world.Fresh) (moves : List Move)
    (permitted : moves.any Move.isRestart = true → setting.restarts)
    (passes : passesFrom setting check moves (idlePool world) = true) :
    Reachable setting admits (playAll setting world moves) :=
  ⟨world, fresh, reaches_moves sound moves permitted passes⟩

end

theorem passesFrom_always (setting : Setting) (moves : List Move)
    (pool : Pool Thread Action World) :
    passesFrom setting (fun _ _ _ _ => true) moves pool = true := by
  induction moves generalizing pool with
  | nil => rfl
  | cons move rest inductionHypothesis =>
    simp only [passesFrom, inductionHypothesis, Bool.and_true]
    cases move <;> first | exact System.actsPass_always _ _ _ | rfl

/-- Every schedule is a run. -/
theorem reaches_playAll (world : World) (moves : List Move)
    (permitted : moves.any Move.isRestart = true → setting.restarts) :
    (daemon setting).Reaches (unrestricted Thread Action World) (idlePool world)
      (playAll setting world moves) :=
  reaches_moves (fun _ _ _ _ _ => trivial) moves permitted (passesFrom_always setting moves _)

/-- A schedule that goes on leads from the pool it had reached. -/
theorem reaches_playAll_append (world : World) (first rest : List Move)
    (permitted : rest.any Move.isRestart = true → setting.restarts) :
    (daemon setting).Reaches (unrestricted Thread Action World) (playAll setting world first)
      (playAll setting world (first ++ rest)) := by
  rw [playAll, playAll, List.foldl_append]
  exact reaches_moves (fun _ _ _ _ _ => trivial) rest permitted (passesFrom_always setting rest _)

theorem reachable_playAll (fresh : world.Fresh)
    (moves : List Move) (permitted : moves.any Move.isRestart = true → setting.restarts) :
    Reachable setting (unrestricted Thread Action World) (playAll setting world moves) :=
  ⟨world, fresh, reaches_playAll world moves permitted⟩

/-- The requests a move lets begin or go on. -/
def Move.concerns (number : Nat) : Move → Bool
  | .acts thread _ => decide (thread = .request number)
  | .request other _ _ => decide (other = number)
  | _ => false

theorem threads_begin_of_ne {thread other : Thread} (different : other ≠ thread)
    (program : Program Action Unit) (world : World) (pool : Pool Thread Action World) :
    (begin thread program world pool).threads other = pool.threads other := by
  unfold begin
  split
  · exact Function.update_of_ne different _ _
  · rfl

/-- A request that no move concerns is not in flight. -/
theorem threads_playAll {moves : List Move} {number : Nat}
    (aside : moves.any (Move.concerns number) = false) :
    (playAll setting world moves).threads (.request number) = .done () := by
  suffices kept : ∀ pool : Pool Thread Action World, pool.threads (.request number) = .done () →
      (moves.foldl (play setting) pool).threads (.request number) = .done () from
    kept (idlePool world) rfl
  induction moves with
  | nil => exact fun _ => id
  | cons move rest inductionHypothesis =>
    rw [List.any_cons, Bool.or_eq_false_iff] at aside
    refine fun pool finished => inductionHypothesis aside.2 _ ?_
    cases move with
    | acts thread count =>
      have different : Thread.request number ≠ thread := fun same => by
        simp [Move.concerns, same] at aside
      exact (System.acts_threads_of_ne different count pool).trans finished
    | request other actor request =>
      have different : Thread.request number ≠ .request other := fun same => by
        cases same
        simp [Move.concerns] at aside
      simp only [play]
      split
      · exact (threads_begin_of_ne different _ _ pool).trans finished
      · exact finished
    | receive =>
      simp only [play]
      split
      · exact finished
      · exact (threads_begin_of_ne (by simp) _ _ pool).trans finished
    | clock now =>
      simp only [play]
      split <;> exact finished
    | faults faults => exact finished
    | restart => rfl

/-! ### Schedules of the daemon with notes -/

section

variable {Note : Type} (auxiliary : Auxiliary Thread Action World Note) (setting : Setting)

/-- The pool after a move of the annotated daemon. -/
def playNoted (pool : Pool Thread Action (World × Note)) : Move → Pool Thread Action (World × Note)
  | .acts thread count => ((daemon setting).annotated auxiliary).acts thread count pool
  | .restart => ⟨(pool.world.1.reboot, auxiliary.restart pool.world.2), bootThreads⟩
  | move => (play setting ⟨pool.world.1, pool.threads⟩ move).withNote pool.world.2

/-- Whether the actions of a schedule of the annotated daemon pass a check. -/
def notedPasses (check : Check Thread Action (World × Note)) :
    List Move → Pool Thread Action (World × Note) → Bool
  | [], _ => true
  | .acts thread count :: rest, pool =>
      ((daemon setting).annotated auxiliary).actsPass check thread count pool &&
        notedPasses check rest (playNoted auxiliary setting pool (.acts thread count))
  | move :: rest, pool => notedPasses check rest (playNoted auxiliary setting pool move)

variable {auxiliary setting} {admits : Condition Thread Action (World × Note)}
variable {check : Check Thread Action (World × Note)} {pool : Pool Thread Action (World × Note)}

theorem reaches_begin_noted {thread : Thread}
    (starts : Starts setting thread pool.world.1 program world) :
    ((daemon setting).annotated auxiliary).Reaches admits pool
      ((begin thread program world ⟨pool.world.1, pool.threads⟩).withNote pool.world.2) := by
  unfold begin
  split
  case h_1 finished => exact (System.Reaches.refl pool).tail (.start finished ⟨starts, rfl⟩)
  case h_2 => exact .refl pool

/-- A move that is neither an action nor a restart leaves the note alone. -/
theorem reaches_playNoted {move : Move} (permitted : move.isRestart = true → setting.restarts)
    (still : ∀ thread count, move ≠ .acts thread count) :
    ((daemon setting).annotated auxiliary).Reaches admits pool
      (playNoted auxiliary setting pool move) := by
  cases move with
  | acts thread count => exact absurd rfl (still thread count)
  | request number actor request =>
    simp only [playNoted, play]
    split
    · next serving => exact reaches_begin_noted (.request number actor request serving)
    · exact .refl pool
  | receive =>
    simp only [playNoted, play]
    split
    · exact .refl pool
    · next queued => exact reaches_begin_noted (.receive queued)
  | clock now =>
    simp only [playNoted, play]
    split
    · next later =>
      exact (System.Reaches.refl pool).tail (.environment ⟨.clock pool.world.1 now later, rfl⟩)
    · exact .refl pool
  | faults faults =>
    exact (System.Reaches.refl pool).tail (.environment ⟨.faults pool.world.1 faults, rfl⟩)
  | restart =>
    exact (System.Reaches.refl pool).tail (.restart ⟨⟨permitted rfl, rfl, rfl⟩, rfl⟩)

/-- A schedule of the annotated daemon whose actions pass a check is a run. -/
theorem reaches_noted (sound : ∀ thread ⦃Response : Type⦄ (action : Action Response) state,
      check thread action state = true → admits thread action state) (moves : List Move)
    (permitted : moves.any Move.isRestart = true → setting.restarts)
    (passes : notedPasses auxiliary setting check moves pool = true) :
    ((daemon setting).annotated auxiliary).Reaches admits pool
      (moves.foldl (playNoted auxiliary setting) pool) := by
  induction moves generalizing pool with
  | nil => exact .refl pool
  | cons move rest inductionHypothesis =>
    have first : move.isRestart = true → setting.restarts := fun restart =>
      permitted (by rw [List.any_cons, restart, Bool.true_or])
    have later : rest.any Move.isRestart = true → setting.restarts := fun restart =>
      permitted (by rw [List.any_cons, restart, Bool.or_true])
    cases move with
    | acts thread count =>
      simp only [notedPasses, Bool.and_eq_true] at passes
      exact (System.reaches_acts sound passes.1).trans (inductionHypothesis later passes.2)
    | _ =>
      exact (reaches_playNoted first (by simp)).trans (inductionHypothesis later passes)

theorem notedPasses_always (auxiliary : Auxiliary Thread Action World Note) (setting : Setting)
    (moves : List Move) (pool : Pool Thread Action (World × Note)) :
    notedPasses auxiliary setting (fun _ _ _ _ => true) moves pool = true := by
  induction moves generalizing pool with
  | nil => rfl
  | cons move rest inductionHypothesis =>
    cases move with
    | acts thread count =>
      simp only [notedPasses, System.actsPass_always, inductionHypothesis, Bool.and_true]
    | _ => exact inductionHypothesis _

end

/-! ### A small deployment -/

namespace Deployment

def community : CommunityConfig :=
  ⟨⟨0⟩, "main", ⟨"wss://relay/", "wss", some "relay", "", none, none, none⟩, some "owner"⟩

/-- A host on which no agent was ever created, with one community. -/
def host : World where
  db :=
    { Database.empty with
      communityConfigs := (∅ : Table CommunityConfigId CommunityConfig).insert ⟨0⟩ community }
  files := ⟨∅, ∅, ∅⟩
  receipts := ∅
  processes := ∅
  custody := ∅
  directories := ∅
  queue := []
  serving := true
  cached := none
  reconciled := none
  starting := []
  processing := none
  clock := 0
  nextUuid := 1
  nextPid := 1
  nextKey := 1
  owners := ∅
  faults := .none
  accepted := []

theorem host_fresh : host.Fresh := by
  constructor <;> rfl

def admin : AuthenticatedPrincipal := ⟨.unixPeer 0 0 none, .administrator⟩

def createInput : CreateAgentInput :=
  ⟨⟨0⟩, "helper", none, some "help", none, some ⟨"goose"⟩, none⟩

variable (key : String)

def create : ApiRequest := .agent (.create ⟨⟨key, "c"⟩, createInput⟩)

variable (id : AgentId)

def changeState (state : DesiredAgentState) : ApiRequest :=
  .agent (.changeState ⟨⟨key, "c"⟩, id, state⟩)

def delete : ApiRequest := .agent (.delete ⟨⟨key, "c"⟩, id⟩)

def purge : ApiRequest := .agent (.purge ⟨⟨key, "c"⟩, id⟩)

/-- A request that comes in and is answered before anything else happens. -/
def answer (request : ApiRequest) : List Move := [.request 0 admin request, .acts (.request 0) 50]

/-- The worker takes the next item and carries it out. -/
def work : List Move := [.receive, .acts .worker 80]

end Deployment

end BuzzServer
