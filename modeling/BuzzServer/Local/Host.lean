/-
This file models the host as the supervisor meets it: processes by their ids,
process groups by the id of the process that founded them, and the answers to
the calls that may fail.

A process that has ended keeps its id until its parent has waited for it. Until
then a signal can be sent to it, and its start time can be read, but not its
command line and not its environment. An id is given to a new process only if
neither a process nor a group has it.

Of a process the model also keeps the launch whose marker it was created with.
The supervisor cannot see it. It says which launch a process belongs to, and a
process never takes on the marker of another launch.
-/

import BuzzServer.Local.Environment
import Mathlib.Logic.Relation

namespace BuzzServer.Local

/-! ### Processes and groups -/

inductive ExitStatus where
  | exited (code : Int)
  | signaled (signal : Int)
  deriving DecidableEq

def ExitStatus.code : ExitStatus → Option Int
  | .exited code => some code
  | .signaled _ => none

def ExitStatus.outcome : ExitStatus → ParentWaitOutcome
  | .exited code => .exited code
  | .signaled signal => .signaled signal

structure HostProcess where
  startTicks : Nat
  /-- The first argument the process shows. It may be empty. -/
  command : String
  environ : Environment
  /-- The launch whose marker the process was created with. -/
  launch : Option String
  /-- Whether it is a child of the server that has not been waited for. -/
  ours : Bool
  /-- How the process ended, once it has. -/
  exit : Option ExitStatus
  faithful : environ.lookup launchMarker = none ∨ environ.lookup launchMarker = launch

def HostProcess.exitWith (process : HostProcess) (status : ExitStatus) : HostProcess :=
  { process with exit := some status }

/-- The process whose parent has ended. -/
def HostProcess.orphaned (process : HostProcess) : HostProcess :=
  { process with ours := false }

/-- Two states of one process. -/
structure HostProcess.Continues (former later : HostProcess) : Prop where
  startTicks : later.startTicks = former.startTicks
  launch : later.launch = former.launch
  ours : later.ours = former.ours

theorem HostProcess.Continues.refl (process : HostProcess) : process.Continues process :=
  ⟨rfl, rfl, rfl⟩

/-- A process group, with the launch its founder belongs to. -/
structure ProcessGroup where
  launch : Option String
  deriving DecidableEq

structure Host where
  processes : Nat → Option HostProcess
  groups : Nat → Option ProcessGroup
  /-- How many processes have been given an id. -/
  births : Nat → Nat

variable {host after : Host} {pid : Nat}

namespace Host

/-- Whether an id may be given to a new process. -/
def isFree (host : Host) (pid : Nat) : Bool :=
  (host.processes pid).isNone && (host.groups pid).isNone

def setProcess (host : Host) (pid : Nat) (process : Option HostProcess) : Host :=
  { host with processes := Function.update host.processes pid process }

def setGroup (host : Host) (pid : Nat) (group : Option ProcessGroup) : Host :=
  { host with groups := Function.update host.groups pid group }

/-- The host with a new process under an id. -/
def create (host : Host) (pid : Nat) (process : HostProcess) : Host :=
  { host.setProcess pid (some process) with
    births := Function.update host.births pid (host.births pid + 1) }

/-- One change the host makes on its own. -/
inductive Event (host : Host) : Host → Prop where
  | exits {pid : Nat} {process : HostProcess} (found : host.processes pid = some process)
      (runs : process.exit = none) (status : ExitStatus) :
      Event host (host.setProcess pid (some (process.exitWith status)))
  /-- The parent of a process has waited for it. The server waits for its own children. -/
  | vanishes {pid : Nat} {process : HostProcess} (found : host.processes pid = some process)
      (ended : process.exit ≠ none) (foreign : process.ours = false) :
      Event host (host.setProcess pid none)
  | appears {pid : Nat} {process : HostProcess} (free : host.isFree pid = true)
      (foreign : process.ours = false) : Event host (host.create pid process)
  | executes {pid : Nat} {process later : HostProcess}
      (found : host.processes pid = some process) (continues : process.Continues later)
      (runs : process.exit = none) : Event host (host.setProcess pid (some later))
  | founds {pid : Nat} {process : HostProcess} (found : host.processes pid = some process)
      (unused : host.groups pid = none) :
      Event host (host.setGroup pid (some ⟨process.launch⟩))
  | disbands (pid : Nat) : Event host (host.setGroup pid none)

/-- A group and the process with its id belong to one launch. -/
def Sound (host : Host) : Prop :=
  ∀ pid process group, host.processes pid = some process → host.groups pid = some group →
    group.launch = process.launch

theorem setProcess_processes (host : Host) (pid : Nat) (process : Option HostProcess) (id : Nat) :
    (host.setProcess pid process).processes id = if id = pid then process else host.processes id :=
  Function.update_apply ..

theorem setProcess_setProcess (host : Host) (pid : Nat) (first second : Option HostProcess) :
    (host.setProcess pid first).setProcess pid second = host.setProcess pid second := by
  unfold setProcess
  rw [Function.update_idem]

theorem setGroup_groups (host : Host) (pid : Nat) (group : Option ProcessGroup) (id : Nat) :
    (host.setGroup pid group).groups id = if id = pid then group else host.groups id :=
  Function.update_apply ..

theorem create_processes (host : Host) (pid : Nat) (process : HostProcess) (id : Nat) :
    (host.create pid process).processes id = if id = pid then some process else host.processes id :=
  Function.update_apply ..

theorem create_births (host : Host) (pid : Nat) (process : HostProcess) (id : Nat) :
    (host.create pid process).births id =
      if id = pid then host.births pid + 1 else host.births id :=
  Function.update_apply ..

theorem isFree_eq_true :
    host.isFree pid = true ↔ host.processes pid = none ∧ host.groups pid = none := by
  unfold isFree
  rw [Bool.and_eq_true, Option.isNone_iff_eq_none, Option.isNone_iff_eq_none]

/-! ### What an event does to one id -/

/-- How the holder of an id may change. -/
structure ChangesAt (before after : Host) (pid : Nat) : Prop where
  births : before.births pid ≤ after.births pid
  /-- Who has the id had it before, or was given it now. -/
  holder : ∀ later, after.processes pid = some later →
    (∃ former, before.processes pid = some former ∧ former.Continues later) ∨
      before.births pid < after.births pid ∧ before.groups pid = none
  /-- A child that has not been waited for keeps its id. -/
  keeps : ∀ former, before.processes pid = some former → former.ours = true →
    ∃ later, after.processes pid = some later ∧ former.Continues later
  group : ∀ group, after.groups pid = some group → before.groups pid = some group ∨
      ∃ process, before.processes pid = some process ∧ after.processes pid = some process ∧
        group.launch = process.launch

theorem changesAt_of_same {before : Host} (births : after.births pid = before.births pid)
    (process : after.processes pid = before.processes pid)
    (group : after.groups pid = before.groups pid) : before.ChangesAt after pid where
  births := births.ge
  holder later found := .inl ⟨later, process ▸ found, HostProcess.Continues.refl later⟩
  keeps former found _ := ⟨former, process ▸ found, HostProcess.Continues.refl former⟩
  group _ found := .inl (group ▸ found)

theorem changesAt_setProcess {former later : HostProcess} (found : host.processes pid = some former)
    (continues : former.Continues later) (id : Nat) :
    host.ChangesAt (host.setProcess pid (some later)) id := by
  by_cases same : id = pid
  · subst same
    refine ⟨le_rfl, ?_, ?_, fun _ held => .inl held⟩
    · intro process holds
      rw [setProcess_processes, if_pos rfl, Option.some.injEq] at holds
      exact .inl ⟨former, found, holds ▸ continues⟩
    · intro process holds _
      rw [found, Option.some.injEq] at holds
      exact ⟨later, by rw [setProcess_processes, if_pos rfl], holds ▸ continues⟩
  · refine changesAt_of_same rfl ?_ rfl
    rw [setProcess_processes, if_neg same]

theorem changesAt_remove {process : HostProcess} (found : host.processes pid = some process)
    (foreign : process.ours = false) (id : Nat) : host.ChangesAt (host.setProcess pid none) id := by
  by_cases same : id = pid
  · subst same
    refine ⟨le_rfl, ?_, ?_, fun _ held => .inl held⟩
    · intro later holds
      rw [setProcess_processes, if_pos rfl] at holds
      cases holds
    · intro former holds own
      rw [found, Option.some.injEq] at holds
      rw [← holds, foreign] at own
      cases own
  · refine changesAt_of_same rfl ?_ rfl
    rw [setProcess_processes, if_neg same]

theorem changesAt_create (process : HostProcess) (free : host.isFree pid = true) (id : Nat) :
    host.ChangesAt (host.create pid process) id := by
  obtain ⟨unheld, ungrouped⟩ := isFree_eq_true.mp free
  by_cases same : id = pid
  · subst same
    have older : host.births id < (host.create id process).births id := by
      rw [create_births, if_pos rfl]
      exact Nat.lt_succ_self _
    refine ⟨older.le, fun _ _ => .inr ⟨older, ungrouped⟩, ?_, fun _ held => .inl held⟩
    intro former holds
    rw [unheld] at holds
    cases holds
  · refine changesAt_of_same ?_ ?_ rfl
    · rw [create_births, if_neg same]
    · rw [create_processes, if_neg same]

theorem changesAt_setGroup {group : Option ProcessGroup}
    (named : ∀ founded, group = some founded → ∃ process, host.processes pid = some process ∧
      founded.launch = process.launch) (id : Nat) :
    host.ChangesAt (host.setGroup pid group) id := by
  by_cases same : id = pid
  · subst same
    refine ⟨le_rfl, fun later holds => .inl ⟨later, holds, HostProcess.Continues.refl later⟩,
      fun former holds _ => ⟨former, holds, HostProcess.Continues.refl former⟩, ?_⟩
    intro founded held
    rw [setGroup_groups, if_pos rfl] at held
    obtain ⟨process, found, launch⟩ := named founded held
    exact .inr ⟨process, found, found, launch⟩
  · refine changesAt_of_same rfl rfl ?_
    rw [setGroup_groups, if_neg same]

theorem Event.changesAt (event : host.Event after) (pid : Nat) : host.ChangesAt after pid := by
  cases event with
  | @exits id process found runs status =>
    have continues : process.Continues (process.exitWith status) := ⟨rfl, rfl, rfl⟩
    exact changesAt_setProcess found continues pid
  | vanishes found ended foreign => exact changesAt_remove found foreign pid
  | appears free foreign => exact changesAt_create _ free pid
  | executes found continues runs => exact changesAt_setProcess found continues pid
  | @founds id process found unused =>
    exact changesAt_setGroup (fun _ held => ⟨process, found, Option.some.inj held ▸ rfl⟩) pid
  | disbands id => exact changesAt_setGroup (by simp) pid

/-- The soundness of a host survives every change of this kind. -/
theorem Sound.of_changesAt {before : Host} (sound : before.Sound)
    (changes : ∀ pid, before.ChangesAt after pid) : after.Sound := by
  intro pid later group holds held
  rcases (changes pid).group group held with before_held | ⟨process, -, stays, same⟩
  · rcases (changes pid).holder later holds with ⟨former, found, continues⟩ | ⟨-, ungrouped⟩
    · rw [sound pid former group found before_held, continues.launch]
    · rw [ungrouped] at before_held
      cases before_held
  · rw [holds, Option.some.injEq] at stays
    rw [same, stays]

end Host

/-! ### The answers of the host -/

/-- A process the host has created. -/
structure SpawnedProcess where
  (pid startTicks : Nat)
  command : String
  inRange : 0 < pid ∧ pid < 2 ^ 31

/-- How the host would answer the calls whose answers the model does not determine. -/
structure HostAnswers where
  /-- Whether a directory exists or can be created. -/
  directory : String → Bool
  /-- The end of a probe. -/
  probe : Command → Except SupervisorError Unit
  /-- Whether the log file of a stream can be opened. -/
  log : String → Bool → Bool
  spawn : Command → Option SpawnedProcess
  /-- Whether waiting for a child works. -/
  waits : Nat → Bool
  /-- How a process that is waited for ends, if it has not ended yet. -/
  ends : Nat → ExitStatus
  /-- Whether a group may be sent a signal. -/
  permits : Nat → Bool
  connects : String → Nat → Nat → Bool

/-! ### The supervisor's world -/

structure ManagedChild where
  receipt : ProcessReceipt
  /-- The status the process ended with, once it has been waited for. -/
  status : Option ExitStatus

inductive Signal where
  | term
  | kill
  deriving DecidableEq

/-- A call that sent a signal for a launch, with the group that had the id. -/
structure SentSignal where
  launch : String
  pid : Nat
  signal : Signal
  group : Option ProcessGroup
  permitted : Bool
  sentAt : Nat

structure AdapterWorld where
  host : Host
  children : Nat → Option ManagedChild
  identities : AgentId → Option LocalProcessIdentity
  /-- The time since the Unix epoch, unless the clock precedes it. -/
  unixMs : Option Nat
  /-- The monotonic clock, in milliseconds. -/
  (instantMs nextGeneration : Nat)
  answers : HostAnswers
  /-- The signals sent so far. -/
  signals : List SentSignal
  /-- The last id whose marker was looked at, with the number of processes that had been given
  it by then. -/
  looked : Option (Nat × Nat)

namespace AdapterWorld

def setChild (world : AdapterWorld) (pid : Nat) (child : Option ManagedChild) : AdapterWorld :=
  { world with children := Function.update world.children pid child }

theorem setChild_children (world : AdapterWorld) (pid : Nat) (child : Option ManagedChild)
    (id : Nat) :
    (world.setChild pid child).children id = if id = pid then child else world.children id :=
  Function.update_apply ..

/-- The changes of the world that are not the supervisor's. -/
inductive Evolves (world : AdapterWorld) : AdapterWorld → Prop where
  | host {after : Host} (event : world.host.Event after) :
      Evolves world { world with host := after }
  | time (unixMs : Option Nat) (elapsed : Nat) :
      Evolves world { world with unixMs := unixMs, instantMs := world.instantMs + elapsed }
  | answers (answers : HostAnswers) : Evolves world { world with answers := answers }

/-- The supervisor has ended. Its processes go on without it. -/
def restarted (world : AdapterWorld) : AdapterWorld :=
  { world with
    host :=
      { world.host with processes := fun pid => (world.host.processes pid).map .orphaned }
    children := fun _ => none
    identities := fun _ => none
    nextGeneration := 0
    looked := none }

end AdapterWorld

/-! ### The calls of the supervisor -/

def pollIntervalMs : Nat := 20

/-- One access of the supervisor to its own tables or to the host. -/
inductive HostAction : Type → Type where
  | unixMillis : HostAction (Option Nat)
  | instant : HostAction Nat
  | sleep : HostAction Unit
  | fetchGeneration : HostAction Nat
  | identity (agent : AgentId) : HostAction (Option LocalProcessIdentity)
  | setIdentity (agent : AgentId) (account : LocalProcessIdentity) : HostAction Unit
  | directories : HostAction (String → Bool)
  | runProbe (probe : Command) : HostAction (Except SupervisorError Unit)
  | openLog (launchId : String) (stderr : Bool) (generation : String) :
      HostAction (Except SupervisorError Unit)
  | spawn (command : Command) : HostAction (Except SupervisorError Nat)
  | child (pid : Nat) : HostAction (Option ManagedChild)
  | setChild (pid : Nat) (managed : ManagedChild) : HostAction Unit
  | removeChild (pid : Nat) : HostAction (Option ManagedChild)
  | tryWait (pid : Nat) : HostAction (Except SupervisorError (Option ExitStatus))
  | wait (pid : Nat) (managed : ManagedChild) : HostAction (Except SupervisorError ExitStatus)
  | processStartTicks (pid : Nat) : HostAction (Option Nat)
  | processCommand (pid : Nat) : HostAction (Option String)
  | processHasLaunchMarker (pid : Nat) (launchId : String) : HostAction Bool
  | processExists (pid : Nat) : HostAction (Except SupervisorError Bool)
  | signalGroup (launchId : String) (pid : Nat) (signal : Signal) :
      HostAction (Except SupervisorError Unit)
  | connect (host : String) (port timeoutMs : Nat) : HostAction Bool

namespace AdapterWorld

variable (world : AdapterWorld) (pid : Nat)

/-- A process that has ended shows its start time. -/
def processStartTicks : Option Nat :=
  (world.host.processes pid).map HostProcess.startTicks

/-- The process with an id, if it has not ended. -/
def runningProcess : Option HostProcess :=
  (world.host.processes pid).filter fun process => process.exit.isNone

def processCommand : Option String :=
  ((world.runningProcess pid).map HostProcess.command).filter fun command => !command.isEmpty

def processHasLaunchMarker (launchId : String) : Bool :=
  (world.runningProcess pid).any fun process =>
    process.environ.lookup launchMarker == some launchId

/-- The process a command becomes. Its environment is the one of the command. -/
def processOf (command : Command) (spawned : SpawnedProcess) : HostProcess where
  startTicks := spawned.startTicks
  command := spawned.command
  environ := command.environment
  launch := command.environment.lookup launchMarker
  ours := true
  exit := none
  faithful := .inr rfl

/-- The new process leads a group of its own. -/
def spawn (command : Command) : Except SupervisorError Nat × AdapterWorld :=
  match world.answers.spawn command with
  | none => (.error .io, world)
  | some spawned =>
      if world.host.isFree spawned.pid then
        let process := processOf command spawned
        (.ok spawned.pid, { world with
            host := (world.host.create spawned.pid process).setGroup spawned.pid
              (some ⟨process.launch⟩) })
      else (.error .io, world)

/-- The status of a child that has been waited for is remembered. -/
def reap (child : ManagedChild) (status : ExitStatus) : AdapterWorld :=
  { world.setChild pid (some { child with status := some status }) with
    host := world.host.setProcess pid none }

/-- Waiting for a child without blocking. -/
def tryWait : Except SupervisorError (Option ExitStatus) × AdapterWorld :=
  match world.children pid with
  | none => (.error .io, world)
  | some child =>
    match child.status with
    | some status => (.ok (some status), world)
    | none =>
        if world.answers.waits pid then
          match (world.host.processes pid).bind HostProcess.exit with
          | none => (.ok none, world)
          | some status => (.ok (some status), world.reap pid child status)
        else (.error .io, world)

/-- Waiting until a child has ended. -/
def wait (child : ManagedChild) : Except SupervisorError ExitStatus × AdapterWorld :=
  match child.status with
  | some status => (.ok status, world)
  | none =>
      if world.answers.waits pid then
        (.ok (((world.host.processes pid).bind HostProcess.exit).getD (world.answers.ends pid)),
          { world with host := world.host.setProcess pid none })
      else (.error .io, world)

/-- A process id of the platform. -/
def validPid : Bool := decide (pid < 2 ^ 31)

def processExists : Except SupervisorError Bool :=
  if validPid pid then .ok (world.host.processes pid).isSome else .error .io

/-- A group that does not exist is not an error. -/
def signalGroup (launchId : String) (pid : Nat) (signal : Signal) :
    Except SupervisorError Unit × AdapterWorld :=
  if validPid pid then
    let group := world.host.groups pid
    let permitted := group.isNone || world.answers.permits pid
    (if permitted then .ok () else .error .io,
      { world with
        signals := world.signals ++ [⟨launchId, pid, signal, group, permitted, world.instantMs⟩] })
  else (.error .io, world)

end AdapterWorld

/-- The response to an action and the world it leaves. -/
def HostAction.perform : ∀ ⦃Response : Type⦄, HostAction Response → AdapterWorld →
    Response × AdapterWorld
  | _, .unixMillis, world => (world.unixMs, world)
  | _, .instant, world => (world.instantMs, world)
  | _, .sleep, world => ((), { world with instantMs := world.instantMs + pollIntervalMs })
  | _, .fetchGeneration, world =>
      (world.nextGeneration, { world with nextGeneration := world.nextGeneration + 1 })
  | _, .identity agent, world => (world.identities agent, world)
  | _, .setIdentity agent account, world =>
      ((), { world with identities := Function.update world.identities agent (some account) })
  | _, .directories, world => (world.answers.directory, world)
  | _, .runProbe probe, world => (world.answers.probe probe, world)
  | _, .openLog launchId stderr _, world =>
      (if world.answers.log launchId stderr then .ok () else .error .io, world)
  | _, .spawn command, world => world.spawn command
  | _, .child pid, world => (world.children pid, world)
  | _, .setChild pid managed, world => ((), world.setChild pid (some managed))
  | _, .removeChild pid, world => (world.children pid, world.setChild pid none)
  | _, .tryWait pid, world => world.tryWait pid
  | _, .wait pid managed, world => world.wait pid managed
  | _, .processStartTicks pid, world => (world.processStartTicks pid, world)
  | _, .processCommand pid, world => (world.processCommand pid, world)
  | _, .processHasLaunchMarker pid launchId, world =>
      (world.processHasLaunchMarker pid launchId,
        { world with looked := some (pid, world.host.births pid) })
  | _, .processExists pid, world => (world.processExists pid, world)
  | _, .signalGroup launchId pid signal, world => world.signalGroup launchId pid signal
  | _, .connect host port timeoutMs, world => (world.answers.connects host port timeoutMs, world)

end BuzzServer.Local
