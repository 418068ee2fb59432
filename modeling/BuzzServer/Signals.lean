/-
This file proves which processes the supervisor signals when it stops one.

The supervisor is one thread; between any two of its calls to the host, processes
may end, ids may be given to new processes and time may pass. A child that has
not been waited for keeps its id, so that a signal for a child reaches the group
of the child. A process an earlier supervisor started may end while it is
stopped, and its id may be given to another process: then the signal reaches a
group of another launch.

A child that has ended keeps its id as well. The loop that waits for the end of
a process looks at the id, so that it never sees the end of a child.
-/

import BuzzServer.Concurrent.Discipline
import BuzzServer.Ownership

namespace BuzzServer.Local

open Concurrent Concurrent.Fallible AdapterWorld

/-! ### The supervisor and its host -/

inductive SupervisorCall where
  | setAgentIdentity (agent : AgentId) (account : LocalProcessIdentity)
  | start (launch : LaunchSpec) (resolver : SecretRef → Except SupervisorError String)
  | inspect (receipt : ProcessReceipt)
  | stop (receipt : ProcessReceipt)

/-- The program of a call. Its result goes to the caller. -/
def SupervisorCall.program (adapter : AdapterConfig) : SupervisorCall → Program HostAction Unit
  | .setAgentIdentity agent account => .perform (.setIdentity agent account)
  | .start launch resolver => (Local.start adapter launch resolver).run.bind fun _ => .done ()
  | .inspect receipt => (Local.inspect receipt).run.bind fun _ => .done ()
  | .stop receipt => (Local.stop adapter receipt).run.bind fun _ => .done ()

/-- The supervisor of a server. If the server goes on, more calls are made and the server may be
restarted at any time; otherwise the call that is being made is the last one. -/
def supervision (adapter : AdapterConfig) (goesOn : Prop) :
    System Unit HostAction AdapterWorld where
  perform _ := HostAction.perform
  starts _ world program after := goesOn ∧ after = world ∧ ∃ call : SupervisorCall,
    program = call.program adapter
  environment := AdapterWorld.Evolves
  restarts world after threads := goesOn ∧ after = world.restarted ∧ threads = fun _ => .done ()

/-- A child that has not been waited for has the id. -/
def AdapterWorld.Fathers (world : AdapterWorld) (pid : Nat) (launchId : String) : Prop :=
  ∃ process, world.host.processes pid = some process ∧ process.ours = true ∧
    process.launch = some launchId

/-- What holds between any two actions: the table lists children of the launches it says. -/
structure AdapterWorld.Orderly (world : AdapterWorld) : Prop where
  host : world.host.Sound
  children : ∀ pid managed, world.children pid = some managed → managed.status = none →
    world.Fathers pid managed.receipt.launchId

/-! ### What other changes leave alone -/

/-- The host and the supervisor's tables are the same, and time may have passed. -/
structure AdapterWorld.Same (before after : AdapterWorld) : Prop where
  host : after.host = before.host
  children : after.children = before.children
  looked : after.looked = before.looked
  signals : after.signals = before.signals
  instantMs : before.instantMs ≤ after.instantMs

/-- An assertion that depends on no more than the host, the tables and the passing of time, and
that no event of the host destroys. -/
structure Robust (assertion : AdapterWorld → Prop) : Prop where
  same : ∀ before after, AdapterWorld.Same before after → assertion before → assertion after
  event : ∀ world after, Host.Event world.host after → assertion world →
    assertion { world with host := after }

theorem Robust.and {first second : AdapterWorld → Prop} (left : Robust first)
    (right : Robust second) : Robust fun world => first world ∧ second world where
  same before after same holds :=
    ⟨left.same before after same holds.1, right.same before after same holds.2⟩
  event world after event holds :=
    ⟨left.event world after event holds.1, right.event world after event holds.2⟩

variable {after : AdapterWorld} {before : AdapterWorld}

theorem Robust.evolves {assertion : AdapterWorld → Prop} (robust : Robust assertion)
    (evolves : before.Evolves after) (holds : assertion before) :
    assertion after := by
  cases evolves with
  | host event => exact robust.event before _ event holds
  | time unixMs elapsed =>
    exact robust.same before _ ⟨rfl, rfl, rfl, rfl, Nat.le_add_right ..⟩ holds
  | answers answers => exact robust.same before _ ⟨rfl, rfl, rfl, rfl, le_rfl⟩ holds

theorem robust_pure (fact : Prop) : Robust fun _ => fact :=
  ⟨fun _ _ _ => id, fun _ _ _ => id⟩

theorem robust_signals (property : List SentSignal → Prop) :
    Robust fun world => property world.signals :=
  ⟨fun _ _ same holds => by rw [same.signals]; exact holds, fun _ _ _ => id⟩

theorem robust_child (pid : Nat) (property : Option ManagedChild → Prop) :
    Robust fun world => property (world.children pid) :=
  ⟨fun _ _ same holds => by rw [same.children]; exact holds, fun _ _ _ => id⟩

theorem robust_instant (deadline : Nat) : Robust fun world => deadline ≤ world.instantMs :=
  ⟨fun _ _ same holds => holds.trans same.instantMs, fun _ _ _ => id⟩

variable {pid : Nat}

theorem Fathers.of_changesAt {launchId : String}
    (changes : before.host.ChangesAt after.host pid) (fathers : before.Fathers pid launchId) :
    after.Fathers pid launchId := by
  obtain ⟨former, found, ours, launch⟩ := fathers
  obtain ⟨later, holds, continues⟩ := changes.keeps former found ours
  exact ⟨later, holds, continues.ours.trans ours, continues.launch.trans launch⟩

theorem robust_fathers (pid : Nat) (launchId : String) :
    Robust fun world => world.Fathers pid launchId where
  same before after same := by
    rintro ⟨process, found, rest⟩
    exact ⟨process, by rw [same.host]; exact found, rest⟩
  event world after event fathers := Fathers.of_changesAt (event.changesAt pid) fathers

theorem robust_orderly : Robust AdapterWorld.Orderly where
  same before after same orderly := by
    refine ⟨by rw [same.host]; exact orderly.host, ?_⟩
    intro pid managed listed unended
    rw [same.children] at listed
    exact (robust_fathers _ _).same before after same (orderly.children pid managed listed unended)
  event world after event orderly := by
    refine ⟨orderly.host.of_changesAt event.changesAt, ?_⟩
    intro pid managed listed unended
    exact Fathers.of_changesAt (event.changesAt pid) (orderly.children pid managed listed unended)

/-! ### The discipline of the supervisor -/

/-- A signal for a launch is sent to a group of the launch, if there is a group. -/
def AdapterWorld.Reaches (world : AdapterWorld) (launchId : String) (pid : Nat) : Prop :=
  ∀ group, world.host.groups pid = some group → group.launch = some launchId

/-- What the supervisor has to make sure of before it acts. -/
def supervisionDuty : Condition Unit HostAction AdapterWorld
  | _, _, .setChild pid managed, world =>
      managed.status = none → world.Fathers pid managed.receipt.launchId
  | _, _, .wait pid _, world => world.children pid = none
  | _, _, .signalGroup launchId pid _, world => world.Reaches launchId pid
  | _, _, _, _ => True

def supervising (idle : AdapterWorld → Prop) : Discipline Unit HostAction AdapterWorld where
  invariant := AdapterWorld.Orderly
  rely _ := Relation.ReflTransGen AdapterWorld.Evolves
  duty := supervisionDuty
  idle _ := idle

theorem Robust.stable {idle assertion : AdapterWorld → Prop} (robust : Robust assertion) :
    (supervising idle).Stable () assertion := by
  intro before after tolerated _ held holds
  clear held
  induction tolerated with
  | refl => exact holds
  | tail _ evolves inductionHypothesis => exact robust.evolves evolves inductionHypothesis

/-! ### The actions keep order -/

theorem Host.Sound.remove {host : Host} (sound : host.Sound) (pid : Nat) :
    (host.setProcess pid none).Sound := by
  intro id process group found held
  rw [Host.setProcess_processes] at found
  split at found
  · cases found
  · exact sound id process group found held

variable {world : AdapterWorld} (orderly : world.Orderly)

include orderly

theorem Orderly.of_removed (host : after.host = world.host.setProcess pid none)
    (children : ∀ id, id ≠ pid → after.children id = world.children id)
    (ended : ∀ managed, after.children pid = some managed → managed.status ≠ none) :
    after.Orderly := by
  refine ⟨by rw [host]; exact orderly.host.remove pid, ?_⟩
  intro id managed listed unended
  by_cases same : id = pid
  · subst same
    exact absurd unended (ended managed listed)
  · rw [children id same] at listed
    obtain ⟨process, found, rest⟩ := orderly.children id managed listed unended
    refine ⟨process, ?_, rest⟩
    rw [host, Host.setProcess_processes, if_neg same]
    exact found

theorem Orderly.setChild (pid : Nat) (child : Option ManagedChild)
    (fathers : ∀ managed, child = some managed → managed.status = none →
      world.Fathers pid managed.receipt.launchId) :
    (world.setChild pid child).Orderly := by
  refine ⟨orderly.host, ?_⟩
  intro id managed listed unended
  rw [AdapterWorld.setChild_children] at listed
  split at listed
  · next same =>
    subst same
    exact fathers managed listed unended
  · exact orderly.children id managed listed unended

theorem Orderly.tryWait (pid : Nat) : (world.tryWait pid).2.Orderly := by
  unfold AdapterWorld.tryWait
  split
  · exact orderly
  · next child _ =>
    split
    · exact orderly
    · split
      · split
        · exact orderly
        · next status _ =>
          refine Orderly.of_removed orderly rfl (fun id other => ?_) fun managed listed => ?_
          · exact (AdapterWorld.setChild_children ..).trans (if_neg other)
          · have remembered : some { child with status := some status } = some managed :=
              ((AdapterWorld.setChild_children ..).trans (if_pos rfl)).symm.trans listed
            rw [← Option.some.inj remembered]
            exact Option.some_ne_none status
      · exact orderly

theorem Orderly.wait (managed : ManagedChild) (unlisted : world.children pid = none) :
    (world.wait pid managed).2.Orderly := by
  unfold AdapterWorld.wait
  split
  · exact orderly
  · split
    · refine Orderly.of_removed orderly rfl (fun _ _ => rfl) fun child listed => ?_
      rw [show world.children pid = some child from listed] at unlisted
      cases unlisted
    · exact orderly

/-- The host with a child under an id that was free. -/
theorem Orderly.spawn (command : Command) : (world.spawn command).2.Orderly := by
  unfold AdapterWorld.spawn
  split
  · exact orderly
  · next spawned _ =>
    split
    case isFalse => exact orderly
    case isTrue free =>
    have created := Host.changesAt_create (AdapterWorld.processOf command spawned) free
    have found : (world.host.create spawned.pid (AdapterWorld.processOf command spawned)).processes
        spawned.pid = some (AdapterWorld.processOf command spawned) :=
      (Host.create_processes ..).trans (if_pos rfl)
    refine ⟨(orderly.host.of_changesAt created).of_changesAt (Host.changesAt_setGroup
      fun _ held => ⟨_, found, Option.some.inj held ▸ rfl⟩), ?_⟩
    intro pid managed listed unended
    obtain ⟨former, holds, ours, launch⟩ := orderly.children pid managed listed unended
    obtain ⟨later, kept, continues⟩ := (created pid).keeps former holds ours
    exact ⟨later, kept, continues.ours.trans ours, continues.launch.trans launch⟩

omit orderly

theorem signalGroup_same (world : AdapterWorld) (launchId : String) (pid : Nat) (signal : Signal) :
    (world.signalGroup launchId pid signal).2.host = world.host ∧
      (world.signalGroup launchId pid signal).2.children = world.children ∧
      (world.signalGroup launchId pid signal).2.looked = world.looked ∧
      (world.signalGroup launchId pid signal).2.instantMs = world.instantMs := by
  unfold AdapterWorld.signalGroup
  split <;> exact ⟨rfl, rfl, rfl, rfl⟩

/-- Every action that does its duty keeps order. -/
theorem perform_orderly {Response : Type} (action : HostAction Response)
    (orderly : world.Orderly) (duty : supervisionDuty () action world) :
    (HostAction.perform action world).2.Orderly := by
  cases action with
  | spawn command => exact Orderly.spawn orderly command
  | setChild pid managed =>
    refine Orderly.setChild orderly pid _ ?_
    rintro _ ⟨⟩
    exact duty
  | removeChild pid =>
    refine Orderly.setChild orderly pid none fun managed listed => ?_
    cases listed
  | tryWait pid => exact Orderly.tryWait orderly pid
  | wait pid managed => exact Orderly.wait orderly managed duty
  | signalGroup launchId pid signal =>
    obtain ⟨host, children, -, -⟩ := signalGroup_same world launchId pid signal
    refine ⟨?_, ?_⟩
    · show (world.signalGroup launchId pid signal).2.host.Sound
      rw [host]
      exact orderly.host
    · intro id managed listed unended
      rw [show (HostAction.perform (.signalGroup launchId pid signal) world).2.children = _ from
        children] at listed
      obtain ⟨process, found, rest⟩ := orderly.children id managed listed unended
      exact ⟨process, (congrArg (·.processes id) host).trans found, rest⟩
  | _ => exact ⟨orderly.host, orderly.children⟩

/-! ### Actions that only look -/

/-- Whether an action leaves the host, the table of children and the record of signals alone. -/
def HostAction.isQuiet {Response : Type} : HostAction Response → Bool
  | .spawn _ | .setChild .. | .removeChild _ | .tryWait _ | .wait .. => false
  | .processHasLaunchMarker .. | .signalGroup .. => false
  | _ => true

theorem same_of_quiet {Response : Type} {action : HostAction Response}
    (quiet : action.isQuiet = true) (world : AdapterWorld) :
    world.Same (HostAction.perform action world).2 := by
  cases action with
  | sleep => exact ⟨rfl, rfl, rfl, rfl, Nat.le_add_right ..⟩
  | spawn | setChild | removeChild | tryWait | wait | processHasLaunchMarker | signalGroup =>
    cases quiet
  | _ => exact ⟨rfl, rfl, rfl, rfl, le_rfl⟩

/-- A program that performs quiet actions only. -/
abbrev Quiet {Result : Type} (program : Supervision Result) : Prop :=
  Program.Uses (fun _ action => HostAction.isQuiet action = true) program.run

variable {managed : ManagedChild} {admits : Condition Unit HostAction AdapterWorld}
  {adapter : AdapterConfig} {goesOn : Prop}

section

variable {idle : AdapterWorld → Prop} {First Result : Type}
  {pre assertion failure : AdapterWorld → Prop} {program : Supervision Result}
  {post : Result → AdapterWorld → Prop} {continuation : First → Supervision Result}

/-- From worlds that satisfy the precondition the program keeps the discipline, and it ends in one
of the two postconditions. -/
abbrev Conducts (adapter : AdapterConfig) (goesOn : Prop) (idle : AdapterWorld → Prop)
    (admits : Condition Unit HostAction AdapterWorld) {Result : Type} (pre : AdapterWorld → Prop)
    (program : Supervision Result) (post : Result → AdapterWorld → Prop)
    (failure : AdapterWorld → Prop) : Prop :=
  (supervising idle).Triple (supervision adapter goesOn) admits () pre program.run
    (Discipline.onOutcome post fun _ => failure)

theorem keeps_of_orderly {Response : Type} {action : HostAction Response}
    (orderly : world.Orderly) (duty : supervisionDuty () action world) :
    (supervising idle).Keeps (supervision adapter goesOn) () action world :=
  ⟨perform_orderly action orderly duty, fun _ different => absurd rfl different⟩

theorem conducts_quiet (robust : Robust assertion) (quiet : Quiet program) :
    Conducts adapter goesOn idle admits assertion program (fun _ => assertion) assertion := by
  refine Discipline.Triple.fallibleFrame robust.stable ?_ fun _ _ => id
  refine quiet.mono fun _ action looks world orderly holds _ => ?_
  have duty : supervisionDuty () action world := by
    cases action <;> first | exact trivial | cases looks
  exact ⟨duty, keeps_of_orderly orderly duty, robust.same _ _ (same_of_quiet looks world) holds⟩

/-- One action that does its duty. -/
theorem conducts_always {action : HostAction Result} (robust : Robust pre)
    (duty : ∀ world, world.Orderly → pre world → admits () action world →
      supervisionDuty () action world)
    (leads : ∀ world, world.Orderly → pre world → admits () action world →
      post (HostAction.perform action world).1 (HostAction.perform action world).2) :
    Conducts adapter goesOn idle admits pre (always action) post failure :=
  Discipline.Triple.always robust.stable fun world orderly holds admitted =>
    ⟨duty world orderly holds admitted,
      keeps_of_orderly orderly (duty world orderly holds admitted),
      leads world orderly holds admitted⟩

theorem conducts_call {action : HostAction (Except SupervisorError Result)} (robust : Robust pre)
    (duty : ∀ world, world.Orderly → pre world → admits () action world →
      supervisionDuty () action world)
    (leads : ∀ world, world.Orderly → pre world → admits () action world →
      Discipline.onOutcome post (fun _ => failure) (HostAction.perform action world).1
        (HostAction.perform action world).2) :
    Conducts adapter goesOn idle admits pre (call action) post failure :=
  Discipline.Triple.attempt robust.stable fun world orderly holds admitted =>
    ⟨duty world orderly holds admitted,
      keeps_of_orderly orderly (duty world orderly holds admitted),
      leads world orderly holds admitted⟩

theorem conducts_pure {result : Result} (implies : ∀ world, pre world → post result world) :
    Conducts adapter goesOn idle admits pre (pure result) post failure :=
  Discipline.Triple.done fun world _ holds => implies world holds

theorem conducts_throw {error : SupervisorError} (implies : ∀ world, pre world → failure world) :
    Conducts adapter goesOn idle admits pre (throw error) post failure :=
  Discipline.Triple.done fun world _ holds => implies world holds

theorem conducts_checked {outcome : Except ValidationError Result}
    (returns : ∀ value, outcome = .ok value → ∀ world, pre world → post value world)
    (fails : ∀ world, pre world → failure world) :
    Conducts adapter goesOn idle admits pre (checked outcome) post failure :=
  Discipline.Triple.ofExcept (fun value computed => returns value (mapError_eq_ok.mp computed))
    fun _ => fails

theorem conducts_bind {program : Supervision First} {middle : First → AdapterWorld → Prop}
    (first : Conducts adapter goesOn idle admits pre program middle failure)
    (rest : ∀ value, Conducts adapter goesOn idle admits (middle value) (continuation value) post
      failure) :
    Conducts adapter goesOn idle admits pre (program >>= continuation) post failure :=
  Discipline.Triple.fallibleBind first rest

theorem Conducts.weaken {stronger failed : AdapterWorld → Prop}
    {weaker : Result → AdapterWorld → Prop}
    (triple : Conducts adapter goesOn idle admits pre program post failed)
    (before : ∀ world, stronger world → pre world)
    (after : ∀ result world, post result world → weaker result world)
    (abandon : ∀ world, failed world → failure world) :
    Conducts adapter goesOn idle admits stronger program weaker failure :=
  Discipline.Triple.weaken triple before after fun _ => abandon

/-- A quiet program keeps an assertion that says all there is to say when the program fails. -/
theorem conducts_quietly (robust : Robust assertion)
    (abandon : ∀ world, assertion world → failure world) (quiet : Quiet program) :
    Conducts adapter goesOn idle admits assertion program (fun _ => assertion) failure :=
  (conducts_quiet robust quiet).weaken (fun _ => id) (fun _ _ => id) abandon

/-- An action, and what is done after it. -/
theorem conducts_do {action : HostAction First} (middle : First → AdapterWorld → Prop)
    (robust : Robust pre)
    (duty : ∀ world, world.Orderly → pre world → supervisionDuty () action world)
    (leads : ∀ world, pre world →
      middle (HostAction.perform action world).1 (HostAction.perform action world).2)
    (rest : ∀ value, Conducts adapter goesOn idle admits (middle value) (continuation value) post
      failure) :
    Conducts adapter goesOn idle admits pre (always action >>= continuation) post failure :=
  conducts_bind (conducts_always robust (fun world orderly holds _ => duty world orderly holds)
    fun world _ holds _ => leads world holds) rest

/-- What is done after a check may use that it was passed. -/
theorem conducts_checking {outcome : Except ValidationError First}
    (abandon : ∀ world, pre world → failure world)
    (rest : ∀ value, outcome = .ok value →
      Conducts adapter goesOn idle admits pre (continuation value) post failure) :
    Conducts adapter goesOn idle admits pre (checked outcome >>= continuation) post failure := by
  cases outcome with
  | ok value => exact rest value rfl
  | error error => exact Discipline.Triple.done fun world _ holds => abandon world holds

/-- A fact the precondition implies may be used for the whole program. -/
theorem Conducts.assume {fact : Prop} (implies : ∀ world, pre world → fact)
    (triple : fact → Conducts adapter goesOn idle admits pre program post failure) :
    Conducts adapter goesOn idle admits pre program post failure :=
  ⟨fun world orderly holds => (triple (implies world holds)).meets world orderly holds⟩

/-- A precondition may say what it is about. -/
theorem Conducts.any {Value : Type} {pre : Value → AdapterWorld → Prop}
    (triple : ∀ value, Conducts adapter goesOn idle admits (pre value) program post failure) :
    Conducts adapter goesOn idle admits (fun world => ∃ value, pre value world) program post
      failure :=
  ⟨fun world orderly ⟨value, holds⟩ => (triple value).meets world orderly holds⟩

/-! ### The programs that only look -/

theorem uses_checked (outcome : Except ValidationError Result) : Quiet (checked outcome) := by
  cases outcome <;> exact .done _

theorem uses_unixMillis : Quiet unixMillis := by
  refine uses_alwaysBind rfl fun reading => ?_
  cases reading <;> exact .done _

variable (receipt : ProcessReceipt)

theorem uses_healthReady : Quiet (healthReady receipt) := by
  refine uses_alwaysBind rfl fun now => ?_
  cases receipt.desired.health with
  | process startupGraceMs => exact .done _
  | tcp host port startupGraceMs intervalMs timeoutMs =>
    dsimp only
    split
    · exact .done _
    · exact uses_always rfl

theorem uses_prepareLog (launchId : String) (stderr : Bool) (generation : String) :
    Quiet (prepareLog launchId stderr generation) := by
  unfold prepareLog
  split
  · exact uses_attempt rfl
  · exact .done _

theorem uses_observeWait (status : ExitStatus) : Quiet (observeWait receipt status) :=
  uses_alwaysBind rfl fun _ => .done _

/-! ### Starting -/

theorem spawn_fathers {command : Command} {launchId : String}
    (marked : command.environment.lookup launchMarker = some launchId) :
    Discipline.onOutcome (fun pid after => AdapterWorld.Fathers after pid launchId)
      (fun _ _ => True) (world.spawn command).1 (world.spawn command).2 := by
  unfold AdapterWorld.spawn
  split
  · trivial
  · split
    · exact ⟨_, (Host.create_processes ..).trans (if_pos rfl), rfl, marked⟩
    · trivial

theorem conducts_registerChild (launch : LaunchSpec) (identity : Option LocalProcessIdentity)
    (generation : String) (logs : AppServerLogsStatus) (pid : Nat) :
    Conducts adapter goesOn idle admits (fun world => world.Fathers pid launch.launchId)
      (registerChild launch identity generation logs pid) (fun _ _ => True) (fun _ => True) := by
  have robust := robust_fathers pid launch.launchId
  refine conducts_bind (conducts_quietly robust (fun _ _ => trivial) uses_unixMillis) fun now => ?_
  refine conducts_bind (conducts_quietly robust (fun _ _ => trivial) (uses_always rfl))
    fun ticks => ?_
  refine conducts_bind (conducts_quietly robust (fun _ _ => trivial) (uses_checked _)) fun _ => ?_
  exact conducts_do (fun _ _ => True) robust (fun _ _ fathers _ => fathers) (fun _ _ => trivial)
    fun _ => conducts_pure fun _ _ => trivial

theorem conducts_start (launch : LaunchSpec)
    (resolver : SecretRef → Except SupervisorError String) :
    Conducts adapter goesOn idle admits (fun _ => True) (start adapter launch resolver)
      (fun _ _ => True)
      (fun _ => True) := by
  have looks {Result : Type} (fact : Prop) {program : Supervision Result} (quiet : Quiet program) :
      Conducts adapter goesOn idle admits (fun _ => fact) program (fun _ _ => fact) fun _ => True :=
    conducts_quietly (robust_pure fact) (fun _ _ => trivial) quiet
  refine conducts_bind (looks True (uses_checked _)) fun _ => ?_
  refine conducts_bind (looks True (uses_alwaysBind rfl fun _ => .done _)) fun identity => ?_
  refine conducts_bind (looks True uses_unixMillis) fun now => ?_
  refine conducts_bind (looks True (uses_always rfl)) fun count => ?_
  refine conducts_bind (looks True (uses_always rfl)) fun directories => ?_
  have plans : Conducts adapter goesOn idle admits (fun _ => True)
      (MonadExcept.ofExcept (adapter.plan launch resolver identity directories
        (toString now ++ "-" ++ toString count)))
      (fun plan _ => plan.harness.environment.lookup launchMarker = some launch.launchId)
      (fun _ => True) :=
    Discipline.Triple.ofExcept (fun _ planned _ _ => lookup_plan_marker planned)
      fun _ _ _ => trivial
  refine conducts_bind plans fun plan => ?_
  refine conducts_bind (looks _ ?_) fun _ => ?_
  · cases plan.probe with
    | none => exact .done _
    | some probe => exact uses_attempt rfl
  refine conducts_bind (looks _ (uses_prepareLog ..)) fun _ => ?_
  refine conducts_bind (looks _ (uses_prepareLog ..)) fun _ => ?_
  have spawns : Conducts adapter goesOn idle admits
      (fun _ => plan.harness.environment.lookup launchMarker = some launch.launchId)
      (call (.spawn plan.harness)) (fun pid world => world.Fathers pid launch.launchId)
      (fun _ => True) :=
    conducts_call (robust_pure _) (fun _ _ _ _ => trivial) fun _ _ marked _ => spawn_fathers marked
  exact conducts_bind spawns fun pid => conducts_registerChild ..

/-! ### Inspecting -/

/-- What the table of children says of an id, and the signals that were sent. -/
def AdapterWorld.Recorded (world : AdapterWorld) (pid : Nat) (child : Option ManagedChild)
    (earlier : List SentSignal) : Prop :=
  world.children pid = child ∧ world.signals = earlier

theorem robust_recorded (pid : Nat) (child : Option ManagedChild) (earlier : List SentSignal) :
    Robust fun world => world.Recorded pid child earlier :=
  (robust_child pid (· = child)).and (robust_signals (· = earlier))

/-- The receipt is the one of a child that has not been waited for. -/
def AdapterWorld.Manages (world : AdapterWorld) (receipt : ProcessReceipt) : Prop :=
  ∃ managed, world.children receipt.pid = some managed ∧ managed.status = none ∧
    managed.matches receipt = true

theorem robust_manages : Robust fun world => world.Manages receipt :=
  robust_child receipt.pid fun child => ∃ managed, child = some managed ∧ managed.status = none ∧
    managed.matches receipt = true

theorem tryWait_signals (world : AdapterWorld) (pid : Nat) :
    (world.tryWait pid).2.signals = world.signals := by
  unfold AdapterWorld.tryWait
  split
  · rfl
  · split
    · rfl
    · split
      · split <;> rfl
      · rfl

theorem tryWait_eq_none (kept : world.children pid = some managed)
    (waited : world.tryWait pid = (.ok none, after)) : managed.status = none ∧ after = world := by
  unfold AdapterWorld.tryWait at waited
  rw [kept] at waited
  dsimp only at waited
  split at waited
  · cases waited
  · next unended =>
    split at waited
    · split at waited
      · cases waited
        exact ⟨unended, rfl⟩
      · cases waited
    · cases waited

theorem matches_healthy {receipt observed : ProcessReceipt}
    (ticks : Option Nat) (command : Option String)
    (healthy : { receipt with processStartTicks := ticks, commandPath := command }.observe
      .healthy none = .ok observed) :
    observed.launchId = receipt.launchId ∧
      ManagedChild.matches { managed with receipt := observed } receipt = true := by
  rw [(observe_eq_ok.mp healthy).2]
  refine ⟨rfl, ?_⟩
  simp only [ManagedChild.matches, Bool.and_eq_true, decide_eq_true_eq]
  exact ⟨⟨⟨⟨⟨rfl, rfl⟩, rfl⟩, rfl⟩, rfl⟩, rfl⟩

theorem launchId_of_matches {receipt : ProcessReceipt}
    (agrees : managed.matches receipt = true) : managed.receipt.launchId = receipt.launchId := by
  simp only [ManagedChild.matches, Bool.and_eq_true, decide_eq_true_eq] at agrees
  exact agrees.1.1.1.1.1

/-- A child that becomes healthy stays a child of the receipt. -/
theorem conducts_becomeHealthy {receipt : ProcessReceipt}
    (earlier : List SentSignal) (agrees : managed.matches receipt = true)
    (unended : managed.status = none) :
    Conducts adapter goesOn idle admits
      (fun world => world.Recorded receipt.pid (some managed) earlier)
      (becomeHealthy managed receipt)
      (fun _ world => world.signals = earlier ∧ world.Manages receipt)
      (fun world => world.signals = earlier) := by
  have robust := robust_recorded receipt.pid (some managed) earlier
  refine conducts_bind (conducts_quietly robust (fun _ holds => holds.2) (uses_always rfl))
    fun ticks => ?_
  refine conducts_bind (conducts_quietly robust (fun _ holds => holds.2) (uses_always rfl))
    fun command => ?_
  refine conducts_checking (fun _ holds => holds.2) fun observed healthy => ?_
  obtain ⟨sameLaunch, same⟩ := matches_healthy ticks command healthy
  refine conducts_do (fun _ world => world.signals = earlier ∧ world.Manages receipt) robust ?_ ?_
    fun _ => conducts_pure fun _ => id
  · rintro world orderly ⟨listed, -⟩ -
    have fathers := orderly.children receipt.pid managed listed unended
    rw [launchId_of_matches agrees] at fathers
    exact sameLaunch ▸ fathers
  · rintro world ⟨-, sent⟩
    exact ⟨sent, { managed with receipt := observed },
      (AdapterWorld.setChild_children ..).trans (if_pos rfl), unended, same⟩

/-- A child that has ended is removed with a terminal receipt. -/
theorem conducts_observeExit (status : ExitStatus) (earlier : List SentSignal) :
    Conducts adapter goesOn idle admits (fun world => world.signals = earlier)
      (observeExit receipt status)
      (fun observed world => world.signals = earlier ∧ observed.observedState.isTerminal = true)
      (fun world => world.signals = earlier) := by
  have robust : Robust fun world => world.signals = earlier := robust_signals (· = earlier)
  refine conducts_checking (fun _ => id) fun observed recorded => ?_
  have exited : observed.observedState.isTerminal = true := by
    unfold ProcessReceipt.observe at recorded
    rw [bind_unit_eq_ok, bind_unit_eq_ok] at recorded
    cases recorded.2.2
    rfl
  have waits : Conducts adapter goesOn idle admits (fun world => world.signals = earlier)
      (observeWait observed status)
      (fun ended world => world.signals = earlier ∧ ended.observedState.isTerminal = true)
      (fun world => world.signals = earlier) :=
    conducts_bind (conducts_quiet robust (uses_always rfl))
      fun _ => conducts_pure fun _ holds => ⟨holds, exited⟩
  refine conducts_bind waits fun ended => ?_
  exact conducts_do (fun _ world => world.signals = earlier ∧ ended.observedState.isTerminal = true)
    (robust.and (robust_pure _)) (fun _ _ _ => trivial) (fun _ => id)
    fun _ => conducts_pure fun _ => id

/-- A child that has not ended stays a child of the receipt. -/
theorem conducts_inspectRunning {receipt : ProcessReceipt}
    (earlier : List SentSignal) (agrees : managed.matches receipt = true)
    (unended : managed.status = none) :
    Conducts adapter goesOn idle admits
      (fun world => world.Recorded receipt.pid (some managed) earlier)
      (if receipt.observedState = .starting then do
        if ← healthReady receipt then becomeHealthy managed receipt else return receipt
      else return receipt)
      (fun _ world => world.signals = earlier ∧ world.Manages receipt)
      (fun world => world.signals = earlier) := by
  have returns : Conducts adapter goesOn idle admits
      (fun world => world.Recorded receipt.pid (some managed) earlier) (pure receipt)
      (fun _ world => world.signals = earlier ∧ world.Manages receipt)
      (fun world => world.signals = earlier) :=
    conducts_pure fun _ holds => ⟨holds.2, managed, holds.1, unended, agrees⟩
  split
  case isFalse => exact returns
  case isTrue =>
  refine conducts_bind (conducts_quietly (robust_recorded ..) (fun _ holds => holds.2)
    (uses_healthReady receipt)) fun ready => ?_
  cases ready with
  | false => exact returns
  | true => exact conducts_becomeHealthy earlier agrees unended

/-- The receipt of a child is found alive only if the child has not been waited for. -/
theorem conducts_inspectManaged (managed : ManagedChild) (receipt : ProcessReceipt)
    (earlier : List SentSignal) :
    Conducts adapter goesOn idle admits
      (fun world => world.Recorded receipt.pid (some managed) earlier)
      (inspectManaged managed receipt)
      (fun observed world => world.signals = earlier ∧
        (observed.observedState.isTerminal = false → world.Manages receipt))
      (fun world => world.signals = earlier) := by
  unfold inspectManaged
  split
  case isFalse => exact conducts_throw fun _ holds => holds.2
  case isTrue agrees =>
  have waits : Conducts adapter goesOn idle admits
      (fun world => world.Recorded receipt.pid (some managed) earlier)
      (call (.tryWait receipt.pid))
      (fun waited world => world.signals = earlier ∧
        (waited = none → world.children receipt.pid = some managed ∧ managed.status = none))
      (fun world => world.signals = earlier) := by
    refine conducts_call (robust_recorded ..) (fun _ _ _ _ => trivial) ?_
    rintro world - ⟨listed, sent⟩ -
    have unsent := (tryWait_signals world receipt.pid).trans sent
    show Discipline.onOutcome _ _ (world.tryWait receipt.pid).1 (world.tryWait receipt.pid).2
    rcases outcome : world.tryWait receipt.pid with ⟨waited, after⟩
    rw [outcome] at unsent
    cases waited with
    | error error => exact unsent
    | ok waited =>
      refine ⟨unsent, ?_⟩
      rintro rfl
      obtain ⟨unended, rfl⟩ := tryWait_eq_none listed outcome
      exact ⟨listed, unended⟩
  refine conducts_bind waits fun waited => ?_
  cases waited with
  | some status =>
    refine (conducts_observeExit receipt status earlier).weaken (fun _ holds => holds.1) ?_
      fun _ => id
    rintro observed world ⟨sent, terminal⟩
    refine ⟨sent, fun live => ?_⟩
    rw [terminal] at live
    cases live
  | none =>
    refine Conducts.assume (fun _ holds => (holds.2 rfl).2) fun unended => ?_
    exact (conducts_inspectRunning earlier agrees unended).weaken
      (fun _ holds => ⟨(holds.2 rfl).1, holds.1⟩) (fun _ _ holds => ⟨holds.1, fun _ => holds.2⟩)
      fun _ => id

/-- Whether an action is quiet or looks at the marker of a process. -/
def HostAction.isLook {Response : Type} : HostAction Response → Bool
  | .processHasLaunchMarker .. => true
  | action => action.isQuiet

theorem uses_look {program : Program HostAction Result}
    (quiet : Program.Uses (fun _ action => HostAction.isQuiet action = true) program) :
    Program.Uses (fun _ action => HostAction.isLook action = true) program := by
  refine quiet.mono fun _ action looks => ?_
  cases action <;> first | exact looks | rfl

/-- Looking at processes and at the clock leaves the table and the signals alone. -/
theorem conducts_look (pid : Nat) (child : Option ManagedChild) (earlier : List SentSignal)
    (looks : Program.Uses (fun _ action => HostAction.isLook action = true) program.run) :
    Conducts adapter goesOn idle admits (fun world => world.Recorded pid child earlier) program
      (fun _ world => world.Recorded pid child earlier)
      (fun world => world.Recorded pid child earlier) := by
  refine Discipline.Triple.fallibleFrame (robust_recorded ..).stable ?_ fun _ _ => id
  refine looks.mono fun _ action look world orderly holds _ => ?_
  have duty : supervisionDuty () action world := by
    cases action with
    | setChild | wait | signalGroup => cases look
    | _ => trivial
  refine ⟨duty, keeps_of_orderly orderly duty, ?_⟩
  cases action with
  | spawn | setChild | removeChild | tryWait | wait | signalGroup => cases look
  | _ => exact holds

theorem uses_receiptOwned :
    Program.Uses (fun _ action => HostAction.isLook action = true) (receiptOwned receipt).run := by
  unfold receiptOwned
  split
  · refine uses_alwaysBind rfl fun ticks => ?_
    split
    · refine uses_alwaysBind rfl fun command => ?_
      split
      · exact uses_always rfl
      · exact .done _
    · exact .done _
  · exact .done _

theorem uses_inspectUnmanaged : Program.Uses (fun _ action => HostAction.isLook action = true)
      (inspectUnmanaged receipt).run := by
  refine uses_bind (uses_bind (uses_receiptOwned receipt) fun owned => ?_) fun present => ?_
  · split
    · exact uses_attempt rfl
    · exact .done _
  · split
    · split
      · refine uses_bind (uses_look (uses_healthReady receipt)) fun ready => ?_
        split
        · exact uses_look (uses_checked _)
        · exact .done _
      · exact .done _
    · split
      · exact .done _
      · exact uses_look (uses_checked _)

/-- What inspection leaves of the entry a receipt's id has in the table. -/
def AdapterWorld.Settled (world : AdapterWorld) (receipt : ProcessReceipt) :
    Option ManagedChild → Prop
  | none => world.children receipt.pid = none
  | some _ => world.Manages receipt

theorem conducts_inspect (child : Option ManagedChild) (earlier : List SentSignal) :
    Conducts adapter goesOn idle admits (fun world => world.Recorded receipt.pid child earlier)
      (inspect receipt)
      (fun observed world => world.signals = earlier ∧
        (observed.observedState.isTerminal = false → world.Settled receipt child))
      (fun world => world.signals = earlier) := by
  refine conducts_bind (conducts_quietly (robust_recorded ..) (fun _ holds => holds.2)
    (uses_checked _)) fun _ => ?_
  refine conducts_do (fun found world => world.Recorded receipt.pid child earlier ∧ found = child)
    (robust_recorded ..) (fun _ _ _ => trivial) (fun _ holds => ⟨holds, holds.1⟩) fun found => ?_
  refine Conducts.assume (fun _ holds => holds.2) fun same => ?_
  subst same
  cases found with
  | some managed =>
    exact (conducts_inspectManaged managed receipt earlier).weaken (fun _ holds => holds.1)
      (fun _ _ => id) fun _ => id
  | none =>
    exact (conducts_look receipt.pid none earlier (uses_inspectUnmanaged receipt)).weaken
      (fun _ holds => holds.1) (fun _ _ holds => ⟨holds.2, fun _ => holds.1⟩) fun _ holds => holds.2

/-! ### Ownership -/

/-- No child has the receipt's id, and if the id was given to no process since the marker of its
process was looked at, then who has it belongs to the receipt's launch. -/
def AdapterWorld.Adopts (world : AdapterWorld) (receipt : ProcessReceipt) : Prop :=
  world.children receipt.pid = none ∧ ∃ count, world.looked = some (receipt.pid, count) ∧
    count ≤ world.host.births receipt.pid ∧
    (world.host.births receipt.pid = count →
      (∀ process, world.host.processes receipt.pid = some process →
        process.launch = some receipt.launchId) ∧
      world.Reaches receipt.launchId receipt.pid)

theorem robust_adopts : Robust fun world => world.Adopts receipt where
  same before after same := by
    rintro ⟨unlisted, count, looked, before_births, owned⟩
    unfold AdapterWorld.Adopts AdapterWorld.Reaches
    rw [same.children, same.looked, same.host]
    exact ⟨unlisted, count, looked, before_births, owned⟩
  event world after event := by
    rintro ⟨unlisted, count, looked, earlier, owned⟩
    have changes := event.changesAt receipt.pid
    refine ⟨unlisted, count, looked, earlier.trans changes.births, fun unborn => ?_⟩
    have unchanged : world.host.births receipt.pid = count :=
      le_antisymm (changes.births.trans unborn.le) earlier
    obtain ⟨holder, group⟩ := owned unchanged
    refine ⟨fun later found => ?_, fun later held => ?_⟩
    · rcases changes.holder later found with ⟨former, held, continues⟩ | ⟨born, -⟩
      · rw [continues.launch, holder former held]
      · exact absurd born (by rw [unchanged]; exact unborn.not_gt)
    · rcases changes.group later held with former | ⟨process, found, -, same⟩
      · exact group later former
      · rw [same, holder process found]

/-- A process that shows the marker belongs to the launch, and so does its group. -/
theorem adopts_of_marker {receipt : ProcessReceipt}
    (orderly : world.Orderly) (unlisted : world.children receipt.pid = none)
    (marked : world.processHasLaunchMarker receipt.pid receipt.launchId = true) :
    { world with looked := some (receipt.pid, world.host.births receipt.pid) }.Adopts receipt := by
  obtain ⟨process, found, -, shows⟩ := running_of_marker marked
  have launch := process.launch_of_marker shows
  refine ⟨unlisted, _, rfl, le_rfl, fun _ => ⟨fun other held => ?_, fun group held => ?_⟩⟩
  · have same : some process = some other := found.symm.trans held
    rw [← Option.some.inj same, launch]
  · rw [orderly.host receipt.pid process group found held, launch]

theorem conducts_receiptOwned :
    Conducts adapter goesOn idle admits (fun world => world.children receipt.pid = none)
      (receiptOwned receipt)
      (fun owned world => world.children receipt.pid = none ∧ (owned = true → world.Adopts receipt)
        ) (fun _ => True) := by
  have robust : Robust fun world : AdapterWorld => world.children receipt.pid = none :=
    robust_child _ (· = none)
  have disowns : Conducts adapter goesOn idle admits
      (fun world => world.children receipt.pid = none) (pure false)
      (fun owned world => world.children receipt.pid = none ∧
        (owned = true → world.Adopts receipt)) (fun _ => True) :=
    conducts_pure fun _ unlisted => ⟨unlisted, fun owned => by cases owned⟩
  unfold receiptOwned
  split
  case isFalse => exact disowns
  refine conducts_bind (conducts_quietly robust (fun _ _ => trivial) (uses_always rfl))
    fun ticks => ?_
  split
  case isFalse => exact disowns
  refine conducts_bind (conducts_quietly robust (fun _ _ => trivial) (uses_always rfl))
    fun command => ?_
  split
  case isFalse => exact disowns
  exact conducts_always robust (fun _ _ _ _ => trivial) fun world orderly unlisted _ =>
    ⟨unlisted, adopts_of_marker orderly unlisted⟩

variable (receipt observed : ProcessReceipt) (property : List SentSignal → Prop)

theorem conducts_concludeStop :
    Conducts adapter goesOn idle admits (fun world => property world.signals)
      (concludeStop receipt observed) (fun _ world => property world.signals)
      (fun world => property world.signals) := by
  refine conducts_do (fun _ world => world.children receipt.pid = none ∧ property world.signals)
    (robust_signals property) (fun _ _ _ => trivial)
    (fun _ holds => ⟨(AdapterWorld.setChild_children ..).trans (if_pos rfl), holds⟩)
    fun removed => ?_
  cases removed with
  | none => exact conducts_checked (fun _ _ _ holds => holds.2) fun _ holds => holds.2
  | some managed =>
    have waits : Conducts adapter goesOn idle admits
        (fun world => world.children receipt.pid = none ∧ property world.signals)
        (call (.wait receipt.pid managed)) (fun _ world => property world.signals)
        (fun world => property world.signals) := by
      refine conducts_call ((robust_child _ (· = none)).and (robust_signals property))
        (fun _ _ holds _ => holds.1) ?_
      rintro world - ⟨-, holds⟩ -
      show Discipline.onOutcome _ _ (world.wait receipt.pid managed).1
        (world.wait receipt.pid managed).2
      unfold AdapterWorld.wait
      split
      · exact holds
      · split <;> exact holds
    refine conducts_bind waits fun status => ?_
    refine conducts_bind (conducts_quiet (robust_signals property) (uses_checked _)) fun ended => ?_
    exact conducts_quiet (robust_signals property) (uses_observeWait ended status)

/-! ### Stopping a process -/

/-- The signal is for a child, or no process was given the id since the marker of its process was
looked at. -/
def pidsUnreused : Condition Unit HostAction AdapterWorld
  | _, _, .signalGroup _ pid _, world =>
      (world.children pid).isSome = true ∨ world.looked = some (pid, world.host.births pid)
  | _, _, _, _ => True

/-- A receipt whose process the supervisor may signal. -/
def AdapterWorld.MaySignal (world : AdapterWorld) (receipt : ProcessReceipt) : Prop :=
  world.Manages receipt ∨ world.Adopts receipt

theorem robust_maySignal : Robust fun world => world.MaySignal receipt where
  same before after same := Or.imp ((robust_manages receipt).same before after same)
      ((robust_adopts receipt).same before after same)
  event world after event := Or.imp ((robust_manages receipt).event world after event)
      ((robust_adopts receipt).event world after event)

theorem Manages.reaches {receipt : ProcessReceipt}
    (orderly : world.Orderly) (manages : world.Manages receipt) :
    world.Reaches receipt.launchId receipt.pid := by
  obtain ⟨managed, listed, unended, agrees⟩ := manages
  obtain ⟨process, found, -, launch⟩ := orderly.children receipt.pid managed listed unended
  intro group held
  rw [orderly.host receipt.pid process group found held, launch, launchId_of_matches agrees]

theorem MaySignal.reaches {receipt : ProcessReceipt}
    (orderly : world.Orderly) (owned : world.MaySignal receipt)
    (unreused : (world.children receipt.pid).isSome = true ∨
      world.looked = some (receipt.pid, world.host.births receipt.pid)) :
    world.Reaches receipt.launchId receipt.pid := by
  rcases owned with manages | ⟨unlisted, count, looked, -, adopted⟩
  · exact Manages.reaches orderly manages
  · rcases unreused with listed | current
    · rw [unlisted] at listed
      cases listed
    · rw [looked, Option.some.injEq, Prod.mk.injEq] at current
      exact (adopted current.2.symm).2

theorem MaySignal.of_same {receipt : ProcessReceipt}
    (owned : before.MaySignal receipt) (host : after.host = before.host)
    (children : after.children = before.children) (looked : after.looked = before.looked) :
    after.MaySignal receipt := by
  unfold AdapterWorld.MaySignal AdapterWorld.Manages AdapterWorld.Adopts AdapterWorld.Reaches
  rw [host, children, looked]
  exact owned

/-- One signal for a receipt. -/
theorem conducts_signal (signal : Signal) :
    Conducts adapter goesOn idle pidsUnreused (fun world => world.MaySignal receipt)
      (call (.signalGroup receipt.launchId receipt.pid signal))
      (fun _ world => world.MaySignal receipt) (fun _ => True) := by
  refine conducts_call (robust_maySignal receipt)
    (fun world orderly owned unreused => MaySignal.reaches orderly owned unreused) ?_
  intro world _ owned _
  obtain ⟨host, children, looked, -⟩ := signalGroup_same world receipt.launchId receipt.pid signal
  have kept := MaySignal.of_same owned host children looked
  show Discipline.onOutcome _ _ (world.signalGroup receipt.launchId receipt.pid signal).1
    (world.signalGroup receipt.launchId receipt.pid signal).2
  cases (world.signalGroup receipt.launchId receipt.pid signal).1 with
  | ok _ => exact kept
  | error _ => trivial

theorem uses_awaitExit (pid deadline rounds : Nat) : Quiet (awaitExit pid deadline rounds) := by
  induction rounds with
  | zero => exact .done _
  | succ rounds inductionHypothesis =>
    refine uses_attemptBind rfl fun present => ?_
    split
    · refine uses_alwaysBind rfl fun now => ?_
      split
      · exact uses_alwaysBind rfl fun _ => inductionHypothesis
      · exact .done _
    · exact .done _

theorem conducts_terminate :
    Conducts adapter goesOn idle pidsUnreused (fun world => world.MaySignal receipt)
      (terminate adapter receipt observed) (fun _ _ => True) (fun _ => True) := by
  have looks {Result : Type} {program : Supervision Result} (quiet : Quiet program) :
      Conducts adapter goesOn idle pidsUnreused (fun world => world.MaySignal receipt) program
        (fun _ world => world.MaySignal receipt) (fun _ => True) :=
    conducts_quietly (robust_maySignal receipt) (fun _ _ => trivial) quiet
  refine conducts_bind (looks (uses_checked _)) fun stopping => ?_
  refine conducts_bind (conducts_signal receipt .term) fun _ => ?_
  refine conducts_bind (looks (uses_always rfl)) fun now => ?_
  refine conducts_bind (looks (uses_awaitExit ..)) fun _ => ?_
  have kills : Conducts adapter goesOn idle pidsUnreused (fun world => world.MaySignal receipt)
      (killRemaining receipt) (fun _ _ => True) (fun _ => True) := by
    refine conducts_bind (looks (uses_attempt rfl)) fun present => ?_
    split
    · exact (conducts_signal receipt .kill).weaken (fun _ => id) (fun _ _ _ => trivial)
        fun _ _ => trivial
    · exact conducts_pure fun _ _ => trivial
  refine conducts_bind kills fun _ => ?_
  exact conducts_concludeStop receipt stopping fun _ => True

theorem conducts_managedReceipt (robust : Robust assertion) (answer : Bool)
    (answers : ∀ world, assertion world →
      (world.children receipt.pid).any (·.matches receipt) = answer) :
    Conducts adapter goesOn idle admits assertion (managedReceipt receipt)
      (fun managed world => assertion world ∧ managed = answer) failure :=
  conducts_do (fun child world => assertion world ∧ child.any (·.matches receipt) = answer) robust
    (fun _ _ _ => trivial) (fun world holds => ⟨holds, answers world holds⟩)
    fun _ => conducts_pure fun _ => id

/-- The receipt of a child is owned. -/
theorem conducts_ownsReceipt_managed : Conducts adapter goesOn idle admits
      (fun world => world.Manages receipt ∧ property world.signals) (ownsReceipt receipt)
      (fun owned world => (world.Manages receipt ∧ property world.signals) ∧ owned = true)
      failure := by
  refine conducts_bind (conducts_managedReceipt receipt
    ((robust_manages receipt).and (robust_signals property)) true ?_) fun managed => ?_
  · rintro world ⟨⟨managed, listed, -, agrees⟩, -⟩
    rw [listed]
    exact agrees
  · refine Conducts.assume (fun _ holds => holds.2) fun yes => ?_
    subst yes
    exact conducts_pure fun _ holds => ⟨holds.1, rfl⟩

/-- A receipt is owned as the receipt of a child, or because its process shows its marks. -/
theorem conducts_ownsReceipt (child : Option ManagedChild) :
    Conducts adapter goesOn idle admits (fun world => world.Settled receipt child)
      (ownsReceipt receipt) (fun owned world => owned = true → world.MaySignal receipt)
      (fun _ => True) := by
  cases child with
  | some managed =>
    exact (conducts_ownsReceipt_managed receipt fun _ => True).weaken
      (fun _ manages => ⟨manages, trivial⟩) (fun _ _ holds _ => .inl holds.1.1) fun _ => id
  | none =>
    refine conducts_bind (conducts_managedReceipt receipt (robust_child _ (· = none)) false
      fun world unlisted => by rw [unlisted]; rfl) fun managed => ?_
    refine Conducts.assume (fun _ holds => holds.2) fun no => ?_
    subst no
    exact (conducts_receiptOwned receipt).weaken (fun _ holds => holds.1)
      (fun _ _ holds owned => .inr (holds.2 owned)) fun _ => id

theorem conducts_stopFrom (child : Option ManagedChild) (earlier : List SentSignal) :
    Conducts adapter goesOn idle pidsUnreused
      (fun world => world.Recorded receipt.pid child earlier) (stop adapter receipt)
      (fun _ _ => True) (fun _ => True) := by
  refine conducts_bind ((conducts_inspect receipt child earlier).weaken (fun _ => id)
    (fun _ _ holds => holds.2) fun _ _ => trivial) fun observed => ?_
  split
  case isTrue => exact conducts_pure fun _ _ => trivial
  case isFalse live =>
  refine conducts_bind ((conducts_ownsReceipt receipt child).weaken
    (fun _ holds => holds (eq_false_of_ne_true live)) (fun _ _ => id)
    fun _ => id) fun owned => ?_
  split
  case isTrue yes =>
    exact (conducts_terminate receipt observed).weaken (fun _ holds => holds yes)
      (fun _ _ _ => trivial) fun _ _ => trivial
  case isFalse => exact conducts_throw fun _ _ => trivial

theorem conducts_stop :
    Conducts adapter goesOn idle pidsUnreused (fun _ => True) (stop adapter receipt)
      (fun _ _ => True) (fun _ => True) :=
  (Conducts.any fun former : Option ManagedChild × List SentSignal =>
    conducts_stopFrom receipt former.1 former.2).weaken
    (fun world _ => ⟨(world.children receipt.pid, world.signals), rfl, rfl⟩)
    (fun _ _ _ => trivial) fun _ _ => trivial

/-! ### Whole runs -/

/-- A call of a program that keeps the discipline. -/
theorem Conducts.call {finished : AdapterWorld → Prop}
    (triple : Conducts adapter goesOn idle admits pre program (fun _ => finished) finished) :
    (supervising idle).Triple (supervision adapter goesOn) admits () pre
      (program.run.bind fun _ => .done ()) fun _ => finished := by
  refine Discipline.Triple.bind triple fun outcome => Discipline.Triple.done fun world _ holds => ?_
  cases outcome <;> exact holds

theorem conducts_inspectCall :
    Conducts adapter goesOn idle admits (fun _ => True) (inspect receipt) (fun _ _ => True)
      (fun _ => True) :=
  Conducts.weaken (Conducts.any fun former : Option ManagedChild × List SentSignal =>
    (conducts_inspect receipt former.1 former.2).weaken (fun _ => id)
      (fun _ _ _ => trivial) fun _ _ => trivial)
    (fun world _ => ⟨(world.children receipt.pid, world.signals), rfl, rfl⟩)
    (fun _ _ _ => trivial) fun _ _ => trivial

theorem SupervisorCall.conducts (supervised : SupervisorCall) :
    (supervising idle).Triple (supervision adapter goesOn) pidsUnreused () (fun _ => True)
      (supervised.program adapter) fun _ _ => True := by
  cases supervised with
  | setAgentIdentity agent account =>
    have finish : ∀ response : Unit, (supervising idle).Triple (supervision adapter goesOn)
        pidsUnreused () (fun _ => True) (.done response) fun _ _ => True :=
      fun _ => Discipline.Triple.done fun _ _ => id
    exact Discipline.Triple.step (robust_pure True).stable
      (fun world orderly _ _ => ⟨trivial, keeps_of_orderly orderly trivial, trivial⟩) finish
  | start launch resolver => exact (conducts_start launch resolver).call
  | inspect receipt => exact (conducts_inspectCall receipt).call
  | stop receipt => exact (conducts_stop receipt).call

theorem Orderly.restarted (orderly : world.Orderly) : world.restarted.Orderly := by
  refine ⟨?_, fun pid managed listed => by cases listed⟩
  intro pid process group found held
  obtain ⟨former, held_before, rfl⟩ := Option.map_eq_some_iff.mp found
  exact orderly.host pid former group held_before held

theorem supervising_lawful (adapter : AdapterConfig) (goesOn : Prop) :
    (supervising fun _ => True).Lawful (supervision adapter goesOn) pidsUnreused where
  rely_refl _ _ := Relation.ReflTransGen.refl
  rely_trans _ _ _ _ := Relation.ReflTransGen.trans
  idle_stable _ := (robust_pure True).stable
  start := by
    rintro _ _ _ world ⟨-, rfl, supervised, rfl⟩ orderly -
    exact ⟨orderly, fun _ different => absurd rfl different,
      supervised.conducts.meets world orderly trivial⟩
  environment world after evolves orderly :=
    ⟨robust_orderly.evolves evolves orderly, fun _ => .single evolves⟩
  restart := by
    rintro world _ _ ⟨-, rfl, rfl⟩ orderly
    exact ⟨Orderly.restarted orderly, fun _ => trivial⟩

end

/-- Every signal that was sent for a launch and that reached a group reached one of the launch. -/
def AdapterWorld.SignalsOwn (world : AdapterWorld) : Prop :=
  ∀ sent ∈ world.signals, ∀ group, sent.group = some group → group.launch = some sent.launch

theorem perform_signalsOwn {Response : Type} (action : HostAction Response)
    (duty : supervisionDuty () action world) (own : world.SignalsOwn) :
    (HostAction.perform action world).2.SignalsOwn := by
  cases action with
  | signalGroup launchId pid signal =>
    show (world.signalGroup launchId pid signal).2.SignalsOwn
    unfold AdapterWorld.signalGroup
    split
    · intro sent listed group reached
      rcases List.mem_append.mp listed with earlier | latest
      · exact own sent earlier group reached
      · rw [List.mem_singleton.mp latest] at reached ⊢
        exact duty group reached
    · exact own
  | spawn command =>
    show (world.spawn command).2.SignalsOwn
    unfold AdapterWorld.spawn
    split
    · exact own
    · split <;> exact own
  | tryWait pid =>
    show (world.tryWait pid).2.SignalsOwn
    unfold AdapterWorld.SignalsOwn
    rw [tryWait_signals]
    exact own
  | wait pid managed =>
    show (world.wait pid managed).2.SignalsOwn
    unfold AdapterWorld.wait
    split
    · exact own
    · split <;> exact own
  | _ => exact own

/-- In a run in which, whenever a signal is sent, its id is the one of a child or was given to no
process since the marker of its process was looked at, every signal is sent to a group of the
receipt's own launch. -/
theorem signals_own_launch (adapter : AdapterConfig) (world : AdapterWorld)
    (last : Pool Unit HostAction AdapterWorld) (orderly : world.Orderly)
    (own : world.SignalsOwn)
    (reaches : (supervision adapter True).Reaches pidsUnreused ⟨world, fun _ => .done ()⟩ last) :
    last.world.SignalsOwn := by
  refine (supervising_lawful adapter True).invariant (fun _ _ _ _ => id) reaches
    ⟨orderly, fun _ => trivial⟩ own ?_ ?_ ?_ ?_
  · intro _ _ action _ _ duty _ holds
    exact perform_signalsOwn action duty holds
  · rintro _ _ _ _ ⟨-, rfl, -⟩ - - holds
    exact holds
  · intro _ _ evolves _ holds
    exact (robust_signals fun signals => ∀ sent ∈ signals, ∀ group, sent.group = some group →
      group.launch = some sent.launch).evolves evolves holds
  · rintro _ _ _ ⟨-, rfl, -⟩ - holds
    exact holds

/-! ### Runs in which a process is stopped -/

/-- A check of the condition on signals. -/
def unreusedCheck : Check Unit HostAction AdapterWorld
  | _, _, .signalGroup _ pid _, world =>
      (world.children pid).isSome || decide (world.looked = some (pid, world.host.births pid))
  | _, _, _, _ => true

theorem unreusedCheck_sound (thread : Unit) {Response : Type} (action : HostAction Response)
    (world : AdapterWorld) (passes : unreusedCheck thread action world = true) :
    pidsUnreused thread action world := by
  cases action with
  | signalGroup launchId pid signal =>
    exact (Bool.or_eq_true_iff.mp passes).imp id of_decide_eq_true
  | _ => trivial

/-- A supervisor that gives processes two polling intervals to end. -/
def quickAdapter : AdapterConfig := { sampleAdapter with stopTimeoutMs := 40 }

def sampleBegin : Pool Unit HostAction AdapterWorld :=
  ⟨sampleWorld "/opt/buzz/bin/buzz-acp#BUZZ_SERVER_LAUNCH_ID=agent-1", fun _ => .done ()⟩

/-- The receipt of a start of the first agent. -/
def sampleReceipt : ProcessReceipt :=
  startReceipt (sampleLaunch 1) none "1000-0" 4711 1000 (some 100) .configured

/-- The supervisor begins a call and gets through some of its actions. -/
def proceed (supervised : SupervisorCall) (count : Nat)
    (pool : Pool Unit HostAction AdapterWorld) : Pool Unit HostAction AdapterWorld :=
  (supervision quickAdapter True).acts () count
    (System.launch () (supervised.program quickAdapter) pool)

theorem reaches_launch_call
    (supervised : SupervisorCall) (pool : Pool Unit HostAction AdapterWorld) :
    (supervision quickAdapter True).Reaches admits pool
      (System.launch () (supervised.program quickAdapter) pool) :=
  System.reaches_launch ⟨trivial, rfl, supervised, rfl⟩

/-- The pool in which the first agent has been started. -/
def sampleStarted : Pool Unit HostAction AdapterWorld :=
  proceed (.start (sampleLaunch 1) fun _ => .error .io) 10 sampleBegin

theorem sampleBegin_orderly : sampleBegin.world.Orderly :=
  ⟨fun _ _ _ found => (nomatch found), fun _ _ listed => (nomatch listed)⟩

theorem reaches_sampleStarted :
    (supervision quickAdapter True).Reaches pidsUnreused sampleBegin sampleStarted :=
  (reaches_launch_call _ _).trans (System.reaches_acts unreusedCheck_sound (by decide +kernel))

theorem signals_own_launch_child :
    (proceed (.stop sampleReceipt) 20 sampleStarted).world.signals.length = 2 ∧
      (proceed (.stop sampleReceipt) 20 sampleStarted).world.SignalsOwn := by
  refine ⟨by decide +kernel, ?_⟩
  refine signals_own_launch quickAdapter sampleBegin.world _ sampleBegin_orderly
    (fun _ listed => nomatch listed) (reaches_sampleStarted.trans ?_)
  exact (reaches_launch_call _ _).trans
    (System.reaches_acts unreusedCheck_sound (by decide +kernel))

/-- The host with an id given to a new process that leads its own group. -/
def Host.reuse (host : Host) (pid : Nat) (newcomer : HostProcess) : Host :=
  (((host.setProcess pid none).setGroup pid none).create pid newcomer).setGroup pid
    (some ⟨newcomer.launch⟩)

/-- A process that is nobody's child here may end, and its id may be given to another one. -/
theorem evolves_reuse (present : (world.host.processes pid).any
      (fun process => process.exit.isNone && !process.ours) = true)
    (newcomer : HostProcess) (foreign : newcomer.ours = false) :
    Relation.ReflTransGen AdapterWorld.Evolves world
      { world with host := world.host.reuse pid newcomer } := by
  obtain ⟨process, found, state⟩ := (Option.any_eq_true _ _).mp present
  obtain ⟨runs, orphaned⟩ := Bool.and_eq_true_iff.mp state
  have ended : world.host.Event (world.host.setProcess pid (some (process.exitWith (.exited 0)))) :=
    .exits found (Option.isNone_iff_eq_none.mp runs) _
  have gone : (world.host.setProcess pid (some (process.exitWith (.exited 0)))).Event
      (world.host.setProcess pid none) := by
    have left : (world.host.setProcess pid (some (process.exitWith (.exited 0)))).processes pid =
        some (process.exitWith (.exited 0)) :=
      (Host.setProcess_processes ..).trans (if_pos rfl)
    rw [Bool.not_eq_true'] at orphaned
    have vanished := Host.Event.vanishes left (Option.some_ne_none _) orphaned
    rwa [Host.setProcess_setProcess] at vanished
  have free : ((world.host.setProcess pid none).setGroup pid none).isFree pid = true :=
    Host.isFree_eq_true.mpr ⟨(Host.setProcess_processes ..).trans (if_pos rfl),
      (Host.setGroup_groups ..).trans (if_pos rfl)⟩
  have step {before after : Host} (event : before.Event after) :
      AdapterWorld.Evolves { world with host := before } { world with host := after } :=
    .host event
  refine (((((Relation.ReflTransGen.single (step ended)).tail (step gone)).tail
    (step (.disbands pid))).tail (step (.appears free foreign))).tail (step ?_))
  refine .founds ((Host.create_processes ..).trans (if_pos rfl)) ?_
  exact (Host.setGroup_groups ..).trans (if_pos rfl)

theorem reaches_evolves {system : System Unit HostAction AdapterWorld}
    (evolves : system.environment = AdapterWorld.Evolves)
    (changes : Relation.ReflTransGen AdapterWorld.Evolves world after)
    (threads : Unit → Program HostAction Unit) :
    system.Reaches admits ⟨world, threads⟩ ⟨after, threads⟩ := by
  induction changes with
  | refl => exact .refl _
  | tail _ step inductionHypothesis =>
    exact inductionHypothesis.tail (.environment (evolves ▸ step))

/-- A later supervisor has sent its first signal to the process. -/
def adoptedSignalled : Pool Unit HostAction AdapterWorld :=
  proceed (.stop sampleReceipt) 11 ⟨sampleStarted.world.restarted, fun _ => .done ()⟩

/-- The process has ended and a stranger was given its id. -/
def adoptedReused : Pool Unit HostAction AdapterWorld :=
  ⟨{ adoptedSignalled.world with host := adoptedSignalled.world.host.reuse 4711 stranger },
    adoptedSignalled.threads⟩

/-- A process an earlier supervisor started ends when it is stopped, and its id is given to a
stranger while the supervisor waits. The second signal goes to the stranger's group. -/
theorem reused_pid_signalled :
    ∃ last, (supervision quickAdapter True).Reaches (unrestricted Unit HostAction AdapterWorld)
      sampleBegin last ∧ ¬last.world.SignalsOwn := by
  have restarts : (supervision quickAdapter True).Reaches
      (unrestricted Unit HostAction AdapterWorld) sampleBegin
      ⟨sampleStarted.world.restarted, fun _ => .done ()⟩ :=
    (reaches_sampleStarted.mono fun _ _ _ _ _ => trivial).tail (.restart ⟨trivial, rfl, rfl⟩)
  have signals : (supervision quickAdapter True).Reaches (unrestricted Unit HostAction AdapterWorld)
      ⟨sampleStarted.world.restarted, fun _ => .done ()⟩ adoptedSignalled :=
    (reaches_launch_call _ _).trans (System.reaches_acts_always ..)
  have reuses : (supervision quickAdapter True).Reaches
      (unrestricted Unit HostAction AdapterWorld) adoptedSignalled adoptedReused :=
    reaches_evolves rfl (evolves_reuse (by decide +kernel) stranger rfl) _
  refine ⟨(supervision quickAdapter True).acts () 12 adoptedReused,
    ((restarts.trans signals).trans reuses).trans (System.reaches_acts_always ..), ?_⟩
  intro own
  have foreign : ((supervision quickAdapter True).acts () 12 adoptedReused).world.signals.any
      (fun sent => decide (sent.signal = .kill) && decide (sent.group = some ⟨none⟩)) = true := by
    decide +kernel
  obtain ⟨sent, listed, reached⟩ := List.any_eq_true.mp foreign
  have launch := own sent listed ⟨none⟩ (of_decide_eq_true (Bool.and_eq_true_iff.mp reached).2)
  cases launch

/-! ### Stopping a child -/

/-- The signals a stop adds: none, one that was not permitted, or two, with the time a child is
given to end between them. -/
def Answered (timeoutMs pid : Nat) (earlier signals : List SentSignal) : Prop :=
  signals = earlier ∨ (∃ term, term.permitted = false ∧ signals = earlier ++ [term]) ∨
    ∃ term kill, kill.signal = .kill ∧ kill.pid = pid ∧ term.sentAt + timeoutMs ≤ kill.sentAt ∧
      signals = earlier ++ [term, kill]

section

variable {idle assertion failure : AdapterWorld → Prop} {receipt : ProcessReceipt}

/-- The id of a child that has not been waited for exists, whether or not the child has ended. -/
theorem Manages.processExists (orderly : world.Orderly) (manages : world.Manages receipt)
    (inRange : validPid receipt.pid = true) :
    world.processExists receipt.pid = .ok true := by
  obtain ⟨managed, listed, unended, -⟩ := manages
  obtain ⟨process, found, -, -⟩ := orderly.children receipt.pid managed listed unended
  rw [AdapterWorld.processExists, if_pos inRange, found]
  rfl

theorem conducts_processExists (robust : Robust assertion)
    (manages : ∀ world, assertion world → world.Manages receipt)
    (inRange : validPid receipt.pid = true) :
    Conducts adapter goesOn idle admits assertion (call (.processExists receipt.pid))
      (fun present world => assertion world ∧ present = true) failure := by
  refine conducts_call robust (fun _ _ _ _ => trivial) fun world orderly holds _ => ?_
  show Discipline.onOutcome _ _ (world.processExists receipt.pid) world
  rw [Manages.processExists orderly (manages world holds) inRange]
  exact ⟨holds, rfl⟩

/-- The loop ends when the deadline has passed. It does not see the end of a child. -/
theorem conducts_awaitExit (robust : Robust assertion)
    (manages : ∀ world, assertion world → world.Manages receipt)
    (inRange : validPid receipt.pid = true) (deadline rounds : Nat) :
    Conducts adapter goesOn idle admits
      (fun world => assertion world ∧ deadline ≤ world.instantMs + pollIntervalMs * rounds)
      (awaitExit receipt.pid deadline rounds)
      (fun _ world => assertion world ∧ deadline ≤ world.instantMs) failure := by
  induction rounds with
  | zero => exact conducts_pure fun _ => id
  | succ rounds inductionHypothesis =>
    have robustBound : Robust fun world : AdapterWorld =>
        assertion world ∧ deadline ≤ world.instantMs + pollIntervalMs * (rounds + 1) :=
      robust.and ⟨fun _ _ same holds => by have := same.instantMs; omega, fun _ _ _ => id⟩
    refine conducts_bind (conducts_processExists robustBound
      (fun world holds => manages world holds.1) inRange) fun present => ?_
    refine Conducts.assume (fun _ holds => holds.2) fun there => ?_
    subst there
    refine conducts_do (fun now world => (assertion world ∧
      deadline ≤ world.instantMs + pollIntervalMs * (rounds + 1)) ∧ now ≤ world.instantMs)
      (robustBound.and (robust_pure _)) (fun _ _ _ => trivial)
      (fun _ holds => ⟨holds.1, le_rfl⟩) fun now => ?_
    split
    · refine conducts_do _ (robustBound.and (robust_instant now)) (fun _ _ _ => trivial) ?_
        fun _ => inductionHypothesis
      rintro world ⟨⟨holds, bound⟩, -⟩
      refine ⟨robust.same _ _ (same_of_quiet rfl world) holds, ?_⟩
      show deadline ≤ world.instantMs + pollIntervalMs + pollIntervalMs * rounds
      rw [Nat.mul_succ] at bound
      omega
    · next passed =>
      refine conducts_pure fun _ holds => ⟨holds.1.1, ?_⟩
      omega

/-- A signal was added to those sent before, not earlier than some time. -/
structure Adds (sent : List SentSignal) (since pid : Nat) (signal : Signal) (added : SentSignal)
    (world : AdapterWorld) : Prop where
  signal : added.signal = signal
  pid : added.pid = pid
  since : since ≤ added.sentAt
  past : added.sentAt ≤ world.instantMs
  signals : world.signals = sent ++ [added]

theorem robust_adds (sent : List SentSignal) (since pid : Nat) (signal : Signal)
    (added : SentSignal) : Robust fun world => Adds sent since pid signal added world where
  same _ _ same adds := ⟨adds.signal, adds.pid, adds.since,
    adds.past.trans same.instantMs, same.signals.trans adds.signals⟩
  event _ _ _ adds := ⟨adds.signal, adds.pid, adds.since, adds.past, adds.signals⟩

/-- Sending a signal adds it, with a refusal if it fails, unless the id is out of range. -/
theorem signalGroup_adds {sent : List SentSignal} {since : Nat}
    (former : world.signals = sent) (time : since ≤ world.instantMs) (launchId : String)
    (pid : Nat) (signal : Signal) :
    Discipline.onOutcome
      (fun _ after => validPid pid = true ∧ ∃ added, Adds sent since pid signal added after)
      (fun _ after => validPid pid = false ∧ after.signals = sent ∨
        ∃ added, added.permitted = false ∧ Adds sent since pid signal added after)
      (world.signalGroup launchId pid signal).1 (world.signalGroup launchId pid signal).2 := by
  unfold AdapterWorld.signalGroup
  split
  case isFalse outOfRange => exact .inl ⟨eq_false_of_ne_true outOfRange, former⟩
  case isTrue inRange =>
  have adds (permitted : Bool) : Adds sent since pid signal
      ⟨launchId, pid, signal, world.host.groups pid, permitted, world.instantMs⟩
      { world with signals := world.signals ++
        [⟨launchId, pid, signal, world.host.groups pid, permitted, world.instantMs⟩] } :=
    ⟨rfl, rfl, time, le_rfl, by rw [former]⟩
  cases permitted : (world.host.groups pid).isNone || world.answers.permits pid with
  | true =>
    simp only [permitted]
    exact ⟨inRange, _, adds true⟩
  | false =>
    simp only [permitted]
    exact .inr ⟨_, rfl, adds false⟩

variable (receipt : ProcessReceipt)

/-- One signal for a child. -/
theorem conducts_signalChild (signal : Signal) (sent : List SentSignal) (since : Nat) :
    Conducts adapter goesOn idle admits
      (fun world => world.Manages receipt ∧ world.signals = sent ∧ since ≤ world.instantMs)
      (call (.signalGroup receipt.launchId receipt.pid signal))
      (fun _ world => ∃ added, (world.Manages receipt ∧
        Adds sent since receipt.pid signal added world) ∧ validPid receipt.pid = true)
      (fun world => validPid receipt.pid = false ∧ world.signals = sent ∨
        ∃ added, added.permitted = false ∧ Adds sent since receipt.pid signal added world) := by
  refine conducts_call ((robust_manages receipt).and
    ((robust_signals (· = sent)).and (robust_instant since)))
    (fun _ orderly holds _ => Manages.reaches orderly holds.1) ?_
  rintro world - ⟨manages, former, time⟩ -
  have outcome := signalGroup_adds former time receipt.launchId receipt.pid signal
  obtain ⟨-, children, -, -⟩ := signalGroup_same world receipt.launchId receipt.pid signal
  show Discipline.onOutcome _ _ (world.signalGroup receipt.launchId receipt.pid signal).1
    (world.signalGroup receipt.launchId receipt.pid signal).2
  cases answer : (world.signalGroup receipt.launchId receipt.pid signal).1 with
  | error error =>
    rw [answer] at outcome
    exact outcome
  | ok _ =>
    rw [answer] at outcome
    obtain ⟨inRange, added, adds⟩ := outcome
    refine ⟨added, ⟨?_, adds⟩, inRange⟩
    unfold AdapterWorld.Manages
    rw [children]
    exact manages

/-- The second signal is sent, whatever became of the child. -/
theorem conducts_killChild (sent : List SentSignal) (since : Nat)
    (inRange : validPid receipt.pid = true) :
    Conducts adapter goesOn idle admits
      (fun world => world.Manages receipt ∧ world.signals = sent ∧ since ≤ world.instantMs)
      (killRemaining receipt)
      (fun _ world => ∃ added, Adds sent since receipt.pid .kill added world)
      (fun world => ∃ added, Adds sent since receipt.pid .kill added world) := by
  have robust : Robust fun world : AdapterWorld =>
      world.Manages receipt ∧ world.signals = sent ∧ since ≤ world.instantMs :=
    (robust_manages receipt).and ((robust_signals (· = sent)).and (robust_instant since))
  refine conducts_bind (conducts_processExists robust (fun _ holds => holds.1) inRange)
    fun present => ?_
  refine Conducts.assume (fun _ holds => holds.2) fun there => ?_
  subst there
  refine (conducts_signalChild receipt .kill sent since).weaken (fun _ holds => holds.1) ?_ ?_
  · rintro _ world ⟨added, ⟨-, adds⟩, -⟩
    exact ⟨added, adds⟩
  · rintro world (⟨outOfRange, -⟩ | ⟨added, -, adds⟩)
    · rw [inRange] at outOfRange
      cases outOfRange
    · exact ⟨added, adds⟩

/-- A stop of a child sends both signals, unless the first one is refused. -/
theorem conducts_terminateChild (receipt observed : ProcessReceipt) (earlier : List SentSignal) :
    Conducts adapter goesOn idle admits
      (fun world => world.Manages receipt ∧ world.signals = earlier)
      (terminate adapter receipt observed)
      (fun _ world => Answered adapter.stopTimeoutMs receipt.pid earlier world.signals)
      (fun world => Answered adapter.stopTimeoutMs receipt.pid earlier world.signals) := by
  refine conducts_checking (fun _ holds => .inl holds.2) fun stopping _ => ?_
  have refused (world : AdapterWorld) (failed : validPid receipt.pid = false ∧
      world.signals = earlier ∨
        ∃ added, added.permitted = false ∧ Adds earlier 0 receipt.pid .term added world) :
      Answered adapter.stopTimeoutMs receipt.pid earlier world.signals := by
    rcases failed with ⟨-, unsent⟩ | ⟨term, refused, adds⟩
    · exact .inl unsent
    · exact .inr (.inl ⟨term, refused, adds.signals⟩)
  refine conducts_bind ((conducts_signalChild receipt .term earlier 0).weaken
    (fun _ holds => ⟨holds.1, holds.2, Nat.zero_le _⟩) (fun _ _ => id) refused)
    fun _ => Conducts.any fun term => ?_
  refine Conducts.assume (fun _ holds => holds.2) fun inRange => ?_
  refine conducts_do (fun now world => ((world.Manages receipt ∧
      world.signals = earlier ++ [term]) ∧ now ≤ world.instantMs) ∧ term.sentAt ≤ now)
    (((robust_manages receipt).and (robust_adds ..)).and (robust_pure _)) (fun _ _ _ => trivial)
    (fun _ holds => ⟨⟨⟨holds.1.1, holds.1.2.signals⟩, le_rfl⟩, holds.1.2.past⟩) fun now => ?_
  refine Conducts.assume (fun _ holds => holds.2) fun later => ?_
  refine conducts_bind ((conducts_awaitExit ((robust_manages receipt).and
    (robust_signals (· = earlier ++ [term]))) (fun _ holds => holds.1) inRange
    (now + adapter.stopTimeoutMs) adapter.pollRounds).weaken (fun world holds => ⟨holds.1.1, by
        -- The loop has enough rounds to reach the deadline.
        have past := holds.1.2
        unfold AdapterConfig.pollRounds pollIntervalMs
        omega⟩)
      (fun _ _ => id) fun _ => id) fun _ => ?_
  have ends (world : AdapterWorld) (killed : ∃ kill, Adds (earlier ++ [term])
      (now + adapter.stopTimeoutMs) receipt.pid .kill kill world) :
      Answered adapter.stopTimeoutMs receipt.pid earlier world.signals := by
    obtain ⟨kill, adds⟩ := killed
    refine .inr (.inr ⟨term, kill, adds.signal, adds.pid, ?_, ?_⟩)
    · exact (Nat.add_le_add_right later _).trans adds.since
    · rw [adds.signals, List.append_assoc]
      rfl
  refine conducts_bind ((conducts_killChild receipt (earlier ++ [term]) _ inRange).weaken
    (fun _ holds => ⟨holds.1.1, holds.1.2, holds.2⟩) (fun _ world killed => ends world killed) ends)
    fun _ => ?_
  exact conducts_concludeStop receipt stopping (Answered adapter.stopTimeoutMs receipt.pid earlier)

theorem conducts_stopChild (managed : ManagedChild) (earlier : List SentSignal) :
    Conducts adapter goesOn idle admits
      (fun world => world.Recorded receipt.pid (some managed) earlier) (stop adapter receipt)
      (fun _ world => Answered adapter.stopTimeoutMs receipt.pid earlier world.signals)
      (fun world => Answered adapter.stopTimeoutMs receipt.pid earlier world.signals) := by
  refine conducts_bind ((conducts_inspect receipt (some managed) earlier).weaken
    (fun _ => id) (fun _ _ => id) fun _ holds => .inl holds) fun observed => ?_
  split
  case isTrue => exact conducts_pure fun _ holds => .inl holds.1
  case isFalse live =>
  refine conducts_bind ((conducts_ownsReceipt_managed receipt (· = earlier)).weaken
    (fun _ holds => ⟨holds.2 (eq_false_of_ne_true live), holds.1⟩) (fun _ _ => id)
    fun _ => id) fun owned => ?_
  refine Conducts.assume (fun _ holds => holds.2) fun yes => ?_
  subst yes
  exact (conducts_terminateChild receipt observed earlier).weaken (fun _ holds => holds.1)
    (fun _ _ => id) fun _ => id

/-- The discipline holds when a call begins. -/
theorem holds_of_triple {pre : AdapterWorld → Prop} {program : Program HostAction Unit}
    (triple : (supervising idle).Triple (supervision adapter goesOn) admits () pre program
      fun _ => idle) (orderly : world.Orderly) (begins : pre world) :
    (supervising idle).Holds (supervision adapter goesOn) admits ⟨world, fun _ => program⟩ :=
  ⟨orderly, fun _ => triple.meets world orderly begins⟩

end

theorem stopping_lawful (adapter : AdapterConfig) (property : List SentSignal → Prop) :
    (supervising fun world => property world.signals).Lawful (supervision adapter False)
      (unrestricted Unit HostAction AdapterWorld) where
  rely_refl _ _ := Relation.ReflTransGen.refl
  rely_trans _ _ _ _ := Relation.ReflTransGen.trans
  idle_stable _ := (robust_signals property).stable
  start := fun _ _ _ _ begins => begins.1.elim
  environment _ _ evolves orderly :=
    ⟨robust_orderly.evolves evolves orderly, fun _ => .single evolves⟩
  restart := fun _ _ _ restarts => restarts.1.elim

/-- When a stop of a child has returned and its first signal was permitted, it has sent the second
signal as well, after the whole time a process is given to end. -/
theorem stop_kills_child (adapter : AdapterConfig) (receipt : ProcessReceipt)
    (managed : ManagedChild) (world : AdapterWorld) (last : Pool Unit HostAction AdapterWorld)
    (term : SentSignal) (added : List SentSignal) (orderly : world.Orderly)
    (listed : world.children receipt.pid = some managed)
    (reaches : (supervision adapter False).Reaches (unrestricted Unit HostAction AdapterWorld)
      ⟨world, fun _ => (SupervisorCall.stop receipt).program adapter⟩ last)
    (returned : last.threads () = .done ())
    (sent : last.world.signals = world.signals ++ added) (member : term ∈ added)
    (first : term.signal = .term) (permitted : term.permitted = true) :
    ∃ kill ∈ added, kill.signal = .kill ∧ kill.pid = receipt.pid ∧
      term.sentAt + adapter.stopTimeoutMs ≤ kill.sentAt := by
  have lawful := stopping_lawful adapter (Answered adapter.stopTimeoutMs receipt.pid world.signals)
  have begins : world.children receipt.pid = some managed ∧ world.signals = world.signals :=
    ⟨listed, rfl⟩
  obtain ⟨-, finished⟩ := lawful.holds reaches
    (holds_of_triple (conducts_stopChild receipt managed world.signals).call orderly begins)
  have answered := finished ()
  rw [returned] at answered
  change Answered _ _ _ last.world.signals at answered
  rw [sent] at answered
  rcases answered with unsent | ⟨other, refused, only⟩ | ⟨other, kill, isKill, pid, late, both⟩
  · rw [List.append_right_eq_self.mp unsent] at member
    cases member
  · rw [List.append_cancel_left only, List.mem_singleton] at member
    rw [member, refused] at permitted
    cases permitted
  · have same := List.append_cancel_left both
    subst same
    refine ⟨kill, List.mem_cons_of_mem _ List.mem_cons_self, isKill, pid, ?_⟩
    rcases List.mem_cons.mp member with rfl | second
    · exact late
    · rw [List.mem_singleton.mp second, isKill] at first
      cases first

/-- The host in which the process with an id has ended. -/
def Host.ended (host : Host) (pid : Nat) (status : ExitStatus) : Host :=
  host.setProcess pid ((host.processes pid).map (·.exitWith status))

theorem evolves_ended
    (present : (world.host.processes pid).any (·.exit.isNone) = true) (status : ExitStatus) :
    world.Evolves { world with host := world.host.ended pid status } := by
  obtain ⟨process, found, runs⟩ := (Option.any_eq_true _ _).mp present
  unfold Host.ended
  rw [found]
  exact .host (.exits found (Option.isNone_iff_eq_none.mp runs) status)

/-- The stop of the child that was started, after its first signal. -/
def childSignalled : Pool Unit HostAction AdapterWorld :=
  (supervision quickAdapter False).acts () 8
    ⟨sampleStarted.world, fun _ => (SupervisorCall.stop sampleReceipt).program quickAdapter⟩

/-- The child ends at once, in response to the signal. -/
def childEnded : Pool Unit HostAction AdapterWorld :=
  ⟨{ childSignalled.world with host := childSignalled.world.host.ended 4711 (.exited 0) },
    childSignalled.threads⟩

def childStopped : Pool Unit HostAction AdapterWorld :=
  (supervision quickAdapter False).acts () 20 childEnded

theorem reaches_childEnded :
    (supervision quickAdapter False).Reaches (unrestricted Unit HostAction AdapterWorld)
      ⟨sampleStarted.world, fun _ => (SupervisorCall.stop sampleReceipt).program quickAdapter⟩
      childEnded := by
  have signals : (supervision quickAdapter False).Reaches
      (unrestricted Unit HostAction AdapterWorld)
      ⟨sampleStarted.world, fun _ => (SupervisorCall.stop sampleReceipt).program quickAdapter⟩
      childSignalled :=
    System.reaches_acts_always ..
  exact signals.tail (.environment (evolves_ended (by decide +kernel) _))

theorem sampleStarted_orderly : sampleStarted.world.Orderly :=
  ((supervising_lawful quickAdapter True).holds reaches_sampleStarted
    ⟨sampleBegin_orderly, fun _ => trivial⟩).1

theorem stop_kills_child_ended :
    ∃ kill ∈ childStopped.world.signals, kill.signal = .kill ∧ kill.pid = 4711 ∧
      40 ≤ kill.sentAt := by
  have first : childStopped.world.signals.any
      (fun sent => decide (sent.signal = .term) && sent.permitted) = true := by decide +kernel
  obtain ⟨term, member, sent⟩ := List.any_eq_true.mp first
  obtain ⟨isTerm, permitted⟩ := Bool.and_eq_true_iff.mp sent
  have listed : (sampleStarted.world.children sampleReceipt.pid).isSome = true := by
    decide +kernel
  obtain ⟨managed, kept⟩ := Option.isSome_iff_exists.mp listed
  have none_before : sampleStarted.world.signals = [] := by decide +kernel
  have returned : childStopped.threads () = .done () := by
    have finished : (childStopped.threads ()).isDone = true := by decide +kernel
    cases rest : childStopped.threads () with
    | done result => rfl
    | step action next =>
      rw [rest] at finished
      cases finished
  obtain ⟨kill, killed, isKill, pid, late⟩ := stop_kills_child quickAdapter sampleReceipt managed
    sampleStarted.world childStopped term childStopped.world.signals sampleStarted_orderly kept
    (reaches_childEnded.trans (System.reaches_acts_always ..)) returned
    (by rw [none_before]; rfl) member (of_decide_eq_true isTerm) permitted
  exact ⟨kill, killed, isKill, pid, (Nat.le_add_left 40 _).trans late⟩

/-- The child ends in response to the first signal, before the deadline, and is sent the second
signal all the same. -/
theorem terminated_child_killed : ∃ middle last, (supervision quickAdapter False).Reaches
        (unrestricted Unit HostAction AdapterWorld)
        ⟨sampleStarted.world, fun _ => (SupervisorCall.stop sampleReceipt).program quickAdapter⟩
        middle ∧
      (middle.world.signals.any fun sent => decide (sent.signal = .term) &&
        decide (middle.world.instantMs < sent.sentAt + quickAdapter.stopTimeoutMs)) = true ∧
      ((middle.world.host.processes 4711).bind HostProcess.exit) = some (.exited 0) ∧
      (supervision quickAdapter False).Reaches (unrestricted Unit HostAction AdapterWorld) middle
        last ∧
      (last.world.signals.any fun sent => decide (sent.signal = .kill) &&
        decide (sent.pid = 4711)) = true :=
  ⟨childEnded, childStopped, reaches_childEnded, by decide +kernel, by decide +kernel,
    System.reaches_acts_always .., by decide +kernel⟩

end BuzzServer.Local
