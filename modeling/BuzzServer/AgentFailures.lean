/-
This file proves what one agent's failure means for the others when the daemon
starts and when the worker looks after the running agents.

Both loops end at the first call that fails. An agent whose file, persona, prompt
file or receipt is broken keeps every agent that is listed after it from being
started and from being observed, although their own calls would succeed; the
agents that are listed before it are not concerned.
-/

import BuzzServer.Observation
import BuzzServer.Ownership
import BuzzServer.Stopping

namespace BuzzServer

open Relational Concurrent Fallible

/-! ### One round of the startup loop -/

/-- The agent's own configuration can be read, resolved and written over its row. -/
def World.Resolves (world : World) (agent : AgentSpec) : Prop :=
  ∃ resolved, world.WritesBack agent resolved

/-- The store can be reached and the worker takes work. -/
def World.Works (world : World) : Prop :=
  world.faults.storeUnavailable = false ∧ world.faults.workerStopped = false

/-- Two worlds differ in nothing that concerns the start of an agent other than the given one. -/
structure World.StartsAlike (id : AgentId) (before after : World) : Prop where
  faults : after.faults = before.faults
  communities : after.db.communityConfigs = before.db.communityConfigs
  personas : after.files.personas = before.files.personas
  prompts : after.files.prompts = before.files.prompts
  agents : ∀ other, other ≠ id → after.files.agents.lookup other = before.files.agents.lookup other
  queue : ∀ other, other ≠ id →
    (.startupAgent other ∈ after.queue ↔ .startupAgent other ∈ before.queue)

/-- What a round of the startup loop does. -/
def StartsOnly (id : AgentId) ⦃Response : Type⦄ : Action Response → Prop
  | .writeAgentFile file => file.id = id
  | .sendWork work => work = .startupAgent id
  | .agentFileExists _ | .loadAgentFile _ | .resolveAgentFile .. | .putAgent _ => True
  | _ => False

theorem perform_startsAlike {id : AgentId} {Response : Type} {action : Action Response}
    (only : StartsOnly id action) (world : World) :
    world.StartsAlike id (perform .main action world).2 := by
  cases action with
  | writeAgentFile file =>
    obtain rfl : file.id = id := only
    simp only [perform]
    split
    · exact ⟨rfl, rfl, rfl, rfl, fun _ differs => AList.lookup_insert_ne differs, fun _ _ => .rfl⟩
    · exact ⟨rfl, rfl, rfl, rfl, fun _ _ => rfl, fun _ _ => .rfl⟩
  | sendWork work =>
    obtain rfl : work = .startupAgent id := only
    simp only [perform]
    refine ⟨rfl, rfl, rfl, rfl, fun _ _ => rfl, fun other differs => ?_⟩
    split <;> simp [differs]
  | putAgent spec =>
    simp only [perform]
    refine ⟨rfl, ?_, rfl, rfl, fun _ _ => rfl, fun _ _ => .rfl⟩
    simp only [World.method]
    split
    · rfl
    · rcases SqliteStore.putAgent_cases world.faults.writes world.db spec with
        ⟨error, failed⟩ | ⟨-, done⟩
      · rw [failed]
      · rw [done]
  | agentFileExists | loadAgentFile | resolveAgentFile =>
    exact ⟨rfl, rfl, rfl, rfl, fun _ _ => rfl, fun _ _ => .rfl⟩
  | _ => exact only.elim

theorem World.StartsAlike.trans {id : AgentId} {first second third : World}
    (earlier : first.StartsAlike id second) (later : second.StartsAlike id third) :
    first.StartsAlike id third where
  faults := later.faults.trans earlier.faults
  communities := later.communities.trans earlier.communities
  personas := later.personas.trans earlier.personas
  prompts := later.prompts.trans earlier.prompts
  agents other differs := (later.agents other differs).trans (earlier.agents other differs)
  queue other differs := (later.queue other differs).trans (earlier.queue other differs)

theorem startsAlike_of_uses {id : AgentId} {Result : Type} {program : Task Result}
    (uses : Program.Uses (StartsOnly id) program.run) (world : World) :
    world.StartsAlike id (alone (perform .main) program world).2 :=
  uses.run_keeps (world.StartsAlike id)
    (fun _ _ reached only alike => alike.trans (perform_startsAlike only reached))
    ⟨rfl, rfl, rfl, rfl, fun _ _ => rfl, fun _ _ => .rfl⟩

/-- An action of a round that queues nothing. -/
def QueuesNothing (id : AgentId) ⦃Response : Type⦄ (action : Action Response) : Prop :=
  StartsOnly id action ∧ ∀ world, (perform .main action world).2.queue = world.queue

variable (agent : AgentSpec)

theorem uses_ensureAgentFile :
    Program.Uses (QueuesNothing agent.id) (ensureAgentFile DaemonError.agentFile agent).run := by
  refine uses_bind (uses_always ⟨trivial, fun _ => rfl⟩) fun present => ?_
  split
  · exact .done _
  · exact uses_attempt (show QueuesNothing agent.id (.writeAgentFile agent.defaultFile) from
      ⟨rfl, fun _ => by simp only [perform]⟩)

theorem uses_writeBack : Program.Uses (QueuesNothing agent.id) (writeBack agent.id agent).run :=
  uses_bind (uses_ensureAgentFile agent) fun _ =>
    uses_bind (uses_attempt ⟨trivial, fun _ => rfl⟩) fun _ =>
    uses_bind (uses_attempt ⟨trivial, fun _ => rfl⟩) fun _ =>
    uses_bind (uses_attempt ⟨trivial, fun _ => rfl⟩) fun _ => .done _

variable (world : World)

theorem startAgent_startsAlike :
    world.StartsAlike agent.id (alone (perform .main) (startAgent agent) world).2 :=
  startsAlike_of_uses (uses_bind ((uses_writeBack agent).mono fun _ _ quiet => quiet.1)
    fun _ => uses_attempt (show StartsOnly agent.id (.sendWork (.startupAgent agent.id)) from rfl))
    world

theorem Files.loadAgent_congr {first second : Files} {id : AgentId}
    (same : first.agents.lookup id = second.agents.lookup id) :
    first.loadAgent id = second.loadAgent id := by
  unfold Files.loadAgent
  rw [same]

theorem Files.resolve_congr {first second : Files} (personas : first.personas = second.personas)
    (prompts : first.prompts = second.prompts) (file : AgentConfigFile)
    (community : CommunityConfigId) (desiredState : DesiredAgentState) :
    first.resolve file community desiredState = second.resolve file community desiredState := by
  obtain ⟨agents, _, _⟩ := first
  cases personas
  cases prompts
  rfl

/-- Whether an agent's configuration resolves does not depend on the other agents. -/
theorem World.resolves_congr {before after : World} {agent : AgentSpec}
    (faults : after.faults = before.faults)
    (communities : after.db.communityConfigs = before.db.communityConfigs)
    (personas : after.files.personas = before.files.personas)
    (prompts : after.files.prompts = before.files.prompts)
    (lookup : after.files.agents.lookup agent.id = before.files.agents.lookup agent.id) :
    after.Resolves agent ↔ before.Resolves agent := by
  have member : agent.id ∈ after.files.agents ↔ agent.id ∈ before.files.agents := by
    rw [← AList.lookup_isSome, lookup, AList.lookup_isSome]
  have provides : after.Provides agent ↔ before.Provides agent := by
    unfold World.Provides World.Writes
    rw [member, faults]
  have provided : (after.provided agent).agents.lookup agent.id =
        (before.provided agent).agents.lookup agent.id ∧
      (after.provided agent).personas = (before.provided agent).personas ∧
      (after.provided agent).prompts = (before.provided agent).prompts := by
    unfold World.provided
    by_cases present : agent.id ∈ before.files.agents
    · rw [if_pos (member.mpr present), if_pos present]
      exact ⟨lookup, personas, prompts⟩
    · rw [if_neg (mt member.mp present), if_neg present]
      refine ⟨?_, personas, prompts⟩
      show (after.files.agents.insert agent.id _).lookup agent.id =
        (before.files.agents.insert agent.id _).lookup agent.id
      rw [AList.lookup_insert, AList.lookup_insert]
  have loads := Files.loadAgent_congr provided.1
  have resolved := Files.resolve_congr provided.2.1 provided.2.2
  refine exists_congr fun config => ⟨?_, ?_⟩ <;> rintro ⟨own, readable, resolves, known, writes⟩
  · rw [faults] at readable writes
    rw [communities] at known
    simp only [loads, resolved] at resolves
    exact ⟨provides.mp own, readable, resolves, known, writes⟩
  · rw [← faults] at readable writes
    rw [← communities] at known
    simp only [← loads, ← resolved] at resolves
    exact ⟨provides.mpr own, readable, resolves, known, writes⟩

theorem World.StartsAlike.resolves {id : AgentId} {before after : World}
    (alike : before.StartsAlike id after) {agent : AgentSpec} (differs : agent.id ≠ id) :
    after.Resolves agent ↔ before.Resolves agent :=
  World.resolves_congr alike.faults alike.communities alike.personas alike.prompts
    (alike.agents agent.id differs)

theorem returns_writeBack : Returns (perform .main) (writeBack agent.id agent) world ↔
      world.Resolves agent ∧ world.faults.storeUnavailable = false := by
  cases available : world.faults.storeUnavailable with
  | false =>
    refine ⟨fun ⟨resolved, returned⟩ => ⟨⟨resolved, ?_⟩, rfl⟩, fun ⟨⟨resolved, back⟩, _⟩ => ?_⟩
    · exact ((alone_writeBack_eq_ok available .main agent resolved _).mp (Prod.ext returned rfl)).1
    · exact ⟨resolved, congrArg Prod.fst
        ((alone_writeBack_eq_ok available .main agent resolved _).mpr ⟨back, rfl⟩)⟩
  | true =>
    refine iff_of_false ?_ fun ⟨_, reachable⟩ => nomatch reachable
    unfold writeBack
    rw [returns_bind]
    rintro ⟨_, -, rest⟩
    have faults : (alone (perform .main) (ensureAgentFile DaemonError.agentFile agent)
        world).2.faults = world.faults :=
      (startsAlike_of_uses ((uses_ensureAgentFile agent).mono fun _ _ quiet => quiet.1)
        world).faults
    simp only [Task.file, Task.store, returns_attempt_bind] at rest
    obtain ⟨_, -, _, -, _, written, -⟩ := rest
    simp [perform, World.method, faults, available] at written

/-- A round succeeds if the agent's own configuration resolves and the daemon works. -/
theorem returns_startAgent :
    Returns (perform .main) (startAgent agent) world ↔ world.Resolves agent ∧ world.Works := by
  have faults : (alone (perform .main) (writeBack agent.id agent) world).2.faults = world.faults :=
    (startsAlike_of_uses ((uses_writeBack agent).mono fun _ _ quiet => quiet.1) world).faults
  have back := returns_writeBack agent world
  unfold startAgent sendWork World.Works
  rw [returns_bind]
  simp only [returns_attempt, perform, faults]
  rw [← and_assoc, ← back]
  cases world.faults.workerStopped <;> simp [failIf, Returns]

/-- A round that succeeds queues the agent, and no other round does. -/
theorem startAgent_queues (fresh : .startupAgent agent.id ∉ world.queue) :
    .startupAgent agent.id ∈ (alone (perform .main) (startAgent agent) world).2.queue ↔
      world.Resolves agent ∧ world.Works := by
  rw [← returns_startAgent]
  have quiet : (alone (perform .main) (writeBack agent.id agent) world).2.queue = world.queue :=
    (uses_writeBack agent).run_keeps (fun after => after.queue = world.queue)
      (fun _ action reached silent same => (silent.2 reached).trans same) rfl
  unfold startAgent
  rcases back : alone (perform .main) (writeBack agent.id agent) world with ⟨outcome, after⟩
  rw [back] at quiet
  cases outcome with
  | error error =>
    rw [Returns, alone_bind_error back]
    exact iff_of_false (by rw [quiet]; exact fresh) (by simp)
  | ok resolved =>
    rw [Returns, alone_bind_ok back]
    cases stopped : after.faults.workerStopped <;>
      simp_all [perform, sendWork, failIf, Except.mapError]

/-! ### The startup loop -/

variable {before : List AgentSpec} {world : World} {after : List AgentSpec}

/-- The agents of a listing have ids of their own. -/
theorem listed_distinct {database : Database} (keyed : KeyedById database.agentSpecs)
    {agent : AgentSpec}
    (listed : SqliteStore.listAgents none database = before ++ agent :: after) :
    before.Pairwise (fun first second => second.id ≠ first.id) ∧
      ∀ other ∈ before ++ after, agent.id ≠ other.id := by
  have distinct : ((SqliteStore.listAgents none database).map AgentSpec.id).Nodup :=
    Table.query_keys_nodup keyed
  rw [listed, List.map_append, List.map_cons, List.nodup_middle, List.nodup_cons,
    ← List.map_append] at distinct
  refine ⟨?_, fun other member same => distinct.1 (List.mem_map.mpr ⟨other, member, same.symm⟩)⟩
  rw [List.map_append] at distinct
  exact (List.pairwise_map.mp (List.nodup_append.mp distinct.2).1).imp fun differs => differs.symm

/-- The loop over the agents queues an agent if its own round and every earlier one succeed. -/
theorem startAgents_queue_iff {agent : AgentSpec}
    (apart : before.Pairwise (fun first second => second.id ≠ first.id))
    (own : ∀ other ∈ before ++ after, agent.id ≠ other.id)
    (fresh : .startupAgent agent.id ∉ world.queue) :
    .startupAgent agent.id ∈
        (alone (perform .main) (forEach startAgent (before ++ agent :: after)) world).2.queue ↔
      (∀ item ∈ before, world.Resolves item ∧ world.Works) ∧
        world.Resolves agent ∧ world.Works := by
  have works (item : AgentSpec) (world : World) :
      (alone (perform .main) (startAgent item) world).2.Works ↔ world.Works := by
    unfold World.Works
    rw [(startAgent_startsAlike item world).faults]
  refine forEach_brings_iff (fun item world => world.Resolves item ∧ world.Works)
    (fun world => .startupAgent agent.id ∉ world.queue)
    (fun world => .startupAgent agent.id ∈ world.queue)
    (fun world => world.Resolves agent ∧ world.Works)
    (fun item _ world => returns_startAgent item world) (apart.imp ?_) ?_
    (fun world fresh => startAgent_queues agent world fresh) fresh fresh
  · intro first second differs world
    exact and_congr ((startAgent_startsAlike first world).resolves differs) (works first world)
  · intro item member world
    have alike := startAgent_startsAlike item world
    have queued := alike.queue agent.id (own item member)
    exact ⟨not_congr queued, queued,
      and_congr (alike.resolves (own item member)) (works item world)⟩

/-- Sending the unfinished operations to the worker concerns nothing but the queue. -/
theorem sendOperations_queue (id : AgentId) (operations : List DurableOperation) (world : World)
    (fresh : .startupAgent id ∉ world.queue) :
    ∃ queue, .startupAgent id ∉ queue ∧ (alone (perform .main) (forEach
      (fun operation => sendWork (.operation operation.id)) operations) world).2 =
        { world with queue := queue } := by
  have uses : Program.Uses (fun _ (action : Action _) => ∀ world, .startupAgent id ∉ world.queue →
      ∃ queue, .startupAgent id ∉ queue ∧
        (perform .main action world).2 = { world with queue := queue })
      (forEach (fun operation : DurableOperation => sendWork (.operation operation.id))
        operations).run := by
    refine uses_forEach _ fun operation _ => uses_attempt fun world fresh => ⟨_, ?_, rfl⟩
    split <;> simp [fresh]
  refine uses.run_keeps
    (fun after => ∃ queue, .startupAgent id ∉ queue ∧ after = { world with queue := queue })
    ?_ ⟨world.queue, fresh, rfl⟩
  rintro _ action _ sends ⟨queue, absent, rfl⟩
  exact sends _ absent

/-- An agent whose own configuration resolves is queued at startup if the daemon works and the
configuration of every agent listed before it resolves as well. -/
theorem startupLoop_queues_iff (keyed : KeyedById world.db.agentSpecs)
    {agent : AgentSpec} (listed : SqliteStore.listAgents none world.db = before ++ agent :: after)
    (resolves : world.Resolves agent) :
    .startupAgent agent.id ∈ (alone (perform .main) startupLoop world.reboot).2.queue ↔
      world.Works ∧ ∀ earlier ∈ before, world.Resolves earlier := by
  obtain ⟨apart, own⟩ := listed_distinct keyed listed
  unfold startupLoop Task.store
  cases available : world.faults.storeUnavailable with
  | true =>
    have failed : perform .main .nonterminalOperations world.reboot =
        (.error .database, world.reboot) := by
      simp [perform, World.query, World.reboot, available]
    rw [alone_bind_error (alone_attempt_error failed)]
    refine iff_of_false List.not_mem_nil fun works => ?_
    rw [works.1.1] at available
    cases available
  | false =>
    have reads : perform .main .nonterminalOperations world.reboot =
        (.ok (SqliteStore.nonterminalOperations world.db), world.reboot) := by
      simp [perform, World.query, World.reboot, available]
    rw [alone_bind_ok (alone_attempt_eq_ok.mpr reads)]
    obtain ⟨queue, fresh, sent⟩ := sendOperations_queue agent.id
      (SqliteStore.nonterminalOperations world.db) world.reboot List.not_mem_nil
    rcases loop : alone (perform .main) (forEach (fun operation : DurableOperation =>
      sendWork (.operation operation.id)) (SqliteStore.nonterminalOperations world.db))
        world.reboot with ⟨outcome, reached⟩
    rw [loop] at sent
    subst sent
    cases outcome with
    | error error =>
      rw [alone_bind_error loop]
      refine iff_of_false fresh fun works => ?_
      have returns : Returns (perform .main) (forEach (fun operation : DurableOperation =>
          sendWork (.operation operation.id)) (SqliteStore.nonterminalOperations world.db))
            world.reboot := by
        refine (returns_forEach (fun _ world => world.faults.workerStopped = false)
          (fun _ _ world => ?_) (List.pairwise_of_forall fun _ _ _ => .rfl) _).mpr
          fun _ _ => works.1.2
        unfold sendWork
        rw [returns_attempt]
        cases stopped : world.faults.workerStopped <;> simp [perform, failIf, stopped]
      obtain ⟨_, returned⟩ := returns
      rw [loop] at returned
      cases returned
    | ok =>
      have lists : perform .main .listStartupAgents { world.reboot with queue := queue } =
          (.ok (before ++ agent :: after), { world.reboot with
            queue := queue, starting := before ++ agent :: after }) := by
        simp [perform, World.query, World.reboot, available, listed]
      rw [alone_bind_ok loop, alone_bind_ok (alone_attempt_eq_ok.mpr lists)]
      refine (startAgents_queue_iff apart own fresh).trans ?_
      have same (item : AgentSpec) : World.Resolves { world.reboot with
          queue := queue, starting := before ++ agent :: after } item ↔ world.Resolves item :=
        World.resolves_congr rfl rfl rfl rfl rfl
      simp only [same]
      constructor
      · rintro ⟨earlier, -, works⟩
        exact ⟨works, fun item member => (earlier item member).1⟩
      · rintro ⟨works, earlier⟩
        exact ⟨fun item member => ⟨earlier item member, works⟩, resolves, works⟩

/-! ### The pass over the running agents -/

namespace Observation

/-- What a pass is to bring about for an agent: its receipt has the stamp of the check, and the
history one more entry. -/
def Scene.Noted (before after : Scene) (id : AgentId) (receipt observed : Local.ProcessReceipt) :
    Prop :=
  after.receipts id =
      .receipt (stamped receipt.observedState observed (before.turns id).unixMillis) ∧
    after.historyOf id =
      before.historyOf id ++ [healthEntry id observed (before.turns id).unixSeconds]

/-- What is written for the agent itself can be written. -/
def Scene.Notes (scene : Scene) (id : AgentId) : Prop :=
  scene.stateDirectory.isSome = true ∧ (scene.turns id).writesReceipt = true ∧
    (scene.turns id).recordsHealth = true

variable (sha256 : String → String) {scene : Scene} {agent : AgentSpec}
  {receipt observed : Local.ProcessReceipt}

/-- The agent's own turn. -/
theorem observeAgent_notes {world : Scene} (has : world.Has agent.id receipt)
    (inspected : (world.turns agent.id).inspect receipt = .ok observed) :
    world.Noted (alone perform (observeAgent sha256 agent) world).2 agent.id receipt observed ↔
      world.Notes agent.id := by
  obtain ⟨lifecycle, found⟩ := has
  have unnoted {after : Scene} (same : after.healthHistory = world.healthHistory) :
      ¬world.Noted after agent.id receipt observed := by
    rintro ⟨-, grown⟩
    rw [Scene.historyOf, same, ← Scene.historyOf] at grown
    exact absurd (congrArg List.length grown) (by simp)
  unfold observeAgent
  cases directory : world.stateDirectory with
  | none =>
    have failed : perform .stateDirectory world = (.error (.host "state database has no parent"),
        world) := by simp [perform, directory]
    rw [alone_bind_error (alone_attempt_error failed)]
    exact iff_of_false (unnoted rfl) fun notes => by simp [Scene.Notes, directory] at notes
  | some path =>
    have succeeded : perform .stateDirectory world = (.ok path, world) := by
      simp [perform, directory]
    rw [alone_bind_ok (alone_attempt_eq_ok.mpr succeeded),
      alone_bind_ok (alone_attempt_eq_ok.mpr (Prod.ext found rfl))]
    by_cases records : ∃ seen, world.Records agent.id receipt seen
    · obtain ⟨seen, records⟩ := records
      obtain rfl : observed = seen := Except.ok.inj (inspected.symm.trans records.1)
      refine iff_of_true ?_ ⟨by rw [directory]; rfl, records.2⟩
      show world.Noted (alone perform (observeReceipt sha256 agent.id receipt) world).2 ..
      rw [alone_observeReceipt sha256 records]
      obtain ⟨receipts, history⟩ := syncSupervisorLogs_same sha256 agent.id (launchIdOf agent.id)
        (world.recorded agent.id receipt observed)
      unfold Scene.Noted Scene.historyOf
      rw [receipts, history]
      exact ⟨Function.update_self .., by simp [Scene.recorded, healthEntry]⟩
    · obtain ⟨error, after, failed, same⟩ := alone_observeReceipt_error sha256 records
      show world.Noted (alone perform (observeReceipt sha256 agent.id receipt) world).2 .. ↔ _
      rw [failed]
      exact iff_of_false (unnoted same) fun notes => records ⟨observed, inspected, notes.2⟩

/-- A pass notes an agent if what is written for the agent can be written and the turn of every
agent listed before it succeeds. -/
theorem observeDynamicAgents_notes_iff (keyed : KeyedById scene.store.database.agentSpecs)
    (listed : SqliteStore.listAgents none scene.store.database = before ++ agent :: after)
    (has : scene.Has agent.id receipt)
    (inspected : (scene.turns agent.id).inspect receipt = .ok observed) :
    scene.Noted (alone perform (observeDynamicAgents sha256) scene).2 agent.id receipt observed ↔
      scene.storeUnavailable = false ∧ scene.Notes agent.id ∧
        ∀ earlier ∈ before, scene.Fine earlier := by
  obtain ⟨apart, own⟩ := listed_distinct keyed listed
  have unnoted : ¬scene.Noted scene agent.id receipt observed := fun noted =>
    absurd (congrArg List.length noted.2) (by simp)
  unfold observeDynamicAgents
  cases available : scene.storeUnavailable with
  | true =>
    have failed : perform .listAgents scene = (.error .database, scene) := by
      simp [perform, available]
    rw [alone_bind_error (alone_attempt_error failed)]
    exact iff_of_false unnoted fun notes => Bool.noConfusion notes.1
  | false =>
    have lists : perform .listAgents scene = (.ok (before ++ agent :: after), scene) := by
      simp [perform, available, listed]
    rw [alone_bind_ok (alone_attempt_eq_ok.mpr lists)]
    have agrees (item : AgentSpec) (world : Scene) := observeAgent_agreesOff sha256 item world
    refine (forEach_brings_iff (fun item world => world.Fine item)
      (fun world => (world.historyOf agent.id = scene.historyOf agent.id ∧
        world.receipts agent.id = scene.receipts agent.id) ∧ world.turns = scene.turns)
      (fun world => scene.Noted world agent.id receipt observed)
      (fun world => world.Notes agent.id)
      (fun item _ world => returns_observeAgent sha256) (apart.imp ?_) ?_ ?_ ⟨⟨rfl, rfl⟩, rfl⟩
      unnoted).trans ?_
    · intro first second differs world
      exact (agrees first world).fine differs
    · intro item member world
      have differs := own item member
      have same := agrees item world
      refine ⟨?_, ?_, ?_⟩
      · rw [same.history _ differs, same.receipts _ differs, same.turns]
      · unfold Scene.Noted
        rw [same.history _ differs, same.receipts _ differs]
      · unfold Scene.Notes
        rw [same.stateDirectory, same.turns]
    · rintro world ⟨⟨history, receipts⟩, turns⟩
      have noted := @observeAgent_notes sha256 agent receipt observed world ?_ (turns ▸ inspected)
      · unfold Scene.Noted at noted ⊢
        rw [turns, history] at noted
        exact noted
      · obtain ⟨lifecycle, found⟩ := has
        exact ⟨lifecycle, by rw [Scene.getReceipt, receipts]; exact found⟩
    · simp only [true_and]
      exact and_comm

end Observation

/-! ### Both loops -/

open Observation

/-- At startup an agent whose own configuration resolves is queued exactly if the daemon works and
the configuration of every agent listed before it resolves; and a pass over the running agents
notes an agent whose own receipt can be read and inspected exactly if what is written for it can be
written and the turn of every agent listed before it succeeds. -/
theorem agent_failures_contained_iff (sha256 : String → String) (before after : List AgentSpec)
    (agent : AgentSpec) :
    (∀ world : World, KeyedById world.db.agentSpecs →
        SqliteStore.listAgents none world.db = before ++ agent :: after → world.Resolves agent →
        (.startupAgent agent.id ∈
            (alone (BuzzServer.perform .main) startupLoop world.reboot).2.queue ↔
          world.Works ∧ ∀ earlier ∈ before, world.Resolves earlier)) ∧
      ∀ (scene : Scene) (receipt observed : Local.ProcessReceipt),
        KeyedById scene.store.database.agentSpecs →
        SqliteStore.listAgents none scene.store.database = before ++ agent :: after →
        scene.Has agent.id receipt → (scene.turns agent.id).inspect receipt = .ok observed →
        (scene.Noted (alone Observation.perform (Observation.observeDynamicAgents sha256) scene).2
            agent.id receipt observed ↔
          scene.storeUnavailable = false ∧ scene.Notes agent.id ∧
            ∀ earlier ∈ before, scene.Fine earlier) :=
  ⟨fun _ keyed listed resolves => startupLoop_queues_iff keyed listed resolves,
    fun _ _ _ keyed listed has inspected =>
      observeDynamicAgents_notes_iff sha256 keyed listed has inspected⟩

namespace Deployment

def secondAgent : AgentSpec := { supervisedAgent with id := ⟨2⟩ }

/-- A host with two agents, one of which has a file with the given text. -/
def pairHost (text : Option FileText) : World :=
  { host with
    db := { host.db with
      agentSpecs := ((∅ : Table AgentId AgentSpec).insert ⟨1⟩ supervisedAgent).insert ⟨2⟩
        secondAgent }
    files := ⟨text.elim ∅ fun text => (∅ : Table AgentId FileText).insert ⟨1⟩ text, ∅, ∅⟩ }

def pairReceipt : Local.ProcessReceipt :=
  Local.startReceipt (Local.sampleLaunch 2) none "1000-0" 4711 1000 (some 100) .configured

/-- Two agents with processes, and what is stored as the receipt of the first. -/
def pairScene (first : Observation.ReceiptText) : Observation.Scene where
  stateDirectory := some "/var/lib/buzz"
  storeUnavailable := false
  store := ⟨(pairHost none).db, .empty⟩
  receipts id := if id = ⟨1⟩ then first else .receipt ⟨pairReceipt, none⟩
  healthHistory := []
  turns _ := ⟨.ok, true, true, true, fun _ => .notFound, 1000, 1⟩

theorem pair_keyed : KeyedById (pairHost none).db.agentSpecs := by
  have keys : ∀ entry ∈ (pairHost none).db.agentSpecs.entries, entry.2.id = entry.1 := by
    decide +kernel
  exact fun id agent found => keys ⟨id, agent⟩ (AList.mem_lookup_iff.mp found)

theorem resolves_of_starts {agent : AgentSpec}
    (starts : (alone (perform .main) (startAgent agent) world).1.toOption.isSome = true) :
    world.Resolves agent := by
  refine ((returns_startAgent agent world).mp ?_).1
  unfold Returns
  cases returned : (alone (perform .main) (startAgent agent) world).1 with
  | ok value => exact ⟨value, rfl⟩
  | error error =>
    rw [returned] at starts
    cases starts

end Deployment

open Deployment Observation

/-- Two agents in order are both queued, and the second is noted. -/
theorem agent_failures_contained_pair :
    .startupAgent ⟨2⟩ ∈ (alone (BuzzServer.perform .main) startupLoop
        (pairHost none).reboot).2.queue ∧
      (pairScene .missing).Noted (alone Observation.perform
        (Observation.observeDynamicAgents id) (pairScene .missing)).2 ⟨2⟩ pairReceipt
        pairReceipt := by
  obtain ⟨startup, pass⟩ := agent_failures_contained_iff id [supervisedAgent] [] secondAgent
  have listed : SqliteStore.listAgents none (pairHost none).db =
      [supervisedAgent] ++ [secondAgent] := by decide +kernel
  refine ⟨(startup _ pair_keyed listed (resolves_of_starts (by decide +kernel))).mpr
    ⟨⟨rfl, rfl⟩, ?_⟩, (pass (pairScene .missing) _ _ pair_keyed listed ⟨none, rfl⟩ rfl).mpr
      ⟨rfl, ⟨rfl, rfl, rfl⟩, ?_⟩⟩
  · simpa using resolves_of_starts (by decide +kernel)
  · simpa using ⟨rfl, .inl rfl⟩

/-- A file that is no configuration, and a receipt that is none, of the first agent: the second one
is neither queued at startup nor inspected by a pass. -/
theorem agent_failures_spread : ((pairHost (some (.other "" none))).Resolves secondAgent ∧
      .startupAgent ⟨2⟩ ∉ (alone (BuzzServer.perform .main) startupLoop
        (pairHost (some (.other "" none))).reboot).2.queue) ∧
    (pairScene .malformed).Has ⟨2⟩ pairReceipt ∧
      ((pairScene .malformed).turns ⟨2⟩).inspect pairReceipt = .ok pairReceipt ∧
      (alone Observation.perform (Observation.observeDynamicAgents id)
        (pairScene .malformed)).2.healthHistory = [] :=
  ⟨⟨resolves_of_starts (by decide +kernel), by decide +kernel⟩, ⟨none, rfl⟩, rfl, by decide +kernel⟩

end BuzzServer
