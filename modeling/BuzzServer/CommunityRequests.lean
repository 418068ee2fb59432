/-
This file is about communities that were removed.

A community is stored by the request that joins it, under an id nobody has used,
and written again by the requests that rename it. A rename reads the community
and writes it back in two statements, and the write inserts the row if it is not
there. A removal between the two is undone: the community is back, without its
agents. As long as every rename finds its community still there when it writes,
a removed community never returns.
-/

import BuzzServer.Concurrent.Auxiliary
import BuzzServer.Daemon.Effects
import BuzzServer.Daemon.Inventory
import BuzzServer.Daemon.Schedule

namespace BuzzServer

open Relational Concurrent Discipline BuzzServer.SqliteStore Discipline.Triple Request World

/-! ### The table of communities -/

/-- The community an action writes. -/
def Action.writesCommunity {Response : Type} : Action Response → Option CommunityConfig
  | .putCommunity config => some config
  | _ => none

/-- The community an action removes. -/
def Action.removesCommunity {Response : Type} : Action Response → Option CommunityConfigId
  | .deleteCommunityWithDeletedAgents id _ => some id
  | _ => none

variable {world : World}

section

variable {thread : Thread}

/-- Only a method that writes a community changes the table. -/
theorem Database.Aside.communities {before after : Database} {audited : Option NewAuditRecord}
    (aside : before.Aside none audited after) :
    after.communityConfigs = before.communityConfigs := by
  cases aside <;> rfl

variable (thread world)

/-- A removal that commits erases the row of its community, and one that fails erases none. -/
theorem deleteCommunity_communities (id : CommunityConfigId) (now : Int) :
    ((∃ error, (perform thread (.deleteCommunityWithDeletedAgents id now) world).1 = .error error) ∧
        (perform thread (.deleteCommunityWithDeletedAgents id now) world).2.db.communityConfigs =
          world.db.communityConfigs) ∨
      id ∈ world.db.communityConfigs ∧ (perform thread (.deleteCommunityWithDeletedAgents id now)
          world).2.db.communityConfigs = world.db.communityConfigs.erase id := by
  simp only [perform]
  rcases method_cases_of (deleteCommunityWithDeletedAgents_cases world.faults.writes
      world.db id now world.nextUuid) with
    ⟨error, failed⟩ | ⟨same, ids, removed, outbox, stored, -, removal, -, done⟩
  · rw [failed]
    exact .inl ⟨⟨error, rfl⟩, rfl⟩
  · rw [same, done]
    refine .inr ⟨stored, ?_⟩
    rw [removal.communities]

/-- What an action can do to the table of communities: nothing, write one, or remove one. -/
theorem perform_communities ⦃Response : Type⦄ (action : Action Response) :
    (perform thread action world).2.db.communityConfigs = world.db.communityConfigs ∨
      (∃ config, action.writesCommunity = some config ∧
        (perform thread action world).2.db.communityConfigs =
          world.db.communityConfigs.insert config.id config) ∨
      ∃ id, action.removesCommunity = some id ∧
        (perform thread action world).2.db.communityConfigs =
          world.db.communityConfigs.erase id := by
  cases action with
  | putCommunity config =>
    simp only [perform]
    generalize tables : (world.method (putCommunity world.faults.writes config)).2 = after
    have aside : world.db.Aside (some config) none after :=
      tables ▸ method_aside fun database => putCommunity_aside _ database config
    cases aside with
    | nothing => exact .inl rfl
    | community => exact .inr (.inl ⟨config, rfl, rfl⟩)
  | deleteCommunityWithDeletedAgents id now =>
    rcases deleteCommunity_communities world thread id now with ⟨-, kept⟩ | ⟨-, erased⟩
    · exact .inl kept
    · exact .inr (.inr ⟨id, rfl, erased⟩)
  | putAgent spec =>
    refine .inl ?_
    simp only [perform]
    rcases method_cases_of (putAgent_cases world.faults.writes world.db spec) with
      ⟨error, failed⟩ | ⟨same, -, done⟩
    · rw [failed]
    · rw [same, done]
  | applyAgentCommand command =>
    refine .inl ?_
    simp only [perform]
    rcases method_cases_of (applyAgentCommand_cases world.faults.writes command
        world.db) with ⟨error, failed⟩ | ⟨same, ⟨_, _, -, -, -, replayed⟩ | ⟨-, accepted⟩⟩
    · rw [failed]
    · rw [same, replayed]
    · rw [same, accepted]
      rfl
  | transitionOperation id next errorCode now =>
    refine .inl ?_
    simp only [perform]
    rcases method_cases_of (transitionOperation_cases world.faults.writes world.db id next
        errorCode now) with ⟨error, failed⟩ | ⟨same, _, -, -, done⟩
    · rw [failed]
    · rw [same, done]
  | completePurge agentId id now audit =>
    refine .inl ?_
    simp only [perform]
    rcases method_cases_of (completePurge_cases world.faults.writes world.db agentId id now
        audit) with ⟨error, failed⟩ | ⟨same, _, _, _, -, -, -, -, -, -, removal, -, done⟩
    · rw [failed]
    · rw [same, done]
      exact removal.communities
  | appendAudit record =>
    exact .inl (method_aside fun database => appendAudit_aside _ database record).communities
  | applyDraftCommand draft scope key hash audit =>
    exact .inl (method_aside fun database =>
      applyDraftCommand_aside _ database draft scope key hash audit).communities
  | recordRelayProjection kind subjectId scope =>
    exact .inl (method_aside fun database =>
      recordRelayProjection_aside _ database kind subjectId scope).communities
  | enqueueRelayPublication publication =>
    exact .inl (method_aside fun database =>
      enqueueRelayPublication_aside _ database publication).communities
  | _ => exact .inl rfl

end

/-! ### Who writes which community -/

/-- What a thread did with communities: the id it drew for a join that is not written yet,
and the id of the community it read last. -/
structure CommunityNote where
  (joining read : Option CommunityConfigId)

def CommunityNote.blank : CommunityNote := ⟨none, none⟩

/-- How the notes of a thread follow its actions. -/
def noteCommunity (thread : Thread) ⦃Response : Type⦄ (action : Action Response) (world : World)
    (notes : Thread → CommunityNote) : Thread → CommunityNote :=
  match action with
  | .newCommunityId => Function.update notes thread ⟨some ⟨world.nextUuid⟩, none⟩
  | .getCommunity id =>
      Function.update notes thread
        ⟨(notes thread).joining, (world.db.communityConfigs.lookup id).map CommunityConfig.id⟩
  | .putCommunity _ => Function.update notes thread .blank
  | _ => notes

/-- The notes of all threads; a restart loses them. -/
def communityNotes : Auxiliary Thread Action World (Thread → CommunityNote) where
  act := noteCommunity
  restart := fun _ _ => .blank

/-- The daemon with the notes on communities. -/
def notedDaemon (setting : Setting) : System Thread Action (World × (Thread → CommunityNote)) :=
  (daemon setting).annotated communityNotes

/-- A community that was read is written back while it is still stored. -/
def writtenBackStored : Condition Thread Action (World × (Thread → CommunityNote)) :=
  fun thread _ action state => ∀ config, action.writesCommunity = some config →
    (state.2 thread).read = some config.id → config.id ∈ state.1.db.communityConfigs

/-- The terms on which the threads write communities: a thread writes the community of the id
it has drawn, or the one it has read. -/
def writers : Discipline Thread Action (World × (Thread → CommunityNote)) where
  invariant := fun _ => True
  rely := fun thread before after => after.2 thread = before.2 thread
  duty := fun thread _ action state => ∀ config, action.writesCommunity = some config →
    (state.2 thread).joining = some config.id ∨ (state.2 thread).read = some config.id
  idle := fun _ _ => True

variable {setting : Setting}

section

variable {thread : Thread}
variable {admits : Condition Thread Action (World × (Thread → CommunityNote))}

theorem noteCommunity_of_ne {other : Thread} (different : other ≠ thread) ⦃Response : Type⦄
    (action : Action Response) (world : World) (notes : Thread → CommunityNote) :
    noteCommunity thread action world notes other = notes other := by
  unfold noteCommunity
  split
  all_goals first | exact Function.update_of_ne different _ _ | rfl

/-- No action disturbs the notes of another thread. -/
theorem writers_keeps ⦃Response : Type⦄ (action : Action Response)
    (state : World × (Thread → CommunityNote)) :
    writers.Keeps (notedDaemon setting) thread action state :=
  ⟨trivial, fun _ different => noteCommunity_of_ne different action state.1 state.2⟩

variable (assertion : CommunityNote → Prop)

theorem writers_stable : writers.Stable thread fun state => assertion (state.2 thread) := by
  intro before after tolerated _ _ holds
  rw [show after.2 thread = before.2 thread from tolerated]
  exact holds

/-- A program that writes no community meets the terms. -/
theorem writers_within {Result : Type} {kinds : List ActionKind} {program : Program Action Result}
    (within : Within kinds program) (listed : decide (ActionKind.putCommunity ∈ kinds) = false) :
    writers.Triple (notedDaemon setting) admits thread (fun _ => True) program fun _ _ => True := by
  refine frame (fun _ _ _ _ _ _ => trivial) (within.mono ?_)
  intro Response action member state _ _ _
  refine ⟨fun config written => ?_, writers_keeps action state, trivial⟩
  cases action with
  | putCommunity other => exact absurd member (by rw [Action.kind, listed]; simp)
  | _ => cases written

theorem writers_valid {Result : Type} (checked : Except ValidationError Result) :
    writers.Triple (notedDaemon setting) admits thread (fun state => assertion (state.2 thread))
      (valid checked).run
      (onOutcome (fun value state => checked = .ok value ∧ assertion (state.2 thread))
        fun _ _ => True) := by
  cases checked with
  | ok value => exact done fun _ _ holds => ⟨rfl, holds⟩
  | error error => exact done fun _ _ _ => trivial

/-- A thread may write the community it has noted. -/
theorem writers_putCommunity (config : CommunityConfig) :
    writers.Triple (notedDaemon setting) admits thread
      (fun state => (state.2 thread).joining = some config.id ∨
        (state.2 thread).read = some config.id)
      (store (.putCommunity config)).run (onOutcome (fun _ _ => True) fun _ _ => True) := by
  refine attempt (writers_stable fun note =>
    note.joining = some config.id ∨ note.read = some config.id) ?_
  intro state _ noted _
  refine ⟨fun other written => ?_, writers_keeps _ state, ?_⟩
  · cases written
    exact noted
  · cases ((notedDaemon setting).perform thread (.putCommunity config) state).1 <;> trivial

theorem writers_joinCommunity (request : JoinCommunityRequest) :
    writers.Triple (notedDaemon setting) admits thread (fun _ => True)
      (joinCommunity request).run (onOutcome (fun _ _ => True) fun _ _ => True) := by
  have draws : writers.Triple (notedDaemon setting) admits thread (fun _ => True)
      (always .newCommunityId).run
      (onOutcome (fun id state => (state.2 thread).joining = some id) fun _ _ => True) := by
    refine always (fun _ _ _ _ _ _ => trivial) fun state _ _ _ =>
      ⟨fun _ written => (by cases written), writers_keeps _ state, ?_⟩
    show (Function.update state.2 thread ⟨some ⟨state.1.nextUuid⟩, none⟩ thread).joining = _
    rw [Function.update_self]
    rfl
  refine fallibleBind draws fun id => ?_
  refine fallibleBind (writers_valid (fun note => note.joining = some id) _) fun _ => ?_
  refine fallibleBind (consequence (fun _ _ holds => holds.2)
    (writers_valid (fun note => note.joining = some id) _) fun _ _ holds => holds)
    fun community => ?_
  have verifies : writers.Triple (notedDaemon setting) admits thread
      (fun state => (state.2 thread).joining = some community.id)
      (Fallible.attempt (fun error => error) (.verifyCommunityJoin community)).run
      (onOutcome (fun _ state => (state.2 thread).joining = some community.id) fun _ _ => True) :=
    fallibleFrame (writers_stable fun note => note.joining = some community.id)
      (Fallible.uses_attempt fun state _ holds _ =>
        ⟨fun _ written => (by cases written), writers_keeps _ state, holds⟩)
      fun _ _ _ => trivial
  refine fallibleBind (consequence ?_ verifies fun _ _ holds => holds) fun _ => ?_
  · intro state _ holds
    rw [withIdentityPubkey_id holds.1]
    exact holds.2
  refine fallibleBind (consequence (fun _ _ holds => .inl holds)
    (writers_putCommunity community) fun _ _ holds => holds) fun _ => ?_
  exact done fun _ _ _ => trivial

theorem writers_updateCommunity (request : UpdateCommunityRequest) :
    writers.Triple (notedDaemon setting) admits thread (fun _ => True)
      (updateCommunity request).run (onOutcome (fun _ _ => True) fun _ _ => True) := by
  have reads : writers.Triple (notedDaemon setting) admits thread (fun _ => True)
      (store (.getCommunity request.communityId)).run
      (onOutcome (fun row state => (state.2 thread).read = row.map CommunityConfig.id)
        fun _ _ => True) := by
    refine attempt (fun _ _ _ _ _ _ => trivial) fun state _ _ _ =>
      ⟨fun _ written => (by cases written), writers_keeps _ state, ?_⟩
    show onOutcome _ _ (state.1.query fun db => db.communityConfigs.lookup request.communityId) _
    unfold query
    split
    · trivial
    · show (Function.update state.2 thread _ thread).read = _
      rw [Function.update_self]
  refine fallibleBind reads fun row => ?_
  cases row with
  | none => exact done fun _ _ _ => trivial
  | some community =>
    have finds : writers.Triple (notedDaemon setting) admits thread
        (fun state => (state.2 thread).read = some community.id)
        (found (some community)).run
        (onOutcome (fun found state => (state.2 thread).read = some found.id) fun _ _ => True) :=
      done fun _ _ => id
    refine fallibleBind finds fun found => ?_
    refine fallibleBind (writers_valid (fun note => note.read = some found.id) _) fun _ => ?_
    refine fallibleBind (consequence (fun _ _ holds => .inr holds.2)
      (writers_putCommunity _) fun _ _ => id) fun _ => ?_
    exact done fun _ _ _ => trivial

theorem writers_serve (retentionSeconds : Int) (actor : AuthenticatedPrincipal)
    (request : ApiRequest) :
    writers.Triple (notedDaemon setting) admits thread (fun _ => True)
      (request.serve retentionSeconds actor) fun _ _ => True := by
  have answers : ∀ {Result : Type} (program : Request Result),
      writers.Triple (notedDaemon setting) admits thread (fun _ => True) program.run
        (onOutcome (fun _ _ => True) fun _ _ => True) →
      writers.Triple (notedDaemon setting) admits thread (fun _ => True)
        (program.run.bind fun _ => .done ()) fun _ _ => True :=
    fun _ triple => bind triple fun _ => done fun _ _ _ => trivial
  have quietly : ∀ {Result : Type} {kinds : List ActionKind} {program : Request Result},
      Within kinds program.run → decide (ActionKind.putCommunity ∈ kinds) = false →
      writers.Triple (notedDaemon setting) admits thread (fun _ => True)
        (program.run.bind fun _ => .done ()) fun _ _ => True :=
    fun within listed =>
      bind (writers_within within listed) fun _ => done fun _ _ _ => trivial
  cases request with
  | agent request => exact quietly (within_submit retentionSeconds actor request) rfl
  | submitDraft request => exact quietly (within_submitDraft actor request) rfl
  | joinCommunity request => exact answers _ (writers_joinCommunity request)
  | updateCommunity request => exact answers _ (writers_updateCommunity request)
  | removeCommunity id => exact quietly (within_removeCommunity id) rfl

theorem writers_lawful : writers.Lawful (notedDaemon setting) admits where
  rely_refl := fun _ _ => rfl
  rely_trans := fun _ _ _ _ first second => second.trans first
  idle_stable := fun _ _ _ _ _ _ _ => trivial
  start := by
    rintro thread ⟨world, notes⟩ program ⟨after, later⟩ ⟨starts, kept⟩ _ _
    obtain rfl : later = notes := kept
    refine ⟨trivial, fun _ _ => rfl, ?_⟩
    cases starts with
    | request number actor request serving =>
      exact (writers_serve setting.retentionSeconds actor request).meets _ trivial trivial
    | retentionTick serving =>
      exact (writers_within (within_retentionTick setting.retentionSeconds) rfl).meets _ trivial
        trivial
    | @receive world work rest queued =>
      exact (writers_within (within_process work) rfl).meets _ trivial trivial
    | timeout idle => exact (writers_within within_observePass rfl).meets _ trivial trivial
  environment := by
    rintro ⟨world, notes⟩ ⟨after, later⟩ ⟨-, kept⟩ -
    exact ⟨trivial, fun thread => congrFun kept thread⟩
  restart := by
    rintro ⟨world, notes⟩ ⟨after, later⟩ threads ⟨⟨-, -, boots⟩, -⟩ -
    refine ⟨trivial, fun thread => ?_⟩
    rw [boots]
    cases thread with
    | main => exact (writers_within within_startup rfl).meets _ trivial trivial
    | worker => trivial
    | request number => trivial

end

/-! ### Communities that are gone -/

/-- Every community that is stored has an id that was drawn. -/
def World.CommunitiesDrawn (world : World) : Prop :=
  ∀ id ∈ world.db.communityConfigs, id.uuid < world.nextUuid

/-- The ids drawn for joins that are not written yet: each belongs to one thread, and no
community has it. -/
structure JoinsFresh (state : World × (Thread → CommunityNote)) : Prop where
  drawn : state.1.CommunitiesDrawn
  joining : ∀ thread id, (state.2 thread).joining = some id →
    id.uuid < state.1.nextUuid ∧ id ∉ state.1.db.communityConfigs
  owner : ∀ thread other id, (state.2 thread).joining = some id →
    (state.2 other).joining = some id → thread = other

/-- A community that is gone for good: its id was drawn, and no join will write it. -/
structure Gone (id : CommunityConfigId) (state : World × (Thread → CommunityNote)) : Prop where
  drawn : id.uuid < state.1.nextUuid
  absent : id ∉ state.1.db.communityConfigs
  unowned : ∀ thread, (state.2 thread).joining ≠ some id

variable {notes : Thread → CommunityNote}

/-- The id an action of a join draws. -/
theorem joining_noteCommunity {thread other : Thread} {Response : Type} {action : Action Response}
    {id : CommunityConfigId}
    (joins : (noteCommunity thread action world notes other).joining = some id) :
    (notes other).joining = some id ∧ (other = thread → action.writesCommunity = none) ∨
      other = thread ∧ id = ⟨world.nextUuid⟩ ∧ action.kind = .newCommunityId := by
  by_cases same : other = thread
  · subst same
    cases action with
    | newCommunityId =>
      simp only [noteCommunity, Function.update_self] at joins
      exact .inr ⟨rfl, (Option.some.inj joins).symm, rfl⟩
    | getCommunity asked =>
      simp only [noteCommunity, Function.update_self] at joins
      exact .inl ⟨joins, fun _ => rfl⟩
    | putCommunity config =>
      simp only [noteCommunity, Function.update_self] at joins
      cases joins
    | _ => exact .inl ⟨joins, fun _ => rfl⟩
  · rw [noteCommunity_of_ne same] at joins
    exact .inl ⟨joins, fun equal => absurd equal same⟩

theorem nextUuid_newCommunityId (thread : Thread) {Response : Type} {action : Action Response}
    (draws : action.kind = .newCommunityId) (world : World) :
    (perform thread action world).2.db = world.db ∧
      (perform thread action world).2.nextUuid = world.nextUuid + 1 := by
  cases action with
  | newCommunityId => exact ⟨rfl, rfl⟩
  | getAgent slot => cases slot <;> cases draws
  | enqueueRelayPublication publication =>
    simp only [Action.kind] at draws
    split at draws <;> cases draws
  | _ => cases draws

section

variable {thread : Thread} {Response : Type} {action : Action Response}
variable {id : CommunityConfigId}

/-- A stored community was stored before, or is the one that is written. -/
theorem mem_perform_communities
    (stored : id ∈ (perform thread action world).2.db.communityConfigs) :
    id ∈ world.db.communityConfigs ∨
      ∃ config, action.writesCommunity = some config ∧ config.id = id := by
  rcases perform_communities world thread action with kept | ⟨config, written, after⟩ |
    ⟨removed, -, after⟩
  · rw [kept] at stored
    exact .inl stored
  · rw [after, AList.mem_insert] at stored
    rcases stored with equal | stored
    · exact .inr ⟨config, written, equal.symm⟩
    · exact .inl stored
  · rw [after, AList.mem_erase] at stored
    exact .inl stored.2

theorem JoinsFresh.perform (fresh : JoinsFresh (world, notes))
    (duty : writers.duty thread action (world, notes))
    (admitted : writtenBackStored thread action (world, notes)) :
    JoinsFresh ((perform thread action world).2, noteCommunity thread action world notes) := by
  have later := (perform_effect thread world action).nextUuid_le
  refine ⟨fun id stored => ?_, fun other id joins => ?_, fun one two id first second => ?_⟩
  · rcases mem_perform_communities stored with stored | ⟨config, written, rfl⟩
    · exact Nat.lt_of_lt_of_le (fresh.drawn id stored) later
    · rcases duty config written with joins | read
      · exact Nat.lt_of_lt_of_le (fresh.joining thread _ joins).1 later
      · exact Nat.lt_of_lt_of_le (fresh.drawn _ (admitted config written read)) later
  · rcases joining_noteCommunity joins with ⟨before, silent⟩ | ⟨rfl, rfl, draws⟩
    · obtain ⟨drawn, absent⟩ := fresh.joining other id before
      refine ⟨Nat.lt_of_lt_of_le drawn later, fun stored => ?_⟩
      rcases mem_perform_communities stored with stored | ⟨config, written, rfl⟩
      · exact absent stored
      -- The community that is written is the one of this thread's join, and no other thread's.
      · rcases duty config written with own | read
        · rw [silent (fresh.owner other thread _ before own)] at written
          cases written
        · exact absent (admitted config written read)
    · obtain ⟨same, next⟩ := nextUuid_newCommunityId other draws world
      rw [next, same]
      exact ⟨Nat.lt_succ_self _, fun stored => absurd (fresh.drawn _ stored) (Nat.lt_irrefl _)⟩
  · rcases joining_noteCommunity first with ⟨one_before, -⟩ | ⟨rfl, rfl, -⟩
    · rcases joining_noteCommunity second with ⟨two_before, -⟩ | ⟨rfl, rfl, -⟩
      · exact fresh.owner one two id one_before two_before
      · exact absurd (fresh.joining one _ one_before).1 (Nat.lt_irrefl _)
    · rcases joining_noteCommunity second with ⟨two_before, -⟩ | ⟨rfl, -, -⟩
      · exact absurd (fresh.joining two _ two_before).1 (Nat.lt_irrefl _)
      · rfl

theorem Gone.perform (gone : Gone id (world, notes))
    (duty : writers.duty thread action (world, notes))
    (admitted : writtenBackStored thread action (world, notes)) :
    Gone id ((perform thread action world).2, noteCommunity thread action world notes) := by
  refine ⟨Nat.lt_of_lt_of_le gone.drawn (perform_effect thread world action).nextUuid_le,
    fun stored => ?_, fun other joins => ?_⟩
  · rcases mem_perform_communities stored with stored | ⟨config, written, rfl⟩
    · exact gone.absent stored
    · rcases duty config written with joins | read
      · exact gone.unowned thread joins
      · exact gone.absent (admitted config written read)
  · rcases joining_noteCommunity joins with ⟨before, -⟩ | ⟨-, rfl, -⟩
    · exact gone.unowned other before
    · exact absurd gone.drawn (Nat.lt_irrefl _)

/-- A removal that commits leaves its community gone for good. -/
theorem JoinsFresh.gone_of_removal (fresh : JoinsFresh (world, notes)) {now : Int}
    {ids : List AgentId}
    (commits : (BuzzServer.perform thread (.deleteCommunityWithDeletedAgents id now) world).1 =
      .ok ids) :
    Gone id ((BuzzServer.perform thread (.deleteCommunityWithDeletedAgents id now) world).2,
      notes) := by
  rcases deleteCommunity_communities world thread id now with ⟨⟨error, failed⟩, -⟩ | ⟨stored, after⟩
  · rw [failed] at commits
    cases commits
  · refine ⟨Nat.lt_of_lt_of_le (fresh.drawn id stored)
      (perform_effect thread world _).nextUuid_le, ?_, fun other joins => ?_⟩
    · rw [after, AList.mem_erase]
      exact fun remains => remains.1 rfl
    · exact (fresh.joining other id joins).2 stored

end

variable {pool : Pool Thread Action (World × (Thread → CommunityNote))}

section

/-- The pools with notes that the daemon reaches from a world whose communities were all
drawn, with no request in flight. -/
def NotedReachable (setting : Setting)
    (admits : Condition Thread Action (World × (Thread → CommunityNote)))
    (pool : Pool Thread Action (World × (Thread → CommunityNote))) : Prop :=
  ∃ world : World, world.CommunitiesDrawn ∧
    (notedDaemon setting).Reaches admits ((idlePool world).withNote fun _ => .blank) pool

/-- A thread commits the removal of a community. -/
def CommitsRemoval (setting : Setting) (id : CommunityConfigId)
    (pool next : Pool Thread Action (World × (Thread → CommunityNote))) : Prop :=
  ∃ thread now rest ids, pool.threads thread = .step (.deleteCommunityWithDeletedAgents id now)
      rest ∧
    (perform thread (.deleteCommunityWithDeletedAgents id now) pool.world.1).1 = .ok ids ∧
    next = (notedDaemon setting).act thread pool

theorem writers_holds_idle (world : World) : writers.Holds (notedDaemon setting) writtenBackStored
      ((idlePool world).withNote fun _ => .blank) :=
  ⟨trivial, fun _ => trivial⟩

/-- Along every run from a pool that keeps the terms, what the actions that do their duty
keep is kept: no start, restart or change around the daemon touches a community. -/
theorem writers_invariant {property : World × (Thread → CommunityNote) → Prop}
    {pool last : Pool Thread Action (World × (Thread → CommunityNote))}
    (reaches : (notedDaemon setting).Reaches writtenBackStored pool last)
    (terms : writers.Holds (notedDaemon setting) writtenBackStored pool)
    (initially : property pool.world)
    (act : ∀ thread ⦃Response : Type⦄ (action : Action Response) world notes,
      writers.duty thread action (world, notes) →
        writtenBackStored thread action (world, notes) → property (world, notes) →
          property ((perform thread action world).2, noteCommunity thread action world notes))
    (frame : ∀ world after notes, after.db.communityConfigs = world.db.communityConfigs →
      after.nextUuid = world.nextUuid → property (world, notes) → property (after, notes))
    (forget : ∀ world notes, property (world, notes) → property (world, fun _ => .blank)) :
    property last.world := by
  refine writers_lawful.invariant (fun _ _ _ _ => id) reaches terms initially ?_ ?_ ?_ ?_
  · intro thread Response action state _ duty admitted holds
    exact act thread action state.1 state.2 duty admitted holds
  · rintro thread ⟨world, notes⟩ program ⟨after, later⟩ ⟨starts, kept⟩ _ _ holds
    obtain rfl : later = notes := kept
    cases starts <;> exact frame world _ later rfl rfl holds
  · rintro ⟨world, notes⟩ ⟨after, later⟩ ⟨changes, kept⟩ _ holds
    obtain rfl : later = notes := kept
    cases changes <;> exact frame world _ later rfl rfl holds
  · rintro ⟨world, notes⟩ ⟨after, later⟩ threads ⟨⟨-, boots, -⟩, kept⟩ _ holds
    obtain rfl : after = world.reboot := boots
    obtain rfl : later = fun _ => .blank := kept
    exact frame world _ _ rfl rfl (forget world notes holds)

theorem JoinsFresh.frame {world after : World}
    (communities : after.db.communityConfigs = world.db.communityConfigs)
    (uuids : after.nextUuid = world.nextUuid) (fresh : JoinsFresh (world, notes)) :
    JoinsFresh (after, notes) := by
  refine ⟨fun id stored => ?_, fun thread id joins => ?_, fresh.owner⟩
  · rw [uuids]
    exact fresh.drawn id (communities ▸ stored)
  · rw [uuids, communities]
    exact fresh.joining thread id joins

/-- With no join under way, the ids of the joins are fresh. -/
theorem joinsFresh_blank (drawn : world.CommunitiesDrawn) :
    JoinsFresh (world, fun _ => .blank) where
  drawn := drawn
  joining := by
    intro thread id joins
    cases joins
  owner := by
    intro thread other id joins
    cases joins

theorem NotedReachable.joinsFresh (reachable : NotedReachable setting writtenBackStored pool) :
    JoinsFresh pool.world ∧ writers.Holds (notedDaemon setting) writtenBackStored pool := by
  obtain ⟨world, drawn, reaches⟩ := reachable
  refine ⟨?_, writers_lawful.holds reaches (writers_holds_idle world)⟩
  exact writers_invariant reaches (writers_holds_idle world) (joinsFresh_blank drawn)
    (fun _ _ _ _ _ duty admitted fresh => fresh.perform duty admitted)
    (fun _ _ _ communities uuids fresh => fresh.frame communities uuids)
    fun _ _ fresh => joinsFresh_blank fresh.drawn

/-- In every run of the daemon in which a community that was read is written back while it is
still stored: once the removal of a community has committed, no thread ever reads that
community again. -/
theorem removed_community_stays_removed {id : CommunityConfigId}
    {first removed last : Pool Thread Action (World × (Thread → CommunityNote))}
    (reachable : NotedReachable setting writtenBackStored first)
    (commits : CommitsRemoval setting id first removed)
    (later : (notedDaemon setting).Reaches writtenBackStored removed last) (thread : Thread)
    (community : CommunityConfig) :
    (perform thread (.getCommunity id) last.world.1).1 ≠ .ok (some community) := by
  obtain ⟨fresh, terms⟩ := reachable.joinsFresh
  obtain ⟨remover, now, rest, ids, running, committed, rfl⟩ := commits
  rw [System.act_of_step running] at later
  have held : writers.Holds (notedDaemon setting) writtenBackStored _ :=
    writers_lawful.holds_step (.act running fun _ written => (by cases written)) terms
  have gone := JoinsFresh.gone_of_removal fresh committed
  have stays : Gone id last.world := by
    refine writers_invariant later held gone
      (fun _ _ _ _ _ duty admitted gone => gone.perform duty admitted) ?_ ?_
    · intro world after notes communities uuids gone
      exact ⟨by rw [uuids]; exact gone.drawn, by rw [communities]; exact gone.absent, gone.unowned⟩
    · exact fun world notes gone => ⟨gone.drawn, gone.absent, fun _ joins => by cases joins⟩
  intro read
  simp only [perform, World.query] at read
  split at read
  · cases read
  · exact stays.absent (Table.mem_of_lookup (Except.ok.inj read))

end

/-! ### A rename around a removal -/

/-- The community a program removes next. -/
def removing : Program Action Unit → Option (CommunityConfigId × Int)
  | .step (.deleteCommunityWithDeletedAgents id now) _ => some (id, now)
  | _ => none

theorem commitsRemoval_of_next {id : CommunityConfigId} (now : Int) {thread : Thread}
    (next : removing (pool.threads thread) = some (id, now))
    (commits : (perform thread (.deleteCommunityWithDeletedAgents id now)
      pool.world.1).1.toBool = true) :
    CommitsRemoval setting id pool ((notedDaemon setting).act thread pool) := by
  unfold removing at next
  split at next
  · next running =>
    cases next
    cases outcome : (perform thread (.deleteCommunityWithDeletedAgents id now) pool.world.1).1 with
    | error error =>
      rw [outcome] at commits
      cases commits
    | ok ids => exact ⟨thread, now, _, ids, running, outcome, rfl⟩
  · cases next

/-- The condition on writing back, computed. -/
def writtenBackCheck : Check Thread Action (World × (Thread → CommunityNote)) :=
  fun thread _ action state =>
    match action.writesCommunity with
    | some config =>
        decide ((state.2 thread).read ≠ some config.id ∨ config.id ∈ state.1.db.communityConfigs)
    | none => true

theorem writtenBackStored_of_check (thread : Thread) ⦃Response : Type⦄ (action : Action Response)
    (state : World × (Thread → CommunityNote))
    (passes : writtenBackCheck thread action state = true) :
    writtenBackStored thread action state := by
  intro config written read
  simp only [writtenBackCheck, written, decide_eq_true_eq] at passes
  exact passes.resolve_left fun differs => differs read

namespace Deployment

def renameRequest : ApiRequest := .updateCommunity ⟨⟨0⟩, "renamed"⟩

def joinRequest : ApiRequest :=
  .joinCommunity ⟨"other", ⟨"wss://other/", "wss", some "other", "", none, none, none⟩,
    "00000000000000000000000000000000000000000000000000000000000000aa"⟩

/-- A rename has read the community, and a removal is about to commit. -/
def renameUnderWay : List Move :=
  [.request 0 admin renameRequest, .acts (.request 0) 1, .request 1 admin (.removeCommunity ⟨0⟩),
    .acts (.request 1) 2]

/-- A rename is over, and a removal is about to commit. -/
def renameOver : List Move :=
  answer renameRequest ++ [.request 1 admin (.removeCommunity ⟨0⟩), .acts (.request 1) 2]

/-- The pool before the removal. -/
def beforeRemoval (moves : List Move) : Pool Thread Action (World × (Thread → CommunityNote)) :=
  moves.foldl (playNoted communityNotes ⟨2592000, True⟩) ((idlePool host).withNote fun _ => .blank)

/-- The pool after the removal. -/
def afterRemoval (moves : List Move) : Pool Thread Action (World × (Thread → CommunityNote)) :=
  (notedDaemon ⟨2592000, True⟩).act (.request 1) (beforeRemoval moves)

/-- The pool after the removal and more moves. -/
def longAfterRemoval (moves later : List Move) :
    Pool Thread Action (World × (Thread → CommunityNote)) :=
  later.foldl (playNoted communityNotes ⟨2592000, True⟩) (afterRemoval moves)

end Deployment

theorem host_communitiesDrawn : Deployment.host.CommunitiesDrawn := by
  intro id stored
  rcases (AList.mem_insert _).mp stored with rfl | earlier
  · decide
  · exact absurd earlier (AList.notMem_empty id)

/-- A rename that read the community before its removal and writes it afterwards brings it
back. -/
theorem rename_undoes_removal : NotedReachable ⟨2592000, True⟩ (unrestricted Thread Action _)
        (Deployment.beforeRemoval Deployment.renameUnderWay) ∧
      CommitsRemoval ⟨2592000, True⟩ ⟨0⟩ (Deployment.beforeRemoval Deployment.renameUnderWay)
        (Deployment.afterRemoval Deployment.renameUnderWay) ∧
      (notedDaemon ⟨2592000, True⟩).Reaches (unrestricted Thread Action _)
        (Deployment.afterRemoval Deployment.renameUnderWay)
        (Deployment.longAfterRemoval Deployment.renameUnderWay [.acts (.request 0) 1]) ∧
      (perform (.request 2) (.getCommunity ⟨0⟩) (Deployment.longAfterRemoval
        Deployment.renameUnderWay [.acts (.request 0) 1]).world.1).1 =
          .ok (some { Deployment.community with displayName := "renamed" }) := by
  refine ⟨⟨Deployment.host, host_communitiesDrawn, reaches_noted (fun _ _ _ _ _ => trivial)
    Deployment.renameUnderWay (fun _ => trivial) (notedPasses_always ..)⟩,
    commitsRemoval_of_next 0 (by decide +kernel) (by decide +kernel),
    reaches_noted (fun _ _ _ _ _ => trivial) [.acts (.request 0) 1] (fun _ => trivial)
      (notedPasses_always ..), by decide +kernel⟩

/-- A community that was renamed and then removed does not come back, although a rename and a
join follow. -/
theorem removal_after_rename_lasts : (notedDaemon ⟨2592000, True⟩).Reaches writtenBackStored
        (Deployment.afterRemoval Deployment.renameOver)
        (Deployment.longAfterRemoval Deployment.renameOver
          (Deployment.answer Deployment.renameRequest ++
            Deployment.answer Deployment.joinRequest)) ∧
      ∀ thread community, (perform thread (.getCommunity ⟨0⟩) (Deployment.longAfterRemoval
        Deployment.renameOver (Deployment.answer Deployment.renameRequest ++
          Deployment.answer Deployment.joinRequest)).world.1).1 ≠ .ok (some community) := by
  have first : NotedReachable ⟨2592000, True⟩ writtenBackStored
      (Deployment.beforeRemoval Deployment.renameOver) :=
    ⟨Deployment.host, host_communitiesDrawn, reaches_noted writtenBackStored_of_check
      Deployment.renameOver (fun _ => trivial) (by decide +kernel)⟩
  have commits : CommitsRemoval ⟨2592000, True⟩ ⟨0⟩ (Deployment.beforeRemoval Deployment.renameOver)
      (Deployment.afterRemoval Deployment.renameOver) :=
    commitsRemoval_of_next 0 (by decide +kernel) (by decide +kernel)
  have later : (notedDaemon ⟨2592000, True⟩).Reaches writtenBackStored
      (Deployment.afterRemoval Deployment.renameOver)
      (Deployment.longAfterRemoval Deployment.renameOver
        (Deployment.answer Deployment.renameRequest ++ Deployment.answer Deployment.joinRequest)) :=
    reaches_noted writtenBackStored_of_check _ (fun _ => trivial) (by decide +kernel)
  exact ⟨later, removed_community_stays_removed first commits later⟩

end BuzzServer