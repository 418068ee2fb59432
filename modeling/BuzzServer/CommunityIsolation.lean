/-
This file is about what the removal of a community does to the relay.

A projection is recorded under the community it was published for, while the
relay knows it by its coordinate: the relay, the owner, the kind of event and
the tag. Two communities that were joined on one relay with one identity share
their coordinates. The removal takes down every projection of the community it
removes and never asks whether another community has recorded the same
coordinate. It spares the others exactly if no such coordinate is recorded for
another stored community, or the tombstone was in the outbox already.
-/

import BuzzServer.Storage.Effects

namespace BuzzServer

open Relational RelayProjectionRow RelayPublication SqliteStore Transaction

/-! ### Coordinates -/

/-- What the relay knows an event by. -/
structure RelayCoordinate where
  relayUrl : Url
  ownerPubkey : String
  kind : RelayProjectionKind
  dTag : String
  deriving DecidableEq

def RelayProjectionScope.coordinate (scope : RelayProjectionScope) (kind : RelayProjectionKind) :
    RelayCoordinate :=
  ⟨scope.relayUrl, scope.ownerPubkey, kind, scope.dTag⟩

def RelayProjectionRow.coordinate (row : RelayProjectionRow) : RelayCoordinate :=
  row.scope.coordinate row.kind

/-- The kind of event an outbox row takes down. -/
def RelayPublicationAction.tombstoned : RelayPublicationAction → Option RelayProjectionKind
  | .tombstoneManagedAgent => some .managedAgent
  | .tombstonePersona => some .persona
  | .syncManagedAgent | .syncPersona | .archiveIdentity => none

def RelayPublication.tombstoneOf (publication : RelayPublication) : Option RelayCoordinate :=
  publication.action.tombstoned.map publication.scope.coordinate

/-- The columns the outbox keeps unique determine what is taken down. -/
theorem tombstoneOf_of_uniqueKey {first second : RelayPublication}
    (same : first.uniqueKey = second.uniqueKey) : first.tombstoneOf = second.tombstoneOf := by
  obtain ⟨firstAction, firstScope, _, _⟩ := first
  obtain ⟨secondAction, secondScope, _, _⟩ := second
  simp only [uniqueKey, Prod.mk.injEq] at same
  obtain ⟨rfl, relay, owner, -, tag⟩ := same
  have coordinates : firstScope.coordinate = secondScope.coordinate := by
    funext kind
    rw [RelayProjectionScope.coordinate, relay, owner, tag]
    rfl
  rw [tombstoneOf, tombstoneOf, coordinates]

/-! ### The outbox -/

variable (outbox : List RelayPublication)

/-- An outbox row with the same unique columns is there. -/
def Pending (publication : RelayPublication) : Prop :=
  ∃ row ∈ outbox, row.uniqueKey = publication.uniqueKey

/-- The outbox after one more row, which is dropped if its unique columns are there. -/
def enqueueRow (publication : RelayPublication) : List RelayPublication :=
  if outbox.any (fun row => row.uniqueKey = publication.uniqueKey) then outbox
  else outbox ++ [publication]

theorem enqueuePublication_eq_enqueueRow (database : Database) (publication : RelayPublication) :
    database.enqueuePublication publication = { database with
        relayPublicationOutbox := enqueueRow database.relayPublicationOutbox publication } := by
  unfold Database.enqueuePublication enqueueRow
  split <;> rfl

section

variable {outbox : List RelayPublication} {publication row : RelayPublication}

theorem enqueueRow_of_pending (pending : Pending outbox publication) :
    enqueueRow outbox publication = outbox := by
  unfold enqueueRow
  rw [if_pos (by simpa [Pending] using pending)]

theorem enqueueRow_of_not_pending (missing : ¬Pending outbox publication) :
    enqueueRow outbox publication = outbox ++ [publication] := by
  unfold enqueueRow
  rw [if_neg (by simpa [Pending] using missing)]

theorem mem_enqueueRow : row ∈ enqueueRow outbox publication ↔
      row ∈ outbox ∨ row = publication ∧ ¬Pending outbox publication := by
  by_cases pending : Pending outbox publication
  · rw [enqueueRow_of_pending pending]
    simp [pending]
  · rw [enqueueRow_of_not_pending pending]
    simp [pending]

/-- Once enqueued, a publication is pending. -/
theorem pending_enqueueRow (outbox : List RelayPublication) (publication : RelayPublication) :
    Pending (enqueueRow outbox publication) publication := by
  by_cases pending : Pending outbox publication
  · rw [enqueueRow_of_pending pending]
    exact pending
  · exact ⟨publication, mem_enqueueRow.mpr (.inr ⟨rfl, pending⟩), rfl⟩

theorem subset_foldl_enqueueRow (publications outbox : List RelayPublication) :
    outbox ⊆ publications.foldl enqueueRow outbox := by
  induction publications generalizing outbox with
  | nil => exact List.Subset.refl _
  | cons publication rest inductionHypothesis =>
    intro row member
    exact inductionHypothesis _ (mem_enqueueRow.mpr (.inl member))

variable {publications : List RelayPublication}

/-- A row of the outbox after several publications was there before, or is one of them and
its unique columns were not there before. -/
theorem mem_of_mem_foldl_enqueueRow (member : row ∈ publications.foldl enqueueRow outbox) :
    row ∈ outbox ∨ row ∈ publications ∧ ¬Pending outbox row := by
  induction publications generalizing outbox with
  | nil => exact .inl member
  | cons publication rest inductionHypothesis =>
    rcases inductionHypothesis member with before | ⟨later, missing⟩
    · rcases mem_enqueueRow.mp before with earlier | ⟨rfl, fresh⟩
      · exact .inl earlier
      · exact .inr ⟨List.mem_cons_self, fresh⟩
    · refine .inr ⟨List.mem_cons_of_mem _ later, ?_⟩
      rintro ⟨other, present, same⟩
      exact missing ⟨other, mem_enqueueRow.mpr (.inl present), same⟩

/-- After several publications each of them is pending. -/
theorem pending_foldl_enqueueRow (member : publication ∈ publications) :
    Pending (publications.foldl enqueueRow outbox) publication := by
  induction publications generalizing outbox with
  | nil => cases member
  | cons head rest inductionHypothesis =>
    rcases List.mem_cons.mp member with rfl | later
    · obtain ⟨row, present, same⟩ := pending_enqueueRow outbox publication
      exact ⟨row, subset_foldl_enqueueRow rest _ present, same⟩
    · exact inductionHypothesis later

end

/-! ### What a removal enqueues -/

variable (database : Database) (community : CommunityConfigId)

/-- The publications that take an agent's projection down, if it has one. -/
def agentRemovals (now : Int) (id : AgentId) : List RelayPublication :=
  match database.relayProjectionState.lookup (community, .managedAgent, id.toText) with
  | none => []
  | some row =>
      [⟨.tombstoneManagedAgent, row.scope, id.toText, now⟩,
        ⟨.archiveIdentity, row.scope, id.toText, now⟩]

def personaRemoval (now : Int) (row : RelayProjectionRow) : RelayPublication :=
  ⟨.tombstonePersona, row.scope, row.subjectId, now⟩

/-- The publications of the removal of a community with these agents, in order. -/
def removalPublications (now : Int) (ids : List AgentId) : List RelayPublication :=
  ids.flatMap (agentRemovals database community now) ++
    (personaProjections community database).map (personaRemoval now)

namespace SqliteStore

variable {faults : WriteFaults} {community : CommunityConfigId} {now : Int}
  {database after : Database} {result : Unit}

theorem enqueueAgentRemoval_outbox {id : AgentId}
    (succeeded : enqueueAgentRemoval faults community id now database = .ok (result, after)) :
    after = { database with
      relayPublicationOutbox := (agentRemovals database community now id).foldl enqueueRow
        database.relayPublicationOutbox } := by
  unfold enqueueAgentRemoval at succeeded
  unfold agentRemovals
  cases found : database.relayProjectionState.lookup (community, .managedAgent, id.toText) with
  | none =>
    rw [found] at succeeded
    cases succeeded
    rfl
  | some row =>
    rw [found] at succeeded
    simp only [Transaction.bind_eq_ok, Transaction.writeAlways_eq_ok] at succeeded
    obtain ⟨_, _, ⟨-, rfl⟩, -, rfl⟩ := succeeded
    rw [enqueuePublication_eq_enqueueRow, enqueuePublication_eq_enqueueRow]
    rfl

theorem enqueuePersonaRemovals_outbox {rows : List RelayProjectionRow}
    (succeeded : enqueuePersonaRemovals faults now rows database = .ok (result, after)) :
    after = { database with
      relayPublicationOutbox := (rows.map (personaRemoval now)).foldl enqueueRow
        database.relayPublicationOutbox } := by
  induction rows generalizing database with
  | nil =>
    cases succeeded
    rfl
  | cons row rest inductionHypothesis =>
    simp only [enqueuePersonaRemovals, Transaction.bind_eq_ok,
      Transaction.writeAlways_eq_ok] at succeeded
    obtain ⟨_, _, ⟨-, rfl⟩, later⟩ := succeeded
    rw [inductionHypothesis later, enqueuePublication_eq_enqueueRow]
    rfl

/-- The removal of one agent appends to the outbox and leaves the projections alone. -/
theorem removeDeletedAgent_outbox {id : AgentId} {purgeOperation : OperationId}
    (succeeded : removeDeletedAgent faults community now id purgeOperation database =
      .ok (result, after)) :
    after.relayPublicationOutbox = (agentRemovals database community now id).foldl enqueueRow
        database.relayPublicationOutbox ∧
      after.relayProjectionState = database.relayProjectionState := by
  simp only [removeDeletedAgent, insertOperation, Transaction.bind_eq_ok,
    Transaction.write_eq_ok, Transaction.writeAlways_eq_ok] at succeeded
  obtain ⟨_, _, enqueued, _, _, ⟨-, -, rfl⟩, _, _, ⟨-, rfl⟩, -, rfl⟩ := succeeded
  rw [enqueueAgentRemoval_outbox enqueued]
  unfold Database.deleteAgentSpec Database.insertTombstone
  split <;> exact ⟨rfl, rfl⟩

theorem removeDeletedAgents_outbox {ids : List AgentId} {fresh : Nat}
    (succeeded : removeDeletedAgents faults community now ids fresh database =
      .ok (result, after)) :
    after.relayPublicationOutbox = (ids.flatMap (agentRemovals database community now)).foldl
        enqueueRow database.relayPublicationOutbox ∧
      after.relayProjectionState = database.relayProjectionState := by
  induction ids generalizing database fresh with
  | nil =>
    cases succeeded
    exact ⟨rfl, rfl⟩
  | cons id rest inductionHypothesis =>
    simp only [removeDeletedAgents, Transaction.bind_eq_ok] at succeeded
    obtain ⟨_, middle, first, later⟩ := succeeded
    obtain ⟨rows, kept⟩ := removeDeletedAgent_outbox first
    obtain ⟨others, alsoKept⟩ := inductionHypothesis later
    have same : agentRemovals middle community now = agentRemovals database community now := by
      funext other
      rw [agentRemovals, kept]
      rfl
    refine ⟨?_, alsoKept.trans kept⟩
    rw [others, rows, same, List.flatMap_cons, List.foldl_append]

/-- The outbox, the projections and the communities after a removal. -/
theorem deleteCommunityWithDeletedAgents_outbox {id : CommunityConfigId} {fresh : Nat}
    {ids : List AgentId}
    (succeeded : deleteCommunityWithDeletedAgents faults id now fresh database = (.ok ids, after)) :
    ids = (listAgents (some id) database).map AgentSpec.id ∧
      after.relayPublicationOutbox = (removalPublications database id now ids).foldl enqueueRow
        database.relayPublicationOutbox ∧
      after.relayProjectionState = database.relayProjectionState ∧
      after.communityConfigs = database.communityConfigs.erase id := by
  unfold deleteCommunityWithDeletedAgents at succeeded
  split at succeeded
  · cases succeeded
  split at succeeded
  · cases succeeded
  next agents checked =>
  simp only [transaction, atomically_eq_ok, Transaction.bind_eq_ok,
    Transaction.writeAlways_eq_ok] at succeeded
  obtain ⟨⟨_, removed, removals, _, _, personas, _, _, ⟨-, rfl⟩, rfl, rfl⟩, -⟩ := succeeded
  obtain ⟨outbox, kept⟩ := removeDeletedAgents_outbox removals
  have communities := (removeDeletedAgents_ok removals).1.communities
  rw [enqueuePersonaRemovals_outbox personas]
  refine ⟨(checkDeletedAgents_ok checked).1, ?_, kept, ?_⟩
  · rw [removalPublications, List.foldl_append, outbox]
  · rw [communities]

end SqliteStore

/-! ### Isolation -/

/-- The rows of the projection table stand under the columns of their key. -/
def Database.ProjectionsKeyed : Prop :=
  ∀ key row, database.relayProjectionState.lookup key = some row →
    key = (row.scope.communityConfigId, row.kind, row.subjectId)

theorem projectionsKeyed_record {database : Database} (keyed : database.ProjectionsKeyed)
    (faults : WriteFaults) (kind : RelayProjectionKind) (subjectId : String)
    (scope : RelayProjectionScope) :
    (recordRelayProjection faults kind subjectId scope database).2.ProjectionsKeyed := by
  unfold recordRelayProjection autocommit
  rcases atomically_cases none _ database with
    ⟨error, failed⟩ | ⟨result, after, body, done⟩
  · rw [failed]
    exact keyed
  · rw [done]
    simp only [Transaction.writeAlways_eq_ok] at body
    obtain ⟨-, rfl⟩ := body
    intro key row found
    rw [Table.lookup_insert_eq] at found
    split at found
    · next same =>
      cases found
      exact same
    · exact keyed key row found

theorem projectionsKeyed_putCommunity {database : Database} (keyed : database.ProjectionsKeyed)
    (faults : WriteFaults) (config : CommunityConfig) :
    (putCommunity faults config database).2.ProjectionsKeyed := by
  unfold putCommunity autocommit
  rcases atomically_cases none _ database with
    ⟨error, failed⟩ | ⟨result, after, body, done⟩
  · rw [failed]
    exact keyed
  · rw [done]
    simp only [Transaction.bind_eq_ok, validateTransaction_eq_ok,
      Transaction.writeAlways_eq_ok] at body
    obtain ⟨_, _, ⟨-, rfl⟩, -, rfl⟩ := body
    exact keyed

/-- Another stored community has recorded the coordinate. -/
def Database.RecordedElsewhere (id : CommunityConfigId) (coordinate : RelayCoordinate) : Prop :=
  ∃ row ∈ database.relayProjectionState.rows, row.scope.communityConfigId ≠ id ∧
    row.scope.communityConfigId ∈ database.communityConfigs ∧ row.coordinate = coordinate

/-- No tombstone that was enqueued is for a coordinate of another stored community. -/
def Isolates (before after : Database) (id : CommunityConfigId) : Prop :=
  ∀ publication ∈ after.relayPublicationOutbox, publication ∉ before.relayPublicationOutbox →
    ∀ coordinate, publication.tombstoneOf = some coordinate → ¬after.RecordedElsewhere id coordinate

/-- The projections that the removal of a community takes down: those of its personas and of
its agents. -/
def Database.Doomed (id : CommunityConfigId) (row : RelayProjectionRow) : Prop :=
  row ∈ database.relayProjectionState.rows ∧ row.scope.communityConfigId = id ∧
    (row.kind = .persona ∨
      ∃ agent ∈ listAgents (some id) database, row.subjectId = agent.id.toText)

def RelayProjectionKind.tombstone : RelayProjectionKind → RelayPublicationAction
  | .managedAgent => .tombstoneManagedAgent
  | .persona => .tombstonePersona

/-- The publication that takes a projection down. -/
def RelayProjectionRow.removal (row : RelayProjectionRow) (now : Int) : RelayPublication :=
  ⟨row.kind.tombstone, row.scope, row.subjectId, now⟩

theorem tombstoneOf_removal (row : RelayProjectionRow) (now : Int) :
    (row.removal now).tombstoneOf = some row.coordinate := by
  obtain ⟨kind, _, _⟩ := row
  cases kind <;> rfl

section

variable {database after : Database} {id : CommunityConfigId} {publication : RelayPublication}
  {row : RelayProjectionRow}

/-- A projection row is found under its own columns. -/
theorem lookup_of_mem_projections (keyed : database.ProjectionsKeyed)
    (member : row ∈ database.relayProjectionState.rows) :
    database.relayProjectionState.lookup
      (row.scope.communityConfigId, row.kind, row.subjectId) = some row := by
  obtain ⟨key, found⟩ := Table.mem_rows.mp member
  rw [← keyed key row found]
  exact found

theorem mem_personaProjections : row ∈ personaProjections id database ↔
      row ∈ database.relayProjectionState.rows ∧ row.scope.communityConfigId = id ∧
        row.kind = .persona := by
  unfold personaProjections
  simp [List.mem_filter]

/-- The tombstones of a removal are those of the projections it takes down. -/
theorem doomed_of_mem_removalPublications (keyed : database.ProjectionsKeyed)
    (member : publication ∈ removalPublications database id now
      ((listAgents (some id) database).map AgentSpec.id))
    (tombstone : publication.tombstoneOf ≠ none) :
    ∃ row, database.Doomed id row ∧ publication = row.removal now := by
  rcases List.mem_append.mp member with agents | personas
  · obtain ⟨agentId, listed, removal⟩ := List.mem_flatMap.mp agents
    obtain ⟨agent, stored, rfl⟩ := List.mem_map.mp listed
    unfold agentRemovals at removal
    split at removal
    · cases removal
    · next row found =>
      have columns := keyed _ row found
      simp only [Prod.mk.injEq] at columns
      obtain ⟨community, kind, subject⟩ := columns
      refine ⟨row, ⟨Table.mem_rows.mpr ⟨_, found⟩, community.symm,
        .inr ⟨agent, stored, subject.symm⟩⟩, ?_⟩
      simp only [List.mem_cons, List.not_mem_nil, or_false] at removal
      rcases removal with rfl | rfl
      · rw [removal, ← kind, ← subject]
        rfl
      · exact absurd rfl tombstone
  · obtain ⟨row, listed, rfl⟩ := List.mem_map.mp personas
    obtain ⟨member, community, kind⟩ := mem_personaProjections.mp listed
    refine ⟨row, ⟨member, community, .inl kind⟩, ?_⟩
    rw [removal, kind]
    rfl

theorem mem_removalPublications_of_doomed (keyed : database.ProjectionsKeyed)
    (doomed : database.Doomed id row) :
    row.removal now ∈ removalPublications database id now
      ((listAgents (some id) database).map AgentSpec.id) := by
  obtain ⟨member, community, subject⟩ := doomed
  have found := lookup_of_mem_projections keyed member
  refine List.mem_append.mpr ?_
  cases kind : row.kind with
  | persona =>
    refine .inr (List.mem_map.mpr ⟨row, mem_personaProjections.mpr ⟨member, community, kind⟩, ?_⟩)
    rw [removal, kind]
    rfl
  | managedAgent =>
    rcases subject with persona | ⟨agent, stored, named⟩
    · rw [kind] at persona
      cases persona
    · refine .inl (List.mem_flatMap.mpr ⟨agent.id, List.mem_map.mpr ⟨agent, stored, rfl⟩, ?_⟩)
      rw [community, kind, named] at found
      rw [agentRemovals, found, removal, kind, named]
      exact List.mem_cons_self

theorem recordedElsewhere_congr {coordinate : RelayCoordinate}
    (projections : after.relayProjectionState = database.relayProjectionState)
    (communities : after.communityConfigs = database.communityConfigs.erase id) :
    after.RecordedElsewhere id coordinate ↔ database.RecordedElsewhere id coordinate := by
  unfold Database.RecordedElsewhere
  rw [projections, communities]
  simp only [AList.mem_erase]
  tauto

end

/-- A removal spares the other communities exactly if every coordinate it takes down that
another stored community has recorded was to be taken down already. -/
theorem removal_isolates_iff {faults : WriteFaults} {id : CommunityConfigId} {now : Int}
    {fresh : Nat} {database after : Database} {ids : List AgentId}
    (keyed : database.ProjectionsKeyed)
    (removed : SqliteStore.deleteCommunityWithDeletedAgents faults id now fresh database =
      (.ok ids, after)) :
    Isolates database after id ↔
      ∀ row, database.Doomed id row → database.RecordedElsewhere id row.coordinate →
        Pending database.relayPublicationOutbox (row.removal now) := by
  obtain ⟨rfl, outbox, projections, communities⟩ :=
    SqliteStore.deleteCommunityWithDeletedAgents_outbox removed
  unfold Isolates
  simp only [outbox, recordedElsewhere_congr projections communities]
  constructor
  · intro isolates row doomed elsewhere
    by_contra missing
    obtain ⟨publication, present, same⟩ := pending_foldl_enqueueRow
      (mem_removalPublications_of_doomed keyed doomed)
    refine isolates publication present (fun before => missing ⟨publication, before, same⟩)
      row.coordinate ?_ elsewhere
    rw [tombstoneOf_of_uniqueKey same, tombstoneOf_removal]
  · intro separate publication present new coordinate tombstone elsewhere
    rcases mem_of_mem_foldl_enqueueRow present with before | ⟨enqueued, missing⟩
    · exact new before
    · obtain ⟨row, doomed, rfl⟩ := doomed_of_mem_removalPublications keyed enqueued
        (by rw [tombstone]; exact Option.some_ne_none _)
      rw [tombstoneOf_removal, Option.some.injEq] at tombstone
      exact missing (separate row doomed (tombstone ▸ elsewhere))

/-! ### Two communities on one relay -/

section

def twinRelay : Url := ⟨"wss://relay/", "wss", some "relay", "", none, none, none⟩

def twin (uuid : Nat) (owner : String) : CommunityConfig :=
  ⟨⟨uuid⟩, "Twin", twinRelay, some owner⟩

def twinScope (uuid : Nat) (owner : String) : RelayProjectionScope :=
  ⟨⟨uuid⟩, twinRelay, owner, "helper"⟩

/-- Two communities joined on one relay, and one persona published for both. -/
def twins (first second : String) : Database :=
  (recordRelayProjection (fun _ => false) .persona "helper" (twinScope 2 second)
    (recordRelayProjection (fun _ => false) .persona "helper" (twinScope 1 first)
      (putCommunity (fun _ => false) (twin 2 second)
        (putCommunity (fun _ => false) (twin 1 first) Database.empty).2).2).2).2

theorem twins_keyed (first second : String) : (twins first second).ProjectionsKeyed := by
  refine projectionsKeyed_record (projectionsKeyed_record (projectionsKeyed_putCommunity
    (projectionsKeyed_putCommunity ?_ _ _) _ _) _ _ _ _) _ _ _ _
  intro key row found
  cases found

/-- What is left when the first of the two is removed. -/
def twinLeft (first second : String) : Database :=
  (deleteCommunityWithDeletedAgents (fun _ => false) ⟨1⟩ 0 0 (twins first second)).2

/-- Two communities that share an identity: the removal of one takes down the persona of the
other. -/
theorem removal_takes_twin : SqliteStore.deleteCommunityWithDeletedAgents (fun _ => false) ⟨1⟩ 0 0
        (twins "owner" "owner") = (.ok [], twinLeft "owner" "owner") ∧
      ¬Isolates (twins "owner" "owner") (twinLeft "owner" "owner") ⟨1⟩ := by
  refine ⟨Prod.ext (by decide +kernel) rfl, fun isolates => ?_⟩
  refine isolates ⟨.tombstonePersona, twinScope 1 "owner", "helper", 0⟩ (by decide +kernel)
    (by decide +kernel) _ rfl ⟨⟨.persona, "helper", twinScope 2 "owner"⟩, ?_⟩
  decide +kernel

/-- With two identities the persona of the other community stays. -/
theorem removal_isolates_strangers :
    SqliteStore.deleteCommunityWithDeletedAgents (fun _ => false) ⟨1⟩ 0 0
        (twins "owner" "stranger") = (.ok [], twinLeft "owner" "stranger") ∧
      Isolates (twins "owner" "stranger") (twinLeft "owner" "stranger") ⟨1⟩ := by
  have removed : SqliteStore.deleteCommunityWithDeletedAgents (fun _ => false) ⟨1⟩ 0 0
      (twins "owner" "stranger") = (.ok [], twinLeft "owner" "stranger") :=
    Prod.ext (by decide +kernel) rfl
  have apart : ∀ row ∈ (twins "owner" "stranger").relayProjectionState.rows,
      ∀ other ∈ (twins "owner" "stranger").relayProjectionState.rows,
        row.scope.communityConfigId = ⟨1⟩ → other.scope.communityConfigId ≠ ⟨1⟩ →
          other.coordinate ≠ row.coordinate := by decide +kernel
  refine ⟨removed, (removal_isolates_iff (twins_keyed _ _) removed).mpr ?_⟩
  rintro row ⟨member, community, -⟩ ⟨other, present, different, -, same⟩
  exact absurd same (apart row member other present community different)

end

end BuzzServer
