/-
This file says what a draft submitter can change and learn.

A submitter may submit drafts and read its own. Every other route turns it away
before the application is called, so it changes nothing there and learns nothing.
A submission answers from what the submitter's own keys are bound to. Reading a
draft looks the draft up before it authorizes, and answers that a draft of
somebody else is not the submitter's while it answers that a missing draft is not
found: that one bit about the drafts of others is all a submitter can learn.
-/

import BuzzServer.Transport
import BuzzServer.Daemon.Schedule

namespace BuzzServer

open Relational Concurrent BuzzServer.SqliteStore LifecycleJsonRouter World

/-! ### Drafts in the store -/

/-- The document stored under a text. -/
def SqliteStore.getDraft (text : String) (database : Database) : Option DraftResource :=
  (database.agentDrafts.entries.find? fun entry => entry.1.toText == text).map
    fun entry => entry.2.document

def sqliteGetDraft (text : String) : Call World DraftResource := fun world =>
  match world.query (getDraft text) with
  | .error error => (.error (ApplicationError.ofStorage error), world)
  | .ok none => (.error .notFound, world)
  | .ok (some draft) => (.ok draft, world)

/-- A submission that no other thread gets in the way of. -/
def sqliteSubmitDraft (thread : Thread) (actor : AuthenticatedPrincipal)
    (request : SubmitDraftRequest) : Call World DraftResource :=
  Fallible.alone (perform thread) (submitDraft actor request)

/-- An application whose drafts are those of the store. -/
def LifecycleApplication.overStore (application : LifecycleApplication World) (thread : Thread) :
    LifecycleApplication World :=
  { application with
    submitDraft := sqliteSubmitDraft thread
    getDraft := sqliteGetDraft }

/-- What a key of a principal is bound to: the request that was submitted under it, and the
draft it answers with. -/
def Database.submission (database : Database) (scope key : String) :
    Option (RequestHash × Option DraftResource) :=
  (database.draftIdempotency.lookup (scope, key)).map fun row =>
    (row.requestHash, (database.agentDrafts.lookup row.draftId).map DraftRow.document)

/-- Two states with the same drafts of the principal, and the same keys for them. -/
structure World.SameDrafts (actor : AuthenticatedPrincipal) (first second : World) : Prop where
  owned : ∀ text draft, draft.owner = actor.principal.ownershipKey →
    (getDraft text first.db = some draft ↔ getDraft text second.db = some draft)
  submitted : ∀ key, first.db.submission (principalScope actor) key =
    second.db.submission (principalScope actor) key

/-- In both states the same identifier is drawn next, no draft has it yet, and the same calls
fail. -/
structure World.SameHost (first second : World) : Prop where
  nextUuid : first.nextUuid = second.nextUuid
  faults : first.faults = second.faults
  firstUnused : (⟨first.nextUuid⟩ : DraftId) ∉ first.db.agentDrafts
  secondUnused : (⟨second.nextUuid⟩ : DraftId) ∉ second.db.agentDrafts

variable (actor : AuthenticatedPrincipal)

/-- A draft of somebody else is stored under the text. -/
def World.HasForeign (text : String) (world : World) : Prop :=
  ∃ draft, getDraft text world.db = some draft ∧ draft.owner ≠ actor.principal.ownershipKey

/-! ### The routes of a submitter -/

variable {capability : Capability} {draft : DraftResource}

section

variable {State Result : Type} {actor : AuthenticatedPrincipal}
variable (submitter : actor.authority = .draftSubmitter)

include submitter

theorem authorize_submitter (submits : capability ≠ .submitDraft) (reads : capability ≠ .readDraft)
    (owner : Option PrincipalOwnership) : authorize actor capability owner = .error .forbidden := by
  unfold authorize
  rw [submitter]
  cases capability <;> first | rfl | exact absurd rfl submits | exact absurd rfl reads

/-- The requests a submitter is not turned away with. -/
def LifecycleRouteRequest.forDrafts : LifecycleRouteRequest → Bool
  | .submitDraft _ => true
  | .getDraft _ => true
  | _ => false

/-- Every other route answers the same in every state and leaves the state alone. -/
theorem route_submitter (application : LifecycleApplication State)
    {request : LifecycleRouteRequest} (other : request.forDrafts = false) (state : State) :
    route application actor request state = (.error (apiAuthorization .forbidden), state) := by
  have turnedAway : ∀ {Result : Type} (wrap : Result → LifecycleRouteResource)
      (capability : Capability) (checked : Except ValidationError Unit)
      (call : Call State Result), capability ≠ .submitDraft → capability ≠ .readDraft →
      LifecycleJsonRouter.wrapped wrap
          (LifecycleHandler.guarded actor capability checked call) state =
        (.error (apiAuthorization .forbidden), state) := by
    intro Result wrap capability checked call submits reads
    unfold LifecycleJsonRouter.wrapped LifecycleHandler.guarded
    rw [authorize_submitter submitter submits reads]
    rfl
  cases request with
  | submitDraft request => cases other
  | getDraft id => cases other
  | _ => exact turnedAway _ _ _ _ (by decide) (by decide)

end

/-! ### Submitting -/

/-- What a submission under an unused key and a fresh identifier answers depends on what
fails, and on nothing in the tables. -/
theorem applyDraftCommand_unbound {faults : WriteFaults} {scope key : String} {hash : RequestHash}
    {audit : NewAuditRecord} {database : Database}
    (unbound : database.draftIdempotency.lookup (scope, key) = none)
    (unused : draft.id ∉ database.agentDrafts) (detail : audit.redactedDetail = none) :
    (applyDraftCommand faults draft scope key hash audit database).1 =
      if faults .insertDraft || faults .insertDraftIdempotency || faults .insertAudit ||
          faults .commit then .error .database
      else .ok (draft, false) := by
  unfold applyDraftCommand transaction Transaction.atomically
  rw [unbound]
  simp only [bind, StateT.bind, Transaction.write, insertAudit, WriteFaults.at, detail, unused]
  cases faults .insertDraft with
  | true => rfl
  | false =>
    cases faults .insertDraftIdempotency with
    | true => rfl
    | false =>
      cases faults .insertAudit with
      | true => rfl
      | false => cases faults .commit <;> rfl

/-- What a submission under a fresh identifier answers depends on what its key is bound to. -/
theorem applyDraftCommand_answer {faults : WriteFaults} {scope key : String} {hash : RequestHash}
    {audit other : NewAuditRecord} {first second : Database}
    (same : first.submission scope key = second.submission scope key)
    (firstUnused : draft.id ∉ first.agentDrafts) (secondUnused : draft.id ∉ second.agentDrafts)
    (audited : audit.redactedDetail = none) (otherAudited : other.redactedDetail = none) :
    (applyDraftCommand faults draft scope key hash audit first).1 =
      (applyDraftCommand faults draft scope key hash other second).1 := by
  unfold Database.submission at same
  cases bound : first.draftIdempotency.lookup (scope, key) with
  | none =>
    rw [bound, Option.map_none, eq_comm, Option.map_eq_none_iff] at same
    rw [applyDraftCommand_unbound bound firstUnused audited,
      applyDraftCommand_unbound same secondUnused otherAudited]
  | some row =>
    rw [bound, Option.map_some, eq_comm, Option.map_eq_some_iff] at same
    obtain ⟨counterpart, alsoBound, agree⟩ := same
    obtain ⟨hashes, documents⟩ := Prod.mk.inj agree
    unfold applyDraftCommand
    simp only [bound, alsoBound, hashes]
    split
    · rfl
    · cases stored : first.agentDrafts.lookup row.draftId <;>
        cases alsoStored : second.agentDrafts.lookup counterpart.draftId <;>
        simp_all

/-- What the store answers to a submission in a world. -/
def World.submit (world : World) (actor : AuthenticatedPrincipal)
    (request : SubmitDraftRequest) : Except StorageError (DraftResource × Bool) :=
  (world.method (applyDraftCommand world.faults.writes
    ⟨⟨world.nextUuid⟩, actor.principal.ownershipKey, request.agent⟩ (principalScope actor)
    request.metadata.idempotencyKey (requestHash (.submitDraft request))
    (submissionAudit actor request ⟨world.nextUuid⟩ world.clock))).1

theorem sqliteSubmitDraft_answer (thread : Thread) (actor : AuthenticatedPrincipal)
    (request : SubmitDraftRequest) (world : World) :
    (sqliteSubmitDraft thread actor request world).1 = match request.agent.validate with
      | .error error => .error (.invalid error)
      | .ok () => ((world.submit actor request).mapError ApplicationError.ofStorage).map
          Prod.fst := by
  unfold sqliteSubmitDraft submitDraft
  cases request.agent.validate with
  | error error => rfl
  | ok _ =>
    show (Fallible.alone (perform thread) (Request.store (.applyDraftCommand ..) >>=
      fun result => pure result.1) { world with nextUuid := world.nextUuid + 1 }).1 = _
    rw [Fallible.bind_eq]
    show (Program.run (perform thread) (Fallible.continueWith
      (fun result => (pure result.1 : Request DraftResource).run)
        ((world.submit actor request).mapError ApplicationError.ofStorage)) _).1 = _
    cases world.submit actor request <;> rfl

variable {first second : World}

theorem World.submit_congr {actor : AuthenticatedPrincipal}
    (drafts : first.SameDrafts actor second) (host : first.SameHost second)
    (request : SubmitDraftRequest) : first.submit actor request = second.submit actor request := by
  unfold submit method
  rw [← host.nextUuid, ← host.faults]
  split
  · rfl
  · have secondUnused := host.secondUnused
    rw [← host.nextUuid] at secondUnused
    exact applyDraftCommand_answer (drafts.submitted _) host.firstUnused secondUnused rfl rfl

/-! ### Reading -/

theorem sqliteGetDraft_state (text : String) (world : World) :
    (sqliteGetDraft text world).2 = world := by
  unfold sqliteGetDraft
  split <;> rfl

/-- What reading a draft answers to a submitter: its own draft, that the draft is not its own,
or that there is none. -/
def draftAnswer (found : Option DraftResource) : Except ApiError LifecycleRouteResource :=
  match found with
  | none => .error (apiApplication .notFound)
  | some draft =>
      if draft.owner = actor.principal.ownershipKey then .ok (.draft draft)
      else .error (apiAuthorization .notOwner)

section

variable {actor : AuthenticatedPrincipal} {first second world : World} {text : String}

theorem route_getDraft (submitter : actor.authority = .draftSubmitter)
    (application : LifecycleApplication World) (thread : Thread) (text : String)
    (available : world.faults.storeUnavailable = false) :
    route (application.overStore thread) actor (.getDraft text) world =
      (draftAnswer actor (getDraft text world.db), world) := by
  show LifecycleJsonRouter.wrapped .draft
    (LifecycleHandler.getDraft (application.overStore thread) actor text) world = _
  unfold LifecycleJsonRouter.wrapped LifecycleHandler.getDraft draftAnswer
  simp only [LifecycleApplication.overStore, sqliteGetDraft, World.query, available]
  cases getDraft text world.db with
  | none => rfl
  | some draft =>
    by_cases own : draft.owner = actor.principal.ownershipKey
    · simp [authorize, own, Except.map]
    · simp [authorize, submitter, own, Except.map]

theorem route_getDraft_unavailable (application : LifecycleApplication World) (thread : Thread)
    (text : String) (unavailable : world.faults.storeUnavailable = true) :
    (route (application.overStore thread) actor (.getDraft text) world).1 =
      .error (apiApplication .internal) := by
  show (LifecycleJsonRouter.wrapped .draft
    (LifecycleHandler.getDraft (application.overStore thread) actor text) world).1 = _
  unfold LifecycleJsonRouter.wrapped LifecycleHandler.getDraft
  simp only [LifecycleApplication.overStore, sqliteGetDraft, World.query, unavailable]
  rfl

theorem draftAnswer_foreign (foreign : world.HasForeign actor text) :
    draftAnswer actor (getDraft text world.db) = .error (apiAuthorization .notOwner) := by
  obtain ⟨draft, found, other⟩ := foreign
  rw [found]
  exact if_neg other

/-- Where neither state has a draft of somebody else they answer alike. -/
theorem World.SameDrafts.lookup (drafts : first.SameDrafts actor second)
    (firstOwn : ¬first.HasForeign actor text) (secondOwn : ¬second.HasForeign actor text) :
    getDraft text first.db = getDraft text second.db := by
  have own : ∀ {world : World} {draft : DraftResource}, ¬world.HasForeign actor text →
      getDraft text world.db = some draft → draft.owner = actor.principal.ownershipKey := by
    intro world draft none found
    by_contra other
    exact none ⟨draft, found, other⟩
  cases found : getDraft text first.db with
  | some draft => exact ((drafts.owned text draft (own firstOwn found)).mp found).symm
  | none =>
    cases stored : getDraft text second.db with
    | none => rfl
    | some draft =>
      rw [(drafts.owned text draft (own secondOwn stored)).mpr stored] at found
      cases found

/-- A draft of somebody else is told from no draft. -/
theorem World.SameDrafts.told (codec : LifecycleCodec) (drafts : first.SameDrafts actor second)
    (foreign : first.HasForeign actor text) (own : ¬second.HasForeign actor text) :
    respond codec (draftAnswer actor (getDraft text first.db)) ≠
      respond codec (draftAnswer actor (getDraft text second.db)) := by
  have missing : getDraft text second.db = none := by
    cases stored : getDraft text second.db with
    | none => rfl
    | some draft =>
      obtain ⟨other, found, stranger⟩ := foreign
      by_cases owned : draft.owner = actor.principal.ownershipKey
      · rw [(drafts.owned text draft owned).mpr stored, Option.some.injEq] at found
        exact absurd (found ▸ owned) stranger
      · exact absurd ⟨draft, stored, owned⟩ own
  rw [draftAnswer_foreign foreign, missing]
  intro same
  have statuses : (403 : Nat) = 404 := congrArg HandlerResponse.status same
  cases statuses

theorem World.SameDrafts.symm (drafts : first.SameDrafts actor second) :
    second.SameDrafts actor first :=
  ⟨fun text draft owned => (drafts.owned text draft owned).symm,
    fun key => (drafts.submitted key).symm⟩

/-- Two states with the same drafts of a submitter answer the same exactly if both or neither
of them have a draft of somebody else under the text. -/
theorem World.SameDrafts.answer_iff (codec : LifecycleCodec)
    (drafts : first.SameDrafts actor second) :
    respond codec (draftAnswer actor (getDraft text first.db)) =
      respond codec (draftAnswer actor (getDraft text second.db)) ↔
      (first.HasForeign actor text ↔ second.HasForeign actor text) := by
  by_cases one : first.HasForeign actor text <;> by_cases two : second.HasForeign actor text
  · refine iff_of_true ?_ (iff_of_true one two)
    rw [draftAnswer_foreign one, draftAnswer_foreign two]
  · exact iff_of_false (drafts.told codec one two) fun same => two (same.mp one)
  · exact iff_of_false (drafts.symm.told codec two one).symm fun same => one (same.mpr two)
  · refine iff_of_true ?_ (iff_of_false one two)
    rw [drafts.lookup one two]

end

/-! ### What a submitter can change and learn -/

/-- The request reads a draft that exactly one of the states has as a draft of somebody
else. -/
def Reveals (codec : LifecycleCodec) (actor : AuthenticatedPrincipal) (bytes : List UInt8)
    (first second : World) : Prop :=
  first.faults.storeUnavailable = false ∧ ∃ text, codec.parse bytes = some (.getDraft text) ∧
    ¬(first.HasForeign actor text ↔ second.HasForeign actor text)

section

variable {actor : AuthenticatedPrincipal}

/-- A submission that is turned away leaves the state alone. -/
theorem submitDraft_unchanged {State : Type} (application : LifecycleApplication State)
    (request : SubmitDraftRequest) (state : State)
    (invalid : LifecycleHandler.validDraft request ≠ .ok ()) :
    (LifecycleHandler.submitDraft application actor request state).2 = state := by
  unfold LifecycleHandler.submitDraft LifecycleHandler.guarded
  cases authorize actor .submitDraft none with
  | error error => rfl
  | ok _ =>
    cases checked : LifecycleHandler.validDraft request with
    | error error => rfl
    | ok _ => exact absurd checked invalid

variable (application : LifecycleApplication World)

/-- Reading a draft leaves the state alone. -/
theorem getDraft_unchanged (thread : Thread) (text : String) (world : World) :
    (LifecycleHandler.getDraft (application.overStore thread) actor text world).2 = world := by
  have read : ((application.overStore thread).getDraft text world).2 = world :=
    sqliteGetDraft_state text world
  unfold LifecycleHandler.getDraft
  split
  · next called =>
    rw [called] at read
    exact read
  · next called =>
    rw [called] at read
    split <;> exact read

/-- Two states with the same drafts of a submitter answer its submissions the same. -/
theorem submitDraft_answer (thread : Thread)
    (drafts : first.SameDrafts actor second) (host : first.SameHost second)
    (request : SubmitDraftRequest) :
    (LifecycleHandler.submitDraft (application.overStore thread) actor request first).1 =
      (LifecycleHandler.submitDraft (application.overStore thread) actor request second).1 := by
  have called : ((application.overStore thread).submitDraft actor request first).1 =
      ((application.overStore thread).submitDraft actor request second).1 := by
    show (sqliteSubmitDraft thread actor request first).1 =
      (sqliteSubmitDraft thread actor request second).1
    rw [sqliteSubmitDraft_answer, sqliteSubmitDraft_answer, submit_congr drafts host]
  unfold LifecycleHandler.submitDraft LifecycleHandler.guarded
  split
  · rfl
  · split
    · rfl
    · rw [called]

/-- What reading a draft tells about two states with the same drafts of a submitter. -/
theorem getDraft_answer_iff {text : String} (codec : LifecycleCodec)
    (application : LifecycleApplication World) (thread : Thread)
    (submitter : actor.authority = .draftSubmitter) (drafts : first.SameDrafts actor second)
    (host : first.SameHost second) :
    respond codec (route (application.overStore thread) actor (.getDraft text) first).1 =
      respond codec (route (application.overStore thread) actor (.getDraft text) second).1 ↔
      (first.faults.storeUnavailable = false →
        (first.HasForeign actor text ↔ second.HasForeign actor text)) := by
  cases available : first.faults.storeUnavailable with
  | false =>
    have alsoAvailable : second.faults.storeUnavailable = false := host.faults ▸ available
    rw [route_getDraft submitter application thread text available,
      route_getDraft submitter application thread text alsoAvailable]
    exact (drafts.answer_iff codec).trans ⟨fun same _ => same, fun same => same rfl⟩
  | true =>
    have alsoUnavailable : second.faults.storeUnavailable = true := host.faults ▸ available
    refine iff_of_true ?_ (fun impossible => by cases impossible)
    rw [route_getDraft_unavailable application thread text available,
      route_getDraft_unavailable application thread text alsoUnavailable]

/-- A principal that may only submit drafts, whatever it sends and whatever the application
does on the other routes: the state changes only if the request is a valid submission; and two
states with the same drafts of the principal, and the same keys for them, answer it the same
unless it asks for a draft that exactly one of them has as a draft of somebody else. -/
theorem submitter_confined (codec : LifecycleCodec) (application : LifecycleApplication World)
    (thread : Thread) (submitter : actor.authority = .draftSubmitter) (bytes : List UInt8) :
    (∀ world, (LifecycleJsonRouter.handle codec (application.overStore thread) actor bytes
        world).2 ≠ world →
      ∃ request, codec.parse bytes = some (.submitDraft request) ∧
        LifecycleHandler.validDraft request = .ok ()) ∧
    ∀ first second : World, first.SameDrafts actor second → first.SameHost second →
      ((LifecycleJsonRouter.handle codec (application.overStore thread) actor bytes first).1 =
        (LifecycleJsonRouter.handle codec (application.overStore thread) actor bytes second).1 ↔
        ¬Reveals codec actor bytes first second) := by
  constructor
  · intro world changed
    unfold LifecycleJsonRouter.handle at changed
    cases parsed : codec.parse bytes with
    | none =>
      rw [parsed] at changed
      exact absurd rfl changed
    | some request =>
      rw [parsed] at changed
      cases other : request.forDrafts with
      | false =>
        refine absurd ?_ changed
        show (LifecycleJsonRouter.route _ actor request world).2 = world
        rw [route_submitter submitter _ other]
      | true =>
        cases request with
        | submitDraft request =>
          by_cases valid : LifecycleHandler.validDraft request = .ok ()
          · exact ⟨request, rfl, valid⟩
          · exact absurd (submitDraft_unchanged _ request world valid) changed
        | getDraft text => exact absurd (getDraft_unchanged application thread text world) changed
        | _ => cases other
  · intro first second drafts host
    unfold LifecycleJsonRouter.handle Reveals
    cases parsed : codec.parse bytes with
    | none => simp
    | some request =>
      cases other : request.forDrafts with
      | false =>
        have elsewhere : ∀ text, request ≠ .getDraft text := by
          rintro text rfl
          cases other
        simp [route_submitter submitter _ other, elsewhere]
      | true =>
        cases request with
        | submitDraft request =>
          refine iff_of_true ?_ ?_
          · show LifecycleJsonRouter.respond codec ((LifecycleHandler.submitDraft _ actor request
              first).1.map .draft) = LifecycleJsonRouter.respond codec
                ((LifecycleHandler.submitDraft _ actor request second).1.map .draft)
            rw [submitDraft_answer application thread drafts host]
          · rintro ⟨-, text, same, -⟩
            cases same
        | getDraft text =>
          rw [getDraft_answer_iff codec application thread submitter drafts host]
          simp
        | _ => cases other

end

/-! ### Two hosts -/

namespace Deployment

/-- An application that does nothing on the routes of administrators. -/
def closed : LifecycleApplication World := Transport.refusing World

/-- The text of a request for a draft. -/
def getDraftText : List UInt8 :=
  Json.Value.utf8 (.object [("route", .string "get_draft"),
    ("request", .object [("draft_id", .string (DraftId.toText ⟨0⟩))])])

/-- The text of a submission. -/
def submitDraftText : List UInt8 :=
  Json.Value.utf8 (.object [("route", .string "submit_draft"), ("request", .object [
    ("metadata", .object [("idempotency_key", .string "first"), ("correlation_id", .string "c")]),
    ("agent", .object [("community_config_id", .string (CommunityConfigId.toText ⟨0⟩)),
      ("display_name", .string "helper"), ("system_prompt", .string "help"),
      ("runtime_id", .string "goose")])])])

/-- A format that reads the two requests, and writes the id of a draft. -/
def draftCodec : LifecycleCodec :=
  WireFormat.codec {
    parse := fun bytes =>
      if bytes = getDraftText then some (.getDraft (DraftId.toText ⟨0⟩))
      else if bytes = submitDraftText then some (.submitDraft ⟨⟨"first", "c"⟩, createInput⟩)
      else none
    resource := fun
      | .draft draft => .object [("resource", .string "draft"),
          ("value", .object [("id", .string draft.id.toText)])]
      | _ => .null }

def submitter : AuthenticatedPrincipal := ⟨.unixPeer 2 2 none, .draftSubmitter⟩

/-- A draft of somebody else. -/
def foreignDraft : DraftResource := ⟨⟨0⟩, .unixUid 3, createInput⟩

/-- The host with a draft of somebody else. -/
def hostWithDraft : World :=
  { host with
    db := { host.db with
      agentDrafts := (∅ : Table DraftId DraftRow).insert ⟨0⟩ ⟨foreignDraft, none⟩ } }

theorem getDraft_hostWithDraft {text : String}
    (found : getDraft text hostWithDraft.db = some draft) : draft = foreignDraft := by
  obtain ⟨entry, stored, rfl⟩ := Option.map_eq_some_iff.mp found
  have member : entry ∈ hostWithDraft.db.agentDrafts.entries := List.mem_of_find?_eq_some stored
  have only : hostWithDraft.db.agentDrafts.entries = [⟨⟨0⟩, ⟨foreignDraft, none⟩⟩] := rfl
  rw [only, List.mem_singleton] at member
  rw [member]

theorem sameDrafts : host.SameDrafts submitter hostWithDraft where
  owned := by
    intro text draft owned
    constructor
    · intro impossible
      cases impossible
    · intro found
      rw [getDraft_hostWithDraft found] at owned
      cases owned
  submitted := fun _ => rfl

theorem sameHost : host.SameHost hostWithDraft where
  nextUuid := rfl
  faults := rfl
  firstUnused := by decide
  secondUnused := by decide

end Deployment

/-- Two hosts that differ in a draft of somebody else answer a submission the same. -/
theorem submitter_confined_submitting :
    (LifecycleJsonRouter.handle Deployment.draftCodec (Deployment.closed.overStore (.request 0))
        Deployment.submitter Deployment.submitDraftText Deployment.host).1 =
      (LifecycleJsonRouter.handle Deployment.draftCodec
        (Deployment.closed.overStore (.request 0)) Deployment.submitter Deployment.submitDraftText
        Deployment.hostWithDraft).1 := by
  have confined := submitter_confined Deployment.draftCodec Deployment.closed (.request 0)
    (rfl : Deployment.submitter.authority = .draftSubmitter) Deployment.submitDraftText
  refine (confined.2 _ _ Deployment.sameDrafts Deployment.sameHost).mpr ?_
  rintro ⟨-, text, parsed, -⟩
  have submits : Deployment.draftCodec.parse Deployment.submitDraftText =
      some (.submitDraft ⟨⟨"first", "c"⟩, Deployment.createInput⟩) := by
    have other : Deployment.submitDraftText ≠ Deployment.getDraftText := by decide +kernel
    simp [Deployment.draftCodec, WireFormat.codec, other]
  cases submits.symm.trans parsed

/-- The submitter learns that somebody else has a draft: on one host it is told that the draft
is not found, on the other that it is not its own. -/
theorem submitter_told : Deployment.submitter.authority = .draftSubmitter ∧
      Deployment.host.SameDrafts Deployment.submitter Deployment.hostWithDraft ∧
      Deployment.host.SameHost Deployment.hostWithDraft ∧
      (LifecycleJsonRouter.handle Deployment.draftCodec
        (Deployment.closed.overStore (.request 0)) Deployment.submitter Deployment.getDraftText
        Deployment.host).1.status = 404 ∧
      (LifecycleJsonRouter.handle Deployment.draftCodec
        (Deployment.closed.overStore (.request 0)) Deployment.submitter Deployment.getDraftText
        Deployment.hostWithDraft).1.status = 403 := by
  refine ⟨rfl, Deployment.sameDrafts, Deployment.sameHost, ?_, ?_⟩ <;> decide +kernel

end BuzzServer
