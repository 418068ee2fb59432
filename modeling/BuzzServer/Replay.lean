/-
This file is about the proofs that requests over TLS are authenticated with.

A proof is a signed event that names the request and the time it was made. It is
accepted while it is fresh, and only once: the replay guard keeps the ids of the
events it has seen until they expire. Freshness is checked with one reading of
the clock, and the guard drops expired ids by a later reading of its own. A
proof that expires between the two readings finds its own id dropped and is
accepted again. As long as every claim runs before its proof expires, an event
is accepted at most once over the life of the database.
-/

import BuzzServer.Concurrent.Discipline
import BuzzServer.Domain.Api
import BuzzServer.Relational.Table
import BuzzServer.Storage.Database

namespace BuzzServer

open Relational Concurrent Discipline Discipline.Triple

/-! ### Proofs -/

/-- A Nostr event. -/
structure NostrEvent where
  (id pubkey : String)
  (kind createdAt : Nat)
  tags : List (List String)
  deriving DecidableEq

/-- The first value of a tag that has one. -/
def NostrEvent.tagValue (event : NostrEvent) (name : String) : Option String :=
  event.tags.findSome? fun tag =>
    match tag with
    | head :: value :: _ => if head = name then some value else none
    | _ => none

/-- How events are read and verified. The id of an event is a digest of all of it but the
signature, so that two events that verify under one id are the same. -/
structure EventCodec where
  parse : String → Option NostrEvent
  verifyEvent : NostrEvent → Bool
  unforgeable : ∀ first second, verifyEvent first = true → verifyEvent second = true →
    first.id = second.id → first = second

inductive AuthenticationError where
  | unknownPrincipal
  | malformedProof
  | invalidSignature
  | requestMismatch
  | stale
  | replay

def u64Max : Nat := 2 ^ 64 - 1

def i64Max : Nat := 2 ^ 63 - 1

def absDiff (first second : Nat) : Nat := (first - second) + (second - first)

def saturatingAddU64 (first second : Nat) : Nat := min (first + second) u64Max

structure Nip98AuthorityPolicy where
  (administratorPubkeys draftSubmitterPubkeys : List String)
  freshnessSeconds : Nat

def Nip98AuthorityPolicy.freshness (policy : Nip98AuthorityPolicy) : Nat :=
  max policy.freshnessSeconds 1

def Nip98AuthorityPolicy.authority? (policy : Nip98AuthorityPolicy) (pubkey : String) :
    Option Authority :=
  if pubkey ∈ policy.administratorPubkeys then some .administrator
  else if pubkey ∈ policy.draftSubmitterPubkeys then some .draftSubmitter
  else none

/-- The time until which the guard keeps the id of an event. -/
def Nip98AuthorityPolicy.expiresAt (policy : Nip98AuthorityPolicy) (event : NostrEvent) : Nat :=
  saturatingAddU64 event.createdAt policy.freshness

/-- What a request over TLS brings. -/
structure TlsRequest where
  (eventJson method url : String)
  payloadHash : Option String

/-- The event belongs to the request. -/
def NostrEvent.matches (event : NostrEvent) (request : TlsRequest) : Bool :=
  event.tagValue "u" == some request.url && event.tagValue "method" == some request.method &&
    request.payloadHash.all fun hash => event.tagValue "payload" == some hash

/-! ### The replay guard -/

/-- The durable claims, the clock, whether the store fails, and the ids whose claims
succeeded. -/
structure ReplayWorld where
  clock : Nat
  nip98Replay : Table String Nat
  storeFails : Bool
  accepted : List String

/-- The claim of an id: expired claims are dropped, then the id is inserted unless it is
there. Times that are no SQL integers make the statements fail. -/
def claimNip98Replay (eventId : String) (expiresAt now : Nat) (claims : Table String Nat) :
    Except StorageError Bool × Table String Nat :=
  if i64Max < now ∨ i64Max < expiresAt then (.error .database, claims)
  else
    let kept := claims.filterRows fun expires => decide (now ≤ expires)
    if eventId ∈ kept then (.ok false, kept) else (.ok true, kept.insert eventId expiresAt)

inductive ReplayAction : Type → Type
  | now : ReplayAction Nat
  | claimNip98Replay (eventId : String) (expiresAt now : Nat) :
      ReplayAction (Except StorageError Bool)

def ReplayWorld.perform ⦃Response : Type⦄ (action : ReplayAction Response)
    (world : ReplayWorld) : Response × ReplayWorld :=
  match action with
  | .now => (world.clock, world)
  | .claimNip98Replay eventId expiresAt now =>
      if world.storeFails then (.error .database, world)
      else
        ((claimNip98Replay eventId expiresAt now world.nip98Replay).1, { world with
            nip98Replay := (claimNip98Replay eventId expiresAt now world.nip98Replay).2
            accepted :=
              match (claimNip98Replay eventId expiresAt now world.nip98Replay).1 with
              | .ok true => world.accepted ++ [eventId]
              | _ => world.accepted })

abbrev Authentication : Type → Type 1 := Fallible ReplayAction AuthenticationError

/-- `SqliteReplayGuard::claim`. -/
def claimReplay (eventId : String) (expiresAt : Nat) : Authentication Bool := do
  let now ← Fallible.always .now
  let outcome ← Fallible.always (.claimNip98Replay eventId expiresAt now)
  match outcome with
  | .ok inserted => return inserted
  | .error _ => return false

/-! ### Authentication -/

section

variable (codec : EventCodec) (policy : Nip98AuthorityPolicy)

/-- Verifies one HTTP authentication event. -/
def authenticate (request : TlsRequest) (now : Nat) : Authentication AuthenticatedPrincipal :=
  match codec.parse request.eventJson with
  | none => throw .malformedProof
  | some event =>
      if codec.verifyEvent event = false then throw .invalidSignature
      else if event.kind ≠ 27235 then throw .requestMismatch
      else if policy.freshness < absDiff event.createdAt now then throw .stale
      else if event.matches request = false then throw .requestMismatch
      else
        match policy.authority? event.pubkey with
        | none => throw .unknownPrincipal
        | some authority => do
            let claimed ← claimReplay event.id (policy.expiresAt event)
            if claimed then return ⟨.nip98 event.pubkey, authority⟩
            else throw .replay

/-- The authentication of a request, with the clock reading it starts with. -/
def tlsRoute (request : TlsRequest) : Program ReplayAction Unit :=
  (do
    let now ← Fallible.always .now
    authenticate codec policy request now : Authentication AuthenticatedPrincipal).run.bind
    fun _ => .done ()

/-- The requests over TLS. Connections are served concurrently, the clock does not run
backwards, the store may fail at any time, and a restart loses the requests in flight. -/
def tlsServer : System Nat ReplayAction ReplayWorld where
  perform := fun _ => ReplayWorld.perform
  starts := fun _ world program after => (∃ request, program = tlsRoute codec policy request) ∧
    after = world
  environment := fun world after => world.clock ≤ after.clock ∧
    after.nip98Replay = world.nip98Replay ∧ after.accepted = world.accepted
  restarts := fun world after threads => after = world ∧ threads = fun _ => .done ()

end

/-- Every claim runs before the proof it claims expires. -/
def claimsUnexpired : Condition Nat ReplayAction ReplayWorld :=
  fun _ _ action world =>
    match action with
    | .now => True
    | .claimNip98Replay _ expiresAt _ => world.clock ≤ expiresAt

/-! ### The terms of the guard -/

section

variable (codec : EventCodec) (policy : Nip98AuthorityPolicy)

/-- Every accepted event is still claimed or has expired, and none was accepted twice. -/
structure ReplayWorld.Guarded (world : ReplayWorld) : Prop where
  remembered : ∀ id ∈ world.accepted, ∃ event, codec.verifyEvent event = true ∧ event.id = id ∧
    (world.nip98Replay.lookup id = some (policy.expiresAt event) ∨
      policy.expiresAt event < world.clock)
  once : world.accepted.Nodup

/-- A claim is made for a verified event, with a reading of the clock that has passed. -/
def claimDuty : Condition Nat ReplayAction ReplayWorld :=
  fun _ _ action world =>
    match action with
    | .now => True
    | .claimNip98Replay eventId expiresAt now => now ≤ world.clock ∧
        ∃ event, codec.verifyEvent event = true ∧ event.id = eventId ∧
          policy.expiresAt event = expiresAt

def replayTerms : Discipline Nat ReplayAction ReplayWorld where
  invariant := ReplayWorld.Guarded codec policy
  rely := fun _ before after => before.clock ≤ after.clock
  duty := claimDuty codec policy
  idle := fun _ _ => True

variable {codec policy} {world : ReplayWorld}

/-- The world once expired claims were dropped. -/
def ReplayWorld.dropped (world : ReplayWorld) (now : Nat) : ReplayWorld :=
  { world with nip98Replay := world.nip98Replay.filterRows fun expires => decide (now ≤ expires) }

/-- The world once an id was claimed. -/
def ReplayWorld.claimed (world : ReplayWorld) (eventId : String) (expiresAt : Nat) : ReplayWorld :=
  { world with
    nip98Replay := world.nip98Replay.insert eventId expiresAt
    accepted := world.accepted ++ [eventId] }

/-- What a claim can do: nothing, drop expired claims, or besides insert its own. -/
theorem ReplayWorld.perform_claim_cases (eventId : String) (expiresAt now : Nat)
    (world : ReplayWorld) :
    ReplayWorld.perform (.claimNip98Replay eventId expiresAt now) world =
      (.error .database, world) ∨
    ReplayWorld.perform (.claimNip98Replay eventId expiresAt now) world =
      (.ok false, world.dropped now) ∨
    (eventId ∉ (world.dropped now).nip98Replay ∧
      ReplayWorld.perform (.claimNip98Replay eventId expiresAt now) world =
        (.ok true, (world.dropped now).claimed eventId expiresAt)) := by
  by_cases fails : world.storeFails = true
  · exact Or.inl (if_pos fails)
  · simp only [ReplayWorld.perform, if_neg fails, claimNip98Replay]
    by_cases overflow : i64Max < now ∨ i64Max < expiresAt
    · simp only [if_pos overflow, true_or]
    · by_cases present : eventId ∈ (world.dropped now).nip98Replay
      · have kept := present
        unfold ReplayWorld.dropped at kept
        simp only [if_neg overflow, if_pos kept]
        exact Or.inr (Or.inl rfl)
      · have absent := present
        unfold ReplayWorld.dropped at absent
        simp only [if_neg overflow, if_neg absent]
        exact Or.inr (Or.inr ⟨present, rfl⟩)

variable (guarded : world.Guarded codec policy)

include guarded

/-- Expired claims may be dropped. -/
theorem ReplayWorld.Guarded.drop {now : Nat} (read : now ≤ world.clock) :
    (world.dropped now).Guarded codec policy where
  once := guarded.once
  remembered := by
    intro id accepted
    obtain ⟨event, verified, same, claimed | expired⟩ := guarded.remembered id accepted
    · refine ⟨event, verified, same, ?_⟩
      by_cases kept : now ≤ policy.expiresAt event
      · exact Or.inl (Table.lookup_filterRows.mpr ⟨claimed, by simpa using kept⟩)
      · exact Or.inr (Nat.lt_of_lt_of_le (Nat.lt_of_not_le kept) read)
    · exact ⟨event, verified, same, Or.inr expired⟩

variable {event : NostrEvent}

/-- A claim of an id that was not there is the first of its event, if the event has not
expired. -/
theorem ReplayWorld.Guarded.insert (verified : codec.verifyEvent event = true)
    (absent : event.id ∉ world.nip98Replay) (unexpired : world.clock ≤ policy.expiresAt event) :
    (world.claimed event.id (policy.expiresAt event)).Guarded codec policy := by
  have first : event.id ∉ world.accepted := by
    intro accepted
    obtain ⟨other, signed, same, claimed | expired⟩ := guarded.remembered event.id accepted
    · exact absent (Table.mem_of_lookup claimed)
    · rw [codec.unforgeable other event signed verified same] at expired
      exact absurd unexpired (Nat.not_le_of_lt expired)
  constructor
  · intro id accepted
    rcases List.mem_append.mp accepted with earlier | new
    · obtain ⟨other, signed, same, kept⟩ := guarded.remembered id earlier
      refine ⟨other, signed, same, kept.imp_left fun claimed => ?_⟩
      show (world.nip98Replay.insert event.id _).lookup id = _
      rw [Table.lookup_insert_eq, if_neg, claimed]
      rintro rfl
      exact first earlier
    · obtain rfl := List.mem_singleton.mp new
      exact ⟨event, verified, rfl, Or.inl (AList.lookup_insert _)⟩
  · refine List.nodup_append.mpr ⟨guarded.once, List.nodup_singleton _, ?_⟩
    rintro earlier member _ new rfl
    exact first (List.mem_singleton.mp new ▸ member)

/-- A claim that runs before its event expires keeps the terms. -/
theorem ReplayWorld.Guarded.claim (verified : codec.verifyEvent event = true)
    {now : Nat} (read : now ≤ world.clock) (unexpired : world.clock ≤ policy.expiresAt event) :
    (ReplayWorld.perform (.claimNip98Replay event.id (policy.expiresAt event) now)
      world).2.Guarded codec policy := by
  rcases world.perform_claim_cases event.id (policy.expiresAt event) now with
    failed | present | ⟨absent, inserted⟩
  · rw [failed]
    exact guarded
  · rw [present]
    exact guarded.drop read
  · rw [inserted]
    exact (guarded.drop read).insert verified absent unexpired

omit guarded

/-! ### Every request keeps the terms -/

variable (codec policy) in
/-- A program of a connection keeps the terms. -/
abbrev Authenticates {Result : Type} (connection : Nat) (pre : ReplayWorld → Prop)
    (program : Authentication Result) (post : Result → ReplayWorld → Prop) : Prop :=
  (replayTerms codec policy).Triple (tlsServer codec policy) claimsUnexpired connection pre
    program.run (onOutcome post fun _ _ => True)

section

variable {connection : Nat}

/-- One action of a connection. -/
theorem Authenticates.always {Result : Type} {pre : ReplayWorld → Prop}
    {action : ReplayAction Result} {post : Result → ReplayWorld → Prop}
    (stable : (replayTerms codec policy).Stable connection pre)
    (execute : ∀ world, world.Guarded codec policy → pre world →
      claimsUnexpired connection action world → claimDuty codec policy connection action world ∧
        (ReplayWorld.perform action world).2.Guarded codec policy ∧
        world.clock ≤ (ReplayWorld.perform action world).2.clock ∧
        post (ReplayWorld.perform action world).1 (ReplayWorld.perform action world).2) :
    Authenticates codec policy connection pre (Fallible.always action) post := by
  have finish : ∀ response : Result, (replayTerms codec policy).Triple (tlsServer codec policy)
      claimsUnexpired connection (post response) (.done (.ok response))
      (onOutcome post fun (_ : AuthenticationError) _ => True) :=
    fun response => done fun _ _ => id
  refine step stable (fun world guarded holds admitted => ?_) finish
  obtain ⟨duty, kept, later, reached⟩ := execute world guarded holds admitted
  exact ⟨duty, ⟨kept, fun _ _ => later⟩, reached⟩

theorem authenticates_now :
    Authenticates codec policy connection (fun _ => True) (Fallible.always .now)
      fun now world => now ≤ world.clock :=
  Authenticates.always (fun _ _ _ _ _ _ => trivial) fun _ guarded _ _ =>
    ⟨trivial, guarded, Nat.le_refl _, Nat.le_refl _⟩

theorem authenticates_claimReplay (verified : codec.verifyEvent event = true) :
    Authenticates codec policy connection (fun _ => True)
      (claimReplay event.id (policy.expiresAt event)) fun _ _ => True := by
  refine fallibleBind authenticates_now fun now => ?_
  have claims : Authenticates codec policy connection (fun world => now ≤ world.clock)
      (Fallible.always (.claimNip98Replay event.id (policy.expiresAt event) now))
      fun _ _ => True := by
    refine Authenticates.always (fun _ _ later _ _ read => Nat.le_trans read later) ?_
    intro world guarded read unexpired
    refine ⟨⟨read, event, verified, rfl, rfl⟩, guarded.claim verified read unexpired, ?_, trivial⟩
    simp only [ReplayWorld.perform]
    split <;> exact Nat.le_refl _
  refine fallibleBind claims fun outcome => ?_
  cases outcome <;> exact done fun _ _ _ => trivial

theorem authenticates_authenticate (request : TlsRequest) (now : Nat) :
    Authenticates codec policy connection (fun _ => True) (authenticate codec policy request now)
      fun _ _ => True := by
  have refuses : ∀ error : AuthenticationError, Authenticates codec policy connection
      (fun _ => True) (throw error : Authentication AuthenticatedPrincipal) fun _ _ => True :=
    fun _ => done fun _ _ _ => trivial
  unfold authenticate
  cases codec.parse request.eventJson with
  | none => exact refuses _
  | some event =>
    simp only
    split
    · exact refuses _
    · next signed =>
      have verified : codec.verifyEvent event = true := by simpa using signed
      split
      · exact refuses _
      split
      · exact refuses _
      split
      · exact refuses _
      cases policy.authority? event.pubkey with
      | none => exact refuses _
      | some authority =>
        refine fallibleBind (authenticates_claimReplay verified) fun claimed => ?_
        cases claimed with
        | true => exact done fun _ _ _ => trivial
        | false => exact refuses _

theorem meets_tlsRoute (request : TlsRequest) :
    (replayTerms codec policy).Triple (tlsServer codec policy) claimsUnexpired connection
      (fun _ => True) (tlsRoute codec policy request) fun _ _ => True := by
  refine bind (fallibleBind authenticates_now fun now =>
    consequence (fun _ _ _ => trivial) (authenticates_authenticate request now)
      fun _ _ => id) fun outcome => ?_
  exact done fun _ _ _ => trivial

end

theorem replayTerms_lawful :
    (replayTerms codec policy).Lawful (tlsServer codec policy) claimsUnexpired where
  rely_refl := fun _ _ => Nat.le_refl _
  rely_trans := fun _ _ _ _ first second => Nat.le_trans first second
  idle_stable := fun _ _ _ _ _ _ _ => trivial
  start := by
    rintro connection world _ _ ⟨⟨request, rfl⟩, rfl⟩ guarded _
    exact ⟨guarded, fun _ _ => Nat.le_refl _, (meets_tlsRoute request).meets _ guarded trivial⟩
  environment := by
    rintro world after ⟨later, claims, accepted⟩ guarded
    refine ⟨⟨fun id member => ?_, accepted ▸ guarded.once⟩, fun _ => later⟩
    rw [accepted] at member
    obtain ⟨event, verified, same, kept⟩ := guarded.remembered id member
    refine ⟨event, verified, same, ?_⟩
    rw [claims]
    exact kept.imp_right fun expired => Nat.lt_of_lt_of_le expired later
  restart := by
    rintro world _ _ ⟨rfl, rfl⟩ guarded
    exact ⟨guarded, fun _ => trivial⟩

end

/-- A server without requests. -/
def idleServer (world : ReplayWorld) : Pool Nat ReplayAction ReplayWorld :=
  ⟨world, fun _ => .done ()⟩

/-- In every run from an unused database in which each claim runs before its proof expires, no
event is accepted twice. -/
theorem replay_accepted_once (codec : EventCodec) (policy : Nip98AuthorityPolicy)
    (start : ReplayWorld) (unused : start.accepted = [])
    {pool : Pool Nat ReplayAction ReplayWorld}
    (reaches : (tlsServer codec policy).Reaches claimsUnexpired (idleServer start) pool) :
    pool.world.accepted.Nodup := by
  have guarded : start.Guarded codec policy := by
    constructor
    · rw [unused]
      intro id member
      cases member
    · rw [unused]
      exact List.nodup_nil
  exact (replayTerms_lawful.holds reaches ⟨guarded, fun _ => trivial⟩).1.once

namespace TlsDeployment

/-- A proof made at second 100. -/
def event : NostrEvent :=
  ⟨"e", "owner", 27235, 100, [["u", "https://host/v1"], ["method", "POST"]]⟩

/-- A codec that knows one event. -/
def codec : EventCodec where
  parse := fun text => if text = "proof" then some event else none
  verifyEvent := fun other => decide (other = event)
  unforgeable := by
    intro first second one other _
    rw [of_decide_eq_true one, of_decide_eq_true other]

def policy : Nip98AuthorityPolicy := ⟨["owner"], [], 60⟩

def request : TlsRequest := ⟨"proof", "POST", "https://host/v1", none⟩

def server : System Nat ReplayAction ReplayWorld := tlsServer codec policy

def unused : ReplayWorld := ⟨100, ∅, false, []⟩

/-- The pool after a request came in on a connection. -/
def arrives (connection : Nat) (pool : Pool Nat ReplayAction ReplayWorld) :
    Pool Nat ReplayAction ReplayWorld :=
  ⟨pool.world, Function.update pool.threads connection (tlsRoute codec policy request)⟩

/-- The pool at a later time. -/
def later (now : Nat) (pool : Pool Nat ReplayAction ReplayWorld) :
    Pool Nat ReplayAction ReplayWorld :=
  ⟨{ pool.world with clock := now }, pool.threads⟩

variable {admits : Condition Nat ReplayAction ReplayWorld}
  {pool : Pool Nat ReplayAction ReplayWorld}

theorem reaches_arrives {connection : Nat} (idle : pool.threads connection = .done ()) :
    server.Reaches admits pool (arrives connection pool) :=
  (System.Reaches.refl pool).tail (.start idle ⟨⟨request, rfl⟩, rfl⟩)

theorem reaches_later {now : Nat} (forward : pool.world.clock ≤ now) :
    server.Reaches admits pool (later now pool) :=
  (System.Reaches.refl pool).tail (.environment ⟨forward, rfl, rfl⟩)

/-- A request was accepted. -/
def acceptedOnce : Pool Nat ReplayAction ReplayWorld :=
  server.acts 0 3 (arrives 0 (idleServer unused))

/-- The same proof comes in again in its last second. -/
def presentedAgain : Pool Nat ReplayAction ReplayWorld :=
  arrives 1 (later 160 acceptedOnce)

end TlsDeployment

open TlsDeployment

/-- A proof that is presented again while it is fresh is refused. -/
theorem replay_accepted_once_presentedAgain :
    (server.acts 1 3 presentedAgain).world.accepted = ["e"] ∧
      (server.acts 1 3 presentedAgain).world.accepted.Nodup := by
  refine ⟨by decide +kernel, replay_accepted_once codec policy unused rfl ?_⟩
  have sound : ∀ connection ⦃Response : Type⦄ (action : ReplayAction Response) world,
      (match action with
        | .now => true
        | .claimNip98Replay _ expiresAt _ => decide (world.clock ≤ expiresAt)) = true →
        claimsUnexpired connection action world := by
    intro connection Response action world passes
    cases action with
    | now => trivial
    | claimNip98Replay eventId expiresAt now =>
      show world.clock ≤ expiresAt
      exact of_decide_eq_true passes
  have first : server.Reaches claimsUnexpired (idleServer unused) acceptedOnce :=
    (reaches_arrives rfl).trans (System.reaches_acts sound (by decide +kernel))
  have second : server.Reaches claimsUnexpired acceptedOnce presentedAgain :=
    (reaches_later (by decide +kernel)).trans (reaches_arrives rfl)
  exact (first.trans second).trans (System.reaches_acts sound (by decide +kernel))

/-- A proof that expires between the check of its freshness and its claim is accepted twice. -/
theorem replay_accepted_twice :
    ∃ pool, (tlsServer codec policy).Reaches (unrestricted Nat ReplayAction ReplayWorld)
      (idleServer unused) pool ∧ pool.world.accepted = ["e", "e"] := by
  refine ⟨server.acts 1 2 (later 161 (server.acts 1 1 presentedAgain)), ?_, by decide +kernel⟩
  have first : server.Reaches (unrestricted Nat ReplayAction ReplayWorld) (idleServer unused)
      acceptedOnce := (reaches_arrives rfl).trans (System.reaches_acts_always 0 3 _)
  have second : server.Reaches (unrestricted Nat ReplayAction ReplayWorld) acceptedOnce
      presentedAgain := (reaches_later (by decide +kernel)).trans (reaches_arrives rfl)
  have third : server.Reaches (unrestricted Nat ReplayAction ReplayWorld) presentedAgain
      (later 161 (server.acts 1 1 presentedAgain)) :=
    (System.reaches_acts_always 1 1 _).trans (reaches_later (by decide +kernel))
  exact ((first.trans second).trans third).trans (System.reaches_acts_always 1 2 _)

end BuzzServer
