/-
This file models the session of a community with its relay, and the adapter that
keeps the session connected.

The session remembers the newest `online` presence of the agent and refuses every
other presence, so that a session stays ready until its last `online` presence
expires, whatever else the agent has said since. The adapter waits after an attempt
that fails before the subscription was sent. After a subscription that was lost it
connects again at once.

Histories are lists with the latest operation first.
-/

import Mathlib.Data.List.Chain
import Mathlib.Data.Nat.Find
import Mathlib.Tactic.Common

namespace BuzzServer.Relay

/-! ### The session -/

def presenceKind : Nat := 20001

def presenceExpirySeconds : Nat := 180

def initialReadinessTimeoutSeconds : Nat := 30

inductive RelayConnectionState where
  | disconnected
  | connected
  | authenticated
  deriving DecidableEq

inductive CommunityReadiness where
  | pending
  | ready
  | degraded
  deriving DecidableEq

inductive CommunitySessionError where
  | authorizationRejected
  | invalidConnectionTransition
  | invalidSignature
  | unexpectedAgent
  | unexpectedEventKind
  | notOnlinePresence
  | futurePresence
  | expiredPresence
  | outOfOrderPresence

/-- An event, with the verdict on its signature and its id. -/
structure Event (Key : Type) where
  verified : Bool
  pubkey : Key
  kind : Nat
  content : String
  createdAt : Nat

structure CommunitySession (Key : Type) where
  expectedAgent : Key
  connection : RelayConnectionState
  authorizationVerified : Bool
  readinessStartedAt : Nat
  lastOnlinePresenceAt : Option Nat

namespace CommunitySession

variable {Key : Type} [DecidableEq Key]

def new (agent : Key) (now : Nat) : CommunitySession Key :=
  ⟨agent, .disconnected, false, now, none⟩

variable (session : CommunitySession Key)

def verifyAuthorization (accepted : Bool) : Except CommunitySessionError (CommunitySession Key) :=
  if accepted then .ok { session with authorizationVerified := true }
  else .error .authorizationRejected

def authenticated : Except CommunitySessionError (CommunitySession Key) :=
  if session.connection ≠ .connected then .error .invalidConnectionTransition
  else .ok { session with connection := .authenticated }

def observePresence (event : Event Key) (now : Nat) :
    Except CommunitySessionError (CommunitySession Key) :=
  if event.verified = false then .error .invalidSignature
  else if event.pubkey ≠ session.expectedAgent then .error .unexpectedAgent
  else if event.kind ≠ presenceKind then .error .unexpectedEventKind
  else if event.content ≠ "online" then .error .notOnlinePresence
  else if now < event.createdAt then .error .futurePresence
  else if presenceExpirySeconds < now - event.createdAt then .error .expiredPresence
  else if session.lastOnlinePresenceAt.any (event.createdAt < ·) then .error .outOfOrderPresence
  else .ok { session with lastOnlinePresenceAt := some event.createdAt }

def readiness (now : Nat) : CommunityReadiness :=
  if session.authorizationVerified = true ∧ session.connection = .authenticated ∧
      session.lastOnlinePresenceAt.any fun seen =>
        seen ≤ now ∧ now - seen ≤ presenceExpirySeconds then .ready
  else if now - session.readinessStartedAt < initialReadinessTimeoutSeconds then .pending
  else .degraded

end CommunitySession

inductive SessionOperation (Key : Type) where
  | verifyAuthorization (accepted : Bool)
  | connected
  | authenticated
  | disconnected
  | observePresence (event : Event Key) (now : Nat)

section

variable [DecidableEq Key]

/-- An operation that fails leaves the session as it was. -/
def CommunitySession.step (session : CommunitySession Key) :
    SessionOperation Key → CommunitySession Key
  | .verifyAuthorization accepted => (session.verifyAuthorization accepted).toOption.getD session
  | .connected => { session with connection := .connected }
  | .authenticated => session.authenticated.toOption.getD session
  | .disconnected => { session with connection := .disconnected }
  | .observePresence event now => (session.observePresence event now).toOption.getD session

/-- The session of an agent after a history. -/
def sessionAfter (agent : Key) (start : Nat) : List (SessionOperation Key) → CommunitySession Key
  | [] => .new agent start
  | operation :: earlier => (sessionAfter agent start earlier).step operation

/-- A validly signed presence of the agent was delivered. -/
def Delivered (agent : Key) (history : List (SessionOperation Key)) (event : Event Key) : Prop :=
  (∃ now, .observePresence event now ∈ history) ∧ event.verified = true ∧ event.pubkey = agent ∧
    event.kind = presenceKind

/-- Among the presences of a kind that were delivered and are not after the time, one of the newest
says that the agent is online, and it has not expired. -/
def OnlineAt (counts : Event Key → Prop) (agent : Key) (history : List (SessionOperation Key))
    (time : Nat) : Prop :=
  ∃ event, Delivered agent history event ∧ event.content = "online" ∧ event.createdAt ≤ time ∧
    time - event.createdAt ≤ presenceExpirySeconds ∧
      ∀ other, Delivered agent history other → counts other → other.createdAt ≤ time →
        other.createdAt ≤ event.createdAt

variable {agent : Key} {start : Nat} {history : List (SessionOperation Key)}

/-- An operation keeps the agent. It records nothing, or the online presence that it was given. -/
theorem step_recorded (session : CommunitySession Key) (operation : SessionOperation Key) :
    (session.step operation).expectedAgent = session.expectedAgent ∧
      ((session.step operation).lastOnlinePresenceAt = session.lastOnlinePresenceAt ∨
        ∃ event, Delivered session.expectedAgent [operation] event ∧ event.content = "online" ∧
          (session.step operation).lastOnlinePresenceAt = some event.createdAt) := by
  cases operation with
  | observePresence event now =>
    simp only [CommunitySession.step, CommunitySession.observePresence]
    split_ifs <;> simp_all [Except.toOption, Delivered]
  | verifyAuthorization accepted => cases accepted <;> exact ⟨rfl, .inl rfl⟩
  | authenticated =>
    simp only [CommunitySession.step, CommunitySession.authenticated]
    split_ifs <;> exact ⟨rfl, .inl rfl⟩
  | _ => exact ⟨rfl, .inl rfl⟩

theorem sessionAfter_agent : (sessionAfter agent start history).expectedAgent = agent := by
  induction history with
  | nil => rfl
  | cons operation earlier inductionHypothesis =>
    exact (step_recorded _ operation).1.trans inductionHypothesis

/-- What the session has on record was delivered. -/
theorem sessionAfter_recorded {seen : Nat}
    (recorded : (sessionAfter agent start history).lastOnlinePresenceAt = some seen) :
    ∃ event, Delivered agent history event ∧ event.content = "online" ∧ event.createdAt = seen := by
  induction history with
  | nil => cases recorded
  | cons operation earlier inductionHypothesis =>
    rcases (step_recorded (sessionAfter agent start earlier) operation).2 with
      same | ⟨event, ⟨⟨now, given⟩, valid⟩, online, same⟩
    · obtain ⟨event, ⟨⟨now, member⟩, valid⟩, rest⟩ := inductionHypothesis (same.symm.trans recorded)
      exact ⟨event, ⟨⟨now, List.mem_cons_of_mem _ member⟩, valid⟩, rest⟩
    · rw [sessionAfter_agent] at valid
      rw [List.mem_singleton] at given
      exact ⟨event, ⟨⟨now, given ▸ List.mem_cons_self ..⟩, valid⟩, online,
        Option.some.inj (same.symm.trans recorded)⟩

/-- A session is ready only if it is authorized and authenticated and the newest online presence
has not expired. A presence with another content does not end the readiness. -/
theorem ready_online (history : List (SessionOperation Key)) (time : Nat)
    (ready : (sessionAfter agent start history).readiness time = .ready) :
    (sessionAfter agent start history).authorizationVerified = true ∧
      (sessionAfter agent start history).connection = .authenticated ∧
        OnlineAt (·.content = "online") agent history time := by
  classical
  unfold CommunitySession.readiness at ready
  split at ready
  case isFalse => split at ready <;> cases ready
  case isTrue holds =>
  obtain ⟨authorized, authenticated, current⟩ := holds
  obtain ⟨seen, recorded, fresh⟩ := (Option.any_eq_true _ _).mp current
  obtain ⟨notAfter, age⟩ := of_decide_eq_true fresh
  let said : Nat → Prop := fun at_ => ∃ event, Delivered agent history event ∧
    event.content = "online" ∧ event.createdAt = at_
  have first : said seen := sessionAfter_recorded recorded
  obtain ⟨event, delivered, online, newest⟩ := Nat.findGreatest_spec notAfter first
  have later := Nat.le_findGreatest notAfter first
  have before := Nat.findGreatest_le (P := said) time
  refine ⟨authorized, authenticated, event, delivered, online, by omega, by omega, ?_⟩
  intro other told otherOnline otherBefore
  rw [newest]
  exact Nat.le_findGreatest otherBefore ⟨other, told, otherOnline, rfl⟩

/-- The agent comes online at 100. -/
def comesOnline : List (SessionOperation Unit) :=
  [.observePresence ⟨true, (), presenceKind, "online", 100⟩ 100, .authenticated, .connected,
    .verifyAuthorization true]

theorem ready_online_comesOnline : OnlineAt (·.content = "online") () comesOnline 105 := by
  have ready : (sessionAfter () 90 comesOnline).readiness 105 = .ready := by decide
  exact (ready_online comesOnline 105 ready).2.2

/-- The agent goes offline at 110, and the session is ready at 115. -/
theorem ready_offline :
    ∃ history : List (SessionOperation Unit), (sessionAfter () 90 history).readiness 115 = .ready ∧
      ¬ OnlineAt (fun _ => True) () history 115 := by
  let offline : Event Unit := ⟨true, (), presenceKind, "offline", 110⟩
  refine ⟨.observePresence offline 110 :: comesOnline, by decide, ?_⟩
  rintro ⟨event, ⟨⟨now, member⟩, _⟩, online, _, _, newest⟩
  have late := newest offline ⟨⟨110, List.mem_cons_self ..⟩, rfl, rfl, rfl⟩ trivial (by decide)
  simp only [comesOnline, List.mem_cons, reduceCtorEq, List.not_mem_nil, or_false] at member
  rcases member with ⟨rfl, -⟩ | ⟨rfl, -⟩
  · exact absurd online (by decide)
  · exact absurd late (by decide)

end

/-! ### The adapter -/

inductive RelayAdapterError where
  | invalidConfig
  | authorizationNotVerified
  deriving DecidableEq

structure RelayAdapterConfig where
  (tickInterval initialBackoff maxBackoff : Nat)

variable (config : RelayAdapterConfig)

def RelayAdapterConfig.validate : Except RelayAdapterError Unit :=
  if config.tickInterval = 0 ∨ config.initialBackoff = 0 ∨
      config.maxBackoff < config.initialBackoff then .error .invalidConfig
  else .ok ()

def doubledCapped (current cap : Nat) : Nat := min (2 * current) cap

inductive AdapterPhase where
  | connecting
  | sending
  | streaming

/-- An attempt that is over: whether its subscription was sent, and how long the adapter waited
before it connected again. -/
structure Attempt where
  subscribed : Bool
  wait : Option Nat

structure Adapter where
  phase : AdapterPhase
  backoff : Nat
  attempts : List Attempt

/-- Wait, and connect again. -/
def Adapter.backOff (adapter : Adapter) : Adapter where
  phase := .connecting
  backoff := doubledCapped adapter.backoff config.maxBackoff
  attempts := ⟨false, some adapter.backoff⟩ :: adapter.attempts

/-- What the adapter does when the call it waits for succeeds or fails. A tick of a stream counts
as a success. -/
def Adapter.step (config : RelayAdapterConfig) (adapter : Adapter) (succeeds : Bool) : Adapter :=
  match adapter.phase, succeeds with
  | .connecting, true => { adapter with phase := .sending }
  | .connecting, false => adapter.backOff config
  | .sending, true => { adapter with phase := .streaming, backoff := config.initialBackoff }
  | .sending, false => adapter.backOff config
  | .streaming, true => adapter
  -- The loop over the messages is left without a wait.
  | .streaming, false =>
    { adapter with phase := .connecting, attempts := ⟨true, none⟩ :: adapter.attempts }

def adapterAfter (config : RelayAdapterConfig) : List Bool → Adapter
  | [] => ⟨.connecting, config.initialBackoff, []⟩
  | succeeds :: earlier => (adapterAfter config earlier).step config succeeds

/-- The wait after a failed attempt is twice the wait after the failed attempt before it. -/
def Doubles (next last : Attempt) : Prop :=
  last.subscribed = false → next.subscribed = false →
    ∀ wait, last.wait = some wait → next.wait = some (doubledCapped wait config.maxBackoff)

/-- The adapter waits before every further attempt, and longer while the attempts fail. -/
def BacksOff (config : RelayAdapterConfig) (attempts : List Attempt) : Prop :=
  (∀ attempt ∈ attempts, ∃ wait, attempt.wait = some wait ∧
    config.initialBackoff ≤ wait ∧ wait ≤ config.maxBackoff) ∧
  attempts.IsChain (Doubles config)

/-- No subscription that was sent is lost. -/
def NeverLost (config : RelayAdapterConfig) : List Bool → Prop
  | [] => True
  | succeeds :: earlier => NeverLost config earlier ∧
      ((adapterAfter config earlier).phase = .streaming → succeeds = true)

/-- The wait that comes next is within the bounds, and continues those of the failed attempts. -/
structure Adapter.Paced (config : RelayAdapterConfig) (adapter : Adapter) : Prop where
  lower : config.initialBackoff ≤ adapter.backoff
  upper : adapter.backoff ≤ config.maxBackoff
  waits : ∀ attempt ∈ adapter.attempts, attempt.subscribed = false → ∃ wait,
    attempt.wait = some wait ∧ config.initialBackoff ≤ wait ∧ wait ≤ config.maxBackoff
  lost : ∀ attempt ∈ adapter.attempts, attempt.subscribed = true → attempt.wait = none
  chain : adapter.attempts.IsChain (Doubles config)
  next : adapter.phase ≠ .streaming →
    ∀ last ∈ adapter.attempts.head?, Doubles config ⟨false, some adapter.backoff⟩ last

section

variable {config : RelayAdapterConfig} {adapter : Adapter}

theorem Adapter.Paced.backOff (paced : adapter.Paced config) (early : adapter.phase ≠ .streaming) :
    (adapter.backOff config).Paced config := by
  have lower := paced.lower
  have upper := paced.upper
  refine ⟨by simp only [Adapter.backOff, doubledCapped]; omega, min_le_right _ _, ?_, ?_,
    List.isChain_cons.mpr ⟨paced.next early, paced.chain⟩, ?_⟩
  · exact List.forall_mem_cons.mpr ⟨fun _ => ⟨_, rfl, lower, upper⟩, paced.waits⟩
  · exact List.forall_mem_cons.mpr ⟨nofun, paced.lost⟩
  · rintro - last ⟨⟩ - - wait ⟨⟩
    rfl

theorem adapterAfter_paced (bounds : config.initialBackoff ≤ config.maxBackoff)
    (outcomes : List Bool) : (adapterAfter config outcomes).Paced config := by
  induction outcomes with
  | nil => exact ⟨le_rfl, bounds, nofun, nofun, .nil, nofun⟩
  | cons succeeds earlier paced =>
    rw [adapterAfter, Adapter.step.eq_def]
    split
    case h_1 connecting => exact { paced with next := fun _ => paced.next (by simp [connecting]) }
    case h_2 connecting => exact paced.backOff (by simp [connecting])
    case h_3 =>
      exact { paced with lower := le_rfl, upper := bounds, next := fun early => absurd rfl early }
    case h_4 sending => exact paced.backOff (by simp [sending])
    case h_5 => exact paced
    case h_6 =>
      refine { paced with
        waits := List.forall_mem_cons.mpr ⟨nofun, paced.waits⟩
        lost := List.forall_mem_cons.mpr ⟨fun _ => rfl, paced.lost⟩
        chain := List.isChain_cons.mpr ⟨fun _ _ _ => nofun, paced.chain⟩
        next := ?_ }
      rintro - last ⟨⟩ ⟨⟩

theorem neverLost_iff (outcomes : List Bool) : NeverLost config outcomes ↔
    ∀ attempt ∈ (adapterAfter config outcomes).attempts, attempt.subscribed = false := by
  induction outcomes with
  | nil => simp [NeverLost, adapterAfter]
  | cons succeeds earlier inductionHypothesis =>
    rw [NeverLost, adapterAfter, Adapter.step.eq_def]
    split <;> simp_all [Adapter.backOff]

/-- With a valid configuration the adapter backs off between all its attempts if and only if it
never loses a subscription that it has sent. -/
theorem backsOff_iff (valid : config.validate = .ok ()) (outcomes : List Bool) :
    BacksOff config (adapterAfter config outcomes).attempts ↔ NeverLost config outcomes := by
  have bounds : config.initialBackoff ≤ config.maxBackoff := by
    unfold RelayAdapterConfig.validate at valid
    split at valid
    · cases valid
    · omega
  have paced := adapterAfter_paced bounds outcomes
  rw [neverLost_iff]
  constructor
  · intro backsOff attempt member
    obtain ⟨wait, waited, _⟩ := backsOff.1 attempt member
    by_contra subscribed
    rw [paced.lost attempt member (by simpa using subscribed)] at waited
    cases waited
  · intro failed
    exact ⟨fun attempt member => paced.waits attempt member (failed attempt member), paced.chain⟩

theorem backsOff_iff_failing :
    BacksOff ⟨30, 1, 60⟩ (adapterAfter ⟨30, 1, 60⟩ [true, true, false, false]).attempts :=
  (backsOff_iff (by decide) _).mpr
    (by simp [NeverLost, adapterAfter, Adapter.step, Adapter.backOff])

/-- A relay that accepts the subscription and closes the connection is connected to again at
once. -/
theorem not_backsOff_lost :
    ¬ BacksOff ⟨30, 1, 60⟩ (adapterAfter ⟨30, 1, 60⟩ [false, true, true]).attempts := by
  rintro ⟨waits, -⟩
  obtain ⟨wait, waited, -⟩ := waits ⟨true, none⟩ (List.mem_cons_self ..)
  cases waited

end

end BuzzServer.Relay
