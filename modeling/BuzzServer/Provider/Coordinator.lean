/-
This file models the coordinator that deploys an agent through an external
provider at most once for each request.

The coordinator rests on a repository of deployment records. Its documented
contract is all that is used of it: `begin` inserts the intent of a request that
has no record and otherwise reports the record there is, and `complete` replaces
a matching record in flight by the receipt, each in one step. A call of the
repository that fails may have had its effect.

A caller's payload closure and the provider process answer as they like. What is
kept of a run is its history: which closures ran, which processes were started
and which receipts were returned. Next to it stands how far each caller has
taken the request it acquired, which no code reads.
-/

import BuzzServer.Concurrent.Discipline
import BuzzServer.Provider.Config

namespace BuzzServer

open Json Concurrent

/-! ### Records -/

structure ProviderDeploymentIntent where
  (requestId providerId stagedSha256 : String)
  deriving DecidableEq

structure ProviderDeploymentReceipt where
  (requestId providerId stagedSha256 externalAgentId : String)
  deriving DecidableEq

inductive BeginDeployment where
  | acquired
  | inFlight (intent : ProviderDeploymentIntent)
  | complete (receipt : ProviderDeploymentReceipt)

/-- What a repository keeps for a request. -/
inductive DeploymentRecord where
  | inFlight (intent : ProviderDeploymentIntent)
  | complete (receipt : ProviderDeploymentReceipt)
  deriving DecidableEq

/-- How `begin` reports a record it found. -/
def DeploymentRecord.report : DeploymentRecord → BeginDeployment
  | .inFlight intent => .inFlight intent
  | .complete receipt => .complete receipt

/-- The receipt belongs to the intent. -/
def ProviderDeploymentReceipt.Matches (receipt : ProviderDeploymentReceipt)
    (intent : ProviderDeploymentIntent) : Prop :=
  receipt.requestId = intent.requestId ∧ receipt.providerId = intent.providerId ∧
    receipt.stagedSha256 = intent.stagedSha256

/-! ### The repository -/

variable {Error : Type}

section

/-- What `begin` may answer, by the record there was, and the record it may leave. -/
inductive Begun (intent : ProviderDeploymentIntent) :
    Option DeploymentRecord → Except Error BeginDeployment → Option DeploymentRecord → Prop
  | acquired : Begun intent none (.ok .acquired) (some (.inFlight intent))
  | found (record : DeploymentRecord) {answer : BeginDeployment}
      (reported : answer = record.report) : Begun intent (some record) (.ok answer) (some record)
  | refused (record : Option DeploymentRecord) (error : Error) :
      Begun intent record (.error error) record
  | unanswered (error : Error) : Begun intent none (.error error) (some (.inFlight intent))

/-- What `complete` may answer, by the record there was, and the record it may leave. -/
inductive Completed (receipt : ProviderDeploymentReceipt) :
    Option DeploymentRecord → Except Error ProviderDeploymentReceipt →
      Option DeploymentRecord → Prop
  | stored {intent : ProviderDeploymentIntent} (matching : receipt.Matches intent) :
      Completed receipt (some (.inFlight intent)) (.ok receipt) (some (.complete receipt))
  | found (existing : ProviderDeploymentReceipt) :
      Completed receipt (some (.complete existing)) (.ok existing) (some (.complete existing))
  | refused (record : Option DeploymentRecord) (error : Error) :
      Completed receipt record (.error error) record
  | unanswered {intent : ProviderDeploymentIntent} (matching : receipt.Matches intent)
      (error : Error) :
      Completed receipt (some (.inFlight intent)) (.error error) (some (.complete receipt))

end

/-- A repository that meets the documented contract. -/
structure ProviderDeploymentRepository (State Error : Type) where
  record : State → String → Option DeploymentRecord
  begin : ProviderDeploymentIntent → State → Except Error BeginDeployment × State
  complete : ProviderDeploymentReceipt → State → Except Error ProviderDeploymentReceipt × State
  begin_own : ∀ intent state, Begun intent (record state intent.requestId)
    (begin intent state).1 (record (begin intent state).2 intent.requestId)
  begin_other : ∀ intent state id, id ≠ intent.requestId →
    record (begin intent state).2 id = record state id
  complete_own : ∀ receipt state, Completed receipt (record state receipt.requestId)
    (complete receipt state).1 (record (complete receipt state).2 receipt.requestId)
  complete_other : ∀ receipt state id, id ≠ receipt.requestId →
    record (complete receipt state).2 id = record state id

/-! ### The coordinator -/

inductive ProviderReconcileError (Error : Type) where
  | provider (error : ProviderError)
  | storage (error : Error)
  | recordMismatch
  | inFlightRequiresReconciliation
  deriving DecidableEq

/-- What a call does, one step at a time. -/
inductive DeployAction (Error : Type) : Type → Type where
  | begin (intent : ProviderDeploymentIntent) : DeployAction Error (Except Error BeginDeployment)
  | buildPayload (requestId : String) :
      DeployAction Error (Except ProviderError (Value × Value))
  | spawn (requestId : String) (request : Value) :
      DeployAction Error (Except ProviderError ProviderRun)
  | complete (receipt : ProviderDeploymentReceipt) :
      DeployAction Error (Except Error ProviderDeploymentReceipt)
  | answer (requestId : String)
      (outcome : Except (ProviderReconcileError Error) ProviderDeploymentReceipt) :
      DeployAction Error Unit

section

variable (letters : LetterCases)

/-- A value that was computed, or the error it ends with. -/
def computed {Action : Type → Type} {Failure Result : Type} (outcome : Except Failure Result) :
    Fallible Action Failure Result :=
  match outcome with
  | .ok value => pure value
  | .error error => throw error

variable (requestId : String)

def invoke (request : Value) : Fallible (DeployAction Error) ProviderError Value :=
  if request.size > providerInputCap then throw .inputLimit
  else do
    let run ← Fallible.attempt (fun error => error) (.spawn requestId request)
    computed (run.response (collectStrings letters request))

def isRefusedRequestId : Bool :=
  requestId.isEmpty || decide (requestId.utf8ByteSize > 200)

variable (provider : NegotiatedProvider)

def deployIdempotent (requestId : String) : Fallible (DeployAction Error) ProviderError String :=
  if isRefusedRequestId requestId then throw .payload
  else do
    let payload ← Fallible.attempt (fun _ => .payload) (.buildPayload requestId)
    computed (validateProviderConfig letters payload.2)
    computed (validateConfigAgainstSchema provider.configSchema payload.2)
    let response ← invoke letters requestId (deployRequest requestId payload.1 payload.2)
    computed (deployedAgentId response)

def validateIntent (actual expected : ProviderDeploymentIntent) :
    Except (ProviderReconcileError Error) Unit :=
  if actual = expected then .ok () else .error .recordMismatch

def validateReceipt (receipt : ProviderDeploymentReceipt) (expected : ProviderDeploymentIntent) :
    Except (ProviderReconcileError Error) Unit :=
  if receipt.requestId = expected.requestId ∧ receipt.providerId = expected.providerId ∧
      receipt.stagedSha256 = expected.stagedSha256 ∧ receipt.externalAgentId.isEmpty = false
  then .ok ()
  else .error .recordMismatch

def intentOf (requestId : String) : ProviderDeploymentIntent :=
  ⟨requestId, provider.id, provider.stagedSha256⟩

/-- The completion of a deployment. -/
def completeDeployment (externalAgentId : String) :
    Fallible (DeployAction Error) (ProviderReconcileError Error) ProviderDeploymentReceipt := do
  let stored ← Fallible.attempt .storage
    (.complete ⟨requestId, provider.id, provider.stagedSha256, externalAgentId⟩)
  computed (validateReceipt stored (intentOf provider requestId))
  return stored

/-- The deployment of a request that was acquired. -/
def deployAcquired :
    Fallible (DeployAction Error) (ProviderReconcileError Error) ProviderDeploymentReceipt := do
  let externalAgentId ← Fallible.mapError .provider (deployIdempotent letters provider requestId)
  completeDeployment requestId provider externalAgentId

/-- What a call does once it knows the record of its request. -/
def deployBegun : BeginDeployment →
      Fallible (DeployAction Error) (ProviderReconcileError Error) ProviderDeploymentReceipt
  | .acquired => deployAcquired letters requestId provider
  | .inFlight existing => do
      computed (validateIntent existing (intentOf provider requestId))
      throw .inFlightRequiresReconciliation
  | .complete receipt => do
      computed (validateReceipt receipt (intentOf provider requestId))
      return receipt

def deployOnce :
    Fallible (DeployAction Error) (ProviderReconcileError Error) ProviderDeploymentReceipt :=
  if isRefusedRequestId requestId then throw (.provider .payload)
  else do
    let begun ← Fallible.attempt .storage (.begin (intentOf provider requestId))
    deployBegun letters requestId provider begun

/-- A call of a caller, with the answer it gets. -/
def deployCall : Program (DeployAction Error) Unit :=
  (deployOnce letters requestId provider).run.bind fun outcome =>
    Program.perform (.answer requestId outcome)

end

/-! ### The world -/

inductive DeployEvent where
  | built (requestId : String)
  | deployed (requestId : String)
  | answered (requestId : String) (receipt : ProviderDeploymentReceipt)
  deriving DecidableEq

/-- How far a caller has taken a request it acquired. -/
inductive Stage where
  | acquired (requestId : String)
  | built (requestId : String)

def Stage.requestId : Stage → String
  | .acquired id => id
  | .built id => id

structure DeployWorld (State : Type) where
  state : State
  /-- What a payload closure returns at the moment. -/
  payload : Except ProviderError (Value × Value)
  /-- What comes of the next start of a provider process. -/
  process : Except ProviderError ProviderRun
  history : List DeployEvent
  stage : Nat → Option Stage

section

variable {State Error : Type} (repository : ProviderDeploymentRepository State Error)

def DeployAction.perform (caller : Nat) ⦃Response : Type⦄ (action : DeployAction Error Response)
    (world : DeployWorld State) : Response × DeployWorld State :=
  match action with
  | .begin intent =>
      ((repository.begin intent world.state).1, { world with
          state := (repository.begin intent world.state).2
          stage := match (repository.begin intent world.state).1 with
            | .ok .acquired =>
                Function.update world.stage caller (some (.acquired intent.requestId))
            | _ => world.stage })
  | .buildPayload requestId =>
      (world.payload, { world with
          history := world.history ++ [.built requestId]
          stage := Function.update world.stage caller (some (.built requestId)) })
  | .spawn requestId _ =>
      (world.process, { world with
          history := match world.process with
            | .ok _ => world.history ++ [.deployed requestId]
            | .error _ => world.history
          stage := Function.update world.stage caller none })
  | .complete receipt =>
      ((repository.complete receipt world.state).1,
        { world with state := (repository.complete receipt world.state).2 })
  | .answer requestId outcome =>
      ((), { world with
        history := match outcome with
          | .ok receipt => world.history ++ [.answered requestId receipt]
          | .error _ => world.history })

/-- A record that is there changes only from an intent in flight to a receipt that matches
it. -/
def DeploymentRecord.Evolves : Option DeploymentRecord → Option DeploymentRecord → Prop :=
  fun before after => after = before ∨ before = none ∨
    ∃ intent receipt, before = some (.inFlight intent) ∧ receipt.Matches intent ∧
      after = some (.complete receipt)

/-- What changes without the callers: the payloads, the processes, and records that someone
else begins or settles. -/
def DeployInterference (before after : DeployWorld State) : Prop :=
  after.history = before.history ∧ after.stage = before.stage ∧
    ∀ id, DeploymentRecord.Evolves (repository.record before.state id)
      (repository.record after.state id)

/-- Callers that deploy through one repository. A caller that crashes performs no further
action; a crash of them all leaves what the repository keeps. -/
def coordinator (letters : LetterCases) : System Nat (DeployAction Error) (DeployWorld State) where
  perform := DeployAction.perform repository
  starts := fun _ world program after =>
    (∃ requestId provider, program = deployCall letters requestId provider) ∧ after = world
  environment := DeployInterference repository
  restarts := fun world after threads =>
    DeployInterference repository world after ∧ threads = fun _ => .done ()

end

end BuzzServer
