/-
This file models the domain types every part of the server shares: typed
identifiers, validation errors, the checks on names and texts, communities, and
the operation kinds and statuses with their transition rule.

Identifiers are time-ordered UUIDs. They are natural numbers here, drawn from
one increasing counter, so that two draws never agree and the order of two
identifiers is the order in which they were drawn.
-/

import Mathlib.Algebra.Ring.Int.Defs
import Mathlib.Data.List.Basic

namespace BuzzServer

/-! ### Identifiers -/

structure CommunityConfigId where
  uuid : Nat
  deriving DecidableEq

structure AgentId where
  uuid : Nat
  deriving DecidableEq

structure OperationId where
  uuid : Nat
  deriving DecidableEq

structure DraftId where
  uuid : Nat
  deriving DecidableEq

structure RuntimeId where
  name : String
  deriving DecidableEq

/-- The text of an agent id in audit subjects, correlation ids and relay subjects. -/
def AgentId.toText (id : AgentId) : String := "agent_" ++ toString id.uuid

def CommunityConfigId.toText (id : CommunityConfigId) : String := "community_" ++ toString id.uuid

def DraftId.toText (id : DraftId) : String := "draft_" ++ toString id.uuid

/-- A number can be read off its digits. -/
theorem uuid_of_toString {first second : Nat} (same : toString first = toString second) :
    first = second := by
  rw [Nat.toString_eq_ofList_toDigits, Nat.toString_eq_ofList_toDigits, String.ofList_inj] at same
  have values := congrArg (Nat.ofDigitChars 10 · 0) same
  simpa [Nat.ofDigitChars_ten_toDigits] using values

theorem AgentId.toText_injective {first second : AgentId} (same : first.toText = second.toText) :
    first = second :=
  congrArg AgentId.mk (uuid_of_toString ((String.append_right_inj "agent_").mp same))

theorem CommunityConfigId.toText_injective {first second : CommunityConfigId}
    (same : first.toText = second.toText) : first = second :=
  congrArg CommunityConfigId.mk (uuid_of_toString ((String.append_right_inj "community_").mp same))

/-! ### Errors -/

structure ValidationError where
  (field message : String)
  deriving DecidableEq

def ValidationError.toText (error : ValidationError) : String :=
  error.field ++ ": " ++ error.message

inductive ErrorCode where
  | invalidRequest
  | notFound
  | conflict
  | unauthorized
  | forbidden
  | unsupported
  | unavailable
  | internal
  deriving DecidableEq

/-- The check a validator makes: it fails with one field and one message. -/
def require (condition : Bool) (field message : String) : Except ValidationError Unit :=
  if condition then .ok () else .error ⟨field, message⟩

@[simp] theorem require_eq_ok {condition : Bool} {field message : String} :
    require condition field message = .ok () ↔ condition = true := by
  unfold require
  split <;> simp_all

/-- A check that succeeds went through each of its steps. -/
theorem bind_eq_ok {Error First Second : Type} {first : Except Error First}
    {rest : First → Except Error Second} {result : Second} :
    (first >>= rest) = .ok result ↔ ∃ value, first = .ok value ∧ rest value = .ok result := by
  cases first with
  | error error =>
    constructor
    · intro impossible
      cases impossible
    · rintro ⟨_, impossible, -⟩
      cases impossible
  | ok value =>
    constructor
    · intro succeeded
      exact ⟨value, rfl, succeeded⟩
    · rintro ⟨_, ⟨rfl⟩, succeeded⟩
      exact succeeded

/-- A check that is followed by another succeeds if both do. -/
theorem bind_unit_eq_ok {Error Result : Type} {first : Except Error Unit}
    {rest : Except Error Result} {result : Result} :
    (first >>= fun _ => rest) = .ok result ↔ first = .ok () ∧ rest = .ok result := by
  rw [bind_eq_ok]
  exact ⟨fun ⟨⟨⟩, passed, succeeded⟩ => ⟨passed, succeeded⟩,
    fun ⟨passed, succeeded⟩ => ⟨(), passed, succeeded⟩⟩

theorem exists_error_iff {Error Result : Type} {outcome : Except Error Result} :
    (∃ error, outcome = .error error) ↔ ¬∃ result, outcome = .ok result := by
  cases outcome <;> simp

/-! ### Texts -/

/-- The characters `char::is_whitespace` accepts. -/
def isWhitespace (character : Char) : Bool :=
  let code := character.toNat
  (9 ≤ code && code ≤ 13) || code == 0x20 || code == 0x85 || code == 0xA0 || code == 0x1680 ||
    (0x2000 ≤ code && code ≤ 0x200A) || code == 0x2028 || code == 0x2029 || code == 0x202F ||
    code == 0x205F || code == 0x3000

/-- Leading and trailing whitespace removed, as `str::trim` removes it. -/
def trim (text : String) : String :=
  String.ofList ((((text.toList.dropWhile isWhitespace).reverse).dropWhile isWhitespace).reverse)

def isAsciiHexDigit (character : Char) : Bool :=
  character.isDigit || ('a' ≤ character && character ≤ 'f') || ('A' ≤ character && character ≤ 'F')

def validateNonempty (field value : String) (maxChars : Nat) : Except ValidationError Unit := do
  require ((trim value).length != 0) field "must not be empty"
  require ((trim value).length ≤ maxChars) field
    ("must be at most " ++ toString maxChars ++ " characters")

/-! ### Communities -/

/-- A parsed URL: the text it is written as, port and path included, and the parts of it that
the relay check reads. -/
structure Url where
  text : String
  scheme : String
  host : Option String
  username : String
  password : Option String
  (query fragment : Option String)
  deriving DecidableEq

structure CommunityConfig where
  id : CommunityConfigId
  displayName : String
  relayUrl : Url
  /-- Public key of the human identity used to join this community. -/
  identityPubkey : Option String
  deriving DecidableEq

def CommunityConfig.validate (config : CommunityConfig) : Except ValidationError Unit := do
  validateNonempty "display_name" config.displayName 120
  require (config.relayUrl.scheme == "ws" || config.relayUrl.scheme == "wss") "relay_url"
    "must use the ws or wss scheme"
  require config.relayUrl.host.isSome "relay_url" "must include a host"
  require (config.relayUrl.username.isEmpty && config.relayUrl.password.isNone) "relay_url"
    "must not include embedded credentials"
  require (config.relayUrl.fragment.isNone && config.relayUrl.query.isNone) "relay_url"
    "must not include a query or fragment"

def toAsciiLowercase (text : String) : String :=
  String.ofList (text.toList.map Char.toLower)

def CommunityConfig.withIdentityPubkey (config : CommunityConfig) (pubkey : String) :
    Except ValidationError CommunityConfig := do
  let pubkey := toAsciiLowercase (trim pubkey)
  require (pubkey.utf8ByteSize == 64 && pubkey.toList.all isAsciiHexDigit) "identity_pubkey"
    "must be a 64-character hex Nostr public key"
  return { config with identityPubkey := some pubkey }

/-- Attaching an identity keeps the id. -/
theorem withIdentityPubkey_id {config attached : CommunityConfig} {pubkey : String}
    (succeeds : config.withIdentityPubkey pubkey = .ok attached) : attached.id = config.id := by
  simp only [CommunityConfig.withIdentityPubkey, require] at succeeds
  split at succeeds <;> cases succeeds
  rfl

/-! ### Operations -/

inductive OperationKind where
  | createAgent
  | updateAgent
  | enableAgent
  | disableAgent
  | deleteAgent
  | purgeAgent
  deriving DecidableEq

inductive OperationStatus where
  | pending
  | running
  | succeeded
  | failed
  | cancelled
  deriving DecidableEq

def OperationStatus.debugName : OperationStatus → String
  | .pending => "Pending"
  | .running => "Running"
  | .succeeded => "Succeeded"
  | .failed => "Failed"
  | .cancelled => "Cancelled"

def OperationStatus.isTerminal : OperationStatus → Bool
  | .succeeded | .failed | .cancelled => true
  | .pending | .running => false

def OperationStatus.canTransitionTo : OperationStatus → OperationStatus → Bool
  | .pending, .running => true
  | .pending, .cancelled => true
  | .running, .succeeded => true
  | .running, .failed => true
  | .running, .cancelled => true
  | _, _ => false

theorem OperationStatus.not_isTerminal_of_canTransitionTo {current next : OperationStatus}
    (permitted : current.canTransitionTo next = true) : current.isTerminal = false := by
  cases current <;> cases next <;> first | rfl | cases permitted

def operationAction : OperationKind → String
  | .createAgent => "agent.create"
  | .updateAgent => "agent.update"
  | .enableAgent => "agent.enable"
  | .disableAgent => "agent.disable"
  | .deleteAgent => "agent.delete"
  | .purgeAgent => "agent.purge"

structure DurableOperation where
  id : OperationId
  kind : OperationKind
  status : OperationStatus
  agentId : Option AgentId
  errorCode : Option ErrorCode
  (createdAt updatedAt : Int)
  correlationId : String
  deriving DecidableEq

/-! ### Time -/

/-- The sum of two `i64` values, clamped to the range of `i64`. -/
def saturatingAdd (first second : Int) : Int :=
  max (-(2 ^ 63)) (min (2 ^ 63 - 1) (first + second))

end BuzzServer
