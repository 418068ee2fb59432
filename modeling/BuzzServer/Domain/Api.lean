/-
This file models the requests of the lifecycle API, the principals that make
them, and the errors the application answers with.

A request hash is the SHA-256 digest of the request's JSON text. Distinct
requests are taken to have distinct digests, so a hash is modelled by the value
that was serialized: two hashes are equal exactly when the same value went in.
Which value goes in differs between the commands, and is kept as the source has
it.
-/

import BuzzServer.Domain.Agent

namespace BuzzServer

/-! ### Requests -/

structure CommandMetadata where
  (idempotencyKey correlationId : String)
  deriving DecidableEq

structure JoinCommunityRequest where
  displayName : String
  relayUrl : Url
  identityPubkey : String

structure UpdateCommunityRequest where
  communityId : CommunityConfigId
  displayName : String

structure CreateAgentInput where
  communityConfigId : CommunityConfigId
  displayName : String
  (personaId systemPrompt systemPromptFile : Option String)
  runtimeId : Option RuntimeId
  filesystemUser : Option String
  deriving DecidableEq

/-- The check on a bounded text; unlike `validateNonempty` it bounds the untrimmed text. -/
def validateToken (field value : String) (maxChars : Nat) : Except ValidationError Unit := do
  require ((trim value).length != 0) field "must not be empty"
  require (value.length ≤ maxChars) field ("must be at most " ++ toString maxChars ++ " characters")

variable (input : CreateAgentInput)

def CreateAgentInput.validatePrompt : Except ValidationError Unit :=
  match input.systemPrompt with
  | none => .ok ()
  | some prompt => do
      if input.systemPromptFile.isNone then
        validateToken "system_prompt" prompt 65536
      require (boundedPrompt prompt) "system_prompt" "must be at most 65536 NUL-free characters"

def CreateAgentInput.validatePromptFile : Except ValidationError Unit :=
  match input.systemPromptFile with
  | none => .ok ()
  | some path => do
      validateToken "system_prompt_file" path 4096
      require (isAbsolutePath path) "system_prompt_file" "must be an absolute path"

def CreateAgentInput.validate : Except ValidationError Unit := do
  validateToken "display_name" input.displayName 120
  input.validatePrompt
  input.validatePromptFile
  require (!(input.personaId.isSome && input.systemPrompt.isSome)) "system_prompt"
    "is defined by the selected persona; omit --system-prompt"
  require (!(input.personaId.isSome && input.systemPromptFile.isSome)) "system_prompt_file"
    "is defined by the selected persona; omit --system-prompt-file"
  require (!(input.personaId.isNone && input.runtimeId.isNone)) "runtime_id"
    "is required when no persona is selected"

structure UpdateAgentInput where
  (displayName systemPrompt systemPromptFile : Option String)
  runtimeId : Option RuntimeId
  filesystemUser : Option String
  deriving DecidableEq

structure CreateAgentRequest where
  metadata : CommandMetadata
  agent : CreateAgentInput

structure UpdateAgentRequest where
  metadata : CommandMetadata
  agentId : AgentId
  changes : UpdateAgentInput
  deriving DecidableEq

structure ChangeAgentStateRequest where
  metadata : CommandMetadata
  agentId : AgentId
  desiredState : DesiredAgentState
  deriving DecidableEq

structure AgentCommandRequest where
  metadata : CommandMetadata
  agentId : AgentId
  deriving DecidableEq

structure SubmitDraftRequest where
  metadata : CommandMetadata
  agent : CreateAgentInput
  deriving DecidableEq

structure PromoteDraftRequest where
  metadata : CommandMetadata
  draftId : DraftId
  deriving DecidableEq

/-! ### Request hashes -/

/-- A value a command serializes and digests. -/
inductive RequestBody where
  | createInput (input : CreateAgentInput)
  | updateAgent (request : UpdateAgentRequest)
  | changeAgentState (request : ChangeAgentStateRequest)
  | agentCommand (request : AgentCommandRequest)
  | submitDraft (request : SubmitDraftRequest)
  | promoteDraft (request : PromoteDraftRequest)
  deriving DecidableEq

/-- The digest of a serialized value. -/
structure RequestHash where
  digested : RequestBody
  deriving DecidableEq

def requestHash (body : RequestBody) : RequestHash := ⟨body⟩

/-! ### Principals -/

inductive Authority where
  | administrator
  | draftSubmitter
  deriving DecidableEq

inductive Principal where
  | unixPeer (uid gid : Nat) (pid : Option Nat)
  | nip98 (pubkey : String)

inductive PrincipalOwnership where
  | unixUid (uid : Nat)
  | nostrPubkey (pubkey : String)
  deriving DecidableEq

/-- Stable ownership identity. The process id changes between connections. -/
def Principal.ownershipKey : Principal → PrincipalOwnership
  | .unixPeer uid _ _ => .unixUid uid
  | .nip98 pubkey => .nostrPubkey pubkey

structure AuthenticatedPrincipal where
  principal : Principal
  authority : Authority

variable (actor : AuthenticatedPrincipal)

def principalScope : String :=
  match actor.principal with
  | .unixPeer uid _ _ => "unix_uid:" ++ toString uid
  | .nip98 pubkey => "nostr:" ++ pubkey

/-- The actor column of an audit record. A Nostr key is recorded by a digest of it. -/
inductive AuditActor where
  | unixUid (uid : Nat)
  | nostrSha256 (pubkey : String)
  | reconciler
  deriving DecidableEq

def auditActor : AuditActor :=
  match actor.principal with
  | .unixPeer uid _ _ => .unixUid uid
  | .nip98 pubkey => .nostrSha256 pubkey

def authenticationMethod : String :=
  match actor.principal with
  | .unixPeer _ _ _ => "unix_peer"
  | .nip98 _ => "nip98"

/-! ### Resources and errors -/

structure DraftResource where
  id : DraftId
  owner : PrincipalOwnership
  agent : CreateAgentInput

inductive ApplicationError where
  | notFound
  | forbidden (message : String)
  | unavailable (message : String)
  | conflict (message : String)
  | invalid (error : ValidationError)
  | unsupported
  | internal
  deriving DecidableEq

end BuzzServer
