/-
This file models the lifecycle handler and the router in front of it.

The handler authorizes a request, checks it and hands it to the application; it
is generic in the application, as the source is. All routes but one are of that
shape. Reading a draft is the exception: whether a principal may read it depends
on its owner, so the draft is looked up first and the principal is authorized
afterwards.

How requests and responses are written as JSON is a parameter of the router.
-/

import BuzzServer.Daemon.Application

namespace BuzzServer

open Relational Concurrent

/-! ### Authorization -/

inductive Capability where
  | readCommunity
  | manageCommunity
  | readAgent
  | createAgent
  | updateAgent
  | changeAgentState
  | deleteAgent
  | purgeAgent
  | submitDraft
  | readDraft
  | promoteDraft
  deriving DecidableEq

inductive AuthorizationError where
  | forbidden
  | notOwner

def authorize (actor : AuthenticatedPrincipal) (capability : Capability)
    (owner : Option PrincipalOwnership) : Except AuthorizationError Unit :=
  if actor.authority = .administrator then .ok ()
  else
    match capability with
    | .submitDraft => .ok ()
    | .readDraft =>
        if owner = some actor.principal.ownershipKey then .ok () else .error .notOwner
    | _ => .error .forbidden

/-! ### Requests and resources -/

def CommandMetadata.validate (metadata : CommandMetadata) : Except ValidationError Unit := do
  validateToken "idempotency_key" metadata.idempotencyKey 200
  validateToken "correlation_id" metadata.correlationId 200

def UpdateAgentInput.default : UpdateAgentInput := ⟨none, none, none, none, none⟩

def UpdateAgentInput.validate (input : UpdateAgentInput) : Except ValidationError Unit := do
  match input.displayName with
  | none => pure ()
  | some value => validateToken "display_name" value 120
  match input.systemPrompt with
  | none => pure ()
  | some value =>
      require (boundedPrompt value) "system_prompt" "must be at most 65536 NUL-free characters"
  match input.systemPromptFile with
  | none => pure ()
  | some value => do
      validateToken "system_prompt_file" value 4096
      require (isAbsolutePath value) "system_prompt_file" "must be an absolute path"

structure CreatePersonaRequest where
  (displayName systemPrompt : String)
  runtime : Option RuntimeId

structure UpdatePersonaInput where
  (displayName systemPrompt : Option String)
  runtime : Option RuntimeId
  deriving DecidableEq

def UpdatePersonaInput.default : UpdatePersonaInput := ⟨none, none, none⟩

structure UpdatePersonaRequest where
  personaId : String
  changes : UpdatePersonaInput

structure ListAgentsRequest where
  communityConfigId : Option CommunityConfigId
  includeDeleted : Bool

structure AgentLogsRequest where
  agentId : AgentId
  afterCursor : Option String
  limit : Nat

/-- A promotion as it comes in, with any text for the draft. -/
structure PromoteDraftRoute where
  metadata : CommandMetadata
  draftId : String

structure AgentResource where
  id : AgentId
  communityConfigId : CommunityConfigId
  (displayName systemPrompt : String)
  systemPromptFile : Option String
  runtimeId : RuntimeId
  desiredState : DesiredAgentState
  purgeAfter : Option Int
  publicKey : Option String

structure RedactedLogEntry where
  cursor : String
  occurredAt : Int
  (stream redactedMessage : String)

structure AgentLogsResource where
  entries : List RedactedLogEntry
  nextCursor : Option String

/-- An operation as it is answered: it has the fields of the stored one. -/
abbrev OperationResource : Type := DurableOperation

inductive LifecycleRouteRequest where
  | joinCommunity (request : JoinCommunityRequest)
  | updateCommunity (request : UpdateCommunityRequest)
  | getCommunity (communityId : CommunityConfigId)
  | listCommunities
  | removeCommunity (communityId : CommunityConfigId)
  | createPersona (request : CreatePersonaRequest)
  | updatePersona (request : UpdatePersonaRequest)
  | getPersona (personaId : String)
  | listPersonas
  | deletePersona (personaId : String)
  | createAgent (request : CreateAgentRequest)
  | updateAgent (request : UpdateAgentRequest)
  | changeAgentState (request : ChangeAgentStateRequest)
  | deleteAgent (request : AgentCommandRequest)
  | purgeAgent (request : AgentCommandRequest)
  | getAgent (agentId : AgentId)
  | listAgents (request : ListAgentsRequest)
  | agentLogs (request : AgentLogsRequest)
  | getOperation (operationId : OperationId)
  | awaitOperation (operationId : OperationId)
  | submitDraft (request : SubmitDraftRequest)
  | getDraft (draftId : String)
  | promoteDraft (request : PromoteDraftRoute)

inductive LifecycleRouteResource where
  | community (config : CommunityConfig)
  | communities (configs : List CommunityConfig)
  | persona (definition : PersonaDefinition)
  | personas (definitions : List PersonaDefinition)
  | agent (resource : AgentResource)
  | agents (resources : List AgentResource)
  | logs (resource : AgentLogsResource)
  | operation (resource : OperationResource)
  | draft (resource : DraftResource)

structure ApiError where
  code : ErrorCode
  message : String
  field : Option String

def apiValidation (error : ValidationError) : ApiError :=
  ⟨.invalidRequest, error.message, some error.field⟩

def apiAuthorization (error : AuthorizationError) : ApiError where
  code := .forbidden
  message :=
    match error with
    | .forbidden => "operation is not permitted"
    | .notOwner => "resource is not owned by the principal"
  field := none

def apiApplication : ApplicationError → ApiError
  | .notFound => ⟨.notFound, "resource not found", none⟩
  | .forbidden message => ⟨.forbidden, message, none⟩
  | .unavailable message => ⟨.unavailable, message, none⟩
  | .conflict message => ⟨.conflict, message, none⟩
  | .invalid error => apiValidation error
  | .unsupported => ⟨.unsupported, "operation is unsupported", none⟩
  | .internal => ⟨.internal, "internal service error", none⟩

/-! ### The handler -/

/-- A call on the application: what it answers, and the state it leaves. -/
abbrev Call (State Result : Type) : Type := State → Except ApplicationError Result × State

/-- What an application offers. -/
structure LifecycleApplication (State : Type) where
  joinCommunity : JoinCommunityRequest → Call State CommunityConfig
  updateCommunity : UpdateCommunityRequest → Call State CommunityConfig
  getCommunity : CommunityConfigId → Call State CommunityConfig
  listCommunities : Call State (List CommunityConfig)
  removeCommunity : CommunityConfigId → Call State CommunityConfig
  createPersona : CreatePersonaRequest → Call State PersonaDefinition
  updatePersona : UpdatePersonaRequest → Call State PersonaDefinition
  getPersona : String → Call State PersonaDefinition
  listPersonas : Call State (List PersonaDefinition)
  deletePersona : String → Call State PersonaDefinition
  createAgent : AuthenticatedPrincipal → CommandMetadata → CreateAgentInput →
    Call State OperationResource
  updateAgent : AuthenticatedPrincipal → UpdateAgentRequest → Call State OperationResource
  changeAgentState : AuthenticatedPrincipal → ChangeAgentStateRequest → Call State OperationResource
  (deleteAgent purgeAgent :
    AuthenticatedPrincipal → AgentCommandRequest → Call State OperationResource)
  getAgent : AgentId → Call State AgentResource
  listAgents : ListAgentsRequest → Call State (List AgentResource)
  agentLogs : AgentLogsRequest → Call State AgentLogsResource
  getOperation : OperationId → Call State OperationResource
  /-- Waits for the operation to end, for a number of seconds at most. -/
  waitOperation : OperationId → Nat → Call State OperationResource
  submitDraft : AuthenticatedPrincipal → SubmitDraftRequest → Call State DraftResource
  getDraft : String → Call State DraftResource
  promoteDraft : AuthenticatedPrincipal → PromoteDraftRoute → Call State OperationResource

/-- What the handler makes of a request: a response, and the state it leaves. -/
abbrev Handling (State Result : Type) : Type := State → Except ApiError Result × State

namespace LifecycleHandler

variable {State Result : Type}

/-- The shape of a route: the principal is authorized, the request is checked, and the
application is called. -/
def guarded (actor : AuthenticatedPrincipal) (capability : Capability)
    (checked : Except ValidationError Unit) (call : Call State Result) :
    Handling State Result := fun state =>
  match authorize actor capability none with
  | .error error => (.error (apiAuthorization error), state)
  | .ok () =>
      match checked with
      | .error error => (.error (apiValidation error), state)
      | .ok () => ((call state).1.mapError apiApplication, (call state).2)

variable (application : LifecycleApplication State) (actor : AuthenticatedPrincipal)

def joinCommunity (request : JoinCommunityRequest) : Handling State CommunityConfig :=
  guarded actor .manageCommunity (do
      let community : CommunityConfig := ⟨⟨0⟩, request.displayName, request.relayUrl, none⟩
      community.validate
      let candidate ← community.withIdentityPubkey request.identityPubkey
      candidate.validate)
    (application.joinCommunity request)

def updateCommunity (request : UpdateCommunityRequest) : Handling State CommunityConfig :=
  guarded actor .manageCommunity (validateToken "display_name" request.displayName 120)
    (application.updateCommunity request)

def getCommunity (id : CommunityConfigId) : Handling State CommunityConfig :=
  guarded actor .readCommunity (.ok ()) (application.getCommunity id)

def listCommunities : Handling State (List CommunityConfig) :=
  guarded actor .readCommunity (.ok ()) application.listCommunities

def removeCommunity (id : CommunityConfigId) : Handling State CommunityConfig :=
  guarded actor .manageCommunity (.ok ()) (application.removeCommunity id)

def createPersona (request : CreatePersonaRequest) : Handling State PersonaDefinition :=
  guarded actor .createAgent (validateToken "display_name" request.displayName 120)
    (application.createPersona request)

def updatePersona (request : UpdatePersonaRequest) : Handling State PersonaDefinition :=
  guarded actor .updateAgent (do
      validateToken "persona_id" request.personaId 120
      require (decide (request.changes ≠ UpdatePersonaInput.default)) "changes"
        "must include at least one field")
    (application.updatePersona request)

def getPersona (id : String) : Handling State PersonaDefinition :=
  guarded actor .readAgent (.ok ()) (application.getPersona id)

def listPersonas : Handling State (List PersonaDefinition) :=
  guarded actor .readAgent (.ok ()) application.listPersonas

def deletePersona (id : String) : Handling State PersonaDefinition :=
  guarded actor .deleteAgent (.ok ()) (application.deletePersona id)

def createAgent (request : CreateAgentRequest) : Handling State OperationResource :=
  guarded actor .createAgent (do
      request.metadata.validate
      request.agent.validate)
    (application.createAgent actor request.metadata request.agent)

def updateAgent (request : UpdateAgentRequest) : Handling State OperationResource :=
  guarded actor .updateAgent (do
      request.metadata.validate
      require (decide (request.changes ≠ UpdateAgentInput.default)) "changes"
        "must include at least one field"
      request.changes.validate)
    (application.updateAgent actor request)

def changeAgentState (request : ChangeAgentStateRequest) : Handling State OperationResource :=
  guarded actor .changeAgentState (do
      request.metadata.validate
      require (decide (request.desiredState ≠ .deleted)) "desired_state"
        "deleted state requires the delete operation")
    (application.changeAgentState actor request)

variable (request : AgentCommandRequest)

def deleteAgent : Handling State OperationResource :=
  guarded actor .deleteAgent request.metadata.validate (application.deleteAgent actor request)

def purgeAgent : Handling State OperationResource :=
  guarded actor .purgeAgent request.metadata.validate (application.purgeAgent actor request)

def getAgent (id : AgentId) : Handling State AgentResource :=
  guarded actor .readAgent (.ok ()) (application.getAgent id)

def listAgents (request : ListAgentsRequest) : Handling State (List AgentResource) :=
  guarded actor .readAgent (.ok ()) (application.listAgents request)

def agentLogs (request : AgentLogsRequest) : Handling State AgentLogsResource :=
  guarded actor .readAgent (require (!(request.limit == 0 || decide (1000 < request.limit))) "limit"
      "must be between 1 and 1000")
    (application.agentLogs request)

def getOperation (id : OperationId) : Handling State OperationResource :=
  guarded actor .readAgent (.ok ()) (application.getOperation id)

def awaitOperation (id : OperationId) : Handling State OperationResource :=
  guarded actor .readAgent (.ok ()) (application.waitOperation id 120)

variable (request : SubmitDraftRequest)

/-- The checks on a draft that is submitted. -/
def validDraft : Except ValidationError Unit := do
  request.metadata.validate
  request.agent.validate

def submitDraft : Handling State DraftResource :=
  guarded actor .submitDraft (validDraft request) (application.submitDraft actor request)

/-- The draft is read before the principal is authorized. -/
def getDraft (id : String) : Handling State DraftResource := fun state =>
  match application.getDraft id state with
  | (.error error, after) => (.error (apiApplication error), after)
  | (.ok draft, after) =>
      match authorize actor .readDraft (some draft.owner) with
      | .error error => (.error (apiAuthorization error), after)
      | .ok () => (.ok draft, after)

def promoteDraft (request : PromoteDraftRoute) : Handling State OperationResource :=
  guarded actor .promoteDraft (do
      request.metadata.validate
      validateToken "draft_id" request.draftId 200)
    (application.promoteDraft actor request)

end LifecycleHandler

/-! ### The router -/

inductive LifecycleWireResponse where
  | ok (resource : LifecycleRouteResource)
  | error (error : ApiError)

/-- How requests are read and responses are written. -/
structure LifecycleCodec where
  parse : List UInt8 → Option LifecycleRouteRequest
  serialize : LifecycleWireResponse → Option (List UInt8)

structure HandlerResponse where
  status : Nat
  body : List UInt8

def apiStatus : ErrorCode → Nat
  | .invalidRequest => 400
  | .unauthorized => 401
  | .forbidden => 403
  | .notFound => 404
  | .conflict => 409
  | .unsupported => 501
  | .unavailable => 503
  | .internal => 500

namespace LifecycleJsonRouter

variable {State Result : Type}

/-- A handled request, its result wrapped as a resource. -/
def wrapped (wrap : Result → LifecycleRouteResource) (handling : Handling State Result) :
    Handling State LifecycleRouteResource :=
  fun state => ((handling state).1.map wrap, (handling state).2)

/-- The route of a request. -/
def route (application : LifecycleApplication State) (actor : AuthenticatedPrincipal) :
    LifecycleRouteRequest → Handling State LifecycleRouteResource
  | .joinCommunity request =>
      wrapped .community (LifecycleHandler.joinCommunity application actor request)
  | .updateCommunity request =>
      wrapped .community (LifecycleHandler.updateCommunity application actor request)
  | .getCommunity id => wrapped .community (LifecycleHandler.getCommunity application actor id)
  | .listCommunities => wrapped .communities (LifecycleHandler.listCommunities application actor)
  | .removeCommunity id =>
      wrapped .community (LifecycleHandler.removeCommunity application actor id)
  | .createPersona request =>
      wrapped .persona (LifecycleHandler.createPersona application actor request)
  | .updatePersona request =>
      wrapped .persona (LifecycleHandler.updatePersona application actor request)
  | .getPersona id => wrapped .persona (LifecycleHandler.getPersona application actor id)
  | .listPersonas => wrapped .personas (LifecycleHandler.listPersonas application actor)
  | .deletePersona id => wrapped .persona (LifecycleHandler.deletePersona application actor id)
  | .createAgent request =>
      wrapped .operation (LifecycleHandler.createAgent application actor request)
  | .updateAgent request =>
      wrapped .operation (LifecycleHandler.updateAgent application actor request)
  | .changeAgentState request =>
      wrapped .operation (LifecycleHandler.changeAgentState application actor request)
  | .deleteAgent request =>
      wrapped .operation (LifecycleHandler.deleteAgent application actor request)
  | .purgeAgent request =>
      wrapped .operation (LifecycleHandler.purgeAgent application actor request)
  | .getAgent id => wrapped .agent (LifecycleHandler.getAgent application actor id)
  | .listAgents request =>
      wrapped .agents (LifecycleHandler.listAgents application actor request)
  | .agentLogs request => wrapped .logs (LifecycleHandler.agentLogs application actor request)
  | .getOperation id =>
      wrapped .operation (LifecycleHandler.getOperation application actor id)
  | .awaitOperation id =>
      wrapped .operation (LifecycleHandler.awaitOperation application actor id)
  | .submitDraft request =>
      wrapped .draft (LifecycleHandler.submitDraft application actor request)
  | .getDraft id => wrapped .draft (LifecycleHandler.getDraft application actor id)
  | .promoteDraft request =>
      wrapped .operation (LifecycleHandler.promoteDraft application actor request)

def invalidRoute : ApiError :=
  ⟨.invalidRequest, "request body is not a valid lifecycle route", none⟩

/-- What is sent if a response cannot be written. -/
def unserializable : List UInt8 :=
  ("\x7b\"status\":\"error\",\"value\":\x7b\"code\":\"internal\"," ++
    "\"message\":\"response serialization failed\"\x7d\x7d").toUTF8.toList

/-- The response of a result. -/
def respond (codec : LifecycleCodec) (result : Except ApiError LifecycleRouteResource) :
    HandlerResponse :=
  match result with
  | .ok resource => ⟨200, (codec.serialize (.ok resource)).getD unserializable⟩
  | .error error => ⟨apiStatus error.code, (codec.serialize (.error error)).getD unserializable⟩

def handle (codec : LifecycleCodec) (application : LifecycleApplication State)
    (actor : AuthenticatedPrincipal) (bytes : List UInt8) (state : State) :
    HandlerResponse × State :=
  match codec.parse bytes with
  | none => (respond codec (.error invalidRoute), state)
  | some request =>
      (respond codec (route application actor request state).1,
        (route application actor request state).2)

end LifecycleJsonRouter

end BuzzServer
