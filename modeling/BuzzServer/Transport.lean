/-
This file models how a connection on the lifecycle socket is served, and says
when it is answered.

A connection delivers a request frame, its peer is authenticated by the
credentials of the socket, and the handler's response is written as one frame. A
response above the limit is dropped and the connection is closed without a frame,
where the HTTPS listener answers with an error instead. The limit is reached by
stored data alone: the entries of a log are as long as the output of a child was.
-/

import BuzzServer.Storage.Logs
import BuzzServer.Json.Value
import BuzzServer.Wire.Frame
import Mathlib.Algebra.Order.BigOperators.Group.List
import Mathlib.Data.Nat.Cast.Basic

namespace BuzzServer

open Wire Json.Value LifecycleJsonRouter RedactedLogEntry

/-! ### Authentication -/

structure UnixPeerCredentials where
  (uid gid : Nat)
  pid : Option Nat

structure UnixAuthorityPolicy where
  (administratorUids draftSubmitterUids : List Nat)

def UnixAuthorityPolicy.authenticate (policy : UnixAuthorityPolicy)
    (credentials : UnixPeerCredentials) : Option AuthenticatedPrincipal :=
  let principal : Principal := .unixPeer credentials.uid credentials.gid credentials.pid
  if policy.administratorUids.contains credentials.uid then some ⟨principal, .administrator⟩
  else if policy.draftSubmitterUids.contains credentials.uid then some ⟨principal, .draftSubmitter⟩
  else none

/-! ### Responses as JSON -/

def ErrorCode.text : ErrorCode → String
  | .invalidRequest => "invalid_request"
  | .notFound => "not_found"
  | .conflict => "conflict"
  | .unauthorized => "unauthorized"
  | .forbidden => "forbidden"
  | .unsupported => "unsupported"
  | .unavailable => "unavailable"
  | .internal => "internal"

def ApiError.toJson (error : ApiError) : Json.Value :=
  .object ([("code", .string error.code.text), ("message", .string error.message)] ++
    error.field.toList.map fun field => ("field", .string field))

def RedactedLogEntry.toJson (entry : RedactedLogEntry) : Json.Value :=
  .object [("cursor", .string entry.cursor), ("occurred_at", .number (.integer entry.occurredAt)),
    ("stream", .string entry.stream), ("redacted_message", .string entry.redactedMessage)]

/-- A text, or nothing. -/
def optionalText : Option String → Json.Value
  | some text => .string text
  | none => .null

def AgentLogsResource.toJson (resource : AgentLogsResource) : Json.Value :=
  .object [("entries", .array (resource.entries.map RedactedLogEntry.toJson)),
    ("next_cursor", optionalText resource.nextCursor)]

/-- How requests are read, and how the resources other than logs are written. -/
structure WireFormat where
  parse : List UInt8 → Option LifecycleRouteRequest
  resource : LifecycleRouteResource → Json.Value

namespace WireFormat

variable (format : WireFormat)

def resourceJson : LifecycleRouteResource → Json.Value
  | .logs resource => .object [("resource", .string "logs"), ("value", resource.toJson)]
  | other => format.resource other

def responseJson : LifecycleWireResponse → Json.Value
  | .ok resource =>
      .object [("status", .string "ok"), ("value", format.resourceJson resource)]
  | .error error => .object [("status", .string "error"), ("value", error.toJson)]

def encode (response : LifecycleWireResponse) : List UInt8 := (format.responseJson response).utf8

def codec : LifecycleCodec := ⟨format.parse, fun response => some (format.encode response)⟩

end WireFormat

/-! ### Connections -/

inductive TransportError where
  | io
  | ioTimeout
  | requestTooLarge
  | responseTooLarge
  | task

/-- What comes of reading or writing that nothing bounds in time. -/
inductive Progress (Result : Type) where
  | completes (result : Result)
  | fails (error : TransportError)
  | stalls

/-- The same within the time that a connection is given. -/
def Progress.timeout {Result : Type} : Progress Result → Except TransportError Result
  | .completes result => .ok result
  | .fails error => .error error
  | .stalls => .error .ioTimeout

/-- The peer's side of a connection: the bytes it delivers in time, how many bytes it takes, and
whether it closes afterwards or falls silent. -/
structure Connection where
  credentials : Option UnixPeerCredentials
  incoming : List UInt8
  takes : Nat
  closes : Bool

/-- What comes of waiting for a peer that is done. -/
def Connection.afterwards {Result : Type} (connection : Connection) : Progress Result :=
  if connection.closes then .fails .io else .stalls

def maxLifecycleRequestBytes : Nat := 1024 * 1024

def maxLifecycleResponseBytes : Nat := 1024 * 1024

def readFrame (connection : Connection) : Progress (List UInt8) :=
  match readBigEndian32 connection.incoming with
  | none => connection.afterwards
  | some (length, rest) =>
      if length > maxLifecycleRequestBytes then .fails .requestTooLarge
      else if rest.length < length then connection.afterwards
      else .completes (rest.take length)

/-- Bytes are written as far as the peer takes them. -/
def writeFrame (connection : Connection) (response : List UInt8) : Progress Unit × List UInt8 :=
  if 2 ^ 32 ≤ response.length then (.fails .responseTooLarge, [])
  else if (frame response).length ≤ connection.takes then (.completes (), frame response)
  else (connection.afterwards, (frame response).take connection.takes)

/-- What a served connection ends in: its result, the bytes written and the state left. -/
structure Served (State : Type) where
  result : Progress Unit
  written : List UInt8
  state : State

/-- A handler: it answers, or it panics. -/
abbrev AuthenticatedRequestHandler (State : Type) : Type :=
  AuthenticatedPrincipal → List UInt8 → State → Option HandlerResponse × State

def unauthorized : ApiError := ⟨.unauthorized, "principal is not authorized", none⟩

variable {connection : Connection} {response : HandlerResponse} {State : Type}

section

/-- The response of the handler, on its way to the peer. -/
def sendResponse (connection : Connection) (response : Option HandlerResponse) :
    Except TransportError Unit × List UInt8 :=
  match response with
  | none => (.error .task, [])
  | some response =>
      if response.body.length > maxLifecycleResponseBytes then (.error .responseTooLarge, [])
      else ((writeFrame connection response.body).1.timeout,
        (writeFrame connection response.body).2)

def serveConnection (format : WireFormat) (authority : UnixAuthorityPolicy)
    (handler : AuthenticatedRequestHandler State) (connection : Connection) (state : State) :
    Served State :=
  match connection.credentials with
  | none => ⟨.fails .io, [], state⟩
  | some credentials =>
      -- The request is read before the peer is authenticated, so that a peer that is turned
      -- away can read why.
      match (readFrame connection).timeout with
      | .error error => ⟨.fails error, [], state⟩
      | .ok request =>
          match authority.authenticate credentials with
          | none =>
              let sent := writeFrame connection (format.encode (.error unauthorized))
              ⟨sent.1, sent.2, state⟩
          | some actor =>
              let handled := handler actor request state
              let sent := sendResponse connection handled.1
              ⟨match sent.1 with
                | .ok () => .completes ()
                | .error error => .fails error,
                sent.2, handled.2⟩

/-- A complete frame within the limit is read, whatever follows it. -/
theorem readFrame_eq {request rest : List UInt8}
    (delivered : connection.incoming = frame request ++ rest)
    (bounded : request.length ≤ maxLifecycleRequestBytes) :
    readFrame connection = .completes request := by
  have small : request.length < 2 ^ 32 := by
    unfold maxLifecycleRequestBytes at bounded
    omega
  unfold readFrame
  rw [delivered, readBigEndian32_frame small]
  simp [Nat.not_lt.mpr bounded]

theorem serveConnection_written {format : WireFormat} {authority : UnixAuthorityPolicy}
    {handler : AuthenticatedRequestHandler State} {state : State}
    {credentials : UnixPeerCredentials} {actor : AuthenticatedPrincipal} {request rest : List UInt8}
    (peer : connection.credentials = some credentials)
    (authentic : authority.authenticate credentials = some actor)
    (delivered : connection.incoming = frame request ++ rest)
    (bounded : request.length ≤ maxLifecycleRequestBytes) :
    (serveConnection format authority handler connection state).written =
      (sendResponse connection (handler actor request state).1).2 := by
  unfold serveConnection
  rw [peer, readFrame_eq delivered bounded]
  simp only [Progress.timeout, authentic]

theorem frame_ne_take_frame {response body : List UInt8} {taken : Nat}
    (small : response.length < 2 ^ 32) (cut : taken < 4 + response.length) :
    (frame response).take taken ≠ frame body := by
  intro same
  have lengths := congrArg List.length same
  simp only [List.length_take, frame_length] at lengths
  have shorter : body.length < response.length := by omega
  -- The length in front is that of the whole body, which is not there.
  have read := readBigEndian32_frame (Nat.lt_trans shorter small) ((frame response).drop taken)
  rw [← same, List.take_append_drop, ← List.append_nil (frame response),
    readBigEndian32_frame small] at read
  have announced := congrArg (Option.map Prod.fst) read
  simp only [Option.map_some, Option.some.injEq] at announced
  omega

/-- A response goes out as a frame if it is within the limit and the peer takes all of it. -/
theorem sendResponse_written (bounded : response.body.length ≤ maxLifecycleResponseBytes)
    (taken : 4 + response.body.length ≤ connection.takes) :
    (sendResponse connection (some response)).2 = frame response.body := by
  have small : ¬ 2 ^ 32 ≤ response.body.length := by
    unfold maxLifecycleResponseBytes at bounded
    omega
  have complete : writeFrame connection response.body = (.completes (), frame response.body) := by
    unfold writeFrame
    rw [frame_length, if_neg small, if_pos taken]
  unfold sendResponse
  simp [Nat.not_lt.mpr bounded, complete]

/-- A response above the limit is dropped. -/
theorem sendResponse_dropped (large : maxLifecycleResponseBytes < response.body.length) :
    (sendResponse connection (some response)).2 = [] := by
  unfold sendResponse
  simp [large]

/-- Otherwise no frame goes out. -/
theorem sendResponse_written_eq_frame {body : List UInt8}
    (sent : (sendResponse connection (some response)).2 = frame body) :
    response.body.length ≤ maxLifecycleResponseBytes ∧
      4 + response.body.length ≤ connection.takes := by
  have nonempty : frame body ≠ [] := by
    intro empty
    simpa using congrArg List.length empty
  by_cases large : maxLifecycleResponseBytes < response.body.length
  · exact absurd (sent.symm.trans (sendResponse_dropped large)) nonempty
  · have small : response.body.length < 2 ^ 32 := by
      unfold maxLifecycleResponseBytes at large
      omega
    refine ⟨Nat.not_lt.mp large, ?_⟩
    by_contra cut
    simp only [sendResponse, large, writeFrame, Nat.not_le.mpr small, frame_length, cut] at sent
    exact frame_ne_take_frame small (Nat.not_le.mp cut) sent

end

/-! ### How long an answer is -/

/-- How many bytes an error is answered in. -/
def errorBytes (error : ApiError) : Nat :=
  (Json.Value.object [("status", .string "error"), ("value", error.toJson)]).size

/-- How many bytes log entries are answered in: their own texts with commas in between, the
cursor of the last one, and what stands around them. -/
def logsBytes (entries : List RedactedLogEntry) : Nat :=
  (entries.map fun entry => entry.toJson.size).sum + (entries.length - 1) +
    (optionalText (entries.getLast?.map RedactedLogEntry.cursor)).size + 81

/-- How many bytes a request for logs is answered in, by what is stored. -/
def agentLogsBytes (actor : AuthenticatedPrincipal) (request : AgentLogsRequest)
    (store : LogStore) : Nat :=
  if actor.authority ≠ .administrator then errorBytes (apiAuthorization .forbidden)
  else if request.limit = 0 ∨ 1000 < request.limit then
    errorBytes (apiValidation ⟨"limit", "must be between 1 and 1000"⟩)
  else if store.database.agentSpecs.lookup request.agentId = none then
    errorBytes (apiApplication .notFound)
  else logsBytes (store.agentLogs request.agentId request.afterCursor request.limit)

section

variable (format : WireFormat) (application : LifecycleApplication State) (store : State → LogStore)

theorem encode_length (response : LifecycleWireResponse) :
    (format.encode response).length = (format.responseJson response).size := by
  unfold WireFormat.encode Json.Value.utf8 size
  simp

theorem responseJson_logs_size (entries : List RedactedLogEntry) : (format.responseJson (.ok (.logs
      ⟨entries, entries.getLast?.map cursor⟩))).size = logsBytes entries := by
  have quoted : (Json.quote "status").utf8ByteSize = 8 ∧ (Json.quote "value").utf8ByteSize = 7 ∧
      (Json.quote "resource").utf8ByteSize = 10 ∧ (Json.quote "entries").utf8ByteSize = 9 ∧
      (Json.quote "next_cursor").utf8ByteSize = 13 ∧
      (string "ok").size = 4 ∧ (string "logs").size = 6 := by decide
  obtain ⟨status, value, resource, name, cursor, ok, logs⟩ := quoted
  simp only [WireFormat.responseJson, WireFormat.resourceJson, AgentLogsResource.toJson,
    Json.size_object, Json.size_array, Json.fieldSize, List.map_cons, List.map_nil, List.sum_cons,
    List.sum_nil, List.length_cons, List.length_nil, logsBytes, List.map_map, List.length_map,
    Function.comp_def]
  omega

variable (actor : AuthenticatedPrincipal)

/-- What a request for logs comes to. -/
theorem route_agentLogs (request : AgentLogsRequest) (state : State) :
    (route (application.overLogs store) actor (.agentLogs request) state).1 =
      let entries := (store state).agentLogs request.agentId request.afterCursor request.limit
      if actor.authority ≠ .administrator then .error (apiAuthorization .forbidden)
      else if request.limit = 0 ∨ 1000 < request.limit then
        .error (apiValidation ⟨"limit", "must be between 1 and 1000"⟩)
      else if (store state).database.agentSpecs.lookup request.agentId = none then
        .error (apiApplication .notFound)
      else .ok (.logs ⟨entries, entries.getLast?.map cursor⟩) := by
  simp only [route, wrapped, LifecycleHandler.agentLogs, LifecycleHandler.guarded, authorize]
  by_cases administrator : actor.authority = .administrator
  · by_cases limit : request.limit = 0 ∨ 1000 < request.limit
    · have refused : (!(request.limit == 0 || decide (1000 < request.limit))) = false := by
        simpa [or_iff_not_imp_left] using limit
      simp only [administrator, limit, refused]
      rfl
    · have accepted : (!(request.limit == 0 || decide (1000 < request.limit))) = true := by
        simpa using limit
      simp only [administrator, limit, accepted, LifecycleApplication.overLogs,
        Application.agentLogs, Application.existingCommunity]
      cases (store state).database.agentSpecs.lookup request.agentId <;> rfl
  · simp only [administrator, ne_eq]
    rfl

/-- The answer to a request for logs is as long as what is stored makes it. -/
theorem handle_agentLogs_length {actor : AuthenticatedPrincipal} {bytes : List UInt8}
    {request : AgentLogsRequest} {state : State}
    (parsed : format.parse bytes = some (.agentLogs request)) :
    (handle format.codec (application.overLogs store) actor bytes
      state).1.body.length = agentLogsBytes actor request (store state) := by
  have parsedCodec : format.codec.parse bytes = some (.agentLogs request) := parsed
  unfold handle agentLogsBytes
  rw [parsedCodec]
  simp only [route_agentLogs]
  split_ifs
  · exact encode_length format _
  · exact encode_length format _
  · exact encode_length format _
  · exact (encode_length format _).trans (responseJson_logs_size format _)

/-- How many bytes a request is answered in: a request for logs by what is stored, any other one
by what the application answers. -/
def answerBytes (bytes : List UInt8) (state : State) : Nat :=
  match format.parse bytes with
  | some (.agentLogs request) => agentLogsBytes actor request (store state)
  | _ => (LifecycleJsonRouter.handle format.codec application actor bytes state).1.body.length

/-- Only the route for logs looks into the log store. -/
theorem handle_overLogs_length (bytes : List UInt8) (state : State) :
    (handle format.codec (application.overLogs store) actor bytes
      state).1.body.length = answerBytes format application store actor bytes state := by
  unfold answerBytes
  split
  · next request parsed => exact handle_agentLogs_length format application store parsed
  · next other =>
    unfold handle
    have parsedCodec : format.codec.parse bytes = format.parse bytes := rfl
    rw [parsedCodec]
    cases parsed : format.parse bytes with
    | none => rfl
    | some request =>
      cases request with
      | agentLogs request => exact absurd parsed (other request)
      | _ => rfl

/-- The body of a response is a response that is written as JSON. -/
theorem handle_body (bytes : List UInt8) (state : State) :
    ∃ response, (handle format.codec application actor bytes state).1.body =
      format.encode response := by
  unfold handle
  have parsedCodec : format.codec.parse bytes = format.parse bytes := rfl
  rw [parsedCodec]
  cases format.parse bytes with
  | none => exact ⟨_, rfl⟩
  | some request =>
    cases handled : (route application actor request state).1 with
    | ok resource => exact ⟨.ok resource, by simp only [handled]; rfl⟩
    | error error => exact ⟨.error error, by simp only [handled]; rfl⟩

/-- The router as a handler: it does not panic. -/
def routed : AuthenticatedRequestHandler State := fun actor bytes state =>
  let handled := LifecycleJsonRouter.handle format.codec application actor bytes state
  (some handled.1, handled.2)

/-- A peer that is authenticated and delivers one complete frame in time is answered with one
frame, and that frame holds a response, if and only if the answer is within the limit and the
peer goes on reading until it has all of it. -/
theorem serveConnection_answers_iff (authority : UnixAuthorityPolicy) (connection : Connection)
    (state : State) (credentials : UnixPeerCredentials) (actor : AuthenticatedPrincipal)
    (request rest : List UInt8) (peer : connection.credentials = some credentials)
    (authentic : authority.authenticate credentials = some actor)
    (delivered : connection.incoming = frame request ++ rest)
    (bounded : request.length ≤ maxLifecycleRequestBytes) :
    (∃ response, (serveConnection format authority (routed format (application.overLogs store))
        connection state).written = frame (format.encode response)) ↔
      answerBytes format application store actor request state ≤ maxLifecycleResponseBytes ∧
        4 + answerBytes format application store actor request state ≤ connection.takes := by
  rw [serveConnection_written peer authentic delivered bounded,
    ← handle_overLogs_length format application store]
  constructor
  · rintro ⟨response, sent⟩
    exact sendResponse_written_eq_frame sent
  · rintro ⟨small, taken⟩
    obtain ⟨response, encoded⟩ :=
      handle_body format (application.overLogs store) actor request state
    exact ⟨response, encoded ▸ sendResponse_written small taken⟩

end

/-! ### A peer that is not answered -/

namespace Transport

/-- An application that answers nothing but requests for logs. -/
def refusing (State : Type) : LifecycleApplication State :=
  let refuse {Result : Type} : Call State Result := fun state => (.error .unsupported, state)
  { joinCommunity := fun _ => refuse, updateCommunity := fun _ => refuse
    getCommunity := fun _ => refuse, listCommunities := refuse, removeCommunity := fun _ => refuse
    createPersona := fun _ => refuse, updatePersona := fun _ => refuse
    getPersona := fun _ => refuse, listPersonas := refuse, deletePersona := fun _ => refuse
    createAgent := fun _ _ _ => refuse, updateAgent := fun _ _ => refuse
    changeAgentState := fun _ _ => refuse, deleteAgent := fun _ _ => refuse
    purgeAgent := fun _ _ => refuse, getAgent := fun _ => refuse, listAgents := fun _ => refuse
    agentLogs := fun _ => refuse, getOperation := fun _ => refuse
    waitOperation := fun _ _ => refuse, submitDraft := fun _ _ => refuse
    getDraft := fun _ => refuse, promoteDraft := fun _ _ => refuse }

/-- The text of a request for the logs of one agent, as many as may be asked for. -/
def logsText : List UInt8 :=
  Json.Value.utf8 (.object [("route", .string "agent_logs"), ("request", .object [
    ("agent_id", .string (AgentId.toText ⟨1⟩)), ("after_cursor", .null),
    ("limit", .number (.integer 1000))])])

/-- A format that reads this request. -/
def logsFormat : WireFormat :=
  ⟨fun bytes => if bytes = logsText then some (.agentLogs ⟨⟨1⟩, none, 1000⟩) else none,
    fun _ => .null⟩

def policy : UnixAuthorityPolicy := ⟨[0], []⟩

/-- An administrator who sends one request and takes two mebibytes. -/
def administrator : Connection := ⟨some ⟨0, 0, none⟩, frame logsText, 2 * 1024 * 1024, false⟩

def helper : AgentSpec := ⟨⟨1⟩, ⟨0⟩, "helper", "help", ⟨⟨"goose"⟩, ∅⟩, .enabled⟩

def storeOf (logs : AgentLogTable) : LogStore :=
  ⟨{ Database.empty with
      agentSpecs := (∅ : Relational.Table AgentId AgentSpec).insert ⟨1⟩ helper }, logs⟩

/-- The tail of a log after a child has printed so many lines. -/
def childOutput (lines : Nat) : String :=
  String.ofList (List.replicate lines "[REDACTED CHILD OUTPUT]\n".toList).flatten

/-- What one pass over the logs stores of a child that prints a line between any two passes. -/
def observed (pass : Nat) : RedactedLogEntry :=
  ⟨"stdout:" ++ toString pass, pass, "stdout", childOutput (2600 + pass)⟩

/-- The logs after a number of passes. -/
def observedLogs : Nat → AgentLogTable
  | 0 => .empty
  | pass + 1 => (observedLogs pass).insertOrIgnore ⟨1⟩ (observed pass)

theorem childOutput_utf8ByteSize (lines : Nat) : (childOutput lines).utf8ByteSize = 24 * lines := by
  unfold childOutput
  rw [String.utf8ByteSize_ofList]
  induction lines with
  | zero => rfl
  | succ lines inductionHypothesis =>
    have line : String.utf8Len "[REDACTED CHILD OUTPUT]\n".toList = 24 := by decide
    rw [List.replicate_succ, List.flatten_cons, String.utf8Len_append]
    omega

/-- The output has no marker of a secret: each marker has a character that is not in it. -/
theorem containsSecretMarker_childOutput (lines : Nat) :
    containsSecretMarker (childOutput lines) = false := by
  have lowers : "[REDACTED CHILD OUTPUT]\n".toList.all
      (fun character => character.toLower ∈ "[redacted child output]\n".toList) = true := by
    decide
  have characters : ∀ character ∈ (toAsciiLowercase (childOutput lines)).toList,
      character ∈ "[redacted child output]\n".toList := by
    intro character member
    simp only [toAsciiLowercase, childOutput, String.toList_ofList, List.mem_map, List.mem_flatten,
      List.mem_replicate] at member
    obtain ⟨original, ⟨line, ⟨-, isLine⟩, inLine⟩, lowered⟩ := member
    subst isLine lowered
    exact of_decide_eq_true (List.all_eq_true.mp lowers original inLine)
  have absent : ∀ marker : String, marker.toList.any
      (· ∉ "[redacted child output]\n".toList) = true →
      decide (marker.toList <:+: (toAsciiLowercase (childOutput lines)).toList) = false := by
    intro marker other
    obtain ⟨character, member, outside⟩ := List.any_eq_true.mp other
    exact decide_eq_false fun inside =>
      of_decide_eq_true outside (characters character (inside.subset member))
  unfold containsSecretMarker
  simp only [List.any_cons, List.any_nil, Bool.or_false, Bool.or_eq_false_iff]
  exact ⟨absent _ (by decide), absent _ (by decide), absent _ (by decide), absent _ (by decide),
    absent _ (by decide), absent _ (by decide)⟩

/-- Every pass is stored. -/
theorem appendRedactedLog_observed (pass : Nat) :
    (storeOf (observedLogs pass)).appendRedactedLog ⟨1⟩ (observed pass) =
      .ok (storeOf (observedLogs (pass + 1))) := by
  have clean : containsSecretMarker (observed pass).redactedMessage = false :=
    containsSecretMarker_childOutput _
  unfold LogStore.appendRedactedLog
  rw [clean]
  rfl

theorem observedLogs_rows {passes : Nat} (few : passes ≤ 17) : (observedLogs passes).rows =
        (List.range passes).map (fun pass => ⟨pass + 1, ⟨1⟩, observed pass⟩) ∧
      (observedLogs passes).lastSequence = passes := by
  induction passes with
  | zero => exact ⟨rfl, rfl⟩
  | succ passes inductionHypothesis =>
    obtain ⟨rows, lastSequence⟩ := inductionHypothesis (by omega)
    have fresh : ∀ later < 17, ∀ earlier < later,
        ("stdout:" ++ toString earlier) ≠ "stdout:" ++ toString later := by decide
    have absent : (observedLogs passes).find ⟨1⟩ (observed passes).cursor = none := by
      unfold AgentLogTable.find
      rw [rows, List.find?_eq_none]
      intro row member
      obtain ⟨earlier, inRange, isRow⟩ := List.mem_map.mp member
      subst isRow
      simpa [observed] using fresh passes (by omega) earlier (List.mem_range.mp inRange)
    unfold observedLogs AgentLogTable.insertOrIgnore
    simp only [absent, dite_true, rows, lastSequence, List.range_succ, List.map_append,
      List.map_cons, List.map_nil, and_self]

theorem agentLogs_observed :
    (storeOf (observedLogs 17)).agentLogs ⟨1⟩ none 1000 = (List.range 17).map observed := by
  have rows := (observedLogs_rows (Nat.le_refl 17)).1
  unfold LogStore.agentLogs
  simp only [storeOf, rows]
  rfl

theorem size_string (text : String) : text.utf8ByteSize ≤ (string text).size := by
  have longer := Json.utf8ByteSize_le_quote text
  unfold size render
  omega

/-- An entry is not answered in fewer bytes than its message has. -/
theorem message_le_entry (entry : RedactedLogEntry) :
    entry.redactedMessage.utf8ByteSize ≤ entry.toJson.size := by
  have message := size_string entry.redactedMessage
  unfold toJson
  simp only [Json.size_object, Json.fieldSize, List.map_cons, List.sum_cons]
  omega

theorem observed_size (pass : Nat) : 62400 ≤ (observed pass).toJson.size := by
  have message := message_le_entry (observed pass)
  unfold observed at message
  rw [childOutput_utf8ByteSize] at message
  exact Nat.le_trans (by omega) message

/-- Entries are answered in at least as many bytes as each of them takes at least. -/
theorem length_mul_le_logsBytes {entries : List RedactedLogEntry} {bound : Nat}
    (each : ∀ entry ∈ entries, bound ≤ entry.toJson.size) :
    entries.length * bound ≤ logsBytes entries := by
  have sum := List.card_nsmul_le_sum (entries.map fun entry => entry.toJson.size) bound
    (List.forall_mem_map.mpr each)
  rw [List.length_map, nsmul_eq_mul, Nat.cast_id] at sum
  unfold logsBytes
  omega

theorem logsBytes_observed :
    maxLifecycleResponseBytes < logsBytes ((List.range 17).map observed) := by
  have sum : ((List.range 17).map observed).length * 62400 ≤
      logsBytes ((List.range 17).map observed) :=
    length_mul_le_logsBytes (List.forall_mem_map.mpr fun pass _ => observed_size pass)
  exact Nat.lt_of_lt_of_le (by decide) sum

end Transport

open Transport

/-- A child printed a line between any two of seventeen passes over its logs. An administrator
who asks for them is authenticated and delivers one frame, and nothing is written. -/
theorem serveConnection_log_dropped :
    (∀ pass, (storeOf (observedLogs pass)).appendRedactedLog ⟨1⟩ (observed pass) =
      .ok (storeOf (observedLogs (pass + 1)))) ∧
    policy.authenticate ⟨0, 0, none⟩ = some ⟨.unixPeer 0 0 none, .administrator⟩ ∧
    administrator.credentials = some ⟨0, 0, none⟩ ∧
    administrator.incoming = frame logsText ++ [] ∧
    (serveConnection logsFormat policy
        (routed logsFormat ((refusing LogStore).overLogs id)) administrator
        (storeOf (observedLogs 17))).written = [] ∧
    ¬ ∃ response, (serveConnection logsFormat policy
        (routed logsFormat ((refusing LogStore).overLogs id)) administrator
        (storeOf (observedLogs 17))).written = frame (logsFormat.encode response) := by
  have long : maxLifecycleResponseBytes < (LifecycleJsonRouter.handle logsFormat.codec
      ((refusing LogStore).overLogs id) ⟨.unixPeer 0 0 none, .administrator⟩ logsText
      (storeOf (observedLogs 17))).1.body.length := by
    rw [handle_agentLogs_length logsFormat (refusing LogStore) id rfl]
    have answered : agentLogsBytes ⟨.unixPeer 0 0 none, .administrator⟩ ⟨⟨1⟩, none, 1000⟩
        (storeOf (observedLogs 17)) = logsBytes ((List.range 17).map observed) := by
      unfold agentLogsBytes
      rw [if_neg (by decide), if_neg (by decide), agentLogs_observed]
      exact if_neg (Option.isSome_iff_ne_none.mp rfl)
    exact answered ▸ logsBytes_observed
  have nothing : (serveConnection logsFormat policy
      (routed logsFormat ((refusing LogStore).overLogs id)) administrator
      (storeOf (observedLogs 17))).written = [] := by
    have delivered : administrator.incoming = frame logsText ++ [] := by simp [administrator]
    rw [serveConnection_written rfl rfl delivered (by decide +kernel)]
    exact sendResponse_dropped long
  refine ⟨appendRedactedLog_observed, rfl, rfl, rfl, nothing, ?_⟩
  rintro ⟨response, sent⟩
  have lengths := congrArg List.length (sent.symm.trans nothing)
  simp at lengths

/-- The logs of a child that has printed one line. -/
def Transport.firstLine : AgentLogTable :=
  AgentLogTable.empty.insertOrIgnore ⟨1⟩ ⟨"stdout:0", 0, "stdout", childOutput 1⟩

/-- The administrator is answered with that line. -/
theorem serveConnection_answers_administrator : ∃ response, (serveConnection logsFormat policy
        (routed logsFormat ((refusing LogStore).overLogs id)) administrator
        (storeOf firstLine)).written = frame (logsFormat.encode response) :=
  (serveConnection_answers_iff logsFormat (refusing LogStore) id policy administrator
    (storeOf firstLine) ⟨0, 0, none⟩ ⟨.unixPeer 0 0 none, .administrator⟩ logsText [] rfl rfl
    (List.append_nil _).symm (by decide +kernel)).mpr (by decide +kernel)

end BuzzServer
