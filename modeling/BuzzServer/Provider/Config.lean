/-
This file models what the provider host does with one deploy request: the
checks a provider's configuration has to pass, the request that is sent, and
what is made of the process's answer.

Which characters are letters of upper or lower case is Unicode's business and a
parameter here. What the started process does is not modelled: it runs into a
limit, cannot be talked to, or exits with some output.
-/

import BuzzServer.Json.Value
import Mathlib.Data.List.Destutter

namespace BuzzServer

open Json

inductive ProviderError where
  | io
  | timeout
  | outputLimit
  | inputLimit
  | invalidJson
  | provider (message : String)
  | missingAgentId
  | payload
  | unsupportedSchema (construct : String)
  | invalidConfig (reason : String)
  deriving DecidableEq

/-- The letters that have a case. -/
structure LetterCases where
  (isUppercase isLowercase : Char → Bool)

/-- The letters of ASCII. -/
def LetterCases.ascii : LetterCases := ⟨Char.isUpper, Char.isLower⟩

variable (letters : LetterCases)

/-! ### Keys that look like secrets -/

def isWordSeparator (character : Char) : Bool :=
  character == '_' || character == '-' || character == '.'

/-- Whether an upper-case letter starts a word: after a lower-case letter, or as the last
letter of an acronym that a lower-case letter follows. -/
def startsWord (current : List Char) (character : Char) (next : Option Char) : Bool :=
  letters.isUppercase character && (current.getLast?.any letters.isLowercase ||
      (current.getLast?.any letters.isUppercase && next.any letters.isLowercase))

/-- The words of a key, after the characters of the current one. -/
def keyWords (current : List Char) : List Char → List (List Char)
  | [] => if current.isEmpty then [] else [current]
  | character :: rest =>
      if isWordSeparator character then
        if current.isEmpty then keyWords [] rest else current :: keyWords [] rest
      else if startsWord letters current character rest.head? then
        current :: keyWords [character] rest
      else keyWords (current ++ [character]) rest

def secretShapedKey (key : String) : Bool :=
  let words := (keyWords letters [] key.toList).map fun word =>
    String.ofList (word.map Char.toLower)
  ["secret", "password", "token", "credential", "key"].any fun forbidden =>
    words.any fun word => word == forbidden

example : secretShapedKey .ascii "clientSecret" = true := by decide

example : secretShapedKey .ascii "keyboard" = false := by decide

/-! ### The configuration -/

def isScalar : Value → Bool
  | .array _ => false
  | .object _ => false
  | _ => true

def validateProviderConfig (config : Value) : Except ProviderError Unit :=
  match config.asObject with
  | none => .error .payload
  | some fields =>
      if fields.length > 20 || config.size > 65536 then .error .payload
      else if fields.any fun entry => secretShapedKey letters entry.1 || !isScalar entry.2 then
        .error .payload
      else .ok ()

/-- The keys of an object are among the supported ones. -/
def supportsKeys (supported : List String) (fields : List (String × Value)) :
    Except ProviderError Unit :=
  match fields.find? fun entry => !supported.contains entry.1 with
  | some entry => .error (.unsupportedSchema entry.1)
  | none => .ok ()

def schemaRequires (holds : Bool) (construct : String) : Except ProviderError Unit :=
  if holds then .ok () else .error (.unsupportedSchema construct)

def validateProperty (property : Value) : Except ProviderError Unit :=
  match property.asObject with
  | none => .error (.unsupportedSchema "property")
  | some fields => do
      supportsKeys ["type", "title", "description", "default", "enum", "minimum", "maximum"] fields
      match (field "type" fields).bind Value.asString with
      | none => .error (.unsupportedSchema "property type")
      | some kind =>
          schemaRequires (["string", "number", "integer", "boolean", "null"].contains kind)
            ("property type " ++ kind)
      schemaRequires ((field "enum" fields).all fun value => value.asArray.isSome) "enum"
      schemaRequires ((field "minimum" fields).all (fun value => value.asNumber.isSome) &&
          (field "maximum" fields).all fun value => value.asNumber.isSome) "numeric bound"

def validateSupportedSchema (schema : Value) : Except ProviderError Unit :=
  match schema.asObject with
  | none => .error (.unsupportedSchema "root must be an object")
  | some fields => do
      supportsKeys
        ["type", "properties", "required", "additionalProperties", "title", "description"] fields
      schemaRequires ((field "type" fields).all fun value => value.same (.string "object"))
        "root type"
      schemaRequires ((field "required" fields).all fun value =>
          value.asArray.any fun items => items.all fun item => item.asString.isSome) "required"
      schemaRequires ((field "additionalProperties" fields).all fun value => value.asBool.isSome)
        "additionalProperties"
      match field "properties" fields with
      | none => .ok ()
      | some properties =>
          match properties.asObject with
          | none => .error (.unsupportedSchema "properties")
          | some entries => entries.forM fun entry => validateProperty entry.2

def configRequires (holds : Bool) (reason : String) : Except ProviderError Unit :=
  if holds then .ok () else .error (.invalidConfig reason)

def hasType (value : Value) : Option String → Bool
  | some "string" => value.asString.isSome
  | some "number" => value.asNumber.isSome
  | some "integer" => value.isInteger
  | some "boolean" => value.asBool.isSome
  | some "null" => value.isNull
  | _ => false

/-- Whether a number keeps a bound that is a number too. -/
def keepsBound (within : Rat → Rat → Bool) (number : Number) (bound : Option Value) : Bool :=
  (bound.bind Value.asNumber).all fun limit => within number.asDouble limit.asDouble

/-- One field of a configuration against its property, if the schema has one. -/
def validateField (properties : Option (List (String × Value))) (entry : String × Value) :
    Except ProviderError Unit :=
  match (properties.bind (field entry.1)).bind Value.asObject with
  | none => .ok ()
  | some property => do
      configRequires (hasType entry.2 ((field "type" property).bind Value.asString))
        ("field " ++ entry.1 ++ " has wrong type")
      configRequires (((field "enum" property).bind Value.asArray).all fun allowed =>
          allowed.any fun value => value.same entry.2)
        ("field " ++ entry.1 ++ " is not an allowed value")
      configRequires (entry.2.asNumber.all fun number =>
          keepsBound (fun number minimum => decide (minimum ≤ number)) number
            (field "minimum" property) &&
          keepsBound (fun number maximum => decide (number ≤ maximum)) number
            (field "maximum" property))
        ("field " ++ entry.1 ++ " is outside bounds")

def validateConfigAgainstSchema (schema config : Value) : Except ProviderError Unit := do
  validateSupportedSchema schema
  match config.asObject with
  | none => .error (.invalidConfig "must be an object")
  | some fields => do
      (((schema.get "required").bind Value.asArray).getD []).forM fun item =>
        match item.asString with
        | none => .ok ()
        | some key =>
            configRequires (field key fields).isSome ("missing required field " ++ key)
      let properties := (schema.get "properties").bind Value.asObject
      if (schema.get "additionalProperties").any fun value => value.same (.bool false) then
        fields.forM fun entry =>
          configRequires (properties.any fun known => (field entry.1 known).isSome)
            ("unknown field " ++ entry.1)
      fields.forM (validateField properties)

/-! ### The request and its answer -/

mutual

/-- The nonempty texts inside a value. -/
def collectValue : Value → List String
  | .string text => if text.isEmpty then [] else [text]
  | .array items => collectItems items
  | .object fields => collectFields fields
  | .null => []
  | .bool _ => []
  | .number _ => []

def collectItems : List Value → List String
  | [] => []
  | item :: rest => collectValue item ++ collectItems rest

def collectFields : List (String × Value) → List String
  | [] => []
  | (_, value) :: rest => collectValue value ++ collectFields rest

end

/-- The keys whose texts are secrets by convention. -/
def isConfidentialKey (key : String) : Bool :=
  secretShapedKey letters key ||
    ["auth_tag", "system_prompt", "env", "env_vars", "policy_env"].contains key

mutual

/-- The texts under keys that look like secrets. -/
def visitSecrets : Value → List String
  | .array items => visitItems items
  | .object fields => visitFields fields
  | .null => []
  | .bool _ => []
  | .number _ => []
  | .string _ => []

def visitItems : List Value → List String
  | [] => []
  | item :: rest => visitSecrets item ++ visitItems rest

def visitFields : List (String × Value) → List String
  | [] => []
  | (key, value) :: rest =>
      (if isConfidentialKey letters key then collectValue value else visitSecrets value) ++
        visitFields rest

end

/-- The secrets of a request, longest first. -/
def collectStrings (request : Value) : List String :=
  ((visitSecrets letters request).mergeSort
    fun first second => second.utf8ByteSize ≤ first.utf8ByteSize).destutter (· ≠ ·)

def redact (input : String) (secrets : List String) : String :=
  secrets.foldl (fun text secret => text.replace secret "[REDACTED]") input

/-- What came of a provider process that was started. -/
inductive ProviderRun where
  | timeout
  | io
  | outputLimit
  | exited (success : Bool) (stdout : Option Value) (stderr : String)

/-- The response of a provider process, or why there is none. -/
def ProviderRun.response (secrets : List String) : ProviderRun → Except ProviderError Value
  | .timeout => .error .timeout
  | .io => .error .io
  | .outputLimit => .error .outputLimit
  | .exited false _ stderr => .error (.provider (redact stderr secrets))
  | .exited true none _ => .error .invalidJson
  | .exited true (some response) _ =>
      if (response.get "ok").any fun value => value.same (.bool true) then .ok response
      else
        .error (.provider (redact
          (((response.get "error").bind Value.asString).getD "unknown provider error") secrets))

def providerInputCap : Nat := 1024 * 1024

/-- A provider whose bytes were staged and whose `info` was negotiated. -/
structure NegotiatedProvider where
  id : String
  configSchema : Value
  stagedSha256 : String

def deployRequest (requestId : String) (agent providerConfig : Value) : Value :=
  .object [("agent", agent), ("op", .string "deploy"), ("provider_config", providerConfig),
    ("request_id", .string requestId)]

/-- The agent id a deploy response names. -/
def deployedAgentId (response : Value) : Except ProviderError String :=
  match ((response.get "agent_id").bind Value.asString).filter fun text => !text.isEmpty with
  | some id => .ok id
  | none => .error .missingAgentId

end BuzzServer
