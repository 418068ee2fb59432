/-
This file models agents: the lifecycle cache the database keeps of one, the
human-authored configuration file it is resolved from, and the persona a file
may link to, each with its validation in the order the source checks.
-/

import BuzzServer.Domain.Basic
import Mathlib.Data.Finmap

namespace BuzzServer

inductive DesiredAgentState where
  | enabled
  | disabled
  | deleted
  deriving DecidableEq

inductive RespondToMode where
  | ownerOnly
  | allowlist
  | anyone
  deriving DecidableEq

inductive AutoJoinOpenChannels where
  | disabled
  | all
  | new
  deriving DecidableEq

def defaultAgentParallelism : Nat := 10

/-- Environment variables by name. -/
abbrev Environment : Type := Finmap fun _ : String => String

def validEnvironmentKey (key : String) : Bool :=
  match key.toList with
  | [] => false
  | first :: rest =>
      (first.isUpper || first == '_') &&
        rest.all fun character => character.isUpper || character.isDigit || character == '_'

def hasInvalidKey (environment : Environment) : Bool :=
  decide (∃ key ∈ environment.keys, validEnvironmentKey key = false)

/-! ### The lifecycle cache -/

structure RuntimeSpec where
  runtimeId : RuntimeId
  environment : Environment
  deriving DecidableEq

def RuntimeSpec.validate (spec : RuntimeSpec) : Except ValidationError Unit :=
  require (!hasInvalidKey spec.environment) "runtime.environment"
    "contains an invalid environment variable name"

/-- The lifecycle cache persisted in the database. Human-authored configuration is
authoritative in the agent's file. -/
structure AgentSpec where
  id : AgentId
  communityConfigId : CommunityConfigId
  (displayName systemPrompt : String)
  runtime : RuntimeSpec
  desiredState : DesiredAgentState
  deriving DecidableEq

def AgentSpec.validate (spec : AgentSpec) : Except ValidationError Unit := do
  validateNonempty "display_name" spec.displayName 120
  if !spec.systemPrompt.isEmpty then
    validateNonempty "system_prompt" spec.systemPrompt 65536
  spec.runtime.validate

/-! ### Personas and agent files -/

def validateIdentifier (field value : String) : Except ValidationError Unit := do
  validateNonempty field value 120
  require (value.toList.all fun c => c.isAlphanum || c == '-' || c == '_') field
    "must contain only letters, numbers, '-' or '_'"

def validateEnvironment (environment : Environment) : Except ValidationError Unit :=
  require (!hasInvalidKey environment) "environment" "contains an invalid environment variable name"

def validateAgentArgs (args : List String) : Except ValidationError Unit :=
  require (args.length ≤ 256 && args.all fun arg =>
      !arg.isEmpty && !arg.toList.contains '\x00' && !arg.toList.contains ',')
    "agent_args" "must contain at most 256 non-empty, comma-free, NUL-free arguments"

def validateBehavior (parallelism : Option Nat) (respondTo : Option RespondToMode)
    (allowlist : List String) : Except ValidationError Unit := do
  require (parallelism.all fun value => 1 ≤ value && value ≤ 32) "parallelism"
    "must be between 1 and 32"
  require (!(respondTo == some .allowlist && allowlist.isEmpty)) "respond_to_allowlist"
    "must contain at least one pubkey in allowlist mode"
  require (allowlist.all fun key => key.utf8ByteSize == 64 && key.toList.all isAsciiHexDigit)
    "respond_to_allowlist" "entries must be 64-character hex pubkeys"

/-- The bound both prompt checks share. -/
def boundedPrompt (prompt : String) : Bool :=
  prompt.length ≤ 65536 && !prompt.toList.contains '\x00'

structure PersonaDefinition where
  (id displayName : String)
  avatarUrl : Option String
  systemPrompt : String
  runtime : Option RuntimeId
  (model provider : Option String)
  environment : Environment
  respondTo : Option RespondToMode
  respondToAllowlist : List String
  parallelism : Option Nat
  deriving DecidableEq

def PersonaDefinition.validate (persona : PersonaDefinition) : Except ValidationError Unit := do
  validateIdentifier "persona.id" persona.id
  validateNonempty "persona.display_name" persona.displayName 120
  require (boundedPrompt persona.systemPrompt) "persona.system_prompt"
    "must be at most 65536 NUL-free characters"
  validateEnvironment persona.environment
  validateBehavior persona.parallelism persona.respondTo persona.respondToAllowlist

/-- What a character of a persona id becomes in its tag. -/
def tagCharacter (raw : Char) : Char :=
  let c := raw.toLower
  if c.isLower || c.isDigit || c == '_' || c == '-' then c else '-'

/-- The tag a persona is published under. -/
def personaDTag (raw : String) : String :=
  let out := raw.toList.map tagCharacter
  -- Every character is ASCII here, so 64 bytes are 64 characters.
  String.ofList ((if out.head?.any Char.isAlphanum then out else 'a' :: out).take 64)

structure FilesystemConfig where
  user : Option String
  deriving DecidableEq

def FilesystemConfig.validate (config : FilesystemConfig) : Except ValidationError Unit :=
  require (config.user.all fun user =>
      !user.isEmpty && user.utf8ByteSize ≤ 32 && user.toList.head? != some '-' &&
        user.toList.all fun c => c.isAlphanum || c == '_' || c == '-')
    "filesystem.user" "must be a 1-32 character Unix account name"

/-- The human-authored configuration of one agent. -/
structure AgentConfigFile where
  id : AgentId
  displayName : String
  (personaId avatarUrl systemPrompt : Option String)
  /-- Absolute path to a UTF-8 prompt file selected by the administrator. -/
  systemPromptFile : Option String
  runtime : Option RuntimeId
  (model provider : Option String)
  environment : Environment
  filesystem : FilesystemConfig
  autoJoinOpenChannels : AutoJoinOpenChannels
  agentArgs : List String
  parallelism : Nat
  respondTo : RespondToMode
  respondToAllowlist : List String
  (idleTimeoutSeconds maxTurnDurationSeconds : Option Nat)
  deriving DecidableEq

def isAbsolutePath (path : String) : Bool := path.toList.head? == some '/'

variable (file : AgentConfigFile)

def AgentConfigFile.validatePrompt : Except ValidationError Unit :=
  match file.systemPrompt with
  | none => .ok ()
  | some prompt => do
      if file.systemPromptFile.isNone then
        validateNonempty "system_prompt" prompt 65536
      require (boundedPrompt prompt) "system_prompt" "must be at most 65536 NUL-free characters"

def AgentConfigFile.validatePromptFile : Except ValidationError Unit :=
  match file.systemPromptFile with
  | none => .ok ()
  | some path => do
      validateNonempty "system_prompt_file" path 4096
      require (isAbsolutePath path) "system_prompt_file" "must be an absolute path"

def AgentConfigFile.validate : Except ValidationError Unit := do
  validateNonempty "display_name" file.displayName 120
  match file.personaId with
  | none => pure ()
  | some personaId => validateIdentifier "persona_id" personaId
  file.validatePrompt
  file.validatePromptFile
  require (!(file.personaId.isSome && file.systemPromptFile.isSome)) "system_prompt_file"
    "cannot be used with persona_id"
  validateEnvironment file.environment
  file.filesystem.validate
  validateAgentArgs file.agentArgs
  validateBehavior (some file.parallelism) (some file.respondTo) file.respondToAllowlist

/-- What resolving a file gives: the spec, and the settings of the launch. -/
structure ResolvedAgentConfig where
  spec : AgentSpec
  (personaId avatarUrl model provider : Option String)
  filesystem : FilesystemConfig
  agentArgs : List String
  parallelism : Nat
  respondTo : RespondToMode
  respondToAllowlist : List String
  (idleTimeoutSeconds maxTurnDurationSeconds : Option Nat)
  deriving DecidableEq

end BuzzServer
