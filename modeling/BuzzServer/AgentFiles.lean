/-
This file models the store of human-editable agent files: what is on disk, and
the functions that read it.

The text of an agent file is known up to its JSON codec. A file the server
wrote is the pretty rendering of a configuration, and reads back as that
configuration; any other text, such as one a person edited, reads back as some
configuration or as none. Two texts are the same contents exactly when they are
equal here.

Loading, resolving and building each read at most one file, so each is one
function of the files at one moment.
-/

import BuzzServer.Domain.Api
import BuzzServer.Relational.Table

namespace BuzzServer

open Relational UpdateAgentInput

/-! ### What is on disk -/

/-- The contents of an agent file. -/
inductive FileText where
  /-- The rendering `write_agent` gives a configuration. -/
  | pretty (file : AgentConfigFile)
  /-- Any other text, with what it parses to. -/
  | other (text : String) (parsed : Option AgentConfigFile)
  deriving DecidableEq

def FileText.parse : FileText → Option AgentConfigFile
  | .pretty file => some file
  | .other _ parsed => parsed

inductive PersonaText where
  | definition (persona : PersonaDefinition)
  | malformed
  /-- A file whose contents cannot be read. -/
  | unreadable
  deriving DecidableEq

/-- A file a system prompt may point at. -/
inductive PromptFile where
  | text (contents : String)
  | invalidUtf8
  | directory
  | unreadable
  deriving DecidableEq

structure Files where
  agents : Table AgentId FileText
  personas : Table String PersonaText
  prompts : Table String PromptFile
  deriving DecidableEq

inductive AgentFileError where
  | io
  | json
  | validation (error : ValidationError)
  | personaNotFound (id : String)
  | runtimeRequired (id : String)
  | standaloneRuntimeRequired
  | agentIdMismatch (expected found : AgentId)
  | systemPromptFile (path message : String)
  deriving DecidableEq

def agentFileApplicationError : AgentFileError → ApplicationError
  | .validation error => .invalid error
  | .personaNotFound _ => .notFound
  | .runtimeRequired id =>
      .invalid ⟨"runtime_id", "persona " ++ id ++ " has no runtime; provide --runtime"⟩
  | .standaloneRuntimeRequired =>
      .invalid ⟨"runtime_id", "is required when no persona is selected"⟩
  | .systemPromptFile path message =>
      .invalid ⟨"system_prompt_file", path ++ ": " ++ message⟩
  | .io | .json | .agentIdMismatch _ _ => .internal

/-- A validation inside a file operation. -/
def checkFile (checked : Except ValidationError Unit) : Except AgentFileError Unit :=
  checked.mapError .validation

theorem checkFile_eq_ok {checked : Except ValidationError Unit} :
    checkFile checked = .ok () ↔ checked = .ok () := by
  unfold checkFile
  cases checked with
  | ok value => simp [Except.mapError]
  | error error => simp [Except.mapError]

variable {file : AgentConfigFile}

namespace Files

variable (files : Files)

/-! ### Reading -/

variable (id : AgentId)

def loadAgent : Except AgentFileError AgentConfigFile :=
  match files.agents.lookup id with
  | none => .error .io
  | some text =>
      match text.parse with
      | none => .error .json
      | some value =>
          if value.id ≠ id then .error (.agentIdMismatch id value.id)
          else do
            checkFile value.validate
            return value

def loadPersona (id : String) : Except AgentFileError PersonaDefinition := do
  checkFile (require (!id.isEmpty && id.toList.all fun c => c.isAlphanum || c == '-' || c == '_')
    "persona_id" "must contain only letters, numbers, '-' or '_'")
  match files.personas.lookup id with
  | none => .error (.personaNotFound id)
  | some .unreadable => .error .io
  | some .malformed => .error .json
  | some (.definition persona) => do
      checkFile persona.validate
      checkFile (require (persona.id == id) "persona.id" "must match the persona filename")
      return persona

def nonblank (value : Option String) : Option String :=
  (value.map trim).filter fun text => !text.isEmpty

def readPromptFile (path : String) : Except AgentFileError String :=
  match files.prompts.lookup path with
  | none => .error (.systemPromptFile path "cannot resolve file")
  | some .directory => .error (.systemPromptFile path "path is not a regular file")
  | some .unreadable => .error (.systemPromptFile path "cannot read file")
  | some .invalidUtf8 => .error (.systemPromptFile path "file is not valid UTF-8")
  | some (.text contents) => .ok (trim contents)

/-- The prompt of a standalone agent: an inline prompt wins over a prompt file. -/
def resolveSystemPrompt (file : AgentConfigFile) : Except AgentFileError String :=
  match nonblank file.systemPrompt with
  | some prompt => .ok prompt
  | none =>
      match file.systemPromptFile with
      | none => .ok ""
      | some path => files.readPromptFile path

/-- The files while the host reads no contents. Every path is still there, and a directory
still shows as one. -/
def unreadable : Files :=
  { files with
    personas := files.personas.mapRows fun _ => .unreadable
    prompts := files.prompts.mapRows fun
      | .directory => .directory
      | _ => .unreadable }

/-- The personas and prompts a call finds, when the host may read no contents. -/
def readWith (fault : Bool) : Files :=
  if fault then files.unreadable else files

@[simp] theorem readWith_false : files.readWith false = files := rfl

/-- The settings a linked persona owns, or the file's own if it links none. -/
structure EffectiveSettings where
  runtimeId : RuntimeId
  systemPrompt : String
  (model provider : Option String)
  environment : Environment

def effectiveSettings (file : AgentConfigFile) : Except AgentFileError EffectiveSettings :=
  match file.personaId with
  | some personaId => do
      let persona ← files.loadPersona personaId
      match file.runtime.or persona.runtime with
      | none => .error (.runtimeRequired personaId)
      | some runtime =>
          return ⟨runtime, trim persona.systemPrompt, nonblank persona.model,
            nonblank persona.provider, file.environment ∪ persona.environment⟩
  | none =>
      match file.runtime with
      | none => .error .standaloneRuntimeRequired
      | some runtime => do
          let prompt ← files.resolveSystemPrompt file
          return ⟨runtime, prompt, nonblank file.model, nonblank file.provider, file.environment⟩

/-- The lifecycle cache of a file with its effective settings. -/
def specOf (file : AgentConfigFile) (settings : EffectiveSettings)
    (community : CommunityConfigId) (desiredState : DesiredAgentState) : AgentSpec :=
  ⟨file.id, community, file.displayName, settings.systemPrompt,
    ⟨settings.runtimeId, settings.environment⟩, desiredState⟩

/-- The launch settings of a file, next to its spec. -/
def configOf (file : AgentConfigFile) (settings : EffectiveSettings) (spec : AgentSpec) :
    ResolvedAgentConfig where
  spec := spec
  personaId := file.personaId
  avatarUrl := file.avatarUrl
  model := settings.model
  provider := settings.provider
  filesystem := file.filesystem
  agentArgs := file.agentArgs
  parallelism := file.parallelism
  respondTo := file.respondTo
  respondToAllowlist := file.respondToAllowlist.map toAsciiLowercase
  idleTimeoutSeconds := file.idleTimeoutSeconds.filter fun value => 0 < value
  maxTurnDurationSeconds := file.maxTurnDurationSeconds.filter fun value => 0 < value

def resolve (file : AgentConfigFile) (community : CommunityConfigId)
    (desiredState : DesiredAgentState) : Except AgentFileError ResolvedAgentConfig := do
  checkFile file.validate
  let settings ← files.effectiveSettings file
  checkFile (specOf file settings community desiredState).validate
  return configOf file settings (specOf file settings community desiredState)

/-! ### Building and writing -/

/-- The values a new agent takes over from its persona when it is created. -/
structure MintedSettings where
  avatarUrl : Option String
  parallelism : Nat
  respondTo : RespondToMode
  respondToAllowlist : List String
  promptSnapshot : Option String

variable (input : CreateAgentInput)

def mintedSettings : Except AgentFileError MintedSettings :=
  match input.personaId with
  | some personaId => do
      let persona ← files.loadPersona personaId
      return ⟨persona.avatarUrl, persona.parallelism.getD defaultAgentParallelism,
        persona.respondTo.getD .ownerOnly, persona.respondToAllowlist,
        some persona.systemPrompt⟩
  | none => .ok ⟨none, defaultAgentParallelism, .ownerOnly, [], input.systemPrompt⟩

/-- The file of a new agent. -/
def createdFile (minted : MintedSettings) : AgentConfigFile where
  id := id
  displayName := input.displayName
  personaId := input.personaId
  avatarUrl := minted.avatarUrl
  systemPrompt := minted.promptSnapshot
  systemPromptFile := input.systemPromptFile
  runtime := input.runtimeId
  model := none
  provider := none
  environment := ∅
  filesystem := ⟨input.filesystemUser⟩
  autoJoinOpenChannels := .disabled
  agentArgs := []
  parallelism := minted.parallelism
  respondTo := minted.respondTo
  respondToAllowlist := minted.respondToAllowlist
  idleTimeoutSeconds := none
  maxTurnDurationSeconds := none

def buildCreateFile : Except AgentFileError AgentConfigFile := do
  let minted ← files.mintedSettings input
  checkFile (createdFile id input minted).validate
  return createdFile id input minted

/-- Whether a path exists for an agent's file. -/
def agentExists : Bool := decide (id ∈ files.agents)

/-- The files after a configuration was written. -/
def withAgent (file : AgentConfigFile) : Files :=
  { files with agents := files.agents.insert file.id (.pretty file) }

def withoutAgent : Files :=
  { files with agents := files.agents.erase id }

/-! ### What the results name -/

variable {files}

theorem loadAgent_id {id : AgentId} (loaded : files.loadAgent id = .ok file) : file.id = id := by
  unfold loadAgent at loaded
  split at loaded
  · cases loaded
  · split at loaded
    · cases loaded
    · split at loaded
      · cases loaded
      · next value _ same =>
        obtain ⟨-, -, result⟩ := bind_eq_ok.mp loaded
        cases result
        exact not_not.mp same

section

variable {community : CommunityConfigId} {desiredState : DesiredAgentState}
  {resolved : ResolvedAgentConfig}

theorem resolve_eq_ok : files.resolve file community desiredState = .ok resolved ↔
    file.validate = .ok () ∧ ∃ settings, files.effectiveSettings file = .ok settings ∧
      (specOf file settings community desiredState).validate = .ok () ∧
        configOf file settings (specOf file settings community desiredState) = resolved := by
  simp only [resolve, bind_eq_ok, Unique.exists_iff, PUnit.default_eq_unit, checkFile_eq_ok, pure,
    Except.pure, Except.ok.injEq]

variable (succeeded : files.resolve file community desiredState = .ok resolved)

include succeeded

theorem resolve_spec : resolved.spec.id = file.id ∧ resolved.spec.communityConfigId = community ∧
      resolved.spec.desiredState = desiredState := by
  obtain ⟨-, settings, -, -, rfl⟩ := resolve_eq_ok.mp succeeded
  exact ⟨rfl, rfl, rfl⟩

/-- A file only resolves to a valid spec. -/
theorem resolve_valid : resolved.spec.validate = .ok () := by
  obtain ⟨-, settings, -, valid, rfl⟩ := resolve_eq_ok.mp succeeded
  exact valid

end

theorem buildCreateFile_id {id : AgentId} {input : CreateAgentInput}
    (built : files.buildCreateFile id input = .ok file) : file.id = id := by
  obtain ⟨minted, -, checked⟩ := bind_eq_ok.mp built
  obtain ⟨-, -, result⟩ := bind_eq_ok.mp checked
  cases result
  rfl

end Files

/-- The file `ensure_agent_file` writes for an agent that has none. -/
def AgentSpec.defaultFile (spec : AgentSpec) : AgentConfigFile where
  id := spec.id
  displayName := spec.displayName
  personaId := none
  avatarUrl := none
  systemPrompt := if spec.systemPrompt.isEmpty then none else some spec.systemPrompt
  systemPromptFile := none
  runtime := some spec.runtime.runtimeId
  model := none
  provider := none
  environment := spec.runtime.environment
  filesystem := ⟨none⟩
  autoJoinOpenChannels := .disabled
  agentArgs := []
  parallelism := defaultAgentParallelism
  respondTo := .ownerOnly
  respondToAllowlist := []
  idleTimeoutSeconds := none
  maxTurnDurationSeconds := none

def personaOwns (field : String) : ValidationError :=
  ⟨field, "is defined by the selected persona; update the persona instead"⟩

variable (changes : UpdateAgentInput) (file : AgentConfigFile)

/-- The prompt of a file after an update. A file-only update clears the inline prompt; an
inline value that comes with it stays authoritative. -/
def UpdateAgentInput.updatePrompt : Except ValidationError AgentConfigFile := do
  let file ←
    match changes.systemPrompt with
    | none => pure file
    | some value =>
        if file.personaId.isSome then .error (personaOwns "system_prompt")
        else pure { file with systemPrompt := some value }
  match changes.systemPromptFile with
  | none => pure file
  | some value =>
      if file.personaId.isSome then .error (personaOwns "system_prompt_file")
      else
        pure { file with
            systemPromptFile := some value
            systemPrompt :=
              if changes.systemPrompt.isNone then some "" else file.systemPrompt }

/-- The file after an update, before it is validated and written. -/
def UpdateAgentInput.updateFile : Except ValidationError AgentConfigFile := do
  let file ← changes.updatePrompt
    { file with displayName := changes.displayName.getD file.displayName }
  return { file with
    runtime := changes.runtimeId.or file.runtime
    filesystem := ⟨changes.filesystemUser.or file.filesystem.user⟩ }

/-- The file with the changes in it. -/
def UpdateAgentInput.merged : AgentConfigFile :=
  { file with
    displayName := changes.displayName.getD file.displayName
    systemPrompt := changes.systemPrompt.or
      (if changes.systemPromptFile.isSome then some "" else file.systemPrompt)
    systemPromptFile := changes.systemPromptFile.or file.systemPromptFile
    runtime := changes.runtimeId.or file.runtime
    filesystem := ⟨changes.filesystemUser.or file.filesystem.user⟩ }

variable {changes file}

/-- An update goes through unless it sets a prompt that the persona owns. -/
theorem UpdateAgentInput.updateFile_eq_ok {updated : AgentConfigFile} :
    changes.updateFile file = .ok updated ↔
      (file.personaId = none ∨ changes.systemPrompt = none ∧ changes.systemPromptFile = none) ∧
        updated = changes.merged file := by
  obtain ⟨displayName, prompt, promptFile, runtimeId, user⟩ := changes
  unfold updateFile updatePrompt merged
  cases prompt <;> cases promptFile <;> cases persona : file.personaId <;>
    simp [eq_comm, bind, Except.bind, pure, Except.pure]

end BuzzServer
