/-
This file models how the environment of a harness comes about. Its layers are,
in this order: the environment of the persona and of the agent's file, which
resolution has merged; the references to the secrets the runtime requires; the
values the server adds for the relay, the credentials and the resolved settings;
and, when the supervisor starts the launch, the defaults for three variables,
the values of the secrets, the selection of the runtime and the launch marker.

The preflight probe is given the environment without two variables.

The digests of secrets and the public key of a secret key come from libraries.
Of a digest no more is used here than the length of its text.
-/

import BuzzServer.AgentFiles
import BuzzServer.Local.Launch

namespace BuzzServer.Local

/-! ### Keys and digests -/

/-- The text of a 32-byte value in lowercase hexadecimal. -/
def isHex64 (text : String) : Bool :=
  text.utf8ByteSize == 64 && text.toList.all isAsciiHexDigit

/-- The text of a Nostr key. -/
structure HexKey where
  hex : String
  wellFormed : isHex64 hex = true

/-- A text that can be given in an environment variable. -/
structure NulFree where
  text : String
  wellFormed : hasNul text = false

/-- What the server uses of its cryptographic libraries. -/
structure Crypto where
  /-- The digest of a text, in hexadecimal. -/
  sha256 : String → HexKey
  publicKey : HexKey → HexKey

variable (crypto : Crypto)

def Crypto.secretGeneration (value : String) : String :=
  "sha256:" ++ (crypto.sha256 value).hex

/-! ### Resolving a launch -/

structure LocalLaunchContext where
  launchId : String
  harness : ExecutableIdentity
  harnessArguments : List String
  (workingDirectory workspacePath runtimePath processGroupId : String)
  restart : RestartPolicy
  health : HealthPolicy

inductive LaunchResolutionError where
  | catalog (error : CatalogError)
  | validation (error : ValidationError)
  | secretShadow (key : String)

def reservedHarnessEnvironmentKey (key : String) : Bool :=
  key == harnessAgentCommandEnv || key == harnessAgentArgsEnv || key == harnessPrivateKeyEnv ||
    key == harnessRelayUrlEnv || key == harnessAuthTagEnv

/-- The package of a runtime, and the digest of its executable. -/
def RuntimeCatalogEntry.provenance (runtime : RuntimeCatalogEntry) : String × Option String :=
  match runtime.artifact with
  | .localExecutable sha256 => (runtime.id.name, sha256)
  | .package manager name _ => (manager ++ ":" ++ name, none)

/-- The loop over the secrets a runtime requires. -/
def requireSecrets (environment : Environment) :
    List SecretReference → SecretEnvironment → Except LaunchResolutionError SecretEnvironment
  | [], secrets => .ok secrets
  | required :: others, secrets =>
      if required.environmentKey ∈ environment then .error (.secretShadow required.environmentKey)
      else requireSecrets environment others
        (secrets.insert required.environmentKey ⟨required.secretName, none⟩)

variable (agent : AgentSpec)

/-- The launch of an agent in a runtime, with the references to its secrets. -/
def launchOf (runtime : RuntimeCatalogEntry) (context : LocalLaunchContext)
    (secrets : SecretEnvironment) : LaunchSpec where
  launchId := context.launchId
  agentId := agent.id
  role := .acpBridge
  harness := context.harness
  harnessArguments := context.harnessArguments
  runtime :=
    { runtimeId := runtime.id
      executable := ⟨runtime.command, runtime.provenance.1, runtime.version, runtime.provenance.2⟩
      arguments := runtime.arguments
      preflight := runtime.preflight }
  environment := agent.runtime.environment.setDefault harnessKindsEnv defaultHarnessKinds
  secretEnvironment := secrets
  workingDirectory := context.workingDirectory
  workspacePath := context.workspacePath
  runtimePath := context.runtimePath
  processGroupId := context.processGroupId
  restart := context.restart
  health := context.health

/-- A validation inside the resolution of a launch. -/
def checkLaunch (checked : Except ValidationError Unit) : Except LaunchResolutionError Unit :=
  checked.mapError .validation

def fromRuntimeEntry (runtime : RuntimeCatalogEntry)
    (context : LocalLaunchContext) : Except LaunchResolutionError LaunchSpec := do
  checkLaunch (require
    (decide (∀ key ∈ agent.runtime.environment.keys, reservedHarnessEnvironmentKey key = false))
    "runtime.environment" "must not override backend-owned Buzz ACP environment")
  let secrets ← requireSecrets agent.runtime.environment runtime.requiredSecrets ∅
  checkLaunch (launchOf agent runtime context secrets).validate
  return launchOf agent runtime context secrets

def resolveLocal (catalog : RuntimeCatalog) (context : LocalLaunchContext) :
    Except LaunchResolutionError LaunchSpec := do
  checkLaunch agent.validate
  catalog.validate.mapError .catalog
  let runtime ← (catalog.require agent.runtime.runtimeId).mapError .catalog
  fromRuntimeEntry agent runtime context

/-! ### The values the server adds -/

def internalAuthorizationReference : String := "internal:signer-issued-authorization"

def internalAgentKeyReference : String := "internal:custodied-agent-private-key"

def filesystemUserEnv : String := "BUZZ_SERVER_FILESYSTEM_USER"

/-- What the daemon's configuration says about launches. -/
structure LaunchConfig where
  harness : ExecutableIdentity
  harnessArguments : List String
  runtimeCatalog : RuntimeCatalog
  restart : RestartPolicy
  health : HealthPolicy
  signerConditions : String
  /-- The directory of the state database. -/
  stateDirectory : String

def joinPath (base name : String) : String :=
  if base.isEmpty || base.toList.getLast? == some '/' then base ++ name else base ++ "/" ++ name

def agentStateRoot (stateDirectory : String) (id : AgentId) : String :=
  joinPath (joinPath stateDirectory "agents") id.toText

def launchIdOf (id : AgentId) : String := "agent-" ++ id.toText

/-- The context `dynamic_agent_layout` and the configuration give a launch. -/
def launchContext (config : LaunchConfig) (id : AgentId) : LocalLaunchContext where
  launchId := launchIdOf id
  harness := config.harness
  harnessArguments := config.harnessArguments
  workingDirectory := joinPath (agentStateRoot config.stateDirectory id) "workspace"
  workspacePath := joinPath (agentStateRoot config.stateDirectory id) "workspace"
  runtimePath := joinPath (agentStateRoot config.stateDirectory id) "runtime"
  processGroupId := launchIdOf id
  restart := config.restart
  health := config.health

/-- What the signer is asked to authorize. -/
structure AuthorizationInputs where
  ownerPubkey : HexKey
  community : CommunityConfigId
  relayUrl : String
  agentPubkey : HexKey
  conditions : String

/-- The text whose digest is the generation of an authorization. -/
def AuthorizationInputs.render (inputs : AuthorizationInputs) : String :=
  "owner=" ++ inputs.ownerPubkey.hex ++ "|community=" ++ inputs.community.toText ++ "|relay=" ++
    inputs.relayUrl ++ "|agent=" ++ inputs.agentPubkey.hex ++ "|conditions=" ++ inputs.conditions

/-- The agent's private key and the tag the signer issued for it. -/
structure Credentials where
  agentKey : HexKey
  authorization : NulFree

/-- The account a process runs under. A path is given by its text, if it is UTF-8. -/
structure LocalProcessIdentity where
  (uid gid : Nat)
  supplementaryGids : List Nat
  home : Option String

/-- What reconciliation reads before it starts an agent. -/
structure LaunchInputs where
  resolved : ResolvedAgentConfig
  community : CommunityConfig
  config : LaunchConfig
  ownerPubkey : HexKey
  credentials : Credentials
  /-- The Unix account of the agent. -/
  agentUser : String
  identity : LocalProcessIdentity
  /-- The environment of the server's own process. -/
  serverEnvironment : Environment

variable (inputs : LaunchInputs)

def LaunchInputs.authorizationInputs (crypto : Crypto) : AuthorizationInputs where
  ownerPubkey := inputs.ownerPubkey
  community := inputs.community.id
  relayUrl := inputs.community.relayUrl.text
  agentPubkey := crypto.publicKey inputs.credentials.agentKey
  conditions := inputs.config.signerConditions

def respondToText : RespondToMode → String
  | .ownerOnly => "owner-only"
  | .allowlist => "allowlist"
  | .anyone => "anyone"

/-- A value that is inserted if it is there. -/
def insertPresent (environment : Environment) (key : String) : Option String → Environment
  | none => environment
  | some value => environment.insert key value

def setDefaultPresent (environment : Environment) (key : String) : Option String → Environment
  | none => environment
  | some value => environment.setDefault key value

def applyAcpPoolEnvironment (environment : Environment) (parallelism : Nat) : Environment :=
  (environment.insert "BUZZ_ACP_AGENTS" (toString parallelism)).insert "BUZZ_ACP_LAZY_POOL" "true"

/-- A value, unless it is empty. -/
def unlessEmpty (text : String) : Option String :=
  if text.isEmpty then none else some text

/-- The variables of the resolved settings. -/
def resolvedEnvironment (resolved : ResolvedAgentConfig) (environment : Environment) :
    Environment :=
  let environment := environment.insert "BUZZ_ACP_DISPLAY_NAME" resolved.spec.displayName
  let environment := insertPresent environment "BUZZ_ACP_SYSTEM_PROMPT"
    (unlessEmpty resolved.spec.systemPrompt)
  let environment := applyAcpPoolEnvironment environment resolved.parallelism
  let environment := environment.insert "BUZZ_ACP_RESPOND_TO" (respondToText resolved.respondTo)
  let environment := insertPresent environment "BUZZ_ACP_RESPOND_TO_ALLOWLIST"
    (if resolved.respondToAllowlist.isEmpty then none
      else some (",".intercalate resolved.respondToAllowlist))
  let environment := insertPresent environment "BUZZ_ACP_IDLE_TIMEOUT"
    (resolved.idleTimeoutSeconds.map toString)
  let environment := insertPresent environment "BUZZ_ACP_MAX_TURN_DURATION"
    (resolved.maxTurnDurationSeconds.map toString)
  let environment := insertPresent environment "BUZZ_ACP_MODEL" resolved.model
  let environment := setDefaultPresent environment "BUZZ_AGENT_MODEL" resolved.model
  setDefaultPresent environment "BUZZ_AGENT_PROVIDER" resolved.provider

variable (launch : LaunchSpec)

def applyResolvedAgentEnvironment (resolved : ResolvedAgentConfig) : LaunchSpec :=
  { launch with
    environment := resolvedEnvironment resolved launch.environment
    runtime :=
      { launch.runtime with
        arguments :=
          if resolved.agentArgs.isEmpty then launch.runtime.arguments else resolved.agentArgs } }

/-- The relay and the references to the credentials. -/
def insertServerValues : LaunchSpec :=
  { launch with
    environment := launch.environment.insert harnessRelayUrlEnv inputs.community.relayUrl.text
    secretEnvironment :=
      (launch.secretEnvironment.insert harnessPrivateKeyEnv ⟨internalAgentKeyReference,
          some (crypto.secretGeneration inputs.credentials.agentKey.hex)⟩).insert
        harnessAuthTagEnv
        ⟨internalAuthorizationReference,
          some (crypto.secretGeneration (inputs.authorizationInputs crypto).render)⟩ }

/-- The launch with everything the server adds to it. -/
def completeLaunch : LaunchSpec :=
  let launch := applyResolvedAgentEnvironment (insertServerValues crypto inputs launch)
    inputs.resolved
  { launch with environment := launch.environment.insert filesystemUserEnv inputs.agentUser }

/-- The launch `reconcile_dynamic_lifecycle_operation` hands to the reconciler. -/
def dynamicLaunch : Except LaunchResolutionError LaunchSpec := do
  let launch ← resolveLocal inputs.resolved.spec inputs.config.runtimeCatalog
    (launchContext inputs.config inputs.resolved.spec.id)
  checkLaunch (completeLaunch crypto inputs launch).validate
  return completeLaunch crypto inputs launch

/-! ### The start of a launch -/

inductive SupervisorError where
  | invalidSpec (error : ValidationError)
  | secretResolution
  | preflight (reason : String)
  | receiptMismatch
  | io
  | clock
  deriving DecidableEq

/-- The secrets of one start: the credentials, and the server's own environment. -/
structure EnvironmentSecrets where
  authorization : String
  agentPrivateKey : Option String
  server : Environment

def EnvironmentSecrets.resolve (secrets : EnvironmentSecrets) (reference : SecretRef) :
    Except SupervisorError String :=
  if reference.key = internalAuthorizationReference then .ok secrets.authorization
  else if reference.key = internalAgentKeyReference then
    match secrets.agentPrivateKey with
    | some key => .ok key
    | none => .error .secretResolution
  else if validEnvironmentKey reference.key then
    match secrets.server.lookup reference.key with
    | some value => .ok value
    | none => .error .secretResolution
  else .error .secretResolution

def LaunchInputs.secrets : EnvironmentSecrets where
  authorization := inputs.credentials.authorization.text
  agentPrivateKey := some inputs.credentials.agentKey.hex
  server := inputs.serverEnvironment

variable (resolver : SecretRef → Except SupervisorError String)

/-- The value of a secret at the moment of a start, if it can be given to a process. -/
def secretValue (reference : SecretRef) : Option String :=
  match resolver reference with
  | .error _ => none
  | .ok value => if hasNul value then none else some value

/-- The components of a path that are empty or a dot, removed from its end. The characters are
given from the last to the first. -/
def trimTrailing : List Char → List Char
  | '/' :: rest => if rest.isEmpty then ['/'] else trimTrailing rest
  | '.' :: '/' :: rest => if rest.isEmpty then ['/'] else trimTrailing rest
  | characters => characters

/-- The directory of a path, or `none` for the root. -/
def pathParent (path : String) : Option String :=
  let trimmed := trimTrailing path.toList.reverse
  if trimmed = ['/'] || trimmed.isEmpty then none
  else some (String.ofList (trimTrailing (trimmed.dropWhile (· ≠ '/'))).reverse)

def launchMarker : String := "BUZZ_SERVER_LAUNCH_ID"

/-- The settings of the supervisor. -/
structure AdapterConfig where
  logDirectory : String
  (maxReadBytes maxFileBytes stopTimeoutMs : Nat)
  childIdentity : Option (Nat × Nat)
  childHome : Option (Option String)

variable (adapter : AdapterConfig) (launch : LaunchSpec)
  (resolver : SecretRef → Except SupervisorError String) (identity : Option LocalProcessIdentity)

/-- The account an agent's process runs under. -/
def AdapterConfig.identityFor : Option LocalProcessIdentity :=
  identity.or (adapter.childIdentity.map fun (uid, gid) =>
    ⟨uid, gid, [gid], adapter.childHome.getD (some "")⟩)

/-- The home directory of a process without a configured one. -/
def AdapterConfig.defaultHome : String :=
  (((identity.map LocalProcessIdentity.home).or adapter.childHome).bind id).getD launch.runtimePath

/-- The configured environment with the defaults of three variables. -/
def AdapterConfig.withDefaults : Environment :=
  ((launch.environment.setDefault "PATH"
      ((pathParent launch.runtime.executable.path).getD "/usr/bin" ++
        ":/usr/local/bin:/usr/bin:/bin")).setDefault
    "HOME" (adapter.defaultHome launch identity)).setDefault
    "TMPDIR" (launch.runtimePath ++ "/tmp")

def AdapterConfig.resolveEnvironment : Except SupervisorError Environment :=
  match launch.secretEnvironment.collect (secretValue resolver) with
  | none => .error .secretResolution
  | some secrets => do
      let selection ← launch.harnessRuntimeEnvironment.mapError .invalidSpec
      return (selection ∪ (secrets ∪ adapter.withDefaults launch identity)).insert launchMarker
        launch.launchId

def appServerLogsEnv : String := "APP_SERVER_LOGS"

/-- The directory of the runtime's logs: the configured one, or one of this start if it can be
created. -/
def configureAppServerLogs (writable : String → Bool) (root launchId generation : String)
    (environment : Environment) : Environment × AppServerLogsStatus :=
  match environment.lookup appServerLogsEnv with
  | some path => (environment, if writable path then .configured else .unwritable)
  | none =>
      let path := joinPath root (launchId ++ "." ++ generation ++ ".app-server-logs")
      if writable path then (environment.insert appServerLogsEnv path, .configured)
      else (environment, .unwritable)

/-- A process to be started. -/
structure Command where
  program : String
  argv0 : Option String
  arguments : List String
  directory : String
  environment : Environment

/-- The program that runs an executable under an account, with its arguments. -/
def commandForIdentity (executable : String) : Option LocalProcessIdentity → String × List String
  | none => (executable, [])
  | some identity =>
      ("/usr/bin/setpriv",
        ["--reuid", toString identity.uid, "--regid", toString identity.gid, "--groups",
          ",".intercalate (identity.supplementaryGids.map toString), "--", executable])

/-- The probe of a runtime. It runs before the harness, without the agent's credentials. -/
def probeCommand (environment : Environment)
    (identity : Option LocalProcessIdentity) : Option Command :=
  launch.runtime.preflight.map fun probe =>
    { program := (commandForIdentity probe.command identity).1
      argv0 := none
      arguments := (commandForIdentity probe.command identity).2 ++ probe.arguments
      directory := launch.workingDirectory
      environment := (environment.erase harnessPrivateKeyEnv).erase harnessAuthTagEnv }

def markedCommand (harnessPath launchId : String) : String :=
  harnessPath ++ "#" ++ launchMarker ++ "=" ++ launchId

def harnessCommand (environment : Environment)
    (identity : Option LocalProcessIdentity) : Command where
  program := (commandForIdentity launch.harness.path identity).1
  argv0 := if identity.isNone then some (markedCommand launch.harness.path launch.launchId)
    else none
  arguments := (commandForIdentity launch.harness.path identity).2 ++ launch.harnessArguments
  directory := launch.workingDirectory
  environment := environment

/-- What a start asks the host for, up to the first process it creates. -/
structure StartPlan where
  probe : Option Command
  harness : Command
  appServerLogs : AppServerLogsStatus

def AdapterConfig.plan (writable : String → Bool) (generation : String) :
    Except SupervisorError StartPlan := do
  launch.validate.mapError .invalidSpec
  let resolved ← adapter.resolveEnvironment launch resolver identity
  let (environment, status) :=
    configureAppServerLogs writable adapter.logDirectory launch.launchId generation resolved
  return ⟨probeCommand launch environment identity, harnessCommand launch environment identity,
    status⟩

end BuzzServer.Local
