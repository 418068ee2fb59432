/-
This file models the durable contract of local process supervision: what a
launch asks for, the identity it is compared by, the receipt a process leaves,
and the validation of each.

A map is checked entry by entry in the order of its keys, and the first entry
that fails decides the error.
-/

import BuzzServer.Domain.Process
import BuzzServer.Local.Catalog
import BuzzServer.Relational.Layers
import Mathlib.Data.Finset.Max
import Mathlib.Data.String.Basic

namespace BuzzServer.Local

def maxArguments : Nat := 256

def maxEnvironment : Nat := 256

def harnessAgentCommandEnv : String := "BUZZ_ACP_AGENT_COMMAND"

def harnessAgentArgsEnv : String := "BUZZ_ACP_AGENT_ARGS"

def harnessKindsEnv : String := "BUZZ_ACP_KINDS"

def defaultHarnessKinds : String := "9,46010,40007"

def harnessPrivateKeyEnv : String := "BUZZ_PRIVATE_KEY"

def harnessRelayUrlEnv : String := "BUZZ_RELAY_URL"

def harnessAuthTagEnv : String := "BUZZ_AUTH_TAG"

/-! ### Checks -/

def nonempty (field value : String) (max : Nat) : Except ValidationError Unit :=
  require (boundedText value max) field
    ("must contain 1 to " ++ toString max ++ " NUL-free characters")

def absolutePath (field value : String) : Except ValidationError Unit :=
  require (!hasNul value && isAbsolutePath value) field "must be an absolute NUL-free path"

/-- The keys whose check fails. -/
def failing (keys : Finset String) (check : String → Except ValidationError Unit) : Finset String :=
  keys.filter fun key => check key ≠ .ok ()

/-- A loop over the keys of a map, which ends at the first check that fails. -/
def checkEach (keys : Finset String) (check : String → Except ValidationError Unit) :
    Except ValidationError Unit :=
  if some : (failing keys check).Nonempty then check ((failing keys check).min' some) else .ok ()

theorem checkEach_eq_ok {keys : Finset String} {check : String → Except ValidationError Unit} :
    checkEach keys check = .ok () ↔ ∀ key ∈ keys, check key = .ok () := by
  unfold checkEach
  split
  · next some =>
    constructor
    · intro passed
      exact absurd passed (Finset.mem_filter.mp (Finset.min'_mem _ some)).2
    · intro all
      obtain ⟨key, member⟩ := some
      obtain ⟨listed, fails⟩ := Finset.mem_filter.mp member
      exact absurd (all key listed) fails
  · next none =>
    refine ⟨fun _ key listed => ?_, fun _ => rfl⟩
    by_contra fails
    exact none ⟨key, Finset.mem_filter.mpr ⟨listed, fails⟩⟩

/-! ### Executables and policies -/

inductive LocalProcessRole where
  | acpBridge
  | agentRuntime
  deriving DecidableEq

/-- An executable whose package and version can be compared during adoption. -/
structure ExecutableIdentity where
  (path packageId version : String)
  sha256 : Option String
  deriving DecidableEq

def ExecutableIdentity.validate (executable : ExecutableIdentity) :
    Except ValidationError Unit := do
  absolutePath "executable.path" executable.path
  nonempty "executable.package_id" executable.packageId 160
  nonempty "executable.version" executable.version 160
  require (pinnedVersion executable.version) "executable.version"
    "must be an immutable exact version"
  require (executable.sha256.all validSha256) "executable.sha256"
    "must be 64 lowercase hexadecimal characters"

/-- An identifier the server's secret store understands; never the secret itself. -/
structure SecretRef where
  key : String
  version : Option String
  deriving DecidableEq

def SecretRef.validate (reference : SecretRef) : Except ValidationError Unit := do
  nonempty "secret_environment.key" reference.key 256
  require (!reference.key.toList.any isWhitespace && !hasNul reference.key)
    "secret_environment.key" "must not contain whitespace or NUL bytes"
  require (reference.version.all fun value =>
      !value.isEmpty && decide (value.utf8ByteSize ≤ 160))
    "secret_environment.version" "must contain 1 to 160 characters when present"

inductive RestartMode where
  | never
  | onFailure
  | always
  deriving DecidableEq

structure RestartPolicy where
  mode : RestartMode
  (maxAttempts initialBackoffMs maxBackoffMs stableAfterMs : Nat)
  deriving DecidableEq

def RestartPolicy.validate (policy : RestartPolicy) : Except ValidationError Unit := do
  require (decide (policy.initialBackoffMs ≤ policy.maxBackoffMs)) "restart.max_backoff_ms"
    "must be greater than or equal to initial_backoff_ms"
  require (!(policy.mode == .never && policy.maxAttempts != 0)) "restart.max_attempts"
    "must be zero when restart mode is never"

inductive HealthPolicy where
  | process (startupGraceMs : Nat)
  | tcp (host : String) (port startupGraceMs intervalMs timeoutMs : Nat)
  deriving DecidableEq

def HealthPolicy.validate : HealthPolicy → Except ValidationError Unit
  | .process _ => .ok ()
  | .tcp host port _ intervalMs timeoutMs => do
      require (host == "127.0.0.1" || host == "::1" || host == "localhost") "health.host"
        "local process health checks must use a loopback host"
      require (!(port == 0 || intervalMs == 0 || timeoutMs == 0 ||
          decide (timeoutMs > intervalMs))) "health"
        "TCP port and intervals must be non-zero and timeout must not exceed interval"

/-- The child runtime that the supervised harness launches. -/
structure ResolvedRuntime where
  runtimeId : RuntimeId
  executable : ExecutableIdentity
  arguments : List String
  preflight : Option PreflightProbe
  deriving DecidableEq

/-- The check of a list of arguments. -/
def boundedArguments (arguments : List String) : Bool :=
  decide (arguments.length ≤ maxArguments) && arguments.all fun argument => !hasNul argument

def PreflightProbe.validateResolved (probe : PreflightProbe) : Except ValidationError Unit := do
  absolutePath "runtime.preflight.command" probe.command
  require (decide (0 < probe.timeoutSeconds ∧ probe.timeoutSeconds ≤ 300))
    "runtime.preflight.timeout_seconds" "must be between 1 and 300 seconds"
  require (boundedArguments probe.arguments) "runtime.preflight.arguments"
    "must contain at most 256 NUL-free values"

def ResolvedRuntime.validate (runtime : ResolvedRuntime) : Except ValidationError Unit := do
  runtime.executable.validate
  require (boundedArguments runtime.arguments) "runtime.arguments"
    "must contain at most 256 NUL-free values"
  validatePresent PreflightProbe.validateResolved runtime.preflight

/-! ### Launches -/

/-- Secret references by the variable each is given in. -/
abbrev SecretEnvironment : Type := Finmap fun _ : String => SecretRef

/-- The complete desired input to one directly supervised harness. -/
@[ext]
structure LaunchSpec where
  /-- Stable identity for reconciliation, never a process id. -/
  launchId : String
  agentId : AgentId
  role : LocalProcessRole
  harness : ExecutableIdentity
  harnessArguments : List String
  runtime : ResolvedRuntime
  /-- Non-secret values only. Secrets are resolved immediately before the start. -/
  environment : Environment
  secretEnvironment : SecretEnvironment
  (workingDirectory workspacePath runtimePath processGroupId : String)
  restart : RestartPolicy
  health : HealthPolicy

/-- What is persisted of a launch with a process receipt. -/
structure LaunchIdentity where
  role : LocalProcessRole
  harness : ExecutableIdentity
  harnessArguments : List String
  runtime : ResolvedRuntime
  environment : Environment
  secretEnvironment : SecretEnvironment
  (workingDirectory workspacePath runtimePath : String)
  restart : RestartPolicy
  health : HealthPolicy
  deriving DecidableEq

variable (launch : LaunchSpec)

def LaunchSpec.identity : LaunchIdentity where
  role := launch.role
  harness := launch.harness
  harnessArguments := launch.harnessArguments
  runtime := launch.runtime
  environment := launch.environment
  secretEnvironment := launch.secretEnvironment
  workingDirectory := launch.workingDirectory
  workspacePath := launch.workspacePath
  runtimePath := launch.runtimePath
  restart := launch.restart
  health := launch.health

/-- The variables that select the runtime, applied over the configured values. -/
def LaunchSpec.harnessRuntimeEnvironment : Except ValidationError Environment := do
  require (launch.runtime.arguments.all fun argument => !argument.toList.contains ',')
    "runtime.arguments" "Buzz ACP comma-separated agent arguments must not contain commas"
  return ((∅ : Environment).insert harnessAgentCommandEnv launch.runtime.executable.path).insert
    harnessAgentArgsEnv (",".intercalate launch.runtime.arguments)

/-- The check of one configured variable. -/
def LaunchSpec.checkVariable (key : String) : Except ValidationError Unit := do
  require (validEnvironmentKey key && !(launch.environment.lookup key).any hasNul) "environment"
    "contains an invalid name or NUL byte"
  require (decide (key ∉ launch.secretEnvironment)) "secret_environment"
    "must not shadow a non-secret environment entry"

/-- The check of one secret variable. -/
def checkSecret (secrets : SecretEnvironment) (key : String) : Except ValidationError Unit := do
  require (validEnvironmentKey key) "secret_environment"
    "contains an invalid environment variable name"
  validatePresent SecretRef.validate (secrets.lookup key)

def LaunchSpec.validate : Except ValidationError Unit := do
  nonempty "launch_id" launch.launchId 160
  nonempty "process_group_id" launch.processGroupId 160
  require (launch.role == .acpBridge) "role"
    "Local LaunchSpec must directly supervise the ACP bridge"
  launch.harness.validate
  launch.runtime.validate
  absolutePath "working_directory" launch.workingDirectory
  absolutePath "workspace_path" launch.workspacePath
  absolutePath "runtime_path" launch.runtimePath
  require (boundedArguments (launch.harnessArguments ++ launch.runtime.arguments)) "arguments"
    "must contain at most 256 NUL-free values"
  require (decide (launch.environment.keys.card + launch.secretEnvironment.keys.card ≤
    maxEnvironment)) "environment" "must contain at most 256 entries"
  checkEach launch.environment.keys launch.checkVariable
  checkEach launch.secretEnvironment.keys (checkSecret launch.secretEnvironment)
  launch.restart.validate
  launch.health.validate
  launch.harnessRuntimeEnvironment.map fun _ => ()

/-- The check of one configured variable of a persisted launch. -/
def LaunchIdentity.checkVariable (identity : LaunchIdentity) (key : String) :
    Except ValidationError Unit :=
  require (validEnvironmentKey key && !(identity.environment.lookup key).any hasNul &&
    decide (key ∉ identity.secretEnvironment)) "environment"
    "contains an invalid or shadowed value"

def LaunchIdentity.validate (identity : LaunchIdentity) : Except ValidationError Unit := do
  require (identity.role == .acpBridge) "role"
    "launch identity must describe a supervised ACP bridge"
  identity.harness.validate
  identity.runtime.validate
  require (boundedArguments (identity.harnessArguments ++ identity.runtime.arguments)) "arguments"
    "must contain at most 256 NUL-free values"
  absolutePath "working_directory" identity.workingDirectory
  absolutePath "workspace_path" identity.workspacePath
  absolutePath "runtime_path" identity.runtimePath
  checkEach identity.environment.keys identity.checkVariable
  checkEach identity.secretEnvironment.keys (checkSecret identity.secretEnvironment)
  identity.restart.validate
  identity.health.validate

/-! ### Receipts -/

inductive ParentWaitOutcome where
  | exited (code : Int)
  | signaled (signal : Int)

inductive AppServerLogsStatus where
  | unset
  | configured
  | unwritable

/-- Durable evidence of a process, used for later adoption. -/
structure ProcessReceipt where
  launchId : String
  /-- A per-start generation. The launch id remains the adoption key. -/
  generation : Option String
  agentId : AgentId
  processGroupId : String
  desired : LaunchIdentity
  (pid startedAtUnixMs : Nat)
  processStartTicks : Option Nat
  commandPath : Option String
  observedState : ObservedProcessState
  exitCode : Option Int
  waitOutcome : Option ParentWaitOutcome
  (endedAtUnixMs durationMs : Option Nat)
  appServerLogs : AppServerLogsStatus

variable (receipt : ProcessReceipt)

def ProcessReceipt.validate : Except ValidationError Unit := do
  nonempty "launch_id" receipt.launchId 160
  nonempty "process_group_id" receipt.processGroupId 160
  receipt.desired.validate
  require (receipt.pid != 0) "pid" "must be non-zero"
  require (!(receipt.processStartTicks == some 0 || receipt.commandPath.any String.isEmpty))
    "process_identity" "contains an invalid live-process identity"
  require (!(receipt.exitCode.isSome && !receipt.observedState.isTerminal)) "exit_code"
    "may only be present for a terminal process"

def ProcessReceipt.observe (state : ObservedProcessState)
    (exitCode : Option Int) : Except ValidationError ProcessReceipt := do
  require (receipt.observedState.canTransitionTo state) "observed_state"
    "contains an invalid process lifecycle transition"
  require (!(exitCode.isSome && !state.isTerminal)) "exit_code"
    "may only be present for a terminal process"
  return { receipt with observedState := state, exitCode := exitCode }

/-- Whether a durable receipt describes this exact desired launch. -/
def LaunchSpec.canAdopt : Bool :=
  decide (receipt.launchId = launch.launchId) && decide (receipt.agentId = launch.agentId) &&
    decide (receipt.processGroupId = launch.processGroupId) &&
    decide (receipt.desired = launch.identity) && decide (0 < receipt.pid) &&
    !receipt.observedState.isTerminal

/-! ### What validation guarantees -/

/-- The parts of a valid launch that its environment depends on. -/
structure LaunchSpec.Valid (launch : LaunchSpec) : Prop where
  configured : ∀ key ∈ launch.environment, validEnvironmentKey key = true ∧
    key ∉ launch.secretEnvironment
  secrets : ∀ key reference, launch.secretEnvironment.lookup key = some reference →
    validEnvironmentKey key = true ∧ reference.validate = .ok ()
  selection : ∃ selected, launch.harnessRuntimeEnvironment = .ok selected

theorem LaunchSpec.valid_of_validate {launch : LaunchSpec} (valid : launch.validate = .ok ()) :
    launch.Valid := by
  simp only [LaunchSpec.validate, bind_unit_eq_ok] at valid
  obtain ⟨-, -, -, -, -, -, -, -, -, -, configured, secrets, -, -, selection⟩ := valid
  refine ⟨?_, ?_, ?_⟩
  · intro key present
    have checked := checkEach_eq_ok.mp configured key (Finmap.mem_keys.mpr present)
    simp only [LaunchSpec.checkVariable, bind_unit_eq_ok, require_eq_ok, Bool.and_eq_true,
      decide_eq_true_eq] at checked
    exact ⟨checked.1.1, checked.2⟩
  · intro key reference found
    have checked := checkEach_eq_ok.mp secrets key
      (Finmap.mem_keys.mpr (Finmap.mem_of_lookup_eq_some found))
    simp only [checkSecret, bind_unit_eq_ok, require_eq_ok, found] at checked
    exact checked
  · cases selected : launch.harnessRuntimeEnvironment with
    | ok environment => exact ⟨environment, rfl⟩
    | error error =>
      rw [selected] at selection
      cases selection

/-- A valid launch stays valid when its secrets are replaced by others that are valid, under the
same variables. -/
theorem LaunchSpec.validate_withSecrets {launch : LaunchSpec} {secrets : SecretEnvironment}
    (valid : launch.validate = .ok ())
    (sameKeys : secrets.keys = launch.secretEnvironment.keys)
    (sound : ∀ key reference, secrets.lookup key = some reference → reference.validate = .ok ()) :
    { launch with secretEnvironment := secrets }.validate = .ok () := by
  have parts := launch.valid_of_validate valid
  have member : ∀ key, key ∈ secrets ↔ key ∈ launch.secretEnvironment := by
    intro key
    rw [← Finmap.mem_keys, sameKeys, Finmap.mem_keys]
  simp only [LaunchSpec.validate, bind_unit_eq_ok] at valid ⊢
  obtain ⟨id, group, role, harness, runtime, working, workspace, path, arguments, size, configured,
    -, restart, health, selection⟩ := valid
  refine ⟨id, group, role, harness, runtime, working, workspace, path, arguments, ?_, ?_, ?_,
    restart, health, selection⟩
  · rw [sameKeys]
    exact size
  · rw [checkEach_eq_ok] at configured ⊢
    intro key listed
    have checked := configured key listed
    simp only [LaunchSpec.checkVariable, member] at checked ⊢
    exact checked
  · rw [checkEach_eq_ok]
    intro key listed
    obtain ⟨reference, found⟩ := Finmap.mem_iff.mp (Finmap.mem_keys.mp listed)
    obtain ⟨former, present⟩ := Finmap.mem_iff.mp ((member key).mp (Finmap.mem_keys.mp listed))
    simp only [checkSecret, bind_unit_eq_ok, require_eq_ok, found]
    exact ⟨(parts.secrets key former present).1, sound key reference found⟩

end BuzzServer.Local
