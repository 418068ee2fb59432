/-
This file proves what holds of the environment a harness and its preflight probe
are given.

Whatever the persona, the agent's file and the catalog contain, the variables
the server answers for have the server's values. The receipt of a process is
compared with the current launch by references and generations, which determine
the environment up to the values of the secrets a runtime requires and the home
directory of the agent's account; so these two are what an adopted process may
have kept. And the probe does not depend on the agent's credentials, unless the
catalog names one of the internal references under a variable of its own.
-/

import BuzzServer.Local.Environment

namespace BuzzServer.Local

open AdapterConfig AuthorizationInputs Finmap HexKey LaunchSpec SecretRef

/-! ### Successful steps -/

theorem mapError_eq_ok {First Second Result : Type} {outcome : Except First Result}
    {convert : First → Second} {result : Result} :
    outcome.mapError convert = .ok result ↔ outcome = .ok result := by
  cases outcome <;> simp [Except.mapError]

theorem checkLaunch_eq_ok {checked : Except ValidationError Unit} :
    checkLaunch checked = .ok () ↔ checked = .ok () :=
  mapError_eq_ok

variable (inputs : LaunchInputs) (runtime : RuntimeCatalogEntry)

/-- The launch of an agent, before the server completes it. -/
def LaunchInputs.baseLaunch (secrets : SecretEnvironment) : LaunchSpec :=
  launchOf inputs.resolved.spec runtime (launchContext inputs.config inputs.resolved.spec.id)
    secrets

/-- What it takes for a launch to be resolved. -/
structure Resolves (crypto : Crypto) (inputs : LaunchInputs) (launch : LaunchSpec)
    (runtime : RuntimeCatalogEntry) (secrets : SecretEnvironment) : Prop where
  agent : inputs.resolved.spec.validate = .ok ()
  catalog : inputs.config.runtimeCatalog.validate = .ok ()
  found : inputs.config.runtimeCatalog.require inputs.resolved.spec.runtime.runtimeId = .ok runtime
  unreserved : ∀ key ∈ inputs.resolved.spec.runtime.environment,
    reservedHarnessEnvironmentKey key = false
  required : requireSecrets inputs.resolved.spec.runtime.environment runtime.requiredSecrets ∅ =
    .ok secrets
  baseValid : (inputs.baseLaunch runtime secrets).validate = .ok ()
  valid : launch.validate = .ok ()
  complete : launch = completeLaunch crypto inputs (inputs.baseLaunch runtime secrets)

theorem dynamicLaunch_eq_ok {crypto : Crypto} {inputs : LaunchInputs} {launch : LaunchSpec} :
    dynamicLaunch crypto inputs = .ok launch ↔
      ∃ runtime secrets, Resolves crypto inputs launch runtime secrets := by
  simp only [dynamicLaunch, resolveLocal, fromRuntimeEntry, bind_eq_ok, Unique.exists_iff,
    PUnit.default_eq_unit, checkLaunch_eq_ok, mapError_eq_ok, require_eq_ok, decide_eq_true_eq,
    pure, Except.pure, Except.ok.injEq]
  constructor
  · rintro ⟨_, ⟨agent, catalog, runtime, found, unreserved, secrets, required, baseValid, rfl⟩,
      valid, rfl⟩
    exact ⟨runtime, secrets, agent, catalog, found, unreserved, required, baseValid, valid, rfl⟩
  · rintro ⟨runtime, secrets, agent, catalog, found, unreserved, required, baseValid, valid, rfl⟩
    exact ⟨_, ⟨agent, catalog, runtime, found, unreserved, secrets, required, baseValid, rfl⟩,
      valid, rfl⟩

/-! ### The secrets a runtime requires -/

variable {required : List SecretReference} {reference : SecretRef} {key : String}
  {environment : Environment} {before after : SecretEnvironment}

theorem lookup_requireSecrets_of_ne
    (succeeds : requireSecrets environment required before = .ok after)
    (absent : ∀ secret ∈ required, secret.environmentKey ≠ key) :
    after.lookup key = before.lookup key := by
  induction required generalizing before with
  | nil =>
    cases succeeds
    rfl
  | cons secret others inductionHypothesis =>
    rw [requireSecrets] at succeeds
    split at succeeds
    · cases succeeds
    rw [inductionHypothesis succeeds fun other listed =>
      absent other (List.mem_cons_of_mem _ listed)]
    exact lookup_insert_of_ne _ (absent secret List.mem_cons_self).symm

theorem lookup_requireSecrets_of_mem
    {secret : SecretReference} (succeeds : requireSecrets environment required before = .ok after)
    (distinct : (required.map SecretReference.environmentKey).Nodup) (listed : secret ∈ required) :
    after.lookup secret.environmentKey = some ⟨secret.secretName, none⟩ := by
  induction required generalizing before with
  | nil => cases listed
  | cons first others inductionHypothesis =>
    rw [requireSecrets] at succeeds
    split at succeeds
    · cases succeeds
    obtain ⟨apart, distinct⟩ := List.nodup_cons.mp distinct
    rcases List.mem_cons.mp listed with rfl | listed
    · have once : ∀ other ∈ others, other.environmentKey ≠ secret.environmentKey :=
        fun other present same => apart (List.mem_map.mpr ⟨other, present, same⟩)
      rw [lookup_requireSecrets_of_ne succeeds once]
      exact lookup_insert _
    · exact inductionHypothesis succeeds distinct listed

/-! ### The layers of an environment -/

theorem lookup_insertPresent_of_ne (environment : Environment) {key other : String}
    (value : Option String) (different : other ≠ key) :
    (insertPresent environment key value).lookup other = environment.lookup other := by
  cases value with
  | none => rfl
  | some value => exact lookup_insert_of_ne environment different

theorem lookup_setDefaultPresent_of_ne (environment : Environment) {key other : String}
    (value : Option String) (different : other ≠ key) :
    (setDefaultPresent environment key value).lookup other = environment.lookup other := by
  cases value with
  | none => rfl
  | some value => exact lookup_setDefault_of_ne environment value different

variable {writable : String → Bool} {otherAdapter : AdapterConfig}
  {otherIdentity : Option LocalProcessIdentity} {identity : Option LocalProcessIdentity}
  {resolver : SecretRef → Except SupervisorError String} {adapter : AdapterConfig}

section

variable {launch : LaunchSpec}

theorem harnessRuntimeEnvironment_eq {selected : Environment}
    (succeeds : launch.harnessRuntimeEnvironment = .ok selected) :
    selected = ((∅ : Environment).insert harnessAgentCommandEnv
      launch.runtime.executable.path).insert harnessAgentArgsEnv
      (",".intercalate launch.runtime.arguments) := by
  rw [harnessRuntimeEnvironment, bind_unit_eq_ok] at succeeds
  cases succeeds.2
  rfl

/-- Which layer each variable of a started launch comes from. -/
def AdapterConfig.gives (adapter : AdapterConfig) (launch : LaunchSpec)
    (resolver : SecretRef → Except SupervisorError String)
    (identity : Option LocalProcessIdentity) (key : String) : Option String :=
  if key = launchMarker then some launch.launchId
  else if key = harnessAgentArgsEnv then some (",".intercalate launch.runtime.arguments)
  else if key = harnessAgentCommandEnv then some launch.runtime.executable.path
  else match launch.secretEnvironment.lookup key with
    | some reference => secretValue resolver reference
    | none => (adapter.withDefaults launch identity).lookup key

/-- A variable that a start does not set itself. -/
abbrev Unset (key : String) : Prop :=
  key ≠ launchMarker ∧ key ≠ harnessAgentArgsEnv ∧ key ≠ harnessAgentCommandEnv

theorem gives_secret (unset : Unset key)
    (secret : launch.secretEnvironment.lookup key = some reference) :
    adapter.gives launch resolver identity key = secretValue resolver reference := by
  rw [gives, if_neg unset.1, if_neg unset.2.1, if_neg unset.2.2, secret]

theorem gives_plain (unset : Unset key) (plain : launch.secretEnvironment.lookup key = none) :
    adapter.gives launch resolver identity key =
      (adapter.withDefaults launch identity).lookup key := by
  rw [gives, if_neg unset.1, if_neg unset.2.1, if_neg unset.2.2, plain]

/-- Starts that agree on what they set and on a secret or a plain value give it alike. -/
theorem gives_congr {other : LaunchSpec} {otherResolver : SecretRef → Except SupervisorError String}
    (launchIds : launch.launchId = other.launchId)
    (arguments : launch.runtime.arguments = other.runtime.arguments)
    (executables : launch.runtime.executable = other.runtime.executable)
    (secrets : launch.secretEnvironment.lookup key = other.secretEnvironment.lookup key)
    (values : Unset key → ∀ reference, other.secretEnvironment.lookup key = some reference →
      secretValue resolver reference = secretValue otherResolver reference)
    (plain : Unset key → other.secretEnvironment.lookup key = none →
      (adapter.withDefaults launch identity).lookup key =
        (otherAdapter.withDefaults other otherIdentity).lookup key) :
    adapter.gives launch resolver identity key =
      otherAdapter.gives other otherResolver otherIdentity key := by
  by_cases unset : Unset key
  · cases found : other.secretEnvironment.lookup key with
    | some reference =>
      rw [gives_secret unset (secrets.trans found), gives_secret unset found,
        values unset reference found]
    | none =>
      rw [gives_plain unset (secrets.trans found), gives_plain unset found, plain unset found]
  · unfold gives
    rw [launchIds, arguments, executables]
    split
    · rfl
    split
    · rfl
    split
    · rfl
    · next marker arguments command => exact absurd ⟨marker, arguments, command⟩ unset

theorem lookup_resolveEnvironment
    (resolved : adapter.resolveEnvironment launch resolver identity = .ok environment)
    (key : String) : environment.lookup key = adapter.gives launch resolver identity key := by
  unfold resolveEnvironment at resolved
  split at resolved
  · cases resolved
  next secrets collected =>
  obtain ⟨selected, selection, finished⟩ := bind_eq_ok.mp resolved
  cases finished
  rw [harnessRuntimeEnvironment_eq (mapError_eq_ok.mp selection), gives]
  split
  · next marker =>
    subst marker
    exact lookup_insert _
  next unmarked =>
  rw [lookup_insert_of_ne _ unmarked]
  split
  · next arguments =>
    subst arguments
    rw [lookup_union_left (mem_insert.mpr (.inl rfl)), lookup_insert]
  next unlisted =>
  split
  · next command =>
    subst command
    rw [lookup_union_left (mem_insert.mpr (.inr (mem_insert.mpr (.inl rfl)))),
      lookup_insert_of_ne _ unlisted, lookup_insert]
  next unselected =>
  rw [lookup_union_right (by simp [unlisted, unselected, notMem_empty])]
  cases found : launch.secretEnvironment.lookup key with
  | some reference =>
    have secret : key ∈ secrets :=
      (mem_collect collected).mpr (mem_of_lookup_eq_some found)
    rw [lookup_union_left secret, lookup_collect collected, found, Option.bind_some]
  | none =>
    have plain : key ∉ secrets := fun present =>
      lookup_eq_none.mp found ((mem_collect collected).mp present)
    exact lookup_union_right plain

/-- A start resolves its environment if each of its secrets has a value. -/
theorem resolveEnvironment_isOk (valid : launch.Valid)
    (resolvable : ∀ key reference, launch.secretEnvironment.lookup key = some reference →
      (secretValue resolver reference).isSome) :
    ∃ environment, adapter.resolveEnvironment launch resolver identity = .ok environment := by
  obtain ⟨collected, all⟩ := Option.isSome_iff_exists.mp (collect_isSome.mpr resolvable)
  obtain ⟨selected, selection⟩ := valid.selection
  unfold resolveEnvironment
  rw [all, selection]
  exact ⟨_, rfl⟩

theorem secretValue_isSome_of_resolveEnvironment
    (resolved : adapter.resolveEnvironment launch resolver identity = .ok environment)
    (found : launch.secretEnvironment.lookup key = some reference) :
    (secretValue resolver reference).isSome := by
  unfold resolveEnvironment at resolved
  split at resolved
  · cases resolved
  next secrets collected =>
  exact collect_isSome.mp (Option.isSome_iff_exists.mpr ⟨secrets, collected⟩) key reference found

/-- The default of the log directory is the only variable a start adds to its environment. -/
theorem lookup_configureAppServerLogs_of_ne (writable : String → Bool)
    (root launchId generation : String) (environment : Environment)
    (other : key ≠ appServerLogsEnv) :
    (configureAppServerLogs writable root launchId generation environment).1.lookup key =
      environment.lookup key := by
  unfold configureAppServerLogs
  split
  · rfl
  · dsimp only
    split
    · exact lookup_insert_of_ne environment other
    · rfl

theorem configureAppServerLogs_of_mem (writable : String → Bool) (root launchId generation : String)
    (configured : appServerLogsEnv ∈ environment) :
    (configureAppServerLogs writable root launchId generation environment).1 = environment := by
  obtain ⟨path, found⟩ := mem_iff.mp configured
  rw [configureAppServerLogs, found]

/-- What it takes for a start to come to its first process. -/
theorem plan_eq_ok {generation : String} {plan : StartPlan} :
    adapter.plan launch resolver identity writable generation = .ok plan ↔
      launch.validate = .ok () ∧ ∃ environment,
        adapter.resolveEnvironment launch resolver identity = .ok environment ∧ plan =
            ⟨probeCommand launch (configureAppServerLogs writable adapter.logDirectory
                launch.launchId generation environment).1 identity,
              harnessCommand launch (configureAppServerLogs writable adapter.logDirectory
                launch.launchId generation environment).1 identity,
              (configureAppServerLogs writable adapter.logDirectory launch.launchId generation
                environment).2⟩ := by
  rw [AdapterConfig.plan, bind_unit_eq_ok, mapError_eq_ok, bind_eq_ok]
  refine and_congr_right fun _ => exists_congr fun environment => and_congr_right fun _ => ?_
  exact ⟨fun finished => by cases finished; rfl, fun finished => by subst finished; rfl⟩

section

variable {generation key : String} {plan : StartPlan}
  (planned : adapter.plan launch resolver identity writable generation = .ok plan)

include planned

theorem lookup_plan (other : key ≠ appServerLogsEnv) :
    plan.harness.environment.lookup key = adapter.gives launch resolver identity key := by
  obtain ⟨-, resolved, resolution, rfl⟩ := plan_eq_ok.mp planned
  exact (lookup_configureAppServerLogs_of_ne _ _ _ _ _ other).trans
    (lookup_resolveEnvironment resolution key)

/-- A configured value reaches the harness, unless the start sets its variable. -/
theorem lookup_plan_of_configured {value : String}
    (configured : launch.environment.lookup key = some value)
    (unset : Unset key ∧ key ≠ appServerLogsEnv) :
    plan.harness.environment.lookup key = some value := by
  have valid := launch.valid_of_validate (plan_eq_ok.mp planned).1
  rw [lookup_plan planned unset.2, gives_plain unset.1 (lookup_eq_none.mpr
    (valid.configured key (mem_of_lookup_eq_some configured)).2)]
  exact lookup_setDefault_of_some (lookup_setDefault_of_some
    (lookup_setDefault_of_some configured _ _) _ _) _ _

/-- A secret's value reaches the harness, unless the start sets its variable. -/
theorem lookup_plan_of_secret (secret : launch.secretEnvironment.lookup key = some reference)
    (unset : Unset key ∧ key ≠ appServerLogsEnv) :
    plan.harness.environment.lookup key = secretValue resolver reference := by
  rw [lookup_plan planned unset.2, gives_secret unset.1 secret]

/-- The harness is given the marker of its launch. -/
theorem lookup_plan_marker :
    plan.harness.environment.lookup launchMarker = some launch.launchId := by
  rw [lookup_plan planned (by decide), gives, if_pos rfl]

end

end

/-! ### The variables the server answers for -/

/-- The settings a start is given for an agent, by variable. -/
theorem lookup_completeLaunch (crypto : Crypto) (inputs : LaunchInputs) (launch : LaunchSpec) :
    (completeLaunch crypto inputs launch).environment.lookup harnessRelayUrlEnv =
        some inputs.community.relayUrl.text ∧
      (completeLaunch crypto inputs launch).environment.lookup "BUZZ_ACP_RESPOND_TO" =
        some (respondToText inputs.resolved.respondTo) ∧
      (completeLaunch crypto inputs launch).environment.lookup "BUZZ_ACP_AGENTS" =
        some (toString inputs.resolved.parallelism) := by
  unfold completeLaunch applyResolvedAgentEnvironment resolvedEnvironment insertServerValues
    applyAcpPoolEnvironment harnessRelayUrlEnv filesystemUserEnv
  refine ⟨?_, ?_, ?_⟩ <;> simp [lookup_insertPresent_of_ne, lookup_setDefaultPresent_of_ne]

variable (crypto : Crypto) (inputs : LaunchInputs) (launch : LaunchSpec)

/-- A variable that the server does not set has the value of the agent's environment. -/
theorem lookup_completeLaunch_home :
    (completeLaunch crypto inputs launch).environment.lookup "HOME" =
      launch.environment.lookup "HOME" := by
  unfold completeLaunch applyResolvedAgentEnvironment resolvedEnvironment insertServerValues
    applyAcpPoolEnvironment harnessRelayUrlEnv filesystemUserEnv
  simp [lookup_insertPresent_of_ne, lookup_setDefaultPresent_of_ne]

theorem lookup_completeLaunch_privateKey :
    (completeLaunch crypto inputs launch).secretEnvironment.lookup harnessPrivateKeyEnv =
      some ⟨internalAgentKeyReference,
        some (crypto.secretGeneration inputs.credentials.agentKey.hex)⟩ := by
  show (insert harnessAuthTagEnv _ (insert harnessPrivateKeyEnv _ _)).lookup
    harnessPrivateKeyEnv = _
  rw [lookup_insert_of_ne _ (by decide), lookup_insert]

theorem lookup_completeLaunch_authTag :
    (completeLaunch crypto inputs launch).secretEnvironment.lookup harnessAuthTagEnv =
      some ⟨internalAuthorizationReference,
        some (crypto.secretGeneration (inputs.authorizationInputs crypto).render)⟩ :=
  lookup_insert _

theorem lookup_completeLaunch_secret
    (other : key ≠ harnessPrivateKeyEnv ∧ key ≠ harnessAuthTagEnv) :
    (completeLaunch crypto inputs launch).secretEnvironment.lookup key =
      launch.secretEnvironment.lookup key := by
  show (insert harnessAuthTagEnv _ (insert harnessPrivateKeyEnv _ _)).lookup key = _
  rw [lookup_insert_of_ne _ other.2, lookup_insert_of_ne _ other.1]

theorem HexKey.notMem (key : HexKey) {character : Char}
    (other : isAsciiHexDigit character = false) : character ∉ key.hex.toList := by
  have hexadecimal := key.wellFormed
  rw [isHex64, Bool.and_eq_true, List.all_eq_true] at hexadecimal
  intro listed
  rw [hexadecimal.2 character listed] at other
  cases other

theorem HexKey.hasNul_eq_false (key : HexKey) : hasNul key.hex = false := by
  rw [hasNul, List.contains_eq_mem, decide_eq_false_iff_not]
  exact key.notMem (by decide)

/-- The value of the agent's private key. -/
theorem secretValue_agentKey (version : Option String) :
    secretValue inputs.secrets.resolve ⟨internalAgentKeyReference, version⟩ =
      some inputs.credentials.agentKey.hex := by
  exact if_neg (by simp [inputs.credentials.agentKey.hasNul_eq_false])

/-- The value of the issued tag. -/
theorem secretValue_authorization (version : Option String) :
    secretValue inputs.secrets.resolve ⟨internalAuthorizationReference, version⟩ =
      some inputs.credentials.authorization.text := by
  have resolved : inputs.secrets.resolve ⟨internalAuthorizationReference, version⟩ =
      .ok inputs.credentials.authorization.text := rfl
  rw [secretValue, resolved]
  exact if_neg (by simp [inputs.credentials.authorization.wellFormed])

/-- A resolved file keeps its policy and its id. -/
theorem resolve_policy {files : Files} {file : AgentConfigFile} {community : CommunityConfigId}
    {desiredState : DesiredAgentState} {resolved : ResolvedAgentConfig}
    (succeeds : files.resolve file community desiredState = .ok resolved) :
    resolved.spec.id = file.id ∧ resolved.respondTo = file.respondTo ∧
      resolved.parallelism = file.parallelism ∧ resolved.agentArgs = file.agentArgs := by
  rw [Files.resolve, bind_unit_eq_ok, bind_eq_ok] at succeeds
  obtain ⟨-, settings, -, checked⟩ := succeeds
  rw [bind_unit_eq_ok] at checked
  cases checked.2
  exact ⟨rfl, rfl, rfl, rfl⟩

/-- Whatever the agent's file, its persona, the catalog and their secrets contain: a harness that
is started has the agent's key, the issued tag, the community's relay, the resolved runtime and
policy, and the id of its launch. -/
theorem harness_environment_authoritative (crypto : Crypto) (files : Files)
    (file : AgentConfigFile) (desiredState : DesiredAgentState) (inputs : LaunchInputs)
    (adapter : AdapterConfig) (identity : Option LocalProcessIdentity)
    (writable : String → Bool) (generation : String) (launch : LaunchSpec) (plan : StartPlan)
    (resolved : files.resolve file inputs.community.id desiredState = .ok inputs.resolved)
    (launched : dynamicLaunch crypto inputs = .ok launch)
    (planned : adapter.plan launch inputs.secrets.resolve identity writable generation = .ok plan) :
    ∃ runtime, inputs.config.runtimeCatalog.get inputs.resolved.spec.runtime.runtimeId =
        some runtime ∧
      plan.harness.environment.lookup harnessPrivateKeyEnv = some inputs.credentials.agentKey.hex ∧
      plan.harness.environment.lookup harnessAuthTagEnv =
        some inputs.credentials.authorization.text ∧
      plan.harness.environment.lookup harnessRelayUrlEnv =
        some inputs.community.relayUrl.text ∧
      plan.harness.environment.lookup harnessAgentCommandEnv = some runtime.command ∧
      plan.harness.environment.lookup harnessAgentArgsEnv = some (",".intercalate
          (if file.agentArgs.isEmpty then runtime.arguments else file.agentArgs)) ∧
      plan.harness.environment.lookup "BUZZ_ACP_RESPOND_TO" = some (match file.respondTo with
        | .ownerOnly => "owner-only"
        | .allowlist => "allowlist"
        | .anyone => "anyone") ∧
      plan.harness.environment.lookup "BUZZ_ACP_AGENTS" = some (toString file.parallelism) ∧
      plan.harness.environment.lookup launchMarker = some (launchIdOf file.id) := by
  obtain ⟨runtime, secrets, resolves⟩ := dynamicLaunch_eq_ok.mp launched
  obtain ⟨sameId, respondTo, parallelism, agentArgs⟩ := resolve_policy resolved
  obtain ⟨relay, respond, agents⟩ :=
    lookup_completeLaunch crypto inputs (inputs.baseLaunch runtime secrets)
  have complete := resolves.complete
  subst complete
  have listed : inputs.config.runtimeCatalog.get inputs.resolved.spec.runtime.runtimeId =
      some runtime := by
    have found := resolves.found
    unfold RuntimeCatalog.require at found
    split at found <;> cases found
    assumption
  refine ⟨runtime, listed, ?_, ?_, ?_, ?_, ?_, ?_, ?_, ?_⟩
  · rw [lookup_plan_of_secret planned (lookup_completeLaunch_privateKey ..) (by decide),
      secretValue_agentKey]
  · rw [lookup_plan_of_secret planned (lookup_completeLaunch_authTag ..) (by decide),
      secretValue_authorization]
  · exact lookup_plan_of_configured planned relay (by decide)
  · rw [lookup_plan planned (by decide), AdapterConfig.gives]
    rfl
  · rw [lookup_plan planned (by decide), AdapterConfig.gives, ← agentArgs]
    rfl
  · rw [← respondTo]
    exact lookup_plan_of_configured planned respond (by decide)
  · rw [← parallelism]
    exact lookup_plan_of_configured planned agents (by decide)
  · rw [lookup_plan planned (by decide), AdapterConfig.gives, ← sameId]
    rfl

/-! ### An agent that is launched -/

/-- A key of the examples below. -/
def sampleKey : HexKey :=
  ⟨"0000000000000000000000000000000000000000000000000000000000000007", by decide +kernel⟩

def sampleCrypto : Crypto := ⟨fun _ => sampleKey, fun _ => sampleKey⟩

/-- The harness a server is configured with. -/
def sampleHarness : ExecutableIdentity := ⟨"/opt/buzz/bin/buzz-acp", "buzz-acp", "1.2.3", none⟩

/-- A runtime that requires some secrets. -/
def sampleRuntime (required : List SecretReference) : RuntimeCatalogEntry where
  id := ⟨"codex-acp"⟩
  version := "1.2.3"
  artifact := .localExecutable none
  command := "/opt/buzz/bin/codex-acp"
  arguments := ["--stdio"]
  preflight := some ⟨15, "/opt/buzz/bin/codex-acp", ["--version"]⟩
  requiredSecrets := required

/-- A file whose environment tries to set the size of the pool. -/
def sampleFile : AgentConfigFile where
  id := ⟨7⟩
  displayName := "helper"
  personaId := none
  avatarUrl := none
  systemPrompt := none
  systemPromptFile := none
  runtime := some ⟨"codex-acp"⟩
  model := none
  provider := none
  environment := (∅ : Environment).insert "BUZZ_ACP_AGENTS" "32"
  filesystem := ⟨none⟩
  autoJoinOpenChannels := .disabled
  agentArgs := []
  parallelism := 4
  respondTo := .ownerOnly
  respondToAllowlist := []
  idleTimeoutSeconds := none
  maxTurnDurationSeconds := none

def sampleResolved : ResolvedAgentConfig :=
  Files.configOf sampleFile ⟨⟨"codex-acp"⟩, "", none, none, sampleFile.environment⟩
    (Files.specOf sampleFile ⟨⟨"codex-acp"⟩, "", none, none, sampleFile.environment⟩ ⟨1⟩ .enabled)

/-- The inputs of a start, with the server's environment and the agent's account open. -/
def sampleInputs (required : List SecretReference) (server : Environment) (user : String) :
    LaunchInputs where
  resolved := sampleResolved
  community := ⟨⟨1⟩, "Lab",
    ⟨"wss://relay.example:7000/", "wss", some "relay.example", "", none, none, none⟩, none⟩
  config := ⟨sampleHarness, [], ⟨[sampleRuntime required]⟩, ⟨.never, 0, 0, 0, 0⟩, .process 0, "",
    "/var/lib/buzz"⟩
  ownerPubkey := sampleKey
  credentials := ⟨sampleKey, ⟨"[]", by decide⟩⟩
  agentUser := user
  identity := ⟨1001, 2001, [2001], some "/home/buzz"⟩
  serverEnvironment := server

def sampleAdapter : AdapterConfig := ⟨"/var/log/buzz", 1024, 4096, 5000, none, none⟩

/-- A start that comes to its first process. -/
def starts : Bool :=
  match dynamicLaunch sampleCrypto inputs with
  | .error _ => false
  | .ok launch =>
      (sampleAdapter.plan launch inputs.secrets.resolve (some inputs.identity) (fun _ => true)
        "1-0").toOption.isSome

theorem exists_plan_of_starts (started : starts inputs = true) :
    ∃ launch plan, dynamicLaunch sampleCrypto inputs = .ok launch ∧
      sampleAdapter.plan launch inputs.secrets.resolve (some inputs.identity) (fun _ => true)
        "1-0" = .ok plan := by
  unfold starts at started
  split at started
  · cases started
  · next launch launched =>
    cases planned : sampleAdapter.plan launch inputs.secrets.resolve (some inputs.identity)
        (fun _ => true) "1-0" with
    | error error =>
      rw [planned] at started
      cases started
    | ok plan => exact ⟨launch, plan, launched, planned⟩

theorem sampleInputs_runtime (required : List SecretReference) (server : Environment)
    (user : String) :
    (sampleInputs required server user).config.runtimeCatalog.require
        (sampleInputs required server user).resolved.spec.runtime.runtimeId =
      .ok (sampleRuntime required) :=
  rfl

/-- The key of a model provider, as the catalog asks for it. -/
def providerKey : SecretReference := ⟨"OPENAI_API_KEY", "OPENAI_API_KEY"⟩

/-- The inputs of a start of an agent that needs the key, by the value the server has for it and
by the agent's account. -/
def keyedInputs (key user : String) : LaunchInputs :=
  sampleInputs [providerKey] ((∅ : Environment).insert "OPENAI_API_KEY" key) user

theorem keyedInputs_starts : starts (keyedInputs "former" "buzz") = true := by decide +kernel

theorem harness_environment_authoritative_keyed :
    ∃ launch plan, dynamicLaunch sampleCrypto (keyedInputs "former" "buzz") = .ok launch ∧
      sampleAdapter.plan launch (keyedInputs "former" "buzz").secrets.resolve
        (some (keyedInputs "former" "buzz").identity) (fun _ => true) "1-0" = .ok plan ∧
      plan.harness.environment.lookup "BUZZ_RELAY_URL" = some "wss://relay.example:7000/" ∧
      plan.harness.environment.lookup "BUZZ_ACP_RESPOND_TO" = some "owner-only" ∧
      plan.harness.environment.lookup "BUZZ_ACP_AGENTS" = some "4" := by
  obtain ⟨launch, plan, launched, planned⟩ := exists_plan_of_starts _ keyedInputs_starts
  obtain ⟨runtime, -, -, -, relay, -, -, respond, agents, -⟩ :=
    harness_environment_authoritative sampleCrypto ⟨∅, ∅, ∅⟩ sampleFile .enabled
      (keyedInputs "former" "buzz") sampleAdapter _ _ _ launch plan (by decide +kernel) launched
      planned
  exact ⟨launch, plan, launched, planned, relay, respond, agents⟩

/-! ### What a generation determines -/

/-- Two texts that are cut at the first separator. -/
theorem append_cons_inj {Symbol : Type} {separator : Symbol} :
    ∀ {first second firstRest secondRest : List Symbol}, separator ∉ first → separator ∉ second →
      first ++ separator :: firstRest = second ++ separator :: secondRest →
        first = second ∧ firstRest = secondRest
  | [], [], _, _, _, _, same => ⟨rfl, (List.cons.inj same).2⟩
  | [], symbol :: _, _, _, _, absent, same =>
      absurd ((List.cons.inj same).1 ▸ List.mem_cons_self) absent
  | symbol :: _, [], _, _, absent, _, same =>
      absurd ((List.cons.inj same).1 ▸ List.mem_cons_self) absent
  | symbol :: first, _ :: second, _, _, firstAbsent, secondAbsent, same => by
      obtain ⟨head, tail⟩ := List.cons.inj same
      obtain ⟨sameTexts, rests⟩ := append_cons_inj (fun listed => firstAbsent (.tail _ listed))
        (fun listed => secondAbsent (.tail _ listed)) tail
      exact ⟨by rw [head, sameTexts], rests⟩

theorem communityText_notMem_bar (id : CommunityConfigId) : '|' ∉ id.toText.toList := by
  intro listed
  rw [CommunityConfigId.toText, String.toList_append, List.mem_append] at listed
  rcases listed with listed | listed
  · exact absurd listed (by decide)
  · have digits : (toString id.uuid).toList = Nat.toDigits 10 id.uuid := by
      simp [Nat.repr]
    rw [digits] at listed
    exact absurd (Nat.isDigit_of_mem_toDigits (by decide) (by decide) listed) (by decide)

theorem HexKey.ext_hex {first second : HexKey} (same : first.hex = second.hex) :
    first = second := by
  cases first
  cases second
  cases same
  rfl

theorem AuthorizationInputs.toList_render (inputs : AuthorizationInputs) : inputs.render.toList =
      "owner=".toList ++ (inputs.ownerPubkey.hex.toList ++ '|' ::
        ("community=".toList ++ (inputs.community.toText.toList ++ '|' ::
          ("relay=".toList ++ (inputs.relayUrl.toList ++ '|' ::
            ("agent=".toList ++ (inputs.agentPubkey.hex.toList ++ '|' ::
              ("conditions=".toList ++ inputs.conditions.toList)))))))) := by
  simp only [render, String.toList_append, List.append_assoc]
  rfl

/-- The text of a generation determines what was authorized, if the relay is known. -/
theorem AuthorizationInputs.render_injective {first second : AuthorizationInputs}
    (relay : first.relayUrl = second.relayUrl) (same : first.render = second.render) :
    first = second := by
  have texts := congrArg String.toList same
  rw [toList_render, toList_render, relay] at texts
  -- The owner and the community contain no bar; the relay is the same on both sides.
  obtain ⟨owner, texts⟩ := append_cons_inj (first.ownerPubkey.notMem (by decide))
    (second.ownerPubkey.notMem (by decide)) (List.append_cancel_left texts)
  obtain ⟨community, texts⟩ := append_cons_inj (communityText_notMem_bar first.community)
    (communityText_notMem_bar second.community) (List.append_cancel_left texts)
  have agents := (List.cons.inj (List.append_cancel_left (List.append_cancel_left texts))).2
  obtain ⟨agent, texts⟩ := append_cons_inj (first.agentPubkey.notMem (by decide))
    (second.agentPubkey.notMem (by decide)) (List.append_cancel_left agents)
  have conditions := List.append_cancel_left texts
  cases first
  cases second
  rw [mk.injEq]
  exact ⟨ext_hex (String.toList_injective owner),
    CommunityConfigId.toText_injective (String.toList_injective community), relay,
    ext_hex (String.toList_injective agent), String.toList_injective conditions⟩

/-! ### Adoption -/

/-- The variables the server sets over whatever a catalog asks for. -/
def isServerOwned (key : String) : Bool :=
  key == harnessPrivateKeyEnv || key == harnessAuthTagEnv || key == harnessAgentCommandEnv ||
    key == harnessAgentArgsEnv || key == launchMarker

theorem unowned_iff : isServerOwned key = false ↔
    (key ≠ harnessPrivateKeyEnv ∧ key ≠ harnessAuthTagEnv) ∧ Unset key := by
  simp only [isServerOwned, Bool.or_eq_false_iff, beq_eq_false_iff_ne]
  tauto

/-- The environment of a harness, but for the tag, whose inputs are compared instead, and for the
default of its log directory. -/
def comparedEnvironment (environment : Environment) : Environment :=
  if appServerLogsEnv ∈ launch.environment ∨ appServerLogsEnv ∈ launch.secretEnvironment then
    environment.erase harnessAuthTagEnv
  else (environment.erase harnessAuthTagEnv).erase appServerLogsEnv

/-- What a harness was started with. -/
structure HarnessView where
  environment : Environment
  agentKey : HexKey
  authorization : AuthorizationInputs

def harnessView (plan : StartPlan) : HarnessView :=
  ⟨comparedEnvironment launch plan.harness.environment, inputs.credentials.agentKey,
    inputs.authorizationInputs crypto⟩

/-- The value of a secret the runtime requires. -/
def LaunchInputs.secretText (name : String) : Option String :=
  secretValue inputs.secrets.resolve ⟨name, none⟩

/-- The home directory of the agent's account. -/
def LaunchInputs.defaultHome : String :=
  inputs.identity.home.getD (launchContext inputs.config inputs.resolved.spec.id).runtimePath

/-- The home directory is configured, as a value or as a secret of the runtime. -/
def LaunchInputs.HomeConfigured (inputs : LaunchInputs) (runtime : RuntimeCatalogEntry) : Prop :=
  "HOME" ∈ inputs.resolved.spec.runtime.environment ∨
    ∃ required ∈ runtime.requiredSecrets, required.environmentKey = "HOME"

/-- What a start reads that no reference and no generation stands for is the same at two
times. -/
def SameUntracked (before now : LaunchInputs) (runtime : RuntimeCatalogEntry) : Prop :=
  (∀ required ∈ runtime.requiredSecrets, isServerOwned required.environmentKey = false →
      before.secretText required.secretName = now.secretText required.secretName) ∧
    (now.HomeConfigured runtime ∨ before.defaultHome = now.defaultHome)

variable {first second : Environment} {runtime : RuntimeCatalogEntry} {secrets : SecretEnvironment}
  {inputs : LaunchInputs}

section

variable {crypto : Crypto} {launch : LaunchSpec}

theorem lookup_withDefaults_of_ne (plain : key ≠ "PATH" ∧ key ≠ "HOME" ∧ key ≠ "TMPDIR") :
    (adapter.withDefaults launch identity).lookup key = launch.environment.lookup key := by
  unfold AdapterConfig.withDefaults
  rw [lookup_setDefault_of_ne _ _ plain.2.2, lookup_setDefault_of_ne _ _ plain.2.1,
    lookup_setDefault_of_ne _ _ plain.1]

/-- The compared environment is what was resolved, but for the tag. -/
theorem comparedEnvironment_configured {root launchId generation : String}
    (resolution : adapter.resolveEnvironment launch resolver identity = .ok environment) :
    comparedEnvironment launch
        (configureAppServerLogs writable root launchId generation environment).1 =
      environment.erase harnessAuthTagEnv := by
  have logs := lookup_resolveEnvironment resolution appServerLogsEnv
  unfold comparedEnvironment
  split
  · next configured =>
    have present : appServerLogsEnv ∈ environment := by
      rw [← lookup_isSome, logs]
      cases found : launch.secretEnvironment.lookup appServerLogsEnv with
      | some reference =>
        rw [gives_secret (by decide) found]
        exact secretValue_isSome_of_resolveEnvironment resolution found
      | none =>
        rw [gives_plain (by decide) found, lookup_withDefaults_of_ne (by decide),
          lookup_isSome]
        exact configured.resolve_right (lookup_eq_none.mp found)
    rw [configureAppServerLogs_of_mem writable root launchId generation present]
  · next plain =>
    obtain ⟨unset, unshared⟩ := not_or.mp plain
    have absent : environment.lookup appServerLogsEnv = none := by
      rw [logs, gives_plain (by decide) (lookup_eq_none.mpr unshared)]
      exact (lookup_withDefaults_of_ne (by decide)).trans (lookup_eq_none.mpr unset)
    refine ext_lookup fun key => ?_
    by_cases same : key = appServerLogsEnv
    · subst same
      rw [lookup_erase, lookup_erase_ne (by decide), absent]
    by_cases tag : key = harnessAuthTagEnv
    · subst tag
      rw [lookup_erase_ne same, lookup_erase, lookup_erase]
    rw [lookup_erase_ne same, lookup_erase_ne tag, lookup_erase_ne tag,
      lookup_configureAppServerLogs_of_ne _ _ _ _ _ same]

theorem comparedEnvironment_plan {generation : String} {plan : StartPlan}
    (planned : adapter.plan launch resolver identity writable generation = .ok plan) :
    ∃ environment, adapter.resolveEnvironment launch resolver identity = .ok environment ∧
      comparedEnvironment launch plan.harness.environment =
        environment.erase harnessAuthTagEnv := by
  obtain ⟨-, environment, resolution, rfl⟩ := plan_eq_ok.mp planned
  exact ⟨environment, resolution, comparedEnvironment_configured resolution⟩

theorem erase_eq_iff {erased : String} : first.erase erased = second.erase erased ↔
      ∀ key, key ≠ erased → first.lookup key = second.lookup key := by
  constructor
  · intro same key other
    rw [← lookup_erase_ne other, same, lookup_erase_ne other]
  · intro same
    refine ext_lookup fun key => ?_
    by_cases other : key = erased
    · subst other
      rw [lookup_erase, lookup_erase]
    · rw [lookup_erase_ne other, lookup_erase_ne other, same key other]

variable (resolves : Resolves crypto inputs launch runtime secrets)

include resolves

/-- The secrets of a resolved launch under variables of the catalog's own. -/
theorem Resolves.lookup_secret (other : key ≠ harnessPrivateKeyEnv ∧ key ≠ harnessAuthTagEnv)
    (reference : SecretRef) :
    launch.secretEnvironment.lookup key = some reference ↔
      ∃ required ∈ runtime.requiredSecrets, required.environmentKey = key ∧
        reference = ⟨required.secretName, none⟩ := by
  have distinct := RuntimeCatalogEntry.secrets_distinct
    (RuntimeCatalog.require_valid resolves.catalog resolves.found)
  rw [resolves.complete, lookup_completeLaunch_secret _ _ _ other]
  show secrets.lookup key = some reference ↔ _
  constructor
  · intro found
    by_contra none
    have absent : ∀ required ∈ runtime.requiredSecrets, required.environmentKey ≠ key := by
      intro required listed same
      refine none ⟨required, listed, same, ?_⟩
      have value := lookup_requireSecrets_of_mem resolves.required distinct listed
      subst same
      rw [found] at value
      exact Option.some.inj value
    rw [lookup_requireSecrets_of_ne resolves.required absent] at found
    cases found
  · rintro ⟨required, listed, rfl, rfl⟩
    exact lookup_requireSecrets_of_mem resolves.required distinct listed

theorem Resolves.launchId_eq : launch.launchId = launchIdOf inputs.resolved.spec.id := by
  rw [resolves.complete]
  rfl

theorem Resolves.runtimePath_eq :
    launch.runtimePath = (launchContext inputs.config inputs.resolved.spec.id).runtimePath := by
  rw [resolves.complete]
  rfl

theorem Resolves.lookup_home :
    launch.environment.lookup "HOME" = inputs.resolved.spec.runtime.environment.lookup "HOME" := by
  rw [resolves.complete, lookup_completeLaunch_home]
  exact lookup_setDefault_of_ne _ _ (by decide)

omit resolves

theorem lookup_withDefaults_home (identity : LocalProcessIdentity) :
    (adapter.withDefaults launch (some identity)).lookup "HOME" =
      some ((launch.environment.lookup "HOME").getD (identity.home.getD launch.runtimePath)) := by
  unfold AdapterConfig.withDefaults
  rw [lookup_setDefault_of_ne _ _ (by decide), lookup_setDefault_self,
    lookup_setDefault_of_ne _ _ (by decide)]
  rfl

/-- But for the home directory, the defaults depend on the identity of the launch alone. -/
theorem lookup_withDefaults_congr {other : LaunchSpec} (same : launch.identity = other.identity)
    (homeless : key ≠ "HOME") :
    (adapter.withDefaults launch identity).lookup key =
      (otherAdapter.withDefaults other otherIdentity).lookup key := by
  have environments : launch.environment = other.environment :=
    congrArg LaunchIdentity.environment same
  have runtimes : launch.runtime = other.runtime := congrArg LaunchIdentity.runtime same
  have paths : launch.runtimePath = other.runtimePath := congrArg LaunchIdentity.runtimePath same
  unfold AdapterConfig.withDefaults
  rw [environments, runtimes, paths]
  by_cases temporary : key = "TMPDIR"
  · subst temporary
    rw [lookup_setDefault_self, lookup_setDefault_self,
      lookup_setDefault_of_ne _ _ homeless, lookup_setDefault_of_ne _ _ homeless]
  · rw [lookup_setDefault_of_ne _ _ temporary, lookup_setDefault_of_ne _ _ temporary,
      lookup_setDefault_of_ne _ _ homeless, lookup_setDefault_of_ne _ _ homeless]

end

section

variable {crypto : Crypto} {before now : LaunchInputs} {launchBefore launchNow : LaunchSpec}
  {runtimeBefore runtimeNow : RuntimeCatalogEntry} {secretsBefore secretsNow : SecretEnvironment}
  {adapterBefore adapterNow : AdapterConfig} {environmentBefore environmentNow : Environment}

/-- Two launches of one identity are given the same variables, but for the tag, exactly if what
they read besides is the same. -/
theorem environments_agree_iff
    (resolvesBefore : Resolves crypto before launchBefore runtimeBefore secretsBefore)
    (resolvesNow : Resolves crypto now launchNow runtimeNow secretsNow)
    (sameAgent : before.resolved.spec.id = now.resolved.spec.id)
    (sameIdentity : launchBefore.identity = launchNow.identity)
    (sameKey : before.credentials.agentKey = now.credentials.agentKey)
    (resolvedBefore : adapterBefore.resolveEnvironment launchBefore before.secrets.resolve
      (some before.identity) = .ok environmentBefore)
    (resolvedNow : adapterNow.resolveEnvironment launchNow now.secrets.resolve
      (some now.identity) = .ok environmentNow) :
    (∀ key, key ≠ harnessAuthTagEnv → environmentBefore.lookup key = environmentNow.lookup key) ↔
      SameUntracked before now runtimeNow := by
  have sameSecrets : launchBefore.secretEnvironment = launchNow.secretEnvironment :=
    congrArg LaunchIdentity.secretEnvironment sameIdentity
  have sameRuntime : launchBefore.runtime = launchNow.runtime :=
    congrArg LaunchIdentity.runtime sameIdentity
  have sameVariables : launchBefore.environment = launchNow.environment :=
    congrArg LaunchIdentity.environment sameIdentity
  have sameLaunch : launchBefore.launchId = launchNow.launchId := by
    rw [resolvesBefore.launchId_eq, resolvesNow.launchId_eq, sameAgent]
  simp only [lookup_resolveEnvironment resolvedBefore, lookup_resolveEnvironment resolvedNow]
  constructor
  · intro agree
    refine ⟨?_, ?_⟩
    · intro required listed unowned
      obtain ⟨other, unset⟩ := unowned_iff.mp unowned
      have found : launchNow.secretEnvironment.lookup required.environmentKey =
          some ⟨required.secretName, none⟩ :=
        (resolvesNow.lookup_secret other _).mpr ⟨required, listed, rfl, rfl⟩
      have same := agree required.environmentKey other.2
      rwa [gives_secret unset found, gives_secret unset (sameSecrets ▸ found)] at same
    · by_contra differs
      obtain ⟨unconfigured, differs⟩ := not_or.mp differs
      obtain ⟨unset, unshared⟩ := not_or.mp unconfigured
      have plain : launchNow.secretEnvironment.lookup "HOME" = none := by
        cases found : launchNow.secretEnvironment.lookup "HOME" with
        | none => rfl
        | some reference =>
          obtain ⟨required, listed, same, -⟩ :=
            (resolvesNow.lookup_secret (by decide) reference).mp found
          exact absurd ⟨required, listed, same⟩ unshared
      have same := agree "HOME" (by decide)
      rw [gives_plain (by decide) plain, gives_plain (by decide) (sameSecrets ▸ plain),
        lookup_withDefaults_home, lookup_withDefaults_home, sameVariables,
        resolvesNow.lookup_home, lookup_eq_none.mpr unset, resolvesBefore.runtimePath_eq,
        resolvesNow.runtimePath_eq] at same
      exact differs (Option.some.inj same)
  · rintro ⟨values, home⟩ key notTag
    refine gives_congr sameLaunch (by rw [sameRuntime]) (by rw [sameRuntime]) (by rw [sameSecrets])
      (fun unset reference found => ?_) fun unset plain => ?_
    · by_cases notKey : key = harnessPrivateKeyEnv
      · subst notKey
        rw [resolvesNow.complete, lookup_completeLaunch_privateKey] at found
        cases found
        rw [secretValue_agentKey, secretValue_agentKey, sameKey]
      · obtain ⟨required, listed, rfl, rfl⟩ :=
          (resolvesNow.lookup_secret ⟨notKey, notTag⟩ reference).mp found
        exact values required listed (unowned_iff.mpr ⟨⟨notKey, notTag⟩, unset⟩)
    · by_cases homeless : key = "HOME"
      · subst homeless
        rw [lookup_withDefaults_home, lookup_withDefaults_home, sameVariables,
          resolvesNow.lookup_home]
        rcases home with (set | ⟨required, listed, same⟩) | same
        · obtain ⟨value, given⟩ := mem_iff.mp set
          rw [given, Option.getD_some, Option.getD_some]
        · have shared : launchNow.secretEnvironment.lookup "HOME" =
              some ⟨required.secretName, none⟩ :=
            (resolvesNow.lookup_secret (by decide) _).mpr ⟨required, listed, same, rfl⟩
          rw [plain] at shared
          cases shared
        · rw [resolvesBefore.runtimePath_eq, resolvesNow.runtimePath_eq]
          exact congrArg (fun home => some (Option.getD _ home)) same
      · exact lookup_withDefaults_congr sameIdentity homeless

/-- Equal identities stand for the same key and the same authorization, unless digests
collide. -/
theorem credentials_agree
    (resolvesBefore : Resolves crypto before launchBefore runtimeBefore secretsBefore)
    (resolvesNow : Resolves crypto now launchNow runtimeNow secretsNow)
    (sameIdentity : launchBefore.identity = launchNow.identity)
    (keys : crypto.sha256 before.credentials.agentKey.hex =
      crypto.sha256 now.credentials.agentKey.hex →
        before.credentials.agentKey.hex = now.credentials.agentKey.hex)
    (authorizations : crypto.sha256 (before.authorizationInputs crypto).render =
      crypto.sha256 (now.authorizationInputs crypto).render →
        (before.authorizationInputs crypto).render = (now.authorizationInputs crypto).render) :
    before.credentials.agentKey = now.credentials.agentKey ∧
      before.authorizationInputs crypto = now.authorizationInputs crypto := by
  have sameSecrets : launchBefore.secretEnvironment = launchNow.secretEnvironment :=
    congrArg LaunchIdentity.secretEnvironment sameIdentity
  have sameVariables : launchBefore.environment = launchNow.environment :=
    congrArg LaunchIdentity.environment sameIdentity
  have digestOf : ∀ {first second : String},
      crypto.secretGeneration first = crypto.secretGeneration second →
        crypto.sha256 first = crypto.sha256 second := by
    intro first second same
    refine ext_hex (String.toList_injective ?_)
    have texts := congrArg String.toList same
    simp only [Crypto.secretGeneration, String.toList_append] at texts
    exact List.append_cancel_left texts
  refine ⟨ext_hex (keys (digestOf ?_)), ?_⟩
  · have found := congrArg (lookup harnessPrivateKeyEnv) sameSecrets
    rw [resolvesBefore.complete, resolvesNow.complete, lookup_completeLaunch_privateKey,
      lookup_completeLaunch_privateKey] at found
    exact Option.some.inj (congrArg version (Option.some.inj found))
  · refine render_injective ?_ (authorizations (digestOf ?_))
    · have found := congrArg (lookup harnessRelayUrlEnv) sameVariables
      rw [resolvesBefore.complete, resolvesNow.complete, (lookup_completeLaunch ..).1,
        (lookup_completeLaunch ..).1] at found
      exact Option.some.inj found
    · have found := congrArg (lookup harnessAuthTagEnv) sameSecrets
      rw [resolvesBefore.complete, resolvesNow.complete, lookup_completeLaunch_authTag,
        lookup_completeLaunch_authTag] at found
      exact Option.some.inj (congrArg version (Option.some.inj found))

end

/-- The receipt of a launch, as it is stored while the process is taken to be alive. -/
structure IssuedFor (receipt : ProcessReceipt) (launch : LaunchSpec) : Prop where
  launchId : receipt.launchId = launch.launchId
  agentId : receipt.agentId = launch.agentId
  processGroupId : receipt.processGroupId = launch.processGroupId
  desired : receipt.desired = launch.identity
  pid : 0 < receipt.pid
  live : receipt.observedState.isTerminal = false

/-- A live receipt is adopted exactly if the launch it was issued for has the identity of the
current one. -/
theorem canAdopt_iff {crypto : Crypto} {before now : LaunchInputs}
    {launchBefore launchNow : LaunchSpec} {receipt : ProcessReceipt}
    (launchedBefore : dynamicLaunch crypto before = .ok launchBefore)
    (launchedNow : dynamicLaunch crypto now = .ok launchNow)
    (sameAgent : before.resolved.spec.id = now.resolved.spec.id)
    (issued : IssuedFor receipt launchBefore) :
    launchNow.canAdopt receipt = true ↔ launchBefore.identity = launchNow.identity := by
  obtain ⟨runtimeBefore, secretsBefore, resolvesBefore⟩ := dynamicLaunch_eq_ok.mp launchedBefore
  obtain ⟨runtimeNow, secretsNow, resolvesNow⟩ := dynamicLaunch_eq_ok.mp launchedNow
  have sameLaunch : launchBefore.launchId = launchNow.launchId := by
    rw [resolvesBefore.launchId_eq, resolvesNow.launchId_eq, sameAgent]
  have sameId : launchBefore.agentId = launchNow.agentId := by
    rw [resolvesBefore.complete, resolvesNow.complete]
    exact sameAgent
  have sameGroup : launchBefore.processGroupId = launchNow.processGroupId := by
    rw [resolvesBefore.complete, resolvesNow.complete]
    exact congrArg launchIdOf sameAgent
  simp only [canAdopt, issued.launchId, issued.agentId, issued.processGroupId,
    issued.desired, issued.pid, issued.live, sameLaunch, sameId, sameGroup, decide_true,
    Bool.true_and, Bool.not_false, Bool.and_true, decide_eq_true_eq]

/-- A live receipt is refused whenever its process was started with another environment than the
launch would be given now, exactly if equal identities leave nothing open: each secret the
runtime requires has the value it had, and so has the home directory, if it is the default. -/
theorem stale_receipt_refused_iff (crypto : Crypto) (before now : LaunchInputs)
    (launchBefore launchNow : LaunchSpec) (adapterBefore adapterNow : AdapterConfig)
    (writableBefore writableNow : String → Bool) (generationBefore generationNow : String)
    (planBefore planNow : StartPlan) (runtime : RuntimeCatalogEntry) (receipt : ProcessReceipt)
    (sameAgent : before.resolved.spec.id = now.resolved.spec.id)
    (launchedBefore : dynamicLaunch crypto before = .ok launchBefore)
    (launchedNow : dynamicLaunch crypto now = .ok launchNow)
    (startedBefore : adapterBefore.plan launchBefore before.secrets.resolve (some before.identity)
      writableBefore generationBefore = .ok planBefore)
    (startsNow : adapterNow.plan launchNow now.secrets.resolve (some now.identity)
      writableNow generationNow = .ok planNow)
    (listed : now.config.runtimeCatalog.require now.resolved.spec.runtime.runtimeId = .ok runtime)
    (issued : IssuedFor receipt launchBefore)
    (keys : crypto.sha256 before.credentials.agentKey.hex =
      crypto.sha256 now.credentials.agentKey.hex →
        before.credentials.agentKey.hex = now.credentials.agentKey.hex)
    (authorizations : crypto.sha256 (before.authorizationInputs crypto).render =
      crypto.sha256 (now.authorizationInputs crypto).render →
        (before.authorizationInputs crypto).render = (now.authorizationInputs crypto).render) :
    (harnessView crypto before launchBefore planBefore ≠ harnessView crypto now launchNow planNow →
      launchNow.canAdopt receipt = false) ↔
      (launchBefore.identity = launchNow.identity → SameUntracked before now runtime) := by
  have adopts := canAdopt_iff launchedBefore launchedNow sameAgent issued
  obtain ⟨runtimeBefore, secretsBefore, resolvesBefore⟩ := dynamicLaunch_eq_ok.mp launchedBefore
  obtain ⟨runtimeNow, secretsNow, resolvesNow⟩ := dynamicLaunch_eq_ok.mp launchedNow
  obtain ⟨environmentBefore, resolvedBefore, comparedBefore⟩ :=
    comparedEnvironment_plan startedBefore
  obtain ⟨environmentNow, resolvedNow, comparedNow⟩ := comparedEnvironment_plan startsNow
  have same : runtimeNow = runtime := Except.ok.inj (resolvesNow.found.symm.trans listed)
  subst same
  by_cases sameIdentity : launchBefore.identity = launchNow.identity
  · obtain ⟨sameKey, sameAuthorization⟩ :=
      credentials_agree resolvesBefore resolvesNow sameIdentity keys authorizations
    have views : harnessView crypto before launchBefore planBefore =
        harnessView crypto now launchNow planNow ↔ SameUntracked before now runtimeNow := by
      rw [← environments_agree_iff resolvesBefore resolvesNow sameAgent sameIdentity sameKey
        resolvedBefore resolvedNow, ← erase_eq_iff, harnessView, harnessView,
        HarnessView.mk.injEq, comparedBefore, comparedNow]
      simp only [sameKey, sameAuthorization, and_true]
    rw [Ne, views, adopts.mpr sameIdentity]
    simp [sameIdentity]
  · have refused : launchNow.canAdopt receipt = false := by
      rw [Bool.eq_false_iff]
      exact fun adopted => sameIdentity (adopts.mp adopted)
    simp [refused, sameIdentity]

/-- The receipt of a process that was just started. -/
def receiptFor : ProcessReceipt where
  launchId := launch.launchId
  generation := none
  agentId := launch.agentId
  processGroupId := launch.processGroupId
  desired := launch.identity
  pid := 4711
  startedAtUnixMs := 0
  processStartTicks := some 1
  commandPath := none
  observedState := .starting
  exitCode := none
  waitOutcome := none
  endedAtUnixMs := none
  durationMs := none
  appServerLogs := .configured

theorem issuedFor_receiptFor : IssuedFor (receiptFor launch) launch :=
  ⟨rfl, rfl, rfl, rfl, Nat.succ_pos _, rfl⟩

/-- The key was replaced, and the process that has the former one is adopted. -/
theorem rotated_secret_adopted : ∃ launch planBefore planNow,
      dynamicLaunch sampleCrypto (keyedInputs "former" "buzz") = .ok launch ∧
      dynamicLaunch sampleCrypto (keyedInputs "current" "buzz") = .ok launch ∧
      sampleAdapter.plan launch (keyedInputs "former" "buzz").secrets.resolve
        (some (keyedInputs "former" "buzz").identity) (fun _ => true) "1-0" = .ok planBefore ∧
      sampleAdapter.plan launch (keyedInputs "current" "buzz").secrets.resolve
        (some (keyedInputs "current" "buzz").identity) (fun _ => true) "1-0" = .ok planNow ∧
      planBefore.harness.environment.lookup "OPENAI_API_KEY" = some "former" ∧
      planNow.harness.environment.lookup "OPENAI_API_KEY" = some "current" ∧
      launch.canAdopt (receiptFor launch) = true := by
  obtain ⟨launch, planBefore, launchedBefore, plannedBefore⟩ :=
    exists_plan_of_starts _ keyedInputs_starts
  obtain ⟨launchNow, planNow, launchedNow, plannedNow⟩ :=
    exists_plan_of_starts (keyedInputs "current" "buzz") (by decide +kernel)
  have same : launch = launchNow := Except.ok.inj (launchedBefore.symm.trans launchedNow)
  subst same
  obtain ⟨runtime, secrets, resolves⟩ := dynamicLaunch_eq_ok.mp launchedBefore
  have entry : runtime = sampleRuntime [providerKey] :=
    Except.ok.inj (resolves.found.symm.trans (sampleInputs_runtime ..))
  have secret : launch.secretEnvironment.lookup "OPENAI_API_KEY" = some ⟨"OPENAI_API_KEY", none⟩ :=
    (resolves.lookup_secret (by decide) _).mpr ⟨providerKey, by rw [entry]; decide, rfl, rfl⟩
  refine ⟨launch, planBefore, planNow, launchedBefore, launchedNow, plannedBefore, plannedNow,
    ?_, ?_, (canAdopt_iff launchedBefore launchedNow rfl (issuedFor_receiptFor launch)).mpr rfl⟩
  · rw [lookup_plan_of_secret plannedBefore secret (by decide)]
    decide +kernel
  · rw [lookup_plan_of_secret plannedNow secret (by decide)]
    decide +kernel

/-- The agent's account was changed, and the process of the former one is not adopted. -/
theorem stale_receipt_refused_account : ∃ launchBefore launchNow planBefore planNow,
      dynamicLaunch sampleCrypto (keyedInputs "former" "buzz") = .ok launchBefore ∧
      dynamicLaunch sampleCrypto (keyedInputs "former" "other") = .ok launchNow ∧
      (harnessView sampleCrypto (keyedInputs "former" "buzz") launchBefore planBefore ≠
          harnessView sampleCrypto (keyedInputs "former" "other") launchNow planNow →
        launchNow.canAdopt (receiptFor launchBefore) = false) := by
  obtain ⟨launchBefore, planBefore, launchedBefore, plannedBefore⟩ :=
    exists_plan_of_starts _ keyedInputs_starts
  obtain ⟨launchNow, planNow, launchedNow, plannedNow⟩ :=
    exists_plan_of_starts (keyedInputs "former" "other") (by decide +kernel)
  have refused := stale_receipt_refused_iff sampleCrypto (keyedInputs "former" "buzz")
    (keyedInputs "former" "other") launchBefore launchNow sampleAdapter sampleAdapter
    (fun _ => true) (fun _ => true) "1-0" "1-0" planBefore planNow (sampleRuntime [providerKey])
    (receiptFor launchBefore) rfl launchedBefore launchedNow plannedBefore plannedNow
    (sampleInputs_runtime ..) (issuedFor_receiptFor launchBefore) (fun _ => rfl)
    (fun _ => rfl)
  exact ⟨launchBefore, launchNow, planBefore, planNow, launchedBefore, launchedNow,
    refused.mpr fun _ => ⟨fun _ _ _ => rfl, .inr rfl⟩⟩

/-! ### The preflight probe -/

/-- A run that differs from another in the agent's credentials alone. -/
def LaunchInputs.withCredentials (credentials : Credentials) : LaunchInputs :=
  { inputs with credentials := credentials }

/-- A start runs the probe with this command. -/
def Probes (adapter : AdapterConfig) (writable : String → Bool)
    (generation : String) (inputs : LaunchInputs) (command : Command) : Prop :=
  ∃ launch plan, dynamicLaunch crypto inputs = .ok launch ∧
    adapter.plan launch inputs.secrets.resolve (some inputs.identity) writable generation =
      .ok plan ∧ plan.probe = some command

def isInternalReference (name : String) : Bool :=
  name == internalAuthorizationReference || name == internalAgentKeyReference

section

variable {crypto : Crypto} {generation : String} {launch : LaunchSpec} {command : Command}

variable (credentials : Credentials)

/-- A secret that is not one of the credentials does not depend on them. -/
theorem secretValue_withCredentials {name : String} (version : Option String)
    (external : isInternalReference name = false) :
    secretValue (inputs.withCredentials credentials).secrets.resolve ⟨name, version⟩ =
      secretValue inputs.secrets.resolve ⟨name, version⟩ := by
  simp only [isInternalReference, Bool.or_eq_false_iff, beq_eq_false_iff_ne] at external
  have same : (inputs.withCredentials credentials).secrets.resolve ⟨name, version⟩ =
      inputs.secrets.resolve ⟨name, version⟩ := by
    unfold EnvironmentSecrets.resolve
    rw [if_neg external.1, if_neg external.2, if_neg external.1, if_neg external.2]
    rfl
  rw [secretValue, same, secretValue]

theorem secretGeneration_valid (value : String) :
    ∀ key ∈ [internalAgentKeyReference, internalAuthorizationReference],
      SecretRef.validate ⟨key, some (crypto.secretGeneration value)⟩ = .ok () := by
  have digest := (crypto.sha256 value).wellFormed
  rw [isHex64, Bool.and_eq_true, beq_iff_eq] at digest
  have size : (crypto.secretGeneration value).utf8ByteSize = 71 := by
    rw [Crypto.secretGeneration, String.utf8ByteSize_append, digest.1]
    decide
  have nonempty : (crypto.secretGeneration value).isEmpty = false := by
    rfl
  intro key listed
  have named : SecretRef.validate ⟨key, none⟩ = .ok () := by
    revert key
    decide +kernel
  simp only [SecretRef.validate, bind_unit_eq_ok] at named ⊢
  exact ⟨named.1, named.2.1, by simp [size, nonempty]⟩

/-- A configured value is left as it is. -/
theorem lookup_configureAppServerLogs_of_some {value : String}
    (root launchId : String) (found : environment.lookup key = some value) :
    (configureAppServerLogs writable root launchId generation environment).1.lookup key =
      some value := by
  by_cases logs : key = appServerLogsEnv
  · subst logs
    rw [configureAppServerLogs_of_mem _ _ _ _ (mem_of_lookup_eq_some found), found]
  · rw [lookup_configureAppServerLogs_of_ne _ _ _ _ _ logs, found]

/-- Environments that agree on a variable still do once the log directory is set. -/
theorem lookup_configureAppServerLogs_congr (root launchId : String)
    (agree : first.lookup key = second.lookup key) :
    (configureAppServerLogs writable root launchId generation first).1.lookup key =
      (configureAppServerLogs writable root launchId generation second).1.lookup key := by
  by_cases logs : key = appServerLogsEnv
  · subst logs
    cases found : first.lookup appServerLogsEnv with
    | some path =>
      rw [lookup_configureAppServerLogs_of_some root launchId found,
        lookup_configureAppServerLogs_of_some root launchId (agree.symm.trans found)]
    | none =>
      have absent := agree.symm.trans found
      unfold configureAppServerLogs
      rw [found, absent]
      dsimp only
      split
      · rw [lookup_insert, lookup_insert]
      · exact agree
  · rw [lookup_configureAppServerLogs_of_ne _ _ _ _ _ logs,
      lookup_configureAppServerLogs_of_ne _ _ _ _ _ logs, agree]

@[simp] theorem withCredentials_resolved :
    (inputs.withCredentials credentials).resolved = inputs.resolved := rfl

@[simp] theorem withCredentials_baseLaunch :
    (inputs.withCredentials credentials).baseLaunch runtime secrets =
      inputs.baseLaunch runtime secrets := rfl

@[simp] theorem completeLaunch_launchId (base : LaunchSpec) :
    (completeLaunch crypto inputs base).launchId = base.launchId := rfl

@[simp] theorem completeLaunch_executable (base : LaunchSpec) :
    (completeLaunch crypto inputs base).runtime.executable = base.runtime.executable := rfl

@[simp] theorem completeLaunch_arguments (base : LaunchSpec) :
    (completeLaunch crypto inputs base).runtime.arguments =
      if inputs.resolved.agentArgs.isEmpty then base.runtime.arguments
      else inputs.resolved.agentArgs := rfl

@[simp] theorem completeLaunch_preflight (base : LaunchSpec) :
    (completeLaunch crypto inputs base).runtime.preflight = base.runtime.preflight := rfl

@[simp] theorem completeLaunch_runtimePath (base : LaunchSpec) :
    (completeLaunch crypto inputs base).runtimePath = base.runtimePath := rfl

@[simp] theorem completeLaunch_workingDirectory (base : LaunchSpec) :
    (completeLaunch crypto inputs base).workingDirectory = base.workingDirectory := rfl

variable (base : LaunchSpec)

/-- The secrets of a completed launch have the variables of the credentials and those the
catalog gives. -/
theorem mem_completeLaunch_secrets (key : String) :
    key ∈ (completeLaunch crypto inputs base).secretEnvironment ↔
      key = harnessAuthTagEnv ∨ key = harnessPrivateKeyEnv ∨ key ∈ base.secretEnvironment := by
  show key ∈ insert harnessAuthTagEnv _ (insert harnessPrivateKeyEnv _ _) ↔ _
  rw [mem_insert, mem_insert]

theorem completeLaunch_withCredentials_environment :
    (completeLaunch crypto (inputs.withCredentials credentials) base).environment =
      (completeLaunch crypto inputs base).environment := by
  unfold completeLaunch applyResolvedAgentEnvironment
  rfl

theorem completeLaunch_withCredentials :
    completeLaunch crypto (inputs.withCredentials credentials) base =
      { completeLaunch crypto inputs base with
        secretEnvironment :=
          (completeLaunch crypto (inputs.withCredentials credentials) base).secretEnvironment } :=
  LaunchSpec.ext rfl rfl rfl rfl rfl rfl
    (completeLaunch_withCredentials_environment credentials base) rfl rfl rfl rfl rfl rfl rfl

/-- A run of other credentials resolves the same launch, with other generations. -/
theorem Resolves.withCredentials (resolves : Resolves crypto inputs launch runtime secrets)
    (credentials : Credentials) :
    Resolves crypto (inputs.withCredentials credentials)
      (completeLaunch crypto (inputs.withCredentials credentials)
        (inputs.baseLaunch runtime secrets)) runtime secrets := by
  refine ⟨resolves.agent, resolves.catalog, resolves.found, resolves.unreserved,
    resolves.required, resolves.baseValid, ?_, rfl⟩
  have valid := resolves.valid
  rw [resolves.complete] at valid
  have sound : ∀ key reference, (completeLaunch crypto (inputs.withCredentials credentials)
        (inputs.baseLaunch runtime secrets)).secretEnvironment.lookup key = some reference →
          reference.validate = .ok () := by
    intro key reference found
    by_cases tag : key = harnessAuthTagEnv
    · subst tag
      rw [lookup_completeLaunch_authTag] at found
      cases found
      exact secretGeneration_valid _ _ (by simp)
    by_cases privateKey : key = harnessPrivateKeyEnv
    · subst privateKey
      rw [lookup_completeLaunch_privateKey] at found
      cases found
      exact secretGeneration_valid _ _ (by simp)
    rw [lookup_completeLaunch_secret _ _ _ ⟨privateKey, tag⟩] at found
    refine ((valid_of_validate valid).secrets key reference ?_).2
    rw [lookup_completeLaunch_secret _ _ _ ⟨privateKey, tag⟩, found]
  rw [completeLaunch_withCredentials]
  refine validate_withSecrets valid (Finset.ext fun key => ?_) sound
  rw [mem_keys, mem_keys, mem_completeLaunch_secrets, mem_completeLaunch_secrets]

/-- Each secret of a start with other credentials has a value, if it had one before. -/
theorem Resolves.withCredentials_resolvable
    (resolves : Resolves crypto inputs launch runtime secrets)
    (resolution : adapter.resolveEnvironment launch inputs.secrets.resolve identity =
      .ok environment) (credentials : Credentials) (key : String) (reference : SecretRef)
    (found : (completeLaunch crypto (inputs.withCredentials credentials)
      (inputs.baseLaunch runtime secrets)).secretEnvironment.lookup key = some reference) :
    (secretValue (inputs.withCredentials credentials).secrets.resolve reference).isSome := by
  rcases reference with ⟨name, version⟩
  cases internal : isInternalReference name with
  | true =>
    simp only [isInternalReference, Bool.or_eq_true, beq_iff_eq] at internal
    rcases internal with rfl | rfl
    · rw [secretValue_authorization]
      rfl
    · rw [secretValue_agentKey]
      rfl
  | false =>
    rw [secretValue_withCredentials credentials version internal]
    have other : key ≠ harnessPrivateKeyEnv ∧ key ≠ harnessAuthTagEnv := by
      constructor <;> rintro rfl
      · rw [lookup_completeLaunch_privateKey] at found
        cases found
        cases internal
      · rw [lookup_completeLaunch_authTag] at found
        cases found
        cases internal
    rw [lookup_completeLaunch_secret _ _ _ other] at found
    have former : launch.secretEnvironment.lookup key = some ⟨name, version⟩ := by
      rw [resolves.complete, lookup_completeLaunch_secret _ _ _ other, found]
    exact secretValue_isSome_of_resolveEnvironment resolution former

variable (reached : Probes crypto adapter writable generation inputs command)

include reached

/-- If one run comes to the probe, so does a run with other credentials. -/
theorem Probes.withCredentials :
    ∃ other, Probes crypto adapter writable generation (inputs.withCredentials credentials)
      other := by
  obtain ⟨launch, plan, launched, planned, probed⟩ := reached
  obtain ⟨runtime, secrets, resolves⟩ := dynamicLaunch_eq_ok.mp launched
  obtain ⟨-, environment, resolution, rfl⟩ := plan_eq_ok.mp planned
  have again := resolves.withCredentials credentials
  obtain ⟨resolved, resolution⟩ : ∃ resolved, adapter.resolveEnvironment
      (completeLaunch crypto (inputs.withCredentials credentials)
        (inputs.baseLaunch runtime secrets))
      (inputs.withCredentials credentials).secrets.resolve (some inputs.identity) = .ok resolved :=
    resolveEnvironment_isOk (valid_of_validate again.valid)
      (resolves.withCredentials_resolvable resolution credentials)
  obtain ⟨probe, configured, -⟩ := Option.map_eq_some_iff.mp probed
  have kept : (completeLaunch crypto (inputs.withCredentials credentials)
      (inputs.baseLaunch runtime secrets)).runtime.preflight = some probe := by
    rw [resolves.complete, completeLaunch_preflight] at configured
    rw [completeLaunch_preflight, configured]
  exact ⟨_, _, _, dynamicLaunch_eq_ok.mpr ⟨runtime, secrets, again⟩,
    plan_eq_ok.mpr ⟨again.valid, resolved, resolution, rfl⟩,
    Option.map_eq_some_iff.mpr ⟨probe, kept, rfl⟩⟩

/-- A variable of the catalog's own reaches the probe with the value of its secret. -/
theorem Probes.lookup_secret
    (listed : inputs.config.runtimeCatalog.require inputs.resolved.spec.runtime.runtimeId =
      .ok runtime) {required : SecretReference} (member : required ∈ runtime.requiredSecrets)
    (unowned : isServerOwned required.environmentKey = false) :
    command.environment.lookup required.environmentKey = inputs.secretText required.secretName := by
  obtain ⟨launch, plan, launched, planned, probed⟩ := reached
  obtain ⟨found, secrets, resolves⟩ := dynamicLaunch_eq_ok.mp launched
  obtain ⟨-, environment, resolution, rfl⟩ := plan_eq_ok.mp planned
  obtain ⟨probe, -, rfl⟩ := Option.map_eq_some_iff.mp probed
  have same : found = runtime := Except.ok.inj (resolves.found.symm.trans listed)
  subst same
  obtain ⟨other, unset⟩ := unowned_iff.mp unowned
  have secret : launch.secretEnvironment.lookup required.environmentKey =
      some ⟨required.secretName, none⟩ :=
    (resolves.lookup_secret other _).mpr ⟨required, member, rfl, rfl⟩
  obtain ⟨value, known⟩ := Option.isSome_iff_exists.mp
    (secretValue_isSome_of_resolveEnvironment resolution secret)
  have given : environment.lookup required.environmentKey = some value := by
    rw [lookup_resolveEnvironment resolution, gives_secret unset secret]
    exact known
  rw [lookup_erase_ne other.2, lookup_erase_ne other.1,
    lookup_configureAppServerLogs_of_some _ _ given]
  exact known.symm

omit reached

/-- What the server adds to a launch does not concern its probe. -/
theorem probeCommand_completeLaunch (environment : Environment)
    (identity : Option LocalProcessIdentity) :
    probeCommand (completeLaunch crypto inputs base) environment identity =
      probeCommand base environment identity := by
  rw [probeCommand, completeLaunch_preflight, completeLaunch_workingDirectory, probeCommand]

variable {first second : Credentials} {environmentFirst environmentSecond : Environment}

/-- If no variable of the catalog's own holds a credential, the probe's variables do not depend on
them. -/
theorem resolved_agree (resolves : Resolves crypto inputs launch runtime secrets)
    (contained : ∀ required ∈ runtime.requiredSecrets,
      isInternalReference required.secretName = true →
        isServerOwned required.environmentKey = true) (resolvedFirst : adapter.resolveEnvironment
      (completeLaunch crypto (inputs.withCredentials first) (inputs.baseLaunch runtime secrets))
      (inputs.withCredentials first).secrets.resolve (some inputs.identity) =
        .ok environmentFirst) (resolvedSecond : adapter.resolveEnvironment
      (completeLaunch crypto (inputs.withCredentials second) (inputs.baseLaunch runtime secrets))
      (inputs.withCredentials second).secrets.resolve (some inputs.identity) =
        .ok environmentSecond) (other : key ≠ harnessPrivateKeyEnv ∧ key ≠ harnessAuthTagEnv) :
    environmentFirst.lookup key = environmentSecond.lookup key := by
  rw [lookup_resolveEnvironment resolvedFirst, lookup_resolveEnvironment resolvedSecond]
  refine gives_congr (by simp only [completeLaunch_launchId]) (by simp)
    (by simp only [completeLaunch_executable]) ?_ (fun unset reference found => ?_) fun _ _ => ?_
  · rw [lookup_completeLaunch_secret _ _ _ other, lookup_completeLaunch_secret _ _ _ other]
  · rw [lookup_completeLaunch_secret _ _ _ other] at found
    have secret : launch.secretEnvironment.lookup key = some reference := by
      rw [resolves.complete, lookup_completeLaunch_secret _ _ _ other, found]
    obtain ⟨required, listed, rfl, rfl⟩ := (resolves.lookup_secret other reference).mp secret
    have external : isInternalReference required.secretName = false := by
      rw [Bool.eq_false_iff]
      intro internal
      have contained := contained required listed internal
      rw [unowned_iff.mpr ⟨other, unset⟩] at contained
      cases contained
    rw [secretValue_withCredentials first none external,
      secretValue_withCredentials second none external]
  · simp only [AdapterConfig.withDefaults, defaultHome, completeLaunch_executable,
      completeLaunch_runtimePath, completeLaunch_withCredentials_environment]

/-- The probes of two runs are the same process, if the variables they are given agree. -/
theorem probeCommand_congr {base : LaunchSpec} {commandFirst commandSecond : Command}
    (agree : ∀ key, key ≠ harnessPrivateKeyEnv ∧ key ≠ harnessAuthTagEnv →
      environmentFirst.lookup key = environmentSecond.lookup key)
    (probedFirst : probeCommand (completeLaunch crypto (inputs.withCredentials first) base)
      environmentFirst identity = some commandFirst)
    (probedSecond : probeCommand (completeLaunch crypto (inputs.withCredentials second) base)
      environmentSecond identity = some commandSecond) : commandFirst = commandSecond := by
  have erased : (environmentFirst.erase harnessPrivateKeyEnv).erase harnessAuthTagEnv =
      (environmentSecond.erase harnessPrivateKeyEnv).erase harnessAuthTagEnv := by
    refine erase_eq_iff.mpr fun key notTag => ?_
    by_cases notKey : key = harnessPrivateKeyEnv
    · subst notKey
      rw [lookup_erase, lookup_erase]
    · rw [lookup_erase_ne notKey, lookup_erase_ne notKey, agree key ⟨notKey, notTag⟩]
  rw [probeCommand_completeLaunch, probeCommand] at probedFirst probedSecond
  rw [erased, probedSecond] at probedFirst
  exact (Option.some.inj probedFirst).symm

/-- What the probe of a run with other credentials comes from. -/
theorem Probes.resolution (resolves : Resolves crypto inputs launch runtime secrets)
    {credentials : Credentials}
    (reached : Probes crypto adapter writable generation (inputs.withCredentials credentials)
      command) :
    ∃ environment, adapter.resolveEnvironment
        (completeLaunch crypto (inputs.withCredentials credentials)
          (inputs.baseLaunch runtime secrets))
        (inputs.withCredentials credentials).secrets.resolve (some inputs.identity) =
          .ok environment ∧
      probeCommand (completeLaunch crypto (inputs.withCredentials credentials)
          (inputs.baseLaunch runtime secrets))
        (configureAppServerLogs writable adapter.logDirectory
          (inputs.baseLaunch runtime secrets).launchId generation environment).1
        (some inputs.identity) = some command := by
  obtain ⟨launched, plan, dynamic, planned, probed⟩ := reached
  obtain ⟨otherRuntime, otherSecrets, again⟩ := dynamicLaunch_eq_ok.mp dynamic
  have sameRuntime : otherRuntime = runtime := Except.ok.inj (again.found.symm.trans resolves.found)
  subst sameRuntime
  have sameSecrets : otherSecrets = secrets :=
    Except.ok.inj (again.required.symm.trans resolves.required)
  subst sameSecrets
  obtain ⟨-, environment, resolution, rfl⟩ := plan_eq_ok.mp planned
  rw [again.complete] at resolution probed
  refine ⟨environment, resolution, ?_⟩
  exact probed

end

/-- A key other than the given one. -/
def HexKey.another (key : HexKey) : HexKey :=
  if key.hex = "0000000000000000000000000000000000000000000000000000000000000001" then
    ⟨"0000000000000000000000000000000000000000000000000000000000000002", by decide +kernel⟩
  else ⟨"0000000000000000000000000000000000000000000000000000000000000001", by decide +kernel⟩

theorem HexKey.another_ne (key : HexKey) : key.another.hex ≠ key.hex := by
  unfold another
  split
  · next same =>
    rw [same]
    decide
  · next different => exact fun same => different same.symm

/-- A tag other than the given one. -/
def NulFree.another (tag : NulFree) : NulFree :=
  if tag.text = "[]" then ⟨"[\"auth\"]", by decide⟩ else ⟨"[]", by decide⟩

theorem NulFree.another_ne (tag : NulFree) : tag.another.text ≠ tag.text := by
  unfold NulFree.another
  split
  · next same =>
    rw [same]
    decide
  · next different => exact fun same => different same.symm

/-- The command, arguments, directory and environment of the probe are the same in all runs that
differ in the agent's private key and the issued tag alone, exactly if the catalog names the
references of the credentials, if at all, under variables that the server sets itself. -/
theorem probe_independent_iff (crypto : Crypto) (adapter : AdapterConfig)
    (writable : String → Bool) (generation : String) (inputs : LaunchInputs) (command : Command)
    (runtime : RuntimeCatalogEntry)
    (reached : Probes crypto adapter writable generation inputs command)
    (listed : inputs.config.runtimeCatalog.require inputs.resolved.spec.runtime.runtimeId =
      .ok runtime) :
    (∀ first second commandFirst commandSecond,
        Probes crypto adapter writable generation (inputs.withCredentials first) commandFirst →
        Probes crypto adapter writable generation (inputs.withCredentials second) commandSecond →
          commandFirst = commandSecond) ↔
      ∀ required ∈ runtime.requiredSecrets, isInternalReference required.secretName = true →
        isServerOwned required.environmentKey = true := by
  constructor
  · intro independent required member internal
    by_contra owned
    rw [Bool.not_eq_true] at owned
    have differs : ∀ credentials, (inputs.withCredentials credentials).secretText
        required.secretName = inputs.secretText required.secretName := by
      intro credentials
      obtain ⟨other, reachedOther⟩ := reached.withCredentials credentials
      have same := independent inputs.credentials credentials command other reached reachedOther
      rw [← reached.lookup_secret listed member owned, same]
      exact (reachedOther.lookup_secret listed member owned).symm
    have changed := differs
      ⟨inputs.credentials.agentKey.another, inputs.credentials.authorization.another⟩
    simp only [isInternalReference, Bool.or_eq_true, beq_iff_eq] at internal
    rcases internal with named | named
    · rw [named, LaunchInputs.secretText, LaunchInputs.secretText, secretValue_authorization,
        secretValue_authorization] at changed
      exact NulFree.another_ne _ (Option.some.inj changed)
    · rw [named, LaunchInputs.secretText, LaunchInputs.secretText, secretValue_agentKey,
        secretValue_agentKey] at changed
      exact HexKey.another_ne _ (Option.some.inj changed)
  · intro contained first second commandFirst commandSecond reachedFirst reachedSecond
    obtain ⟨launch, plan, launched, -, -⟩ := reached
    obtain ⟨found, secrets, resolves⟩ := dynamicLaunch_eq_ok.mp launched
    have same : found = runtime := Except.ok.inj (resolves.found.symm.trans listed)
    subst same
    obtain ⟨environmentFirst, resolvedFirst, probedFirst⟩ := reachedFirst.resolution resolves
    obtain ⟨environmentSecond, resolvedSecond, probedSecond⟩ := reachedSecond.resolution resolves
    refine probeCommand_congr (fun key other => ?_) probedFirst probedSecond
    exact lookup_configureAppServerLogs_congr _ _
      (resolved_agree resolves contained resolvedFirst resolvedSecond other)

theorem probes_of_starts {server : Environment} {user : String}
    (started : starts (sampleInputs required server user) = true) :
    ∃ command, Probes sampleCrypto sampleAdapter (fun _ => true) "1-0"
      (sampleInputs required server user) command := by
  obtain ⟨launch, plan, launched, planned⟩ := exists_plan_of_starts _ started
  obtain ⟨runtime, secrets, resolves⟩ := dynamicLaunch_eq_ok.mp launched
  obtain ⟨-, environment, -, rfl⟩ := plan_eq_ok.mp planned
  have entry : runtime = sampleRuntime required :=
    Except.ok.inj (resolves.found.symm.trans (sampleInputs_runtime required server user))
  have preflight : launch.runtime.preflight =
      some ⟨15, "/opt/buzz/bin/codex-acp", ["--version"]⟩ := by
    rw [resolves.complete]
    rw [entry]
    rfl
  exact ⟨_, launch, _, launched, planned, Option.map_eq_some_iff.mpr ⟨_, preflight, rfl⟩⟩

/-- A catalog that asks for the agent's key under a variable of its own. -/
def borrowedKey : SecretReference := ⟨"SIGNING_KEY", internalAgentKeyReference⟩

theorem borrowedKey_reaches_probe {credentials : Credentials} {command : Command}
    (reached : Probes sampleCrypto sampleAdapter (fun _ => true) "1-0"
      ((sampleInputs [borrowedKey] ∅ "buzz").withCredentials credentials) command) :
    command.environment.lookup "SIGNING_KEY" = some credentials.agentKey.hex :=
  (reached.lookup_secret (sampleInputs_runtime [borrowedKey] ∅ "buzz") List.mem_cons_self
    (by decide)).trans (secretValue_agentKey _ none)

/-- The catalog is accepted, and the probe is given the agent's private key. -/
theorem probe_receives_key :
    (sampleInputs [borrowedKey] ∅ "buzz").config.runtimeCatalog.validate = .ok () ∧
      ∃ first second, ∃ commandFirst commandSecond,
        Probes sampleCrypto sampleAdapter (fun _ => true) "1-0"
          ((sampleInputs [borrowedKey] ∅ "buzz").withCredentials first) commandFirst ∧
        Probes sampleCrypto sampleAdapter (fun _ => true) "1-0"
          ((sampleInputs [borrowedKey] ∅ "buzz").withCredentials second) commandSecond ∧
        commandFirst.environment.lookup "SIGNING_KEY" = some first.agentKey.hex ∧
        commandSecond.environment.lookup "SIGNING_KEY" = some second.agentKey.hex ∧
        first.agentKey.hex ≠ second.agentKey.hex := by
  obtain ⟨command, reached⟩ : ∃ command, Probes sampleCrypto sampleAdapter (fun _ => true) "1-0"
      (sampleInputs [borrowedKey] ∅ "buzz") command := probes_of_starts (by decide +kernel)
  refine ⟨by decide +kernel, ⟨sampleKey, ⟨"[]", by decide⟩⟩,
    ⟨sampleKey.another, ⟨"[]", by decide⟩⟩, ?_⟩
  obtain ⟨commandFirst, reachedFirst⟩ := reached.withCredentials ⟨sampleKey, ⟨"[]", by decide⟩⟩
  obtain ⟨commandSecond, reachedSecond⟩ :=
    reached.withCredentials ⟨sampleKey.another, ⟨"[]", by decide⟩⟩
  exact ⟨commandFirst, commandSecond, reachedFirst, reachedSecond,
    borrowedKey_reaches_probe reachedFirst, borrowedKey_reaches_probe reachedSecond,
    sampleKey.another_ne.symm⟩

/-- The probe of an agent that needs a provider's key does not depend on its credentials. -/
theorem probe_independent_keyed : ∃ command, Probes sampleCrypto sampleAdapter (fun _ => true) "1-0"
        (keyedInputs "former" "buzz") command ∧
      ∀ first second commandFirst commandSecond,
        Probes sampleCrypto sampleAdapter (fun _ => true) "1-0"
          ((keyedInputs "former" "buzz").withCredentials first) commandFirst →
        Probes sampleCrypto sampleAdapter (fun _ => true) "1-0"
          ((keyedInputs "former" "buzz").withCredentials second) commandSecond →
          commandFirst = commandSecond := by
  obtain ⟨command, reached⟩ := probes_of_starts keyedInputs_starts
  refine ⟨command, reached, (probe_independent_iff sampleCrypto sampleAdapter (fun _ => true) "1-0"
    (keyedInputs "former" "buzz") command (sampleRuntime [providerKey]) reached
    (sampleInputs_runtime ..)).mpr ?_⟩
  decide +kernel

end BuzzServer.Local
