/-
This file compares the rules for prompts. A persona, an agent's file and a spec
are each checked by rules of their own. A persona may have a blank prompt and a
file may not, so no agent can be created from such a persona. A prompt file may
hold a NUL and a file may not, so no file can be restored from such a spec.
-/

import BuzzServer.AgentFiles
import Mathlib.Data.List.DropRight

namespace BuzzServer

open AgentConfigFile Files Relational

/-! ### Trimmed texts -/

theorem toList_trim (text : String) :
    (trim text).toList = (text.toList.dropWhile isWhitespace).rdropWhile isWhitespace :=
  String.toList_ofList

theorem length_trim_le (text : String) : (trim text).length ≤ text.length := by
  rw [← String.length_toList, toList_trim]
  exact (List.rdropWhile_prefix _ _).length_le.trans (List.dropWhile_suffix _).length_le

/-- The first character a trimmed text keeps is no blank. -/
theorem trim_trim (text : String) : trim (trim text) = trim text := by
  apply String.toList_inj.mp
  rw [toList_trim, toList_trim]
  set rest := text.toList.dropWhile isWhitespace with dropped
  have front : (rest.rdropWhile isWhitespace).dropWhile isWhitespace =
      rest.rdropWhile isWhitespace := by
    have start := List.dropWhile_idempotent isWhitespace text.toList
    rw [List.dropWhile_eq_self_iff] at start
    rw [List.dropWhile_eq_self_iff]
    intro nonempty
    have begins := List.rdropWhile_prefix isWhitespace rest
    rw [begins.getElem nonempty]
    exact start (nonempty.trans_le begins.length_le)
  rw [front, List.rdropWhile_idempotent]

/-! ### Creating from a persona -/

variable {files : Files}

section

variable {persona : PersonaDefinition} {input : CreateAgentInput}

theorem loadPersona_of_valid (valid : persona.validate = .ok ())
    (stored : files.personas.lookup persona.id = some (.definition persona)) :
    files.loadPersona persona.id = .ok persona := by
  have accepted := valid
  simp only [PersonaDefinition.validate, validateIdentifier, validateNonempty, bind_unit_eq_ok,
    require_eq_ok] at accepted
  obtain ⟨⟨⟨nonempty, -⟩, characters⟩, -⟩ := accepted
  have named : persona.id.isEmpty = false := by
    cases empty : persona.id.isEmpty with
    | false => rfl
    | true =>
      rw [String.isEmpty_iff.mp empty] at nonempty
      cases nonempty
  simp [loadPersona, named, characters, stored, valid]
  rfl

/-- The defaults of a new agent pass where the persona leaves a setting open. -/
theorem validateBehavior_minted {parallelism : Option Nat} {mode : Option RespondToMode}
    {allowlist : List String} (valid : validateBehavior parallelism mode allowlist = .ok ()) :
    validateBehavior (some (parallelism.getD defaultAgentParallelism))
      (some (mode.getD .ownerOnly)) allowlist = .ok () := by
  simp only [validateBehavior, bind_unit_eq_ok] at valid ⊢
  obtain ⟨parallel, listed, keys⟩ := valid
  refine ⟨?_, ?_, keys⟩
  · cases parallelism with
    | none => rfl
    | some value => exact parallel
  · cases mode with
    | none => rfl
    | some value => exact listed

/-- An agent is created from an accepted persona, and resolved, exactly if the persona's prompt
is not blank. -/
theorem create_resolves_iff (valid : persona.validate = .ok ())
    (stored : files.personas.lookup persona.id = some (.definition persona))
    (accepted : input.validate = .ok ()) (selects : input.personaId = some persona.id)
    (runtime : (input.runtimeId.or persona.runtime).isSome = true)
    (user : (FilesystemConfig.mk input.filesystemUser).validate = .ok ()) (id : AgentId)
    (community : CommunityConfigId) (desiredState : DesiredAgentState) :
    (∃ file resolved, files.buildCreateFile id input = .ok file ∧
        files.resolve file community desiredState = .ok resolved) ↔
      trim persona.systemPrompt ≠ "" := by
  have loaded := loadPersona_of_valid valid stored
  obtain ⟨runtimeId, chosen⟩ := Option.isSome_iff_exists.mp runtime
  simp only [PersonaDefinition.validate, validateIdentifier, validateNonempty, validateEnvironment,
    boundedPrompt, bind_unit_eq_ok, require_eq_ok, Bool.and_eq_true, decide_eq_true_eq] at valid
  obtain ⟨identifier, -, ⟨bounded, clean⟩, environment, behavior⟩ := valid
  simp only [CreateAgentInput.validate, validateToken, bind_unit_eq_ok, require_eq_ok, selects,
    Option.isSome_some, Bool.true_and, Bool.not_eq_true', Option.isSome_eq_false_iff,
    Option.isNone_iff_eq_none, decide_eq_true_eq] at accepted
  obtain ⟨⟨display, short⟩, -, -, -, noFile, -⟩ := accepted
  obtain ⟨minted, mints, snapshot, behaves⟩ : ∃ minted, files.mintedSettings input = .ok minted ∧
      minted.promptSnapshot = some persona.systemPrompt ∧ validateBehavior
        (some minted.parallelism) (some minted.respondTo) minted.respondToAllowlist = .ok () := by
    rw [mintedSettings, selects]
    dsimp only
    rw [loaded]
    exact ⟨_, rfl, rfl, validateBehavior_minted behavior⟩
  have builds : files.buildCreateFile id input = (checkFile (createdFile id input minted).validate
      >>= fun _ => pure (createdFile id input minted)) := by
    simp only [buildCreateFile, mints, bind, Except.bind]
  have checked : (createdFile id input minted).validate = .ok () ↔
      trim persona.systemPrompt ≠ "" := by
    simp [AgentConfigFile.validate, validatePrompt, validatePromptFile, createdFile, snapshot,
      selects, noFile, validateIdentifier, validateNonempty, bind_unit_eq_ok, identifier, user,
      behaves, display, (length_trim_le _).trans short, (length_trim_le _).trans bounded,
      boundedPrompt, bounded, validateEnvironment, hasInvalidKey, validateAgentArgs]
    exact fun _ => by simpa using clean
  have settles : files.effectiveSettings (createdFile id input minted) = .ok ⟨runtimeId,
      trim persona.systemPrompt, nonblank persona.model, nonblank persona.provider,
      ∅ ∪ persona.environment⟩ := by
    rw [effectiveSettings, createdFile, selects]
    dsimp only
    rw [loaded]
    dsimp only [bind, Except.bind]
    rw [chosen]
    rfl
  constructor
  · rintro ⟨file, resolved, built, -⟩
    rw [builds, bind_unit_eq_ok] at built
    exact checked.mp (checkFile_eq_ok.mp built.1)
  · intro prompt
    have passes := checkFile_eq_ok.mpr (checked.mpr prompt)
    have spec : (specOf (createdFile id input minted) ⟨runtimeId, trim persona.systemPrompt,
        nonblank persona.model, nonblank persona.provider, ∅ ∪ persona.environment⟩ community
        desiredState).validate = .ok () := by
      simp [AgentSpec.validate, specOf, createdFile, validateNonempty, bind_unit_eq_ok, display,
        (length_trim_le _).trans short, trim_trim, prompt, (length_trim_le _).trans bounded,
        RuntimeSpec.validate, environment]
    exact ⟨_, _, builds.trans (bind_unit_eq_ok.mpr ⟨passes, rfl⟩),
      resolve_eq_ok.mpr ⟨checked.mpr prompt, _, settles, spec, rfl⟩⟩

end

def plainPersona (id prompt : String) : PersonaDefinition :=
  ⟨id, "Reviewer", none, prompt, some ⟨"goose"⟩, none, none, ∅, none, [], none⟩

/-- The files next to one persona. -/
def besidePersona (persona : PersonaDefinition) : Files :=
  ⟨∅, (∅ : Table String PersonaText).insert persona.id (.definition persona), ∅⟩

def reviewerInput : CreateAgentInput := ⟨⟨1⟩, "Ada", some "ops", none, none, none, none⟩

theorem create_resolves_iff_prompted : ∃ file resolved,
    (besidePersona (plainPersona "ops" "Help.")).buildCreateFile ⟨2⟩ reviewerInput = .ok file ∧
      (besidePersona (plainPersona "ops" "Help.")).resolve file ⟨1⟩ .enabled = .ok resolved := by
  have valid : (plainPersona "ops" "Help.").validate = .ok () := by decide +kernel
  refine (create_resolves_iff valid rfl ?_ rfl rfl rfl ⟨2⟩ ⟨1⟩ .enabled).mpr ?_
  · decide +kernel
  · decide +kernel

theorem create_blank_prompt : (plainPersona "ops" "").validate = .ok () ∧
    reviewerInput.validate = .ok () ∧
      (besidePersona (plainPersona "ops" "")).buildCreateFile ⟨2⟩ reviewerInput =
        .error (.validation ⟨"system_prompt", "must not be empty"⟩) := by
  decide +kernel

/-! ### Restoring a file -/

/-- The agent's file is written from its spec if there is none. -/
def Files.ensureAgentFile (files : Files) (spec : AgentSpec) : Except AgentFileError Files :=
  if files.agentExists spec.id then .ok files
  else do
    checkFile spec.defaultFile.validate
    return files.withAgent spec.defaultFile

section

variable {file : AgentConfigFile} {community : CommunityConfigId} {desiredState : DesiredAgentState}

/-- Wherever a prompt comes from, it is trimmed. -/
theorem effectiveSettings_trimmed {settings : EffectiveSettings}
    (settles : files.effectiveSettings file = .ok settings) :
    trim settings.systemPrompt = settings.systemPrompt := by
  unfold effectiveSettings at settles
  split at settles
  · obtain ⟨persona, -, chosen⟩ := bind_eq_ok.mp settles
    split at chosen <;> cases chosen
    exact trim_trim _
  split at settles
  · cases settles
  obtain ⟨prompt, found, chosen⟩ := bind_eq_ok.mp settles
  cases chosen
  unfold resolveSystemPrompt at found
  split at found
  · next inline =>
    cases found
    obtain ⟨given, -⟩ := Option.filter_eq_some_iff.mp inline
    obtain ⟨text, -, rfl⟩ := Option.map_eq_some_iff.mp given
    exact trim_trim text
  split at found
  · cases found
    rfl
  unfold readPromptFile at found
  split at found <;> cases found
  exact trim_trim _

/-- A spec whose file is missing is resolved from a restored file exactly if its prompt holds no
NUL. -/
theorem restore_resolves_iff {resolved : ResolvedAgentConfig}
    (given : files.resolve file community desiredState = .ok resolved) {later : Files}
    (missing : later.agentExists resolved.spec.id = false) :
    (∃ written loaded again, later.ensureAgentFile resolved.spec = .ok written ∧
        written.loadAgent resolved.spec.id = .ok loaded ∧
          written.resolve loaded community desiredState = .ok again ∧ again.spec = resolved.spec) ↔
      '\x00' ∉ resolved.spec.systemPrompt.toList := by
  have valid := resolve_valid given
  have trimmed : trim resolved.spec.systemPrompt = resolved.spec.systemPrompt := by
    obtain ⟨-, settings, settles, -, rfl⟩ := resolve_eq_ok.mp given
    exact effectiveSettings_trimmed settles
  obtain ⟨-, rfl, rfl⟩ := resolve_spec given
  clear given
  generalize resolved.spec = spec at *
  have checked : spec.defaultFile.validate = .ok () ↔ '\x00' ∉ spec.systemPrompt.toList := by
    by_cases empty : spec.systemPrompt = "" <;>
      simp_all [AgentSpec.validate, RuntimeSpec.validate, AgentConfigFile.validate, validatePrompt,
        validatePromptFile, AgentSpec.defaultFile, bind_unit_eq_ok, validateNonempty,
        boundedPrompt, validateEnvironment, FilesystemConfig.validate, validateAgentArgs,
        validateBehavior, defaultAgentParallelism]
  have settles : (later.withAgent spec.defaultFile).effectiveSettings spec.defaultFile = .ok
      ⟨spec.runtime.runtimeId, spec.systemPrompt, none, none, spec.runtime.environment⟩ := by
    have prompts : (later.withAgent spec.defaultFile).resolveSystemPrompt spec.defaultFile =
        .ok spec.systemPrompt := by
      by_cases empty : spec.systemPrompt = "" <;>
        simp [resolveSystemPrompt, AgentSpec.defaultFile, nonblank, empty, trimmed, Option.filter]
    exact bind_eq_ok.mpr ⟨_, prompts, rfl⟩
  have ensures : later.ensureAgentFile spec = (checkFile spec.defaultFile.validate
      >>= fun _ => pure (later.withAgent spec.defaultFile)) := by
    rw [ensureAgentFile, if_neg (by simp [missing])]
  constructor
  · rintro ⟨written, _, _, ensured, -⟩
    rw [ensures, bind_unit_eq_ok] at ensured
    exact checked.mp (checkFile_eq_ok.mp ensured.1)
  · intro clean
    have passes := checked.mpr clean
    refine ⟨_, spec.defaultFile, _, ensures.trans
      (bind_unit_eq_ok.mpr ⟨checkFile_eq_ok.mpr passes, rfl⟩), ?_,
      resolve_eq_ok.mpr ⟨passes, _, settles, valid, rfl⟩, rfl⟩
    have found : (later.withAgent spec.defaultFile).agents.lookup spec.id =
        some (.pretty spec.defaultFile) := AList.lookup_insert _
    rw [loadAgent, found]
    exact (if_neg (not_not.mpr rfl)).trans (bind_unit_eq_ok.mpr ⟨checkFile_eq_ok.mpr passes, rfl⟩)

end

/-- The files next to one prompt file. -/
def besidePrompt (prompt : String) : Files :=
  ⟨∅, ∅, (∅ : Table String PromptFile).insert "/prompt" (.text prompt)⟩

def plainSpec (prompt : String) : AgentSpec :=
  ⟨⟨2⟩, ⟨1⟩, "Ada", prompt, ⟨⟨"goose"⟩, ∅⟩, .enabled⟩

/-- A file that takes its prompt from the prompt file. -/
def promptedFile : AgentConfigFile :=
  { (plainSpec "").defaultFile with systemPromptFile := some "/prompt" }

theorem restore_resolves_iff_prompted : ∃ written loaded again,
    (besidePrompt "").ensureAgentFile (plainSpec "Help.") = .ok written ∧
      written.loadAgent ⟨2⟩ = .ok loaded ∧ written.resolve loaded ⟨1⟩ .enabled = .ok again ∧
        again.spec = plainSpec "Help." := by
  have given : (besidePrompt "Help.").resolve promptedFile ⟨1⟩ .enabled = .ok (configOf promptedFile
      ⟨⟨"goose"⟩, "Help.", none, none, ∅⟩ (plainSpec "Help.")) := by
    decide +kernel
  exact (restore_resolves_iff given rfl).mpr (by decide +kernel)

theorem restore_refuses_nul :
    (besidePrompt "a\x00b").resolve promptedFile ⟨1⟩ .enabled = .ok (configOf promptedFile
        ⟨⟨"goose"⟩, "a\x00b", none, none, ∅⟩ (plainSpec "a\x00b")) ∧
      (besidePrompt "a\x00b").ensureAgentFile (plainSpec "a\x00b") =
        .error (.validation ⟨"system_prompt", "must be at most 65536 NUL-free characters"⟩) := by
  decide +kernel

end BuzzServer
