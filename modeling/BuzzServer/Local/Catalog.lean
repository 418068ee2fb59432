/-
This file models the runtime catalog: the version-pinned runtimes an operator
makes available, with the validation of each entry in the order the source
checks.
-/

import BuzzServer.Domain.Agent

namespace BuzzServer.Local

/-! ### Entries -/

inductive RuntimeArtifact where
  /-- An executable installed at the entry's command. -/
  | localExecutable (sha256 : Option String)
  | package (manager name version : String)

/-- A secret a runtime needs, by the variable it is given in and the name it is kept under. -/
structure SecretReference where
  (environmentKey secretName : String)
  deriving DecidableEq

structure PreflightProbe where
  timeoutSeconds : Nat
  command : String
  arguments : List String
  deriving DecidableEq

structure RuntimeCatalogEntry where
  id : RuntimeId
  version : String
  artifact : RuntimeArtifact
  command : String
  arguments : List String
  preflight : Option PreflightProbe
  requiredSecrets : List SecretReference

structure RuntimeCatalog where
  runtimes : List RuntimeCatalogEntry

inductive CatalogError where
  | invalidField (field : String)
  | unpinnedVersion (version : String)
  | artifactVersionMismatch
  | invalidTimeout (seconds : Nat)
  | duplicateRuntime (id : RuntimeId)
  | duplicateSecretReference
  | runtimeNotFound (id : RuntimeId)
  deriving DecidableEq

/-! ### Checks -/

/-- The check an entry makes: it fails with one error. -/
def ensure {Error : Type} (condition : Bool) (error : Error) : Except Error Unit :=
  if condition then .ok () else .error error

@[simp] theorem ensure_eq_ok {Error : Type} {condition : Bool} {error : Error} :
    ensure condition error = .ok () ↔ condition = true := by
  unfold ensure
  split <;> simp_all

/-- A check on a value that may be absent. -/
def validatePresent {Value Error : Type} (check : Value → Except Error Unit) :
    Option Value → Except Error Unit
  | none => .ok ()
  | some value => check value

def hasNul (text : String) : Bool := text.toList.contains '\x00'

/-- Between one and `max` bytes, not all of them whitespace, and none of them NUL. -/
def boundedText (value : String) (max : Nat) : Bool :=
  !(trim value).isEmpty && decide (value.utf8ByteSize ≤ max) && !hasNul value

def validateText (field value : String) (max : Nat) : Except CatalogError Unit :=
  ensure (boundedText value max) (.invalidField field)

def validateAbsoluteCommand (field value : String) : Except CatalogError Unit := do
  validateText field value 1024
  ensure (isAbsolutePath value) (.invalidField field)

def validateArguments (field : String) (values : List String) : Except CatalogError Unit :=
  ensure (decide (values.length ≤ 128) &&
    values.all fun value => decide (value.utf8ByteSize ≤ 4096) && !hasNul value)
    (.invalidField field)

def validSha256 (digest : String) : Bool :=
  digest.utf8ByteSize == 64 && digest.toList.all fun character =>
    character.isDigit || ('a' ≤ character && character ≤ 'f')

/-- An exact version: no moving tag and no range. -/
def pinnedVersion (version : String) : Bool :=
  !(version == "latest" || version == "stable" || version == "current") &&
    !version.toList.contains '*' && !version.toList.contains '^' && !version.toList.contains '~'

def RuntimeArtifact.validate (artifact : RuntimeArtifact) (entryVersion : String) :
    Except CatalogError Unit :=
  match artifact with
  | .localExecutable sha256 => ensure (sha256.all validSha256) (.invalidField "artifact.sha256")
  | .package manager name version => do
      validateText "artifact.manager" manager 80
      validateText "artifact.name" name 240
      validateText "artifact.version" version 120
      ensure (version == entryVersion) .artifactVersionMismatch

def maxTimeoutSeconds : Nat := 300

def PreflightProbe.validate (probe : PreflightProbe) : Except CatalogError Unit := do
  ensure (decide (0 < probe.timeoutSeconds ∧ probe.timeoutSeconds ≤ maxTimeoutSeconds))
    (.invalidTimeout probe.timeoutSeconds)
  validateAbsoluteCommand "preflight.command" probe.command
  validateArguments "preflight.arguments" probe.arguments

/-- The loop over the required secrets, with the keys and names it has seen. -/
def validateSecrets (keys names : List String) : List SecretReference → Except CatalogError Unit
  | [] => .ok ()
  | secret :: secrets => do
      ensure (validEnvironmentKey secret.environmentKey)
        (.invalidField "required_secrets.environment_key")
      validateText "required_secrets.secret_name" secret.secretName 240
      ensure (!keys.contains secret.environmentKey && !names.contains secret.secretName)
        .duplicateSecretReference
      validateSecrets (secret.environmentKey :: keys) (secret.secretName :: names) secrets

def RuntimeCatalogEntry.validate (entry : RuntimeCatalogEntry) : Except CatalogError Unit := do
  validateText "version" entry.version 120
  ensure (pinnedVersion entry.version) (.unpinnedVersion entry.version)
  validateAbsoluteCommand "command" entry.command
  validateArguments "arguments" entry.arguments
  entry.artifact.validate entry.version
  validatePresent PreflightProbe.validate entry.preflight
  validateSecrets [] [] entry.requiredSecrets

/-! ### The catalog -/

/-- The loop over the runtimes, with the ids it has seen. -/
def validateRuntimes (ids : List RuntimeId) : List RuntimeCatalogEntry → Except CatalogError Unit
  | [] => .ok ()
  | entry :: entries => do
      entry.validate
      ensure (!ids.contains entry.id) (.duplicateRuntime entry.id)
      validateRuntimes (entry.id :: ids) entries

variable (catalog : RuntimeCatalog)

def RuntimeCatalog.validate : Except CatalogError Unit :=
  validateRuntimes [] catalog.runtimes

def RuntimeCatalog.get (id : RuntimeId) : Option RuntimeCatalogEntry :=
  catalog.runtimes.find? fun entry => entry.id == id

def RuntimeCatalog.require (id : RuntimeId) : Except CatalogError RuntimeCatalogEntry :=
  match catalog.get id with
  | some entry => .ok entry
  | none => .error (.runtimeNotFound id)

/-! ### What a validated catalog guarantees -/

/-- The secrets that pass the loop have distinct variables, none of them seen before. -/
theorem validateSecrets_distinct {keys names : List String} {secrets : List SecretReference}
    (valid : validateSecrets keys names secrets = .ok ()) :
    (secrets.map SecretReference.environmentKey).Nodup ∧
      ∀ secret ∈ secrets, secret.environmentKey ∉ keys := by
  induction secrets generalizing keys names with
  | nil => exact ⟨List.nodup_nil, nofun⟩
  | cons secret secrets inductionHypothesis =>
    simp only [validateSecrets, bind_unit_eq_ok, ensure_eq_ok, Bool.and_eq_true] at valid
    obtain ⟨-, -, ⟨fresh, -⟩, others⟩ := valid
    obtain ⟨distinct, unseen⟩ := inductionHypothesis others
    have unused : secret.environmentKey ∉ keys := by simpa using fresh
    refine ⟨List.nodup_cons.mpr ⟨?_, distinct⟩, ?_⟩
    · intro repeated
      obtain ⟨other, listed, same⟩ := List.mem_map.mp repeated
      exact unseen other listed (same ▸ List.mem_cons_self)
    · intro other listed
      rcases List.mem_cons.mp listed with rfl | listed
      · exact unused
      · exact fun seen => unseen other listed (List.mem_cons_of_mem _ seen)

variable {entry : RuntimeCatalogEntry}

theorem RuntimeCatalogEntry.secrets_distinct (valid : entry.validate = .ok ()) :
    (entry.requiredSecrets.map SecretReference.environmentKey).Nodup := by
  simp only [RuntimeCatalogEntry.validate, bind_unit_eq_ok] at valid
  obtain ⟨-, -, -, -, -, -, secrets⟩ := valid
  exact (validateSecrets_distinct secrets).1

theorem validateRuntimes_entry {ids : List RuntimeId} {entries : List RuntimeCatalogEntry}
    (valid : validateRuntimes ids entries = .ok ()) :
    ∀ entry ∈ entries, entry.validate = .ok () := by
  induction entries generalizing ids with
  | nil => exact nofun
  | cons entry entries inductionHypothesis =>
    simp only [validateRuntimes, bind_unit_eq_ok] at valid
    intro other listed
    rcases List.mem_cons.mp listed with rfl | listed
    · exact valid.1
    · exact inductionHypothesis valid.2.2 other listed

/-- An entry that a validated catalog hands out is itself valid. -/
theorem RuntimeCatalog.require_valid {catalog : RuntimeCatalog} {id : RuntimeId}
    (valid : catalog.validate = .ok ())
    (found : catalog.require id = .ok entry) : entry.validate = .ok () := by
  unfold RuntimeCatalog.require at found
  split at found
  · next listed =>
    cases found
    exact validateRuntimes_entry valid entry (List.mem_of_find?_eq_some listed)
  · cases found

end BuzzServer.Local
