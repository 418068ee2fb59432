/-
This file follows `deploy/install-package.sh` from the point where it records the
activation of a release, through the swap of the pointer and of the configuration, the
start of the service and the rollback, with an end of the process at any step.

The service reconciles the record whenever it is started, so the record can be gone when
the installer begins to roll back, and also before it drains the old service, which is
started again when it fails. And the backup of the configuration, which the record
names in any case, is removed if the configuration was not migrated.
-/

import BuzzServer.Activation

namespace BuzzServer.Installer

open Relation

def currentLink : Path := "/opt/buzz-server/current"

def configPath : Path := "/etc/buzz-server/config.json"

/-- The variables of the script: the text of the migrated configuration, if it was migrated, and
what `readlink -f` printed for the pointer. -/
structure Script where
  (backup candidate release : Path)
  previous : Option Path
  migration : Option String
  separate : backup ≠ configPath ∧ candidate ≠ configPath

variable (script : Script)

def Script.activation : Activation :=
  ⟨currentLink, configPath, script.release, script.candidate, script.previous, some script.backup⟩

/-- The files as the script has prepared them: a configuration that was not migrated keeps no
backup. -/
structure Script.Prepared (script : Script) (text : String) (disk : Disk) : Prop where
  backup : disk.files script.backup = script.migration.map fun _ => text
  candidate : disk.files script.candidate = some (script.migration.getD text)

inductive Phase where
  | preparing
  | activating
  | configuring
  | starting
  | confirming
  | installed
  | restoring
  | withdrawing
  | returning
  | clearing
  | ended

/-- A part of a file, or none, while it is being copied. -/
def Disk.tear (disk : Disk) (content : Option String) : Disk :=
  { disk with files := Function.update disk.files configPath content }

/-- The steps of the script, and the starts of the service. -/
inductive Script.Step (script : Script) (host : Host) : Phase × Disk → Phase × Disk → Prop
  | prepare (disk : Disk) : Step script host (.preparing, disk)
      (.activating, { disk with record := some (.ok script.activation) })
  | restart {disk after : Disk} {outcome : Outcome} (attempt : Attempt host disk outcome after) :
      Step script host (.activating, disk) (.activating, after)
  | activate (disk : Disk) : Step script host (.activating, disk)
      (.configuring, setCurrent currentLink (some script.release) disk)
  | keepConfig (disk : Disk) (same : script.migration = none) :
      Step script host (.configuring, disk) (.starting, disk)
  | configuring (disk : Disk) (content : Option String) (changed : script.migration ≠ none) :
      Step script host (.configuring, disk) (.configuring, disk.tear content)
  | configured (disk : Disk) {text : String} (changed : script.migration ≠ none)
      (copied : disk.files script.candidate = some text) :
      Step script host (.configuring, disk) (.starting, disk.tear (some text))
  | serve {disk after : Disk} {outcome : Outcome} (attempt : Attempt host disk outcome after) :
      Step script host (.starting, disk) (.starting, after)
  | healthy (disk : Disk) : Step script host (.starting, disk) (.confirming, disk)
  | confirm {disk after : Disk} (attempt : Attempt host disk .returned after) :
      Step script host (.confirming, disk) (.installed, after)
  | unconfirmed {disk after : Disk} {outcome : Outcome}
      (attempt : Attempt host disk outcome after) :
      Step script host (.confirming, disk) (.ended, after)
  | unhealthy (disk : Disk) : Step script host (.starting, disk) (.restoring, disk)
  | leaveConfig (disk : Disk) (same : script.migration = none) :
      Step script host (.restoring, disk) (.withdrawing, disk)
  | restoring (disk : Disk) (content : Option String) (changed : script.migration ≠ none) :
      Step script host (.restoring, disk) (.restoring, disk.tear content)
  | restored (disk : Disk) {text : String} (changed : script.migration ≠ none)
      (copied : disk.files script.backup = some text) :
      Step script host (.restoring, disk) (.withdrawing, disk.tear (some text))
  | returnPrevious (disk : Disk) {release : Path} (known : script.previous = some release)
      (usable : host.usable release = true) :
      Step script host (.withdrawing, disk) (.returning, setCurrent currentLink (some release) disk)
  | reconcile {disk after : Disk} {outcome : Outcome} (attempt : Attempt host disk outcome after) :
      Step script host (.returning, disk) (.ended, after)
  | withdraw (disk : Disk) (unusable : script.previous.all host.usable = false ∨
      script.previous = none) :
      Step script host (.withdrawing, disk) (.clearing, setCurrent currentLink none disk)
  | clear (disk : Disk) : Step script host (.clearing, disk) (.ended, clearRecord disk)

/-- The previous release, or none, with the previous configuration. -/
def Script.PreviousPair (host : Host) (text : String) (disk : Disk) : Prop :=
  disk.target host currentLink = script.previous ∧ disk.files configPath = some text

def Script.intended (text : String) : Choice :=
  ⟨currentLink, configPath, script.release, script.migration.getD text⟩

/-- A run of the recovery succeeds, removes the record and leaves one of the two pairs. -/
def Script.Recovers (host : Host) (text : String) (disk : Disk) : Prop :=
  ∃ after, reconcile host disk = .ok after ∧ after.record = none ∧
    (script.PreviousPair host text after ∨ after.Holds host (script.intended text))

/-- The installation the script begins with, where it goes well: the pointer leads to what was
recorded as the previous release, that release is usable, and releases are named by their real
paths. -/
structure Script.Ready (script : Script) (host : Host) (text : String) (disk : Disk) : Prop where
  prepared : script.Prepared text disk
  unrecorded : disk.record = none
  current : disk.target host currentLink = script.previous
  config : disk.files configPath = some text
  installed : host.usable script.release = true
  canonical : host.realpath script.release = script.release
  previous : ∀ release, script.previous = some release →
    host.usable release = true ∧ host.realpath release = release

/-! ### What the record decides -/

variable {script : Script} {text : String} {host : Host}

section

variable {start disk after : Disk}
variable (ready : script.Ready host text start) (migrated : script.migration ≠ none)

/-- The record is there, and the pointer leads nowhere or to one of the two releases; or the
record is gone and a pair is in place. -/
def Script.Safe (script : Script) (host : Host) (text : String) (disk : Disk) : Prop :=
  disk.record = some (.ok script.activation) ∧ (disk.target host currentLink = none ∨
      disk.target host currentLink = some script.release ∨
      disk.target host currentLink = script.previous) ∨
    disk.record = none ∧
      (script.PreviousPair host text disk ∨ disk.Holds host (script.intended text))

include ready migrated

theorem decides (prepared : script.Prepared text disk)
    (recorded : disk.record = some (.ok script.activation))
    (leads : disk.target host currentLink = none ∨
      disk.target host currentLink = some script.release ∨
      disk.target host currentLink = script.previous) :
    ∃ chosen, disk.Decides host chosen ∧ host.realpath chosen.release = chosen.release ∧
      chosen.link = currentLink ∧ chosen.config = configPath ∧
      (chosen = script.intended text ∨ chosen.text = text ∧ script.previous = some chosen.release ∧
        disk.target host currentLink ≠ some script.release) := by
  obtain ⟨changed, migration⟩ := Option.ne_none_iff_exists'.mp migrated
  have backup : disk.files script.backup = some text := by rw [prepared.backup, migration]; rfl
  have usable : script.previous.all host.usable = true := by
    cases known : script.previous with
    | none => rfl
    | some release => exact (ready.previous release known).1
  have checked : ∀ chosen : Choice, (∃ source, script.activation.select
      (disk.target host currentLink) = .ok (chosen.release, some source) ∧
        disk.files source = some chosen.text ∧ currentLink = chosen.link ∧
        configPath = chosen.config) → disk.Decides host chosen := fun chosen selected =>
    ⟨_, recorded, choose_eq_ok.mpr ⟨ready.installed, usable, by simp [Script.activation, backup],
      selected⟩⟩
  by_cases intended : disk.target host currentLink = none ∨
      disk.target host currentLink = some script.release
  · refine ⟨script.intended text, checked _ ⟨script.candidate, ?_, prepared.candidate, rfl, rfl⟩,
      ready.canonical, rfl, rfl, .inl rfl⟩
    rcases intended with missing | same
    · rw [missing]
      rfl
    · rw [same]
      exact if_pos rfl
  · obtain ⟨missing, other⟩ := not_or.mp intended
    have same := (leads.resolve_left missing).resolve_left other
    obtain ⟨release, target⟩ := Option.ne_none_iff_exists'.mp missing
    rw [target] at same other
    refine ⟨⟨currentLink, configPath, release, text⟩, checked _ ⟨script.backup, ?_, backup, rfl,
      rfl⟩, (ready.previous release same.symm).2, rfl, rfl, .inr ⟨rfl, same.symm, ?_⟩⟩
    · rw [target]
      exact (if_neg fun equal => other (congrArg some equal)).trans (if_pos same.symm)
    · rw [target]
      exact other

/-- A run of the recovery, however it ends, keeps the files and stays safe. -/
theorem safe_attempt {outcome : Outcome} (prepared : script.Prepared text disk)
    (safe : script.Safe host text disk) (attempt : Attempt host disk outcome after) :
    script.Prepared text after ∧ script.Safe host text after := by
  cases attempt with
  | absent gone => exact ⟨prepared, safe⟩
  | refused undecided ended => exact ⟨prepared, safe⟩
  | @performed chosen _ changes decided whole =>
    rcases safe with ⟨recorded, leads⟩ | ⟨gone, -⟩
    · obtain ⟨other, also, canonical, link, config, named⟩ :=
        decides ready migrated prepared recorded leads
      cases decided.unique also
      have files : ∀ path, path ≠ configPath →
          (chosen.after host disk changes).files path = disk.files path := fun path other =>
        Choice.after_files (config ▸ other) changes
      refine ⟨⟨?_, ?_⟩, ?_⟩
      · rw [files _ script.separate.1, prepared.backup]
      · rw [files _ script.separate.2, prepared.candidate]
      rcases (Choice.after_cases decided canonical changes).2 with
        ⟨-, record, still⟩ | ⟨gone, holds⟩
      · refine .inl ⟨record.trans recorded, ?_⟩
        rw [← link]
        rcases still.target with ⟨missing, -⟩ | leads
        · exact .inl missing
        · rcases named with rfl | ⟨-, previous, -⟩
          · exact .inr (.inl leads)
          · exact .inr (.inr (leads.trans previous.symm))
      · refine .inr ⟨gone, ?_⟩
        rcases named with rfl | ⟨same, previous, -⟩
        · exact .inr holds
        · unfold Disk.Holds at holds
          rw [link, config, same] at holds
          exact .inl ⟨holds.2.trans previous.symm, holds.1⟩
    · obtain ⟨_, present, -⟩ := decided
      cases gone.symm.trans present

/-- The pointer leads to the new release, and if the record is gone the configuration is its. -/
def Script.Underway (script : Script) (host : Host) (text : String) (disk : Disk) : Prop :=
  disk.target host currentLink = some script.release ∧ (disk.record = some (.ok script.activation) ∨
      disk.record = none ∧ disk.Holds host (script.intended text))

theorem underway_attempt {outcome : Outcome} (prepared : script.Prepared text disk)
    (underway : script.Underway host text disk) (attempt : Attempt host disk outcome after) :
    script.Underway host text after ∧
      (outcome = .returned → after.record = none ∧ after.Holds host (script.intended text)) := by
  obtain ⟨leads, state⟩ := underway
  cases attempt with
  | absent gone =>
    refine ⟨⟨leads, state⟩, fun _ => state.resolve_left fun present => ?_⟩
    cases gone.symm.trans present
  | refused undecided ended => exact ⟨⟨leads, state⟩, fun returned => absurd returned ended⟩
  | @performed chosen _ changes decided whole =>
    have recorded := state.resolve_right fun gone => by
      obtain ⟨_, present, -⟩ := decided
      cases gone.1.symm.trans present
    obtain ⟨other, also, canonical, -, -, named⟩ :=
      decides ready migrated prepared recorded (.inr (.inl leads))
    cases decided.unique also
    obtain rfl := named.resolve_right fun other => other.2.2 leads
    obtain ⟨pointer, rest⟩ := Choice.after_cases decided canonical changes
    have still : ((script.intended text).after host disk changes).target host currentLink =
        some script.release := by
      rcases pointer with links | holds
      · rw [← leads]
        unfold Disk.target
        rw [links]
      · exact holds.2
    rcases rest with ⟨few, record, -⟩ | settled
    · exact ⟨⟨still, .inl (record.trans recorded)⟩, fun returned =>
        absurd (whole returned) (by omega)⟩
    · exact ⟨⟨still, .inr settled⟩, fun _ => settled⟩

omit migrated in
/-- From a safe disk the recovery succeeds and leaves one of the pairs. -/
theorem Script.Safe.recovers (migrated : script.migration ≠ none)
    (prepared : script.Prepared text disk) (safe : script.Safe host text disk) :
    script.Recovers host text disk := by
  rcases safe with ⟨recorded, leads⟩ | ⟨gone, pair⟩
  · obtain ⟨chosen, decided, -⟩ := decides ready migrated prepared recorded leads
    obtain ⟨activation, present, chose⟩ := decided
    have returns : Attempt host disk .returned (chosen.after host disk 3) :=
      .performed 3 ⟨activation, present, chose⟩ fun _ => Nat.le_refl 3
    refine ⟨chosen.after host disk 3, ?_, rfl, ?_⟩
    · simp [reconcile, present, chose, bind, Except.bind, pure, Except.pure]
    · rcases (safe_attempt ready migrated prepared (.inl ⟨recorded, leads⟩) returns).2 with
        ⟨kept, -⟩ | ⟨-, pair⟩
      · cases kept
      · exact pair
  · exact ⟨disk, by simp [reconcile, gone, pure, Except.pure], gone, pair⟩

end

/-! ### Runs of the installer -/

section

variable {start : Disk}

/-- What holds of the disk in each phase, beside that it is safe. -/
def Script.Reached (script : Script) (host : Host) (text : String) (disk : Disk) : Phase → Prop
  | .preparing => disk.record = none ∧ script.PreviousPair host text disk
  | .configuring => disk.record = some (.ok script.activation) ∧
      disk.target host currentLink = some script.release
  | .starting | .confirming | .restoring => script.Underway host text disk
  | .installed => disk.record = none ∧ disk.Holds host (script.intended text)
  | .withdrawing => disk.record = some (.ok script.activation) ∧ disk.files configPath = some text
  | .clearing => disk.target host currentLink = none ∧ script.previous = none ∧
      disk.files configPath = some text
  | .activating | .returning | .ended => True

structure Script.Invariant (script : Script) (host : Host) (text : String)
    (state : Phase × Disk) : Prop where
  prepared : script.Prepared text state.2
  safe : script.Safe host text state.2
  reached : script.Reached host text state.2 state.1

theorem Script.Prepared.tear {disk : Disk} (prepared : script.Prepared text disk)
    (content : Option String) : script.Prepared text (disk.tear content) :=
  ⟨(Function.update_of_ne script.separate.1 _ _).trans prepared.backup,
    (Function.update_of_ne script.separate.2 _ _).trans prepared.candidate⟩

theorem target_setCurrent {release : Path} (disk : Disk) (usable : host.usable release = true)
    (canonical : host.realpath release = release) :
    (setCurrent currentLink (some release) disk).target host currentLink = some release := by
  simp [setCurrent, Disk.target, host.present_of_usable _ usable, canonical]

/-- The pointer is swapped, and a rollback begins, while the record is there. -/
def Script.CarefulStep (script : Script) (host : Host) (before after : Phase × Disk) : Prop :=
  script.Step host before after ∧
    (before.1 = .activating ∨ before.1 = .restoring → before.2.record ≠ none)

theorem Script.Invariant.step (ready : script.Ready host text start)
    (migrated : script.migration ≠ none) {before after : Phase × Disk}
    (invariant : script.Invariant host text before) (step : script.CarefulStep host before after) :
    script.Invariant host text after := by
  obtain ⟨prepared, safe, reached⟩ := invariant
  obtain ⟨step, careful⟩ := step
  have elsewhere : ∀ {disk : Disk} (links : Path → Option Path)
      (record : Option (Except RecoveryError Activation)), script.Prepared text disk →
      script.Prepared text ⟨disk.files, links, record⟩ := fun _ _ prepared =>
    ⟨prepared.backup, prepared.candidate⟩
  cases step with
  | prepare disk => exact ⟨elsewhere _ _ prepared, .inl ⟨rfl, .inr (.inr reached.2.1)⟩, trivial⟩
  | restart attempt | unconfirmed attempt | reconcile attempt =>
    obtain ⟨kept, still⟩ := safe_attempt ready migrated prepared safe attempt
    exact ⟨kept, still, trivial⟩
  | activate disk =>
    have leads := target_setCurrent disk ready.installed ready.canonical
    have recorded := (safe.resolve_right fun gone => careful (.inl rfl) gone.1).1
    exact ⟨elsewhere _ _ prepared, .inl ⟨recorded, .inr (.inl leads)⟩, recorded, leads⟩
  | keepConfig disk same | leaveConfig disk same => exact absurd same migrated
  | configuring disk content changed =>
    exact ⟨prepared.tear content, .inl ⟨reached.1, .inr (.inl reached.2)⟩, reached⟩
  | configured disk changed copied =>
    exact ⟨prepared.tear _, .inl ⟨reached.1, .inr (.inl reached.2)⟩, reached.2, .inl reached.1⟩
  | serve attempt =>
    obtain ⟨kept, still⟩ := safe_attempt ready migrated prepared safe attempt
    exact ⟨kept, still, (underway_attempt ready migrated prepared reached attempt).1⟩
  | healthy disk | unhealthy disk => exact ⟨prepared, safe, reached⟩
  | confirm attempt =>
    obtain ⟨kept, still⟩ := safe_attempt ready migrated prepared safe attempt
    exact ⟨kept, still, (underway_attempt ready migrated prepared reached attempt).2 rfl⟩
  | restoring disk content changed =>
    have recorded := reached.2.resolve_right fun gone => careful (.inr rfl) gone.1
    exact ⟨prepared.tear content, .inl ⟨recorded, .inr (.inl reached.1)⟩, reached.1, .inl recorded⟩
  | @restored disk copy changed copied =>
    have recorded := reached.2.resolve_right fun gone => careful (.inr rfl) gone.1
    obtain ⟨_, migration⟩ := Option.ne_none_iff_exists'.mp migrated
    obtain rfl : copy = text := by
      have backup := copied.symm.trans prepared.backup
      rw [migration] at backup
      exact Option.some.inj backup
    exact ⟨prepared.tear _, .inl ⟨recorded, .inr (.inl reached.1)⟩, recorded, by simp [Disk.tear]⟩
  | returnPrevious disk known usable =>
    have leads := target_setCurrent disk usable (ready.previous _ known).2
    exact ⟨elsewhere _ _ prepared, .inl ⟨reached.1, .inr (.inr (leads.trans known.symm))⟩, trivial⟩
  | withdraw disk unusable =>
    have first : script.previous = none := by
      cases known : script.previous with
      | none => rfl
      | some release => simp [known, (ready.previous release known).1] at unusable
    have missing : (setCurrent currentLink none disk).target host currentLink = none := by
      simp [setCurrent, Disk.target]
    exact ⟨elsewhere _ _ prepared, .inl ⟨reached.1, .inl missing⟩, missing, first, reached.2⟩
  | clear disk =>
    exact ⟨elsewhere _ _ prepared, .inr ⟨rfl, .inl ⟨reached.1.trans reached.2.1.symm,
      reached.2.2⟩⟩, trivial⟩

end

/-- If the configuration was migrated and the previous release is usable, and neither the swap nor a
rollback begins without the record, then the recovery succeeds after an end at any step and leaves
one of the two pairs; and an installation that is confirmed has the intended one and no record. -/
theorem installation_recovers {script : Script} {host : Host} {text : String} {start : Disk}
    (ready : script.Ready host text start) (migrated : script.migration ≠ none)
    {state : Phase × Disk}
    (run : ReflTransGen (script.CarefulStep host) (.preparing, start) state) :
    script.Recovers host text state.2 ∧ (state.1 = .installed →
      state.2.record = none ∧ state.2.Holds host (script.intended text)) := by
  have invariant : script.Invariant host text state := by
    induction run with
    | refl =>
      exact ⟨ready.prepared, .inr ⟨ready.unrecorded, .inl ⟨ready.current, ready.config⟩⟩,
        ready.unrecorded, ready.current, ready.config⟩
    | tail _ step inductionHypothesis => exact inductionHypothesis.step ready migrated step
  refine ⟨invariant.safe.recovers ready migrated invariant.prepared, fun installed => ?_⟩
  have reached := invariant.reached
  rw [installed] at reached
  exact reached

/-! ### A host with a previous release -/

def sampleScript (migration : Option String) : Script where
  backup := "/var/lib/buzz-server/runtime/deploy/1/config.json.previous"
  candidate := "/var/lib/buzz-server/runtime/deploy/1/config.json.candidate"
  release := "/opt/buzz-server/releases/2"
  previous := some "/opt/buzz-server/releases/1"
  migration := migration
  separate := by decide

def installedDisk (migration : Option String) : Disk where
  files path :=
    if path = configPath then some "old"
    else if path = (sampleScript migration).backup then migration.map fun _ => "old"
    else some (migration.getD "old")
  links _ := some "/opt/buzz-server/releases/1"
  record := none

theorem installedDisk_ready (migration : Option String) :
    (sampleScript migration).Ready sampleHost "old" (installedDisk migration) where
  prepared := ⟨rfl, rfl⟩
  unrecorded := rfl
  current := rfl
  config := rfl
  installed := rfl
  canonical := rfl
  previous _ _ := ⟨rfl, rfl⟩

/-- The installer ends in the middle of writing the new configuration. -/
theorem installation_recovers_prepared : (sampleScript (some "new")).Recovers sampleHost "old"
      ((setCurrent currentLink (some "/opt/buzz-server/releases/2")
        { installedDisk (some "new") with
          record := some (.ok (sampleScript (some "new")).activation) }).tear (some "n")) :=
  (installation_recovers (installedDisk_ready (some "new")) nofun
    (((ReflTransGen.single ⟨.prepare _, nofun⟩).tail ⟨.activate _, nofun⟩).tail
      ⟨.configuring _ (some "n") nofun, nofun⟩)).1

/-- Without a migration the backup that the record names is gone, and the recovery fails at once.
With one, if the service was started and the release does not become healthy, an end during the
rollback leaves the new release with the previous configuration, and no record. -/
theorem installation_unrecovered : (∃ disk, ReflTransGen ((sampleScript none).Step sampleHost)
        (.preparing, installedDisk none) (.activating, disk) ∧
      ¬(sampleScript none).Recovers sampleHost "old" disk) ∧
    ∃ disk, ReflTransGen ((sampleScript (some "new")).Step sampleHost)
        (.preparing, installedDisk (some "new")) (.withdrawing, disk) ∧
      ¬(sampleScript (some "new")).Recovers sampleHost "old" disk := by
  constructor
  · refine ⟨_, .single (.prepare _), fun ⟨after, returned, _⟩ => ?_⟩
    cases returned
  · have started : ReflTransGen ((sampleScript (some "new")).Step sampleHost)
        (.preparing, installedDisk (some "new")) (.starting, _) :=
      ((ReflTransGen.refl.tail (.prepare _)).tail (.activate _)).tail (.configured _ nofun rfl)
    have served := started.tail (.serve (.performed 3 ⟨_, rfl, rfl⟩ nofun : Attempt _ _ .stopped _))
    refine ⟨_, (served.tail (.unhealthy _)).tail (.restored _ nofun rfl),
      fun ⟨after, returned, _, pair⟩ => ?_⟩
    cases returned
    rcases pair with ⟨release, -⟩ | ⟨config, -⟩
    · exact absurd (Option.some.inj release) (by decide)
    · exact absurd (Option.some.inj config) (by decide)

end BuzzServer.Installer
