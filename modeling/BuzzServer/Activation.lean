/-
This file models `deploy/activation.py`, which brings the selected release and the
configuration file back into agreement after a deployment that was cut short.

An activation record names two pairs of a release and a configuration. The pointer to
the current release decides between them, and the configuration is made to follow it.
Replacing the configuration, publishing a missing pointer and removing the record are
three changes of the disk, each atomic. The process can be stopped between any two of
them, and it can fail there, since a directory is synced after every change.
-/

import Mathlib.Logic.Function.Basic
import Mathlib.Logic.Relation

namespace BuzzServer.Installer

open Relation

abbrev Path : Type := String

/-- The paths an activation record names. -/
structure Activation where
  (currentLink configPath intendedRelease intendedConfig : Path)
  (previousRelease previousConfig : Option Path)

/-- The errors the script raises itself. -/
inductive RecoveryError where
  | badRecord (message : String)
  | intendedUnusable (release : Path)
  | previousUnusable (release : Path)
  | previousConfigMissing (config : Path)
  | outside (release : Path)
  | noPreviousConfig
  | configMissing (source : Path)

/-- What the script asks of the host and does not change. -/
structure Host where
  (present usable : Path → Bool)
  realpath : Path → Path
  present_of_usable : ∀ path, usable path = true → present path = true

/-- The record is what `load_record` and `absolute_path` read of its file, if there is one. -/
structure Disk where
  files : Path → Option String
  links : Path → Option Path
  record : Option (Except RecoveryError Activation)

variable (host : Host) (disk : Disk)

/-- The release a link leads to, if it leads anywhere. -/
def Disk.target (link : Path) : Option Path :=
  (disk.links link).bind fun release =>
    if host.present release then some (host.realpath release) else none

/-! ### The decision -/

/-- The pair that is chosen, with the link and the file it goes to. -/
structure Choice where
  (link config release : Path)
  text : String

/-- The release that is kept or published, and the configuration that belongs to it. -/
def Activation.select (activation : Activation) :
    Option Path → Except RecoveryError (Path × Option Path)
  | none => .ok (activation.intendedRelease, some activation.intendedConfig)
  | some target =>
      if target = activation.intendedRelease then
        .ok (activation.intendedRelease, some activation.intendedConfig)
      else if activation.previousRelease = some target then
        .ok (target, activation.previousConfig)
      else .error (.outside target)

/-- The checks of `reconcile`, and the choice it comes to. -/
def Activation.choose (activation : Activation) (host : Host) (disk : Disk) :
    Except RecoveryError Choice :=
  if host.usable activation.intendedRelease = false then
    .error (.intendedUnusable activation.intendedRelease)
  else if activation.previousRelease.any (fun release => !host.usable release) then
    .error (.previousUnusable (activation.previousRelease.getD ""))
  else if activation.previousConfig.any (fun config => (disk.files config).isNone) then
    .error (.previousConfigMissing (activation.previousConfig.getD ""))
  else
    match activation.select (disk.target host activation.currentLink) with
    | .error error => .error error
    | .ok (_, none) => .error .noPreviousConfig
    | .ok (release, some source) =>
        match disk.files source with
        | none => .error (.configMissing source)
        | some text => .ok ⟨activation.currentLink, activation.configPath, release, text⟩

/-! ### The changes -/

def installConfig (config : Path) (text : String) (disk : Disk) : Disk :=
  { disk with files := Function.update disk.files config (some text) }

def setCurrent (link : Path) (release : Option Path) (disk : Disk) : Disk :=
  { disk with links := Function.update disk.links link release }

def clearRecord : Disk := { disk with record := none }

/-- A pointer that leads nowhere is published. -/
def Choice.publish (chosen : Choice) (host : Host) (disk : Disk) : Disk :=
  if disk.target host chosen.link = none then setCurrent chosen.link (some chosen.release) disk
  else disk

/-- The disk after so many of the three changes. -/
def Choice.after (chosen : Choice) (host : Host) (disk : Disk) : Nat → Disk
  | 0 => disk
  | 1 => installConfig chosen.config chosen.text disk
  | 2 => chosen.publish host (installConfig chosen.config chosen.text disk)
  | _ => clearRecord (chosen.publish host (installConfig chosen.config chosen.text disk))

/-- A run that nothing interrupts. -/
def reconcile : Except RecoveryError Disk := do
  match disk.record with
  | none => return disk
  | some read =>
      let activation ← read
      let chosen ← activation.choose host disk
      return chosen.after host disk 3

inductive Outcome where
  | returned
  | raised
  | stopped

variable (chosen : Choice)

/-- The record decides for a pair. -/
def Disk.Decides : Prop :=
  ∃ activation, disk.record = some (.ok activation) ∧ activation.choose host disk = .ok chosen

/-- A run with any errors of the host and any end of the process. -/
inductive Attempt (host : Host) (disk : Disk) : Outcome → Disk → Prop
  | absent {outcome : Outcome} (gone : disk.record = none) : Attempt host disk outcome disk
  | refused {outcome : Outcome} (undecided : ∀ chosen, ¬disk.Decides host chosen)
      (ended : outcome ≠ .returned) : Attempt host disk outcome disk
  | performed {chosen : Choice} {outcome : Outcome} (changes : Nat)
      (decides : disk.Decides host chosen) (whole : outcome = .returned → 3 ≤ changes) :
      Attempt host disk outcome (chosen.after host disk changes)

/-- Any number of runs that did not return. -/
def Reruns : Disk → Disk → Prop :=
  ReflTransGen fun before after => ∃ outcome, outcome ≠ .returned ∧
    Attempt host before outcome after

/-- The chosen pair is in place. -/
def Disk.Holds : Prop :=
  disk.files chosen.config = some chosen.text ∧ disk.target host chosen.link = some chosen.release

/-! ### The decision is the same again -/

variable {host : Host}

section

variable {disk after : Disk} {chosen : Choice} {activation : Activation}

theorem ite_error_eq_ok {Error Value : Type} {condition : Prop} [Decidable condition]
    {error : Error} {other : Except Error Value} {value : Value} :
    (if condition then .error error else other) = .ok value ↔ ¬condition ∧ other = .ok value := by
  by_cases holds : condition <;> simp [holds]

/-- What a successful decision found. -/
theorem choose_eq_ok : activation.choose host disk = .ok chosen ↔
      host.usable activation.intendedRelease = true ∧
      activation.previousRelease.all host.usable = true ∧
      activation.previousConfig.all (fun config => (disk.files config).isSome) = true ∧
      ∃ source, activation.select (disk.target host activation.currentLink) =
          .ok (chosen.release, some source) ∧ disk.files source = some chosen.text ∧
        activation.currentLink = chosen.link ∧ activation.configPath = chosen.config := by
  unfold Activation.choose
  simp only [ite_error_eq_ok, Bool.not_eq_false]
  refine and_congr_right fun _ => and_congr ?_ (and_congr ?_ ?_)
  · cases activation.previousRelease <;> simp
  · cases activation.previousConfig <;> simp [Option.isSome_iff_ne_none]
  obtain ⟨link, config, release, text⟩ := chosen
  rcases activation.select (disk.target host activation.currentLink) with
    error | ⟨selected, none | source⟩
  · simp
  · simp
  · cases found : disk.files source <;> simp [found, and_assoc, and_comm, and_left_comm]

/-- The selected release is the one the link leads to. A link that leads nowhere is for the
intended one. -/
theorem select_release {target : Option Path} {release : Path} {source : Option Path}
    (selected : activation.select target = .ok (release, source)) :
    target = none ∧ release = activation.intendedRelease ∨ target = some release := by
  unfold Activation.select at selected
  split at selected
  · cases selected
    exact .inl ⟨rfl, rfl⟩
  · split at selected
    · next same =>
      cases selected
      exact .inr (congrArg some same)
    · split at selected
      · cases selected
        exact .inr rfl
      · cases selected

/-- The decision stands while the configurations are there and the link leads to what it led to,
or to the chosen release. -/
theorem Disk.Decides.congr (decides : disk.Decides host chosen)
    (record : after.record = disk.record)
    (files : ∀ path, after.files path = disk.files path ∨ after.files path = some chosen.text)
    (target : after.target host chosen.link = disk.target host chosen.link ∨
      disk.target host chosen.link = none ∧ after.target host chosen.link = some chosen.release) :
    after.Decides host chosen := by
  obtain ⟨activation, present, chose⟩ := decides
  refine ⟨activation, record.trans present, ?_⟩
  rw [choose_eq_ok] at chose ⊢
  obtain ⟨usable, previous, kept, source, selected, text, sameLink, sameConfig⟩ := chose
  refine ⟨usable, previous, ?_, source, ?_, ?_, sameLink, sameConfig⟩
  · cases named : activation.previousConfig with
    | none => rfl
    | some config =>
      rw [named] at kept
      rcases files config with same | installed
      · simpa [same] using kept
      · simp [installed]
  · rw [sameLink] at selected ⊢
    rcases target with same | ⟨missing, published⟩
    · rw [same]
      exact selected
    · rw [missing] at selected
      obtain ⟨release, config⟩ := Prod.mk.inj (Except.ok.inj selected)
      rw [published, Activation.select, if_pos release.symm, release, config]
  · rcases files source with same | installed
    · rw [same, text]
    · exact installed

/-- The link leads to the chosen release, or nowhere, and then that release is usable. -/
theorem Disk.Decides.target (decides : disk.Decides host chosen) :
    disk.target host chosen.link = none ∧ host.usable chosen.release = true ∨
      disk.target host chosen.link = some chosen.release := by
  obtain ⟨activation, -, chose⟩ := decides
  obtain ⟨usable, -, -, source, selected, -, sameLink, -⟩ := choose_eq_ok.mp chose
  rw [← sameLink]
  exact (select_release selected).imp_left fun ⟨missing, same⟩ => ⟨missing, same ▸ usable⟩

theorem target_publish (decides : disk.Decides host chosen)
    (canonical : host.realpath chosen.release = chosen.release) :
    (chosen.publish host disk).target host chosen.link = some chosen.release := by
  unfold Choice.publish
  rcases decides.target with ⟨missing, usable⟩ | leads
  · rw [if_pos missing]
    simp [setCurrent, Disk.target, host.present_of_usable _ usable, canonical]
  · rw [if_neg (by simp [leads]), leads]

theorem decides_publish (decides : disk.Decides host chosen)
    (canonical : host.realpath chosen.release = chosen.release) :
    (chosen.publish host disk).Decides host chosen := by
  refine decides.congr ?_ (fun _ => .inl ?_) ?_
  · unfold Choice.publish
    split <;> rfl
  · unfold Choice.publish
    split <;> rfl
  · rw [target_publish decides canonical]
    exact decides.target.symm.imp Eq.symm fun missing => ⟨missing.1, rfl⟩

theorem decides_installConfig (decides : disk.Decides host chosen) :
    (installConfig chosen.config chosen.text disk).Decides host chosen := by
  refine decides.congr rfl (fun path => ?_) (.inl rfl)
  by_cases same : path = chosen.config
  · exact .inr (same ▸ Function.update_self ..)
  · exact .inl (Function.update_of_ne same _ _)

/-- After any of the changes the pair is in place and the pointer published, or the pointer is
as it was; and the decision stands until the record is removed, which comes last. -/
theorem Choice.after_cases (decides : disk.Decides host chosen)
    (canonical : host.realpath chosen.release = chosen.release) (changes : Nat) :
    ((chosen.after host disk changes).links = disk.links ∨
        (chosen.after host disk changes).Holds host chosen) ∧
      (changes < 3 ∧ (chosen.after host disk changes).record = disk.record ∧
          (chosen.after host disk changes).Decides host chosen ∨
        (chosen.after host disk changes).record = none ∧
          (chosen.after host disk changes).Holds host chosen) := by
  have installed := decides_installConfig decides
  have published := decides_publish installed canonical
  have holds : (chosen.publish host (installConfig chosen.config chosen.text disk)).Holds host
      chosen := by
    refine ⟨?_, target_publish installed canonical⟩
    unfold Choice.publish
    split <;> exact Function.update_self ..
  have kept : (chosen.publish host (installConfig chosen.config chosen.text disk)).record =
      disk.record := by
    unfold Choice.publish
    split <;> rfl
  match changes with
  | 0 => exact ⟨.inl rfl, .inl ⟨by decide, rfl, decides⟩⟩
  | 1 => exact ⟨.inl rfl, .inl ⟨by decide, rfl, installed⟩⟩
  | 2 => exact ⟨.inr holds, .inl ⟨by decide, kept, published⟩⟩
  | _ + 3 => exact ⟨.inr holds, .inr ⟨rfl, holds⟩⟩

theorem Choice.after_files {path : Path} (other : path ≠ chosen.config) (changes : Nat) :
    (chosen.after host disk changes).files path = disk.files path := by
  have published : (chosen.publish host (installConfig chosen.config chosen.text disk)).files
      path = disk.files path := by
    unfold Choice.publish
    split <;> exact Function.update_of_ne other _ _
  match changes with
  | 0 => rfl
  | 1 => exact Function.update_of_ne other _ _
  | 2 => exact published
  | _ + 3 => exact published

end

/-! ### Runs -/

section

variable {start disk after : Disk} {outcome : Outcome}

theorem Disk.Decides.unique {first second : Choice} (one : disk.Decides host first)
    (other : disk.Decides host second) : first = second := by
  obtain ⟨activation, present, chose⟩ := one
  obtain ⟨activation', present', chose'⟩ := other
  cases Option.some.inj (present.symm.trans present')
  exact Except.ok.inj (chose.symm.trans chose')

/-- The state between runs: the record is there and decides as it did at first, or it is gone and
the pair it decided for is in place. -/
def Recovering (host : Host) (start disk : Disk) : Prop :=
  disk.record = start.record ∧ disk.Decides host = start.Decides host ∨
    disk.record = none ∧ ∃ chosen, start.Decides host chosen ∧ disk.Holds host chosen

/-- A release the record decides for is named by its real path. -/
def Canonical (host : Host) (start : Disk) : Prop :=
  ∀ chosen, start.Decides host chosen → host.realpath chosen.release = chosen.release

theorem Recovering.attempt (canonical : Canonical host start)
    (recovering : Recovering host start disk) (attempt : Attempt host disk outcome after) :
    Recovering host start after := by
  cases attempt with
  | absent gone => exact recovering
  | refused undecided ended => exact recovering
  | @performed chosen _ changes decides whole =>
    rcases recovering with ⟨record, same⟩ | ⟨gone, -⟩
    · have first : start.Decides host chosen := same ▸ decides
      rcases (Choice.after_cases decides (canonical chosen first) changes).2 with
        ⟨-, kept, still⟩ | ⟨gone, holds⟩
      · refine .inl ⟨kept.trans record, funext fun other => propext ⟨fun one => ?_, fun one => ?_⟩⟩
        · exact still.unique one ▸ first
        · exact first.unique one ▸ still
      · exact .inr ⟨gone, chosen, first, holds⟩
    · obtain ⟨_, present, -⟩ := decides
      cases gone.symm.trans present

theorem Reruns.recovering (canonical : Canonical host start) (runs : Reruns host start disk) :
    Recovering host start disk := by
  induction runs with
  | refl => exact .inl ⟨rfl, rfl⟩
  | tail _ run inductionHypothesis =>
    obtain ⟨outcome, -, attempt⟩ := run
    exact inductionHypothesis.attempt canonical attempt

end

/-- After any number of interrupted runs the first one that returns leaves the pair that the
record decided for at first, and the record is gone only while that pair is in place. A run that
raises keeps the record and the pointer, or the pair is in place. -/
theorem reconcile_recovers {host : Host} {start before after : Disk} {outcome : Outcome}
    (recorded : start.record ≠ none) (canonical : Canonical host start)
    (runs : Reruns host start before) (attempt : Attempt host before outcome after) :
    (outcome = .returned → after.record = none) ∧
      (after.record = none → ∃ chosen, start.Decides host chosen ∧ after.Holds host chosen) ∧
      (outcome = .raised → after.record = before.record ∧ after.links = before.links ∨
        ∃ chosen, start.Decides host chosen ∧ after.Holds host chosen) := by
  have recovering := Reruns.recovering canonical runs
  have settled : after.record = none →
      ∃ chosen, start.Decides host chosen ∧ after.Holds host chosen := fun gone => by
    rcases recovering.attempt canonical attempt with ⟨record, -⟩ | ⟨-, held⟩
    · exact absurd (record.symm.trans gone) recorded
    · exact held
  cases attempt with
  | absent gone => exact ⟨fun _ => gone, settled, fun _ => .inl ⟨rfl, rfl⟩⟩
  | refused undecided ended =>
    exact ⟨fun returned => absurd returned ended, settled, fun _ => .inl ⟨rfl, rfl⟩⟩
  | @performed chosen _ changes decides whole =>
    have first : start.Decides host chosen := by
      rcases recovering with ⟨-, same⟩ | ⟨gone, -⟩
      · exact same ▸ decides
      · obtain ⟨_, present, -⟩ := decides
        cases gone.symm.trans present
    obtain ⟨pointer, rest⟩ := Choice.after_cases decides (canonical chosen first) changes
    rcases rest with ⟨few, record, -⟩ | ⟨gone, holds⟩
    · exact ⟨fun returned => absurd (whole returned) (by omega), settled, fun _ =>
        pointer.imp (fun links => ⟨record, links⟩) fun holds => ⟨chosen, first, holds⟩⟩
    · exact ⟨fun _ => gone, settled, fun _ => .inr ⟨chosen, first, holds⟩⟩

/-! ### A first installation -/

def sampleHost : Host where
  present _ := true
  usable _ := true
  realpath := id
  present_of_usable _ _ := rfl

def sampleActivation : Activation :=
  ⟨"/opt/buzz-server/current", "/etc/buzz-server/config.json", "/opt/buzz-server/releases/2",
    "/var/lib/buzz-server/runtime/deploy/1/config.json.candidate", none,
    some "/var/lib/buzz-server/runtime/deploy/1/config.json.previous"⟩

def sampleDisk : Disk where
  files path := if path = sampleActivation.configPath then none else some "new"
  links _ := none
  record := some (.ok sampleActivation)

def sampleChoice : Choice :=
  ⟨sampleActivation.currentLink, sampleActivation.configPath, sampleActivation.intendedRelease,
    "new"⟩

theorem sampleDisk_decides : sampleDisk.Decides sampleHost sampleChoice :=
  ⟨sampleActivation, rfl, rfl⟩

/-- The first run is stopped once the configuration is in place. -/
theorem reconcile_recovers_missing :
    let stopped := sampleChoice.after sampleHost sampleDisk 1
    let after := sampleChoice.after sampleHost stopped 3
    after.record = none ∧ ∃ chosen, sampleDisk.Decides sampleHost chosen ∧
      after.Holds sampleHost chosen := by
  intro stopped after
  have recovers := reconcile_recovers (by exact nofun) (fun _ _ => rfl)
    (.single ⟨.stopped, nofun, .performed 1 sampleDisk_decides nofun⟩)
    (.performed 3 ⟨sampleActivation, rfl, rfl⟩ fun _ => Nat.le_refl 3 :
      Attempt sampleHost stopped .returned after)
  exact ⟨recovers.1 rfl, recovers.2.1 (recovers.1 rfl)⟩

/-- A sync that fails after the pointer was published, and one that fails after the record was
removed: the run raises, with the pointer changed and with the record gone. -/
theorem reconcile_raises_late :
    (∃ after, Attempt sampleHost sampleDisk .raised after ∧ after.links ≠ sampleDisk.links) ∧
      ∃ after, Attempt sampleHost sampleDisk .raised after ∧ after.record = none := by
  refine ⟨⟨_, .performed 2 sampleDisk_decides nofun, fun same => ?_⟩,
    _, .performed 3 sampleDisk_decides nofun, rfl⟩
  have leads := congrFun same sampleActivation.currentLink
  exact absurd leads (by decide)

end BuzzServer.Installer
