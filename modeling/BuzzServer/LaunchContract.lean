/-
This file proves what the validation of a launch guarantees for what is made of it.

The receipt of a started process repeats what the launch says, so that it is valid
whenever the launch is. The arguments of the runtime reach the harness joined by
commas. No argument contains a comma, but an argument may be empty, and one empty
argument is written like none.
-/

import BuzzServer.Ownership

namespace BuzzServer.Local

open Concurrent.Fallible

/-! ### The receipt of a start -/

variable {launch : LaunchSpec}

theorem LaunchSpec.identity_valid (valid : launch.validate = .ok ()) :
    launch.identity.validate = .ok () := by
  simp only [LaunchSpec.validate, bind_unit_eq_ok, require_eq_ok] at valid
  obtain ⟨-, -, role, harness, runtime, working, workspace, path, arguments, -, configured, secrets,
    restart, health, -⟩ := valid
  simp only [LaunchIdentity.validate, bind_unit_eq_ok, require_eq_ok]
  refine ⟨role, harness, runtime, arguments, working, workspace, path, ?_, secrets, restart, health⟩
  refine checkEach_eq_ok.mpr fun key listed => ?_
  have checked := checkEach_eq_ok.mp configured key listed
  simp only [LaunchSpec.checkVariable, bind_unit_eq_ok, require_eq_ok] at checked
  exact require_eq_ok.mpr (Bool.and_eq_true_iff.mpr checked)

theorem expectedCommand_isEmpty (valid : launch.validate = .ok ())
    (identity : Option LocalProcessIdentity) :
    (expectedCommand launch identity).isEmpty = false := by
  simp only [LaunchSpec.validate, ExecutableIdentity.validate, absolutePath, bind_unit_eq_ok,
    require_eq_ok, Bool.and_eq_true] at valid
  have rooted : isAbsolutePath launch.harness.path = true := valid.2.2.2.1.1.2
  rw [Bool.eq_false_iff, ne_eq, String.isEmpty_iff, ← String.toList_eq_nil_iff]
  intro empty
  have path : launch.harness.path.toList = [] := by
    unfold expectedCommand markedCommand at empty
    split at empty
    · exact empty
    · simp at empty
  simp [isAbsolutePath, path] at rooted

/-- A start that has created the process of a valid launch does not refuse its receipt. -/
theorem start_receipt_valid (launch : LaunchSpec) (valid : launch.validate = .ok ())
    (identity : Option LocalProcessIdentity) (generation : String) (logs : AppServerLogsStatus)
    (pid : Nat) (created : pid ≠ 0) :
    (∀ now ticks, ticks ≠ some 0 →
      (startReceipt launch identity generation pid now ticks logs).validate = .ok ()) ∧
    ∀ world error, (HostAction.perform (.processStartTicks pid) world).1 ≠ some 0 →
      (alone HostAction.perform (registerChild launch identity generation logs pid) world).1 ≠
        .error (.invalidSpec error) := by
  have receipt : ∀ now ticks, ticks ≠ some 0 →
      (startReceipt launch identity generation pid now ticks logs).validate = .ok () := by
    intro now ticks ticking
    have same := launch.identity_valid valid
    have command := expectedCommand_isEmpty valid identity
    simp only [LaunchSpec.validate, bind_unit_eq_ok] at valid
    simp only [ProcessReceipt.validate, startReceipt, bind_unit_eq_ok]
    exact ⟨valid.1, valid.2.1, same, by simpa using created, by simp [ticking, command], rfl⟩
  refine ⟨receipt, fun world error ticking refused => ?_⟩
  unfold registerChild at refused
  cases clock : (HostAction.perform .unixMillis world).1 with
  | none =>
    have stopped : alone HostAction.perform unixMillis world = (.error .clock, world) := by
      rw [unixMillis, alone_bind_ok (alone_always ..), clock]
      rfl
    rw [alone_bind_error stopped] at refused
    cases refused
  | some now =>
    have read : alone HostAction.perform unixMillis world = (.ok now, world) :=
      alone_unixMillis_eq_ok.mpr ⟨clock, rfl⟩
    rw [alone_bind_ok read, alone_bind_ok (alone_always ..),
      alone_bind_ok (alone_checked_eq_ok.mpr ⟨receipt _ _ ticking, rfl⟩)] at refused
    cases refused

theorem start_receipt_valid_sample :
    (startReceipt (sampleLaunch 1) none "1-0" 7 0 none .unset).validate = .ok () :=
  (start_receipt_valid (sampleLaunch 1) (by decide +kernel) none "1-0" .unset 7 (by decide)).1 0
    none nofun

/-! ### The arguments of the runtime -/

/-- What stands between the commas is the list of the arguments, or one empty text if there are
none. -/
theorem splitOn_arguments {arguments : List String}
    (plain : ∀ argument ∈ arguments, ',' ∉ argument.toList) :
    (",".intercalate arguments).toList.splitOn ',' =
      (if arguments = [] then [""] else arguments).map String.toList := by
  rw [String.toList_intercalate]
  split
  · next none =>
    subst none
    rfl
  · next listed => exact List.splitOn_intercalate ',' (by simpa using plain) (by simpa using listed)

/-- One list is empty, and the other one has an empty argument only. -/
def Confuses (first second : List String) : Prop := first = [] ∧ second = [""]

/-- What the harness is told of the runtime. -/
theorem selection_eq (valid : launch.validate = .ok ()) :
    (∀ argument ∈ launch.runtime.arguments, ',' ∉ argument.toList) ∧
      ∃ selected, launch.harnessRuntimeEnvironment = .ok selected ∧
        selected.lookup harnessAgentArgsEnv = some (",".intercalate launch.runtime.arguments) ∧
        selected.lookup harnessAgentCommandEnv = some launch.runtime.executable.path := by
  obtain ⟨selected, selection⟩ := (launch.valid_of_validate valid).selection
  have plain := selection
  simp only [LaunchSpec.harnessRuntimeEnvironment, bind_unit_eq_ok] at plain
  refine ⟨by simpa using plain.1, selected, selection, ?_⟩
  rw [harnessRuntimeEnvironment_eq selection, Finmap.lookup_insert,
    Finmap.lookup_insert_of_ne _ (by decide)]
  exact ⟨rfl, rfl⟩

/-- The joined arguments and the path give the runtime back, unless an empty argument stands
alone. -/
theorem selection_injective_iff (first second : LaunchSpec) (firstValid : first.validate = .ok ())
    (secondValid : second.validate = .ok ())
    (same : first.harnessRuntimeEnvironment = second.harnessRuntimeEnvironment) :
    (first.runtime.arguments = second.runtime.arguments ∧
        first.runtime.executable.path = second.runtime.executable.path) ↔
      ¬Confuses first.runtime.arguments second.runtime.arguments ∧
        ¬Confuses second.runtime.arguments first.runtime.arguments := by
  obtain ⟨firstPlain, selected, selection, arguments, path⟩ := selection_eq firstValid
  obtain ⟨secondPlain, _, again, otherArguments, otherPath⟩ := selection_eq secondValid
  obtain rfl := Except.ok.inj (selection.symm.trans (same.trans again))
  have texts := congrArg (·.toList.splitOn ',')
    (Option.some.inj (arguments.symm.trans otherArguments))
  rw [splitOn_arguments firstPlain, splitOn_arguments secondPlain] at texts
  have padded := List.map_injective_iff.mpr (fun _ _ => String.toList_inj.mp) texts
  refine Iff.trans (and_iff_left (Option.some.inj (path.symm.trans otherPath))) ?_
  unfold Confuses
  constructor
  · intro equal
    rw [equal]
    simp +contextual
  · rintro ⟨unconfused, converse⟩
    split_ifs at padded with noFirst noSecond noSecond
    · rw [noFirst, noSecond]
    · exact absurd ⟨noFirst, padded.symm⟩ unconfused
    · exact absurd ⟨noSecond, padded⟩ converse
    · exact padded

/-- The sample launch with other arguments for its runtime. -/
def selecting (arguments : List String) : LaunchSpec :=
  { sampleLaunch 1 with runtime := { (sampleLaunch 1).runtime with arguments := arguments } }

theorem selecting_valid :
    (selecting []).validate = .ok () ∧ (selecting [""]).validate = .ok () := by
  decide +kernel

/-- The launch of another agent with the runtime of the sample launch. -/
def selectingAgain (arguments : List String) : LaunchSpec :=
  { sampleLaunch 2 with
    runtime := (selecting arguments).runtime
    harnessArguments := ["--verbose"] }

/-- The harnesses of two agents are told the same runtime, and it is the same. -/
theorem selection_injective_iff_arguments :
    selecting ["acp", "--stdio"] ≠ selectingAgain ["acp", "--stdio"] ∧
      (selecting ["acp", "--stdio"]).runtime.arguments =
        (selectingAgain ["acp", "--stdio"]).runtime.arguments ∧
      (selecting ["acp", "--stdio"]).runtime.executable.path =
        (selectingAgain ["acp", "--stdio"]).runtime.executable.path := by
  refine ⟨fun same => absurd (congrArg LaunchSpec.agentId same) (by decide), ?_⟩
  refine (selection_injective_iff (selecting ["acp", "--stdio"])
    (selectingAgain ["acp", "--stdio"]) (by decide +kernel) (by decide +kernel) rfl).mpr ?_
  constructor <;> rintro ⟨none, -⟩ <;> cases none

/-- No argument and an empty argument are told apart by the launch and not by the harness. -/
theorem empty_argument_lost :
    ((selecting []).validate = .ok () ∧ (selecting [""]).validate = .ok ()) ∧
      (selecting []).harnessRuntimeEnvironment = (selecting [""]).harnessRuntimeEnvironment ∧
      (selecting []).runtime.arguments ≠ (selecting [""]).runtime.arguments :=
  ⟨selecting_valid, rfl, by decide⟩

end BuzzServer.Local
