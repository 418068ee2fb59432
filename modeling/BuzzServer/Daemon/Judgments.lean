/-
This file gives the rules by which programs are shown to keep the terms.

Most of what a program does is calm: it leaves the core of the world alone, and
so it leaves every assertion standing that the other threads leave standing.
Whole programs of that kind are listed here once and skipped over later.
-/

import BuzzServer.Daemon.Conduct
import BuzzServer.Daemon.Inventory

namespace BuzzServer

open Relational Concurrent Discipline Fallible Triple

/-! ### Judgments and calm programs -/

/-- The program, run by the thread, keeps the terms and leads from the precondition to one of
the two postconditions. -/
def Proves (setting : Setting) (terms : Terms) (thread : Thread) {Error Result : Type}
    (pre : World → Prop) (program : Fallible Action Error Result)
    (success : Result → World → Prop) (failure : Error → World → Prop) : Prop :=
  (conduct setting terms).Triple (daemon setting) terms.admits thread pre program.run
    (onOutcome success failure)

/-- An assertion the other threads leave standing. -/
abbrev Stands (setting : Setting) (terms : Terms) (thread : Thread)
    (assertion : World → Prop) : Prop :=
  (conduct setting terms).Stable thread assertion

/-- The actions that leave the core of the world and the audit trail alone. -/
def Action.calm {Response : Type} : Action Response → Bool
  | .newAgentId | .getAgent .cached _ | .getAgent .reconciled _ | .putAgent _ | .listStartupAgents
  | .deleteCommunityWithDeletedAgents _ _ | .applyAgentCommand _ | .transitionOperation _ _ _ _
  | .completePurge _ _ _ _ | .appendAudit _ | .applyDraftCommand _ _ _ _ _ | .putReceipt _
  | .deleteReceipt _ | .stop _ | .start _ | .removeStateRoot _ | .leaveScope => false
  | _ => true

/-- The actions that take something of an agent away for good. -/
def Action.destructive {Response : Type} : Action Response → Bool
  | .purgeAgentPaths _ => true
  | .purgeCustody _ => true
  | .removeAgentFile _ => true
  | .enqueueRelayPublication publication =>
      decide (publication.action = .tombstoneManagedAgent) ||
        decide (publication.action = .archiveIdentity)
  | _ => false

variable {setting : Setting} {thread : Thread} {terms : Terms}

section

variable {world : World}
variable {Response : Type} {action : Action Response}

theorem Action.destructive_of_destroys {id : AgentId} (destroys : action.Destroys id) :
    action.destructive = true := by
  cases action <;> simp_all [Action.Destroys, Action.destructive]

theorem sameCore_of_calm (calm : action.calm = true) :
    world.SameCore (perform thread action world).2 := by
  have effect := perform_effect thread world action
  generalize (perform thread action world).2 = after at effect ⊢
  cases effect with
  | quiet same => exact same
  | _ => cases calm

/-- The only duty of a calm action is to destroy nothing but what a settled purge may. -/
theorem duty_of_spared (setting : Setting) (calm : action.calm = true)
    (spared : ∀ id, action.Destroys id → thread = .worker → world.processing ≠ none →
      ∃ agentId, agentId.toText = id.toText ∧ world.Purging terms agentId) :
    duty setting terms thread action world := by
  refine ⟨spared, ?_⟩
  cases action <;> trivial

theorem duty_of_calm (setting : Setting) (terms : Terms) (calm : action.calm = true)
    (safe : action.destructive = true → thread = .worker → world.processing = none) :
    duty setting terms thread action world :=
  duty_of_spared setting calm fun _ destroys worker busy =>
    absurd (safe (Action.destructive_of_destroys destroys) worker) busy

theorem duty_of_gentle (setting : Setting) (terms : Terms) (calm : action.calm = true)
    (gentle : action.destructive = false) : duty setting terms thread action world :=
  duty_of_calm setting terms calm fun destructive => by
    rw [gentle] at destructive
    cases destructive

theorem execute_calm {assertion : World → Prop} (calm : action.calm = true)
    (done : duty setting terms thread action world)
    (stands : Stands setting terms thread assertion) (sound : world.Sound)
    (holds : assertion world) (admitted : terms.admits thread action world) :
    duty setting terms thread action world ∧
      (conduct setting terms).Keeps (daemon setting) thread action world ∧
        assertion (perform thread action world).2 := by
  have same : world.SameCore (perform thread action world).2 := sameCore_of_calm calm
  exact ⟨done, keeps_of_duty sound done admitted,
    stands world _ (same.tolerates terms thread) sound (same.sound sound) holds⟩

end

/-! ### Rules -/

variable {program : Fallible Action Error Result}

namespace Proves

variable {Error Other Result First : Type}
variable {Second Item : Type} {pre assertion : World → Prop} {failure : Error → World → Prop}
variable {program : Fallible Action Error Result} {translate : Other → Error}
  {success : Result → World → Prop}

theorem pure {value : Result} (implies : ∀ world, pre world → success value world) :
    Proves setting terms thread pre (Pure.pure value : Fallible Action Error Result) success
      failure :=
  Triple.done fun world _ holds => implies world holds

theorem throw {error : Error} (implies : ∀ world, pre world → failure error world) :
    Proves setting terms thread pre
      (MonadExcept.throw error : Fallible Action Error Result) success failure :=
  Triple.done fun world _ holds => implies world holds

variable {continuation : First → Fallible Action Error Second}

theorem bind {program : Fallible Action Error First} {middle : First → World → Prop}
    {success : Second → World → Prop}
    (first : Proves setting terms thread pre program middle failure)
    (rest : ∀ value,
      Proves setting terms thread (middle value) (continuation value) success failure) :
    Proves setting terms thread pre (program >>= continuation) success failure :=
  fallibleBind first rest

/-- The same with the assertion in the middle written out. -/
theorem bindTo {program : Fallible Action Error First} {success : Second → World → Prop}
    (middle : First → World → Prop)
    (first : Proves setting terms thread pre program middle failure)
    (rest : ∀ value,
      Proves setting terms thread (middle value) (continuation value) success failure) :
    Proves setting terms thread pre (program >>= continuation) success failure :=
  bind first rest

theorem consequence {stronger : World → Prop} {weaker : Result → World → Prop}
    {fallback : Error → World → Prop} (before : ∀ world, stronger world → pre world)
    (proves : Proves setting terms thread pre program success failure)
    (after : ∀ value world, success value world → weaker value world)
    (abandoned : ∀ error world, failure error world → fallback error world) :
    Proves setting terms thread stronger program weaker fallback := by
  refine Triple.consequence (fun world _ holds => before world holds) proves ?_
  intro outcome world holds
  cases outcome with
  | ok value => exact after value world holds
  | error error => exact abandoned error world holds

theorem given {stronger : World → Prop} (before : ∀ world, stronger world → pre world)
    (proves : Proves setting terms thread pre program success failure) :
    Proves setting terms thread stronger program success failure :=
  consequence before proves (fun _ _ => id) fun _ _ => id

/-- A pure precondition can be used while proving the judgment. -/
theorem assume {fact : Prop}
    (proves : fact → Proves setting terms thread pre program success failure) :
    Proves setting terms thread (fun world => pre world ∧ fact) program success failure :=
  ⟨fun world sound holds => (proves holds.2).meets world sound holds.1⟩

/-- One action with an outcome. -/
theorem attempt {action : Action (Except Other Result)} (stands : Stands setting terms thread pre)
    (execute : ∀ world, world.Sound → pre world → terms.admits thread action world →
      duty setting terms thread action world ∧
        (∀ value, (perform thread action world).1 = .ok value →
          success value (perform thread action world).2) ∧
        ∀ error, (perform thread action world).1 = .error error →
          failure (translate error) (perform thread action world).2) :
    Proves setting terms thread pre (Fallible.attempt translate action) success failure := by
  have finish : ∀ outcome : Except Other Result,
      (conduct setting terms).Triple (daemon setting) terms.admits thread
        (onOutcome success failure (outcome.mapError translate))
        (.done (outcome.mapError translate)) (onOutcome success failure) :=
    fun outcome => Triple.done fun _ _ => id
  refine step stands (fun world sound holds admitted => ?_) finish
  obtain ⟨done, succeeds, fails⟩ := execute world sound holds admitted
  refine ⟨done, keeps_of_duty sound done admitted, ?_⟩
  show onOutcome success failure (Except.mapError translate (perform thread action world).1)
    (perform thread action world).2
  cases outcome : (perform thread action world).1 with
  | ok value => exact succeeds value outcome
  | error error => exact fails error outcome

/-- An action that leaves the core of the world alone and has a duty of its own. -/
theorem attemptQuiet {action : Action (Except Other Result)}
    (stands : Stands setting terms thread pre)
    (quiet : ∀ world : World, world.SameCore (perform thread action world).2)
    (done : ∀ world, pre world → duty setting terms thread action world) :
    Proves setting terms thread pre (Fallible.attempt translate action) (fun _ => pre)
      fun _ => pre := by
  refine attempt stands fun world sound holds _ => ?_
  have kept := stands world _ ((quiet world).tolerates terms thread) sound
    ((quiet world).sound sound) holds
  exact ⟨done world holds, fun _ _ => kept, fun _ _ => kept⟩

/-- A calm action with an outcome, with what its value tells about the world it was read in. -/
theorem attemptCalm {action : Action (Except Other Result)} {fact : Result → World → Prop}
    (calm : action.calm = true) (gentle : action.destructive = false)
    (stands : Stands setting terms thread pre) (learns : ∀ world, world.Sound → pre world → ∀ value,
      (perform thread action world).1 = .ok value → fact value (perform thread action world).2)
    (abandon : ∀ error world, pre world → failure error world) :
    Proves setting terms thread pre (Fallible.attempt translate action)
      (fun value world => pre world ∧ fact value world) failure := by
  refine attempt stands fun world sound holds admitted => ?_
  obtain ⟨done, -, kept⟩ := execute_calm calm (duty_of_gentle setting terms calm gentle) stands
    sound holds admitted
  exact ⟨done, fun value outcome => ⟨kept, learns world sound holds value outcome⟩,
    fun error _ => abandon _ _ kept⟩

/-- A program of calm actions that destroys nothing leaves an assertion standing. -/
theorem calm
    (uses : Program.Uses (fun ⦃_⦄ action => action.calm = true ∧ action.destructive = false)
      program.run) (stands : Stands setting terms thread assertion) :
    Proves setting terms thread assertion program (fun _ => assertion) fun _ => assertion := by
  refine fallibleFrame stands (uses.mono ?_) fun _ _ => id
  rintro Response action ⟨calm, gentle⟩ world sound holds admitted
  exact execute_calm calm (duty_of_gentle setting terms calm gentle) stands sound holds admitted

theorem calmTo {weaker : World → Prop} (stands : Stands setting terms thread assertion)
    (weakens : ∀ world, assertion world → weaker world)
    (uses : Program.Uses (fun ⦃_⦄ action => action.calm = true ∧ action.destructive = false)
      program.run) :
    Proves setting terms thread assertion program (fun _ => assertion) fun _ => weaker :=
  consequence (fun _ holds => holds) (calm uses stands) (fun _ _ holds => holds) fun _ => weakens

/-- The same for programs that may destroy, run by a thread that processes no operation. -/
theorem calmAside (uses : Program.Uses (fun ⦃_⦄ action => action.calm = true) program.run)
    (stands : Stands setting terms thread assertion)
    (aside : thread = .worker → ∀ world, assertion world → world.processing = none) :
    Proves setting terms thread assertion program (fun _ => assertion) fun _ => assertion := by
  refine fallibleFrame stands (uses.mono ?_) fun _ _ => id
  intro Response action calm world sound holds admitted
  exact execute_calm calm (duty_of_calm setting terms calm fun _ worker =>
    aside worker world holds) stands sound holds admitted

variable {program : Fallible Action Other Result} {inner : Other → World → Prop}

theorem mapError (proves : Proves setting terms thread pre program success inner)
    (abandon : ∀ error world, inner error world → failure (translate error) world) :
    Proves setting terms thread pre (Fallible.mapError translate program) success failure := by
  refine Triple.bind proves fun outcome => ?_
  cases outcome with
  | ok value => exact Triple.done fun _ _ => id
  | error error => exact Triple.done fun world _ holds => abandon error world holds

theorem capture (proves : Proves setting terms thread pre program success inner) :
    Proves setting terms thread pre (capture program : Fallible Action Error (Except Other Result))
      (onOutcome success inner) failure :=
  Triple.bind proves fun _ => Triple.done fun _ _ => id

theorem forEach (assertion : List Item → World → Prop) {body : Item → Fallible Action Error Unit}
    (each : ∀ item rest, Proves setting terms thread (assertion (item :: rest)) (body item)
      (fun _ => assertion rest) failure) (items : List Item) :
    Proves setting terms thread (assertion items) (forEach body items)
      (fun _ => assertion []) failure :=
  Triple.forEach each items

/-- One action that cannot fail. -/
theorem always {action : Action Result} (stands : Stands setting terms thread pre)
    (execute : ∀ world, world.Sound → pre world → terms.admits thread action world →
      duty setting terms thread action world ∧
        success (perform thread action world).1 (perform thread action world).2) :
    Proves setting terms thread pre (always action) success failure := by
  have finish : ∀ response : Result,
      (conduct setting terms).Triple (daemon setting) terms.admits thread (success response)
        (.done (.ok response)) (onOutcome success failure) :=
    fun response => Triple.done fun _ _ => id
  refine step stands (fun world sound holds admitted => ?_) finish
  obtain ⟨done, reached⟩ := execute world sound holds admitted
  exact ⟨done, keeps_of_duty sound done admitted, reached⟩

end Proves

/-! ### The calm programs -/

/-- Every action of the program is calm and destroys nothing. -/
abbrev Gentle {Error Result : Type} (program : Fallible Action Error Result) : Prop :=
  Program.Uses (fun ⦃_⦄ action => action.calm = true ∧ action.destructive = false) program.run

section

variable {Error Other Result First Second : Type}

theorem gentle_pure (value : Result) : Gentle (pure value : Fallible Action Error Result) :=
  Program.Uses.done _

theorem gentle_throw (error : Error) : Gentle (throw error : Fallible Action Error Result) :=
  Program.Uses.done _

theorem gentle_attempt {translate : Other → Error} {action : Action (Except Other Result)}
    (calm : action.calm = true) (gentle : action.destructive = false) :
    Gentle (Fallible.attempt translate action) :=
  .step ⟨calm, gentle⟩ fun _ => .done _

theorem gentle_always {action : Action Result} (calm : action.calm = true)
    (gentle : action.destructive = false) :
    Gentle (always action : Fallible Action Error Result) :=
  .step ⟨calm, gentle⟩ fun _ => .done _

theorem gentle_found (row : Option Result) : Gentle (Request.found row) := by
  cases row with
  | none => exact gentle_throw _
  | some value => exact gentle_pure value

theorem gentle_valid (checked : Except ValidationError Result) :
    Gentle (Request.valid checked) := by
  cases checked with
  | error error => exact gentle_throw _
  | ok value => exact gentle_pure value

/-- The kinds of action that are not calm or take something away. -/
def roughKinds : List ActionKind :=
  [.newAgentId, .getCachedAgent, .getReconciledAgent, .putAgent, .listStartupAgents,
    .deleteCommunityWithDeletedAgents, .applyAgentCommand, .transitionOperation, .completePurge,
    .appendAudit, .applyDraftCommand, .enqueueRelayRemoval, .putReceipt, .deleteReceipt, .stop,
    .start, .removeStateRoot, .leaveScope, .purgeAgentPaths, .purgeCustody, .removeAgentFile]

/-- The rest of the inventory is gentle. -/
theorem gentle_within {kinds : List ActionKind}
    (within : Within kinds program.run) (disjoint : ∀ kind ∈ roughKinds, kind ∉ kinds) :
    Gentle program := by
  refine uses_of_disjoint (fun Response action spared => ?_) within disjoint
  cases action with
  | getAgent slot id => cases slot <;> first | exact ⟨rfl, rfl⟩ | cases spared
  | enqueueRelayPublication publication =>
    simp only [Action.kind] at spared
    split at spared
    · cases spared
    · next keeps => exact ⟨rfl, by simpa [Action.destructive] using keeps⟩
  | _ => first | exact ⟨rfl, rfl⟩ | cases spared

theorem gentle_ensureAgentFile (translate : AgentFileError → Error) (spec : AgentSpec) :
    Gentle (ensureAgentFile translate spec) :=
  gentle_within (show Within preparationKinds _ from
    within_ensureAgentFile (by decide) (by decide)) (by decide)

theorem gentle_wake (immediately : Bool) (operation : DurableOperation) :
    Gentle (wake immediately operation) :=
  gentle_within (within_wake immediately operation) (by decide)

theorem gentle_finishCreate (agent : AgentSpec) (input : CreateAgentInput)
    (resource : DurableOperation) : Gentle (finishCreate agent input resource) :=
  gentle_within (within_finishCreate agent input resource) (by decide)

theorem gentle_commandDeadline (retentionSeconds : Int) (kind : OperationKind) (id : AgentId)
    (desiredState : DesiredAgentState) :
    Gentle (commandDeadline retentionSeconds kind id desiredState) :=
  gentle_within (within_commandDeadline retentionSeconds kind id desiredState) (by decide)

theorem gentle_lookupOperation (id : OperationId) : Gentle (lookupOperation id) :=
  uses_bind (gentle_attempt rfl rfl) gentle_found

theorem gentle_auditCommunity (agentId : Option AgentId) : Gentle (auditCommunity agentId) := by
  cases agentId with
  | none => exact gentle_pure none
  | some id =>
    refine uses_alwaysBind ⟨rfl, rfl⟩ fun row => ?_
    split <;> exact gentle_pure _

/-- A completion may be audited once its operation has ended. -/
theorem proves_auditReconciliation {operation : DurableOperation} {action : String}
    (outcome : String) {pre : World → Prop} (stands : Stands setting terms thread pre)
    (ended : action = "operation.complete" → ∀ world, pre world → world.Terminal operation.id) :
    Proves setting terms thread pre (auditReconciliation operation action outcome)
      (fun _ => pre) fun _ => pre := by
  refine Proves.bind (Proves.calm (gentle_auditCommunity _) stands) fun community => ?_
  refine Proves.bind (Proves.calm (gentle_always rfl rfl) stands) fun now => ?_
  refine Proves.attemptQuiet stands
    (fun world => World.sameCore_method fun database => SqliteStore.appendAudit_aside _ database _)
    fun world holds => ⟨fun _ none => none.elim, fun completes => ?_⟩
  exact ⟨operation.id, rfl, ended completes world holds⟩

end

end BuzzServer
