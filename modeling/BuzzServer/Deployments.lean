/-
This file proves that a request is deployed at most once, whatever callers and
providers there are and whenever they crash, and says what a call that fails
before it starts the provider leaves behind.

Both rest on what a repository of the contract does with one record. The record
of a request is the token of its deployment: it can be acquired once, because
`begin` only acquires a request that has no record, and no record ever goes
away. A call that acquired a request and fails keeps the token, and so nobody
deploys the request afterwards.
-/

import BuzzServer.Provider.Coordinator

namespace BuzzServer

open Json Concurrent Concurrent.Fallible DeployAction DeployWorld Discipline Discipline.Triple

variable {State Error : Type} {repository : ProviderDeploymentRepository State Error}
variable {letters : LetterCases}

/-! ### Records -/

variable {receipt : ProviderDeploymentReceipt} {before after : Option DeploymentRecord}

namespace DeploymentRecord

theorem Evolves.refl (record : Option DeploymentRecord) : Evolves record record := .inl rfl

theorem Evolves.complete {after : Option DeploymentRecord}
    (evolves : Evolves (some (.complete receipt)) after) : after = some (.complete receipt) := by
  obtain same | absent | ⟨_, _, changed, -, -⟩ := evolves
  · exact same
  · cases absent
  · cases changed

theorem Evolves.isSome (evolves : Evolves before after)
    (present : before ≠ none) : after ≠ none := by
  obtain same | absent | ⟨_, _, -, -, changed⟩ := evolves
  · rw [same]
    exact present
  · exact absurd absent present
  · rw [changed]
    simp

theorem Evolves.trans {first second third : Option DeploymentRecord}
    (before : Evolves first second) (after : Evolves second third) : Evolves first third := by
  obtain same | absent | ⟨intent, receipt, inFlight, matching, complete⟩ := before
  · rw [← same]
    exact after
  · exact .inr (.inl absent)
  · subst complete
    exact .inr (.inr ⟨intent, receipt, inFlight, matching, after.complete⟩)

end DeploymentRecord

variable {intent : ProviderDeploymentIntent}

theorem Begun.evolves
    {answer : Except Error BeginDeployment} (begun : Begun intent before answer after) :
    DeploymentRecord.Evolves before after := by
  cases begun with
  | acquired => exact .inr (.inl rfl)
  | found record reported => exact .refl _
  | refused error => exact .refl _
  | unanswered error => exact .inr (.inl rfl)

theorem Completed.evolves {answer : Except Error ProviderDeploymentReceipt}
    (completed : Completed receipt before answer after) :
    DeploymentRecord.Evolves before after := by
  cases completed with
  | stored matching | unanswered matching error => exact .inr (.inr ⟨_, _, rfl, matching, rfl⟩)
  | found existing => exact .refl _
  | refused error => exact .refl _

namespace ProviderDeploymentRepository

variable (repository : ProviderDeploymentRepository State Error)

theorem begin_evolves (intent : ProviderDeploymentIntent) (state : State) (id : String) :
    DeploymentRecord.Evolves (repository.record state id)
      (repository.record (repository.begin intent state).2 id) := by
  by_cases own : id = intent.requestId
  · rw [own]
    exact (repository.begin_own intent state).evolves
  · rw [repository.begin_other intent state id own]
    exact .refl _

theorem complete_evolves (receipt : ProviderDeploymentReceipt) (state : State) (id : String) :
    DeploymentRecord.Evolves (repository.record state id)
      (repository.record (repository.complete receipt state).2 id) := by
  by_cases own : id = receipt.requestId
  · rw [own]
    exact (repository.complete_own receipt state).evolves
  · rw [repository.complete_other receipt state id own]
    exact .refl _

variable {state : State}

/-- A request is acquired only if it had no record, and then has the intent's. -/
theorem begin_acquired (acquired : (repository.begin intent state).1 = .ok .acquired) :
    repository.record state intent.requestId = none ∧
      repository.record (repository.begin intent state).2 intent.requestId =
        some (.inFlight intent) := by
  have own := repository.begin_own intent state
  rw [acquired] at own
  generalize repository.record state intent.requestId = before at own
  generalize repository.record (repository.begin intent state).2 intent.requestId = after at own
  cases own with
  | acquired => exact ⟨rfl, rfl⟩
  | found record reported => cases record <;> cases reported

theorem begin_complete (found : (repository.begin intent state).1 = .ok (.complete receipt)) :
    repository.record (repository.begin intent state).2 intent.requestId =
      some (.complete receipt) := by
  have own := repository.begin_own intent state
  rw [found] at own
  generalize repository.record state intent.requestId = before at own
  generalize repository.record (repository.begin intent state).2 intent.requestId = after at own
  cases own with
  | found record reported =>
    cases record with
    | inFlight intent => cases reported
    | complete stored =>
      cases reported
      rfl

/-- A receipt that `complete` returns is the record. -/
theorem complete_stored {stored : ProviderDeploymentReceipt}
    (completed : (repository.complete receipt state).1 = .ok stored) :
    repository.record (repository.complete receipt state).2 receipt.requestId =
      some (.complete stored) := by
  have own := repository.complete_own receipt state
  rw [completed] at own
  generalize repository.record state receipt.requestId = before at own
  generalize repository.record (repository.complete receipt state).2 receipt.requestId = after
    at own
  cases own with
  | stored matching => rfl
  | found existing => rfl

end ProviderDeploymentRepository

/-! ### At most once -/

/-- A caller holds a request: it acquired it and has not started a provider since. -/
def DeployWorld.Holds (world : DeployWorld State) (caller : Nat) (id : String) : Prop :=
  ∃ stage, world.stage caller = some stage ∧ stage.requestId = id

/-- What holds between any two steps: each request has one holder at most, no closure ran for
an acquired request and no provider was started for a held one, and what was returned is on
record. -/
structure Accounted (repository : ProviderDeploymentRepository State Error)
    (world : DeployWorld State) : Prop where
  holder : ∀ first second id, world.Holds first id → world.Holds second id → first = second
  held : ∀ caller id, world.Holds caller id → repository.record world.state id ≠ none
  built : ∀ id, DeployEvent.built id ∈ world.history → repository.record world.state id ≠ none
  deployed : ∀ id, DeployEvent.deployed id ∈ world.history → repository.record world.state id ≠ none
  unbuilt : ∀ caller id, world.stage caller = some (.acquired id) →
    DeployEvent.built id ∉ world.history
  undeployed : ∀ caller id, world.Holds caller id → DeployEvent.deployed id ∉ world.history
  builtOnce : ∀ id, world.history.count (.built id) ≤ 1
  deployedOnce : ∀ id, world.history.count (.deployed id) ≤ 1
  answered : ∀ id receipt, DeployEvent.answered id receipt ∈ world.history →
    repository.record world.state id = some (.complete receipt)

/-- The records only evolve. -/
def Evolving (repository : ProviderDeploymentRepository State Error)
    (before after : DeployWorld State) : Prop :=
  ∀ id, DeploymentRecord.Evolves (repository.record before.state id)
    (repository.record after.state id)

/-- What has to hold when a caller takes a step with a request. -/
def deployDuty (repository : ProviderDeploymentRepository State Error) :
    Condition Nat (DeployAction Error) (DeployWorld State) :=
  fun caller _ action world =>
    match action with
    | .buildPayload id => world.stage caller = some (.acquired id)
    | .spawn id _ => world.stage caller = some (.built id)
    | .answer id (.ok receipt) => repository.record world.state id = some (.complete receipt)
    | _ => True

/-- The terms on which the callers share the repository. -/
def callers (repository : ProviderDeploymentRepository State Error) :
    Discipline Nat (DeployAction Error) (DeployWorld State) where
  invariant := Accounted repository
  rely := fun caller before after =>
    after.stage caller = before.stage caller ∧ Evolving repository before after
  duty := deployDuty repository
  idle := fun _ _ => True

/-- What a step of a caller may change: records evolve, the request the caller goes on to hold is
one it held or one that gets its record now, and what happens for a request happens for the one
the caller holds. -/
structure Moves (repository : ProviderDeploymentRepository State Error) (caller : Nat)
    (world after : DeployWorld State) (added : List DeployEvent) : Prop where
  evolves : Evolving repository world after
  others : ∀ other, other ≠ caller → after.stage other = world.stage other
  history : after.history = world.history ++ added
  single : added.length ≤ 1
  own : ∀ id, after.Holds caller id → world.Holds caller id ∨
    repository.record world.state id = none ∧ repository.record after.state id ≠ none
  acquired : ∀ id, after.stage caller = some (.acquired id) →
    world.stage caller = some (.acquired id) ∨ repository.record world.state id = none
  builds : ∀ id, .built id ∈ added →
    world.stage caller = some (.acquired id) ∧ after.stage caller ≠ some (.acquired id)
  deploys : ∀ id, .deployed id ∈ added → world.Holds caller id ∧ after.stage caller = none
  answers : ∀ id receipt, .answered id receipt ∈ added →
    repository.record after.state id = some (.complete receipt)

theorem count_append_le_one {history added : List DeployEvent} {event : DeployEvent}
    (once : history.count event ≤ 1) (single : added.length ≤ 1)
    (first : event ∈ added → event ∉ history) : (history ++ added).count event ≤ 1 := by
  rw [List.count_append]
  by_cases new : event ∈ added
  · rw [List.count_eq_zero.mpr (first new), Nat.zero_add]
    exact List.count_le_length.trans single
  · rw [List.count_eq_zero.mpr new]
    exact once

variable {caller : Nat}

/-- What a step may change keeps the accounts. -/
theorem Accounted.move {world after : DeployWorld State} {added : List DeployEvent}
    (accounted : Accounted repository world) (moves : Moves repository caller world after added) :
    Accounted repository after := by
  have kept {id : String} (present : repository.record world.state id ≠ none) :
      repository.record after.state id ≠ none := (moves.evolves id).isSome present
  have others {other : Nat} {id : String} (different : other ≠ caller)
      (holds : after.Holds other id) : world.Holds other id := by
    obtain ⟨stage, found, names⟩ := holds
    exact ⟨stage, (moves.others other different).symm.trans found, names⟩
  have building {id : String} (new : .built id ∈ added) : world.Holds caller id :=
    ⟨_, (moves.builds id new).1, rfl⟩
  -- A request somebody else holds is not the one the caller's step is about.
  have apart {other : Nat} {id : String} (different : other ≠ caller)
      (holds : world.Holds other id) : ¬world.Holds caller id ∧
        repository.record world.state id ≠ none :=
    ⟨fun own => different (accounted.holder other caller id holds own),
      accounted.held other id holds⟩
  have unbuilt : ∀ other id, after.stage other = some (.acquired id) →
      .built id ∉ world.history ++ added := by
    intro other id stage member
    by_cases own : other = caller
    · subst own
      rcases List.mem_append.mp member with earlier | new
      · exact (moves.acquired id stage).elim (accounted.unbuilt other id · earlier)
          (accounted.built id earlier)
      · exact (moves.builds id new).2 stage
    · have before : world.stage other = some (.acquired id) :=
        (moves.others other own).symm.trans stage
      rcases List.mem_append.mp member with earlier | new
      · exact accounted.unbuilt other id before earlier
      · exact (apart own ⟨_, before, rfl⟩).1 (building new)
  have undeployed : ∀ other id, after.Holds other id → .deployed id ∉ world.history ++ added := by
    intro other id holds member
    by_cases own : other = caller
    · subst own
      rcases List.mem_append.mp member with earlier | new
      · exact (moves.own id holds).elim (accounted.undeployed other id · earlier)
          fun fresh => accounted.deployed id earlier fresh.1
      · obtain ⟨stage, found, -⟩ := holds
        rw [(moves.deploys id new).2] at found
        cases found
    · rcases List.mem_append.mp member with earlier | new
      · exact accounted.undeployed other id (others own holds) earlier
      · exact (apart own (others own holds)).1 (moves.deploys id new).1
  have holder : ∀ other id, other ≠ caller → after.Holds other id → ¬after.Holds caller id := by
    intro other id different holds own
    obtain ⟨another, present⟩ := apart different (others different holds)
    exact (moves.own id own).elim another fun fresh => present fresh.1
  refine ⟨?_, ?_, ?_, ?_, ?_, ?_, ?_, ?_, ?_⟩
  · intro first second id one two
    by_cases own : first = caller <;> by_cases also : second = caller
    · rw [own, also]
    · exact absurd (own ▸ one) (holder second id also two)
    · exact absurd (also ▸ two) (holder first id own one)
    · exact accounted.holder first second id (others own one) (others also two)
  · intro other id holds
    by_cases own : other = caller
    · subst own
      exact (moves.own id holds).elim (fun before => kept (accounted.held other id before))
        fun fresh => fresh.2
    · exact kept (accounted.held other id (others own holds))
  · rw [moves.history]
    intro id member
    rcases List.mem_append.mp member with earlier | new
    · exact kept (accounted.built id earlier)
    · exact kept (accounted.held caller id (building new))
  · rw [moves.history]
    intro id member
    rcases List.mem_append.mp member with earlier | new
    · exact kept (accounted.deployed id earlier)
    · exact kept (accounted.held caller id (moves.deploys id new).1)
  · rw [moves.history]
    exact unbuilt
  · rw [moves.history]
    exact undeployed
  · rw [moves.history]
    exact fun id => count_append_le_one (accounted.builtOnce id) moves.single
      fun new => accounted.unbuilt caller id (moves.builds id new).1
  · rw [moves.history]
    exact fun id => count_append_le_one (accounted.deployedOnce id) moves.single
      fun new => accounted.undeployed caller id (moves.deploys id new).1
  · rw [moves.history]
    intro id receipt member
    rcases List.mem_append.mp member with earlier | new
    · exact ((accounted.answered id receipt earlier) ▸ moves.evolves id).complete
    · exact moves.answers id receipt new

/-- A change in which no caller takes part. -/
theorem Moves.evolve {world after : DeployWorld State}
    (evolves : Evolving repository world after) (history : after.history = world.history)
    (stage : after.stage = world.stage) : Moves repository caller world after [] := by
  refine ⟨evolves, fun _ _ => by rw [stage], by rw [history, List.append_nil], Nat.zero_le _,
    fun id holds => .inl ?_, fun _ found => .inl (stage ▸ found), ?_, ?_, ?_⟩
  · unfold DeployWorld.Holds at holds ⊢
    rwa [stage] at holds
  all_goals simp

/-- A caller without a request, from one that may have held one. -/
theorem Moves.release {world after : DeployWorld State} {added : List DeployEvent}
    (state : after.state = world.state) (history : after.history = world.history ++ added)
    (stage : after.stage = Function.update world.stage caller none)
    (events : ∀ event ∈ added, ∃ id, event = .deployed id ∧ world.Holds caller id)
    (single : added.length ≤ 1) : Moves repository caller world after added := by
  have none : after.stage caller = none := by rw [stage, Function.update_self]
  refine ⟨fun _ => state ▸ .refl _,
    fun _ different => by rw [stage, Function.update_of_ne different],
    history, single, ?_, fun _ found => (by cases none.symm.trans found), ?_, ?_, ?_⟩
  · rintro id ⟨_, found, -⟩
    cases none.symm.trans found
  · intro id member
    obtain ⟨_, ⟨⟩, -⟩ := events _ member
  · intro id member
    obtain ⟨_, ⟨⟩, holds⟩ := events _ member
    exact ⟨holds, none⟩
  · intro id receipt member
    obtain ⟨_, ⟨⟩, -⟩ := events _ member

/-- An action only lets records evolve. -/
theorem perform_evolving (repository : ProviderDeploymentRepository State Error) (caller : Nat)
    ⦃Response : Type⦄ (action : DeployAction Error Response) (world : DeployWorld State) :
    Evolving repository world (action.perform repository caller world).2 := by
  intro id
  cases action with
  | begin intent => exact repository.begin_evolves intent world.state id
  | complete receipt => exact repository.complete_evolves receipt world.state id
  | buildPayload requestId | spawn requestId request | answer requestId outcome => exact .refl _

/-- An action moves no other caller. -/
theorem perform_stage {caller other : Nat} (different : other ≠ caller) ⦃Response : Type⦄
    (action : DeployAction Error Response) (world : DeployWorld State) :
    (action.perform repository caller world).2.stage other = world.stage other := by
  cases action with
  | begin intent =>
    unfold perform
    dsimp only
    generalize (repository.begin intent world.state).1 = answer
    rcases answer with error | (_ | existing | receipt)
    · rfl
    · exact Function.update_of_ne different _ _
    · rfl
    · rfl
  | buildPayload requestId | spawn requestId request => exact Function.update_of_ne different _ _
  | complete receipt => rfl
  | answer requestId outcome => rfl

variable {world : DeployWorld State}

/-- What an action that does its duty changes. -/
theorem perform_moves ⦃Response : Type⦄ {action : DeployAction Error Response}
    (duty : deployDuty repository caller action world) :
    ∃ added, Moves repository caller world (action.perform repository caller world).2 added := by
  have evolves := perform_evolving repository caller action world
  have others := fun other different => @perform_stage _ _ repository caller other different _
    action world
  cases action with
  | begin intent =>
    have acquiring : (repository.begin intent world.state).1 = .ok .acquired → _ :=
      repository.begin_acquired
    rcases answer : (repository.begin intent world.state).1 with error | (_ | existing | receipt)
    · exact ⟨[], .evolve evolves rfl (by simp [perform, answer])⟩
    · obtain ⟨absent, present⟩ := acquiring answer
      have stage : (perform repository caller (.begin intent) world).2.stage caller =
          some (.acquired intent.requestId) := by
        simp [perform, answer]
      refine ⟨[], evolves, others, (List.append_nil _).symm, Nat.zero_le _, ?_, ?_, ?_, ?_, ?_⟩
      · rintro id ⟨_, found, rfl⟩
        cases stage.symm.trans found
        exact .inr ⟨absent, by simp [perform, Stage.requestId, present]⟩
      · intro id found
        cases stage.symm.trans found
        exact .inr absent
      all_goals simp
    · exact ⟨[], .evolve evolves rfl (by simp [perform, answer])⟩
    · exact ⟨[], .evolve evolves rfl (by simp [perform, answer])⟩
  | buildPayload requestId =>
    have holding : world.Holds caller requestId := ⟨_, duty, rfl⟩
    have stage : (perform repository caller (.buildPayload requestId) world).2.stage
        caller = some (.built requestId) := Function.update_self ..
    refine ⟨[.built requestId], evolves, others, rfl, le_rfl, ?_, ?_, ?_, ?_, ?_⟩
    · rintro id ⟨_, found, rfl⟩
      cases stage.symm.trans found
      exact .inl holding
    · intro id found
      cases stage.symm.trans found
    · intro id member
      cases List.mem_singleton.mp member
      exact ⟨duty, by rw [stage]; simp⟩
    all_goals simp
  | spawn requestId request =>
    have holding : world.Holds caller requestId := ⟨_, duty, rfl⟩
    cases process : world.process with
    | ok output =>
      exact ⟨[.deployed requestId], .release rfl (by simp [perform, process]) rfl
        (fun event member => ⟨requestId, List.mem_singleton.mp member, holding⟩) le_rfl⟩
    | error error =>
      exact ⟨[], .release rfl (by simp [perform, process]) rfl (by simp)
        (Nat.zero_le _)⟩
  | complete receipt => exact ⟨[], .evolve evolves rfl rfl⟩
  | answer requestId outcome =>
    cases outcome with
    | error error => exact ⟨[], .evolve evolves rfl rfl⟩
    | ok receipt =>
      refine ⟨[.answered requestId receipt], evolves, others, rfl, le_rfl,
        fun _ holds => .inl holds,
        fun _ found => .inl found, by simp, by simp, fun id stored member => ?_⟩
      cases List.mem_singleton.mp member
      exact duty

theorem accounted_of_duty ⦃Response : Type⦄ {action : DeployAction Error Response}
    (accounted : Accounted repository world)
    (duty : deployDuty repository caller action world) :
    (callers repository).Keeps (coordinator repository letters) caller action world :=
  ⟨(perform_moves duty).elim fun _ moves => accounted.move moves, fun _ different =>
    ⟨perform_stage different action world, perform_evolving repository caller action world⟩⟩

variable {Failure Result : Type}

section

/-- A triple about a caller, in which every step is admitted. -/
abbrev CallTriple (repository : ProviderDeploymentRepository State Error) (letters : LetterCases)
    (caller : Nat) {Result : Type} (pre : DeployWorld State → Prop)
    (program : Program (DeployAction Error) Result)
    (post : Result → DeployWorld State → Prop) : Prop :=
  (callers repository).Triple (coordinator repository letters)
    (unrestricted Nat (DeployAction Error) (DeployWorld State)) caller pre program post

theorem stable_stage (stage : Option Stage) :
    (callers repository).Stable caller fun world => world.stage caller = stage :=
  fun _ _ tolerated _ _ same => tolerated.1.trans same

theorem stable_record {id : String} : (callers repository).Stable caller fun world =>
      repository.record world.state id = some (.complete receipt) := by
  intro before after tolerated _ _ stored
  have evolves := tolerated.2 id
  rw [stored] at evolves
  exact evolves.complete

theorem stable_true : (callers repository).Stable caller fun _ => True := fun _ _ _ _ _ _ => trivial

variable {pre : DeployWorld State → Prop}

theorem call_computed (outcome : Except Failure Result) :
    CallTriple repository letters caller pre (computed outcome).run
      (onOutcome (fun _ => pre) fun _ _ => True) := by
  cases outcome with
  | ok value => exact done fun _ _ => id
  | error error => exact done fun _ _ _ => trivial

theorem call_throw (error : Failure) {success : Result → DeployWorld State → Prop} :
    CallTriple repository letters caller pre
      (throw error : Fallible (DeployAction Error) Failure Result).run
      (onOutcome success fun _ _ => True) :=
  done fun _ _ _ => trivial

theorem call_invoke (requestId : String) (request : Value) : CallTriple repository letters caller
      (fun world => world.stage caller = some (.built requestId))
      (invoke letters requestId request).run
      (onOutcome (fun _ _ => True) fun _ _ => True) := by
  unfold invoke
  split
  · exact call_throw _
  · refine fallibleBind ?_ fun run => call_computed _
    refine attempt (stable_stage _) fun world accounted built _ => ?_
    refine ⟨built, accounted_of_duty accounted built, ?_⟩
    generalize ((coordinator repository letters).perform caller
      (spawn requestId request) world).1 = outcome
    cases outcome <;> trivial

variable (requestId : String)

theorem call_buildPayload : CallTriple repository letters caller
      (fun world => world.stage caller = some (.acquired requestId))
      (attempt (fun _ => ProviderError.payload) (.buildPayload requestId)).run
      (onOutcome (fun _ world => world.stage caller = some (.built requestId))
        fun _ _ => True) := by
  refine attempt (stable_stage _) fun world accounted acquired _ => ?_
  refine ⟨acquired, accounted_of_duty accounted acquired, ?_⟩
  have moved : (perform repository caller (.buildPayload requestId)
      world).2.stage caller = some (.built requestId) := Function.update_self ..
  show onOutcome _ _ world.payload _
  cases world.payload with
  | ok built => exact moved
  | error error => trivial

variable (provider : NegotiatedProvider)

theorem call_deployIdempotent (requestId : String) : CallTriple repository letters caller
      (fun world => world.stage caller = some (.acquired requestId))
      (deployIdempotent letters provider requestId).run
      (onOutcome (fun _ _ => True) fun _ _ => True) := by
  unfold deployIdempotent
  split
  · exact call_throw _
  refine fallibleBind (call_buildPayload requestId) fun payload => ?_
  refine fallibleBind (call_computed _) fun _ => ?_
  refine fallibleBind (call_computed _) fun _ => ?_
  exact fallibleBind (call_invoke _ _) fun response => call_computed _

theorem call_complete (receipt : ProviderDeploymentReceipt) :
    CallTriple repository letters caller (fun _ => True)
      (attempt ProviderReconcileError.storage (.complete receipt)).run
      (onOutcome (fun stored world =>
        repository.record world.state receipt.requestId = some (.complete stored))
        fun _ _ => True) := by
  refine attempt stable_true fun world accounted _ _ => ?_
  refine ⟨trivial, accounted_of_duty accounted trivial, ?_⟩
  show onOutcome _ _ (repository.complete receipt world.state).1 _
  cases completed : (repository.complete receipt world.state).1 with
  | ok stored => exact repository.complete_stored completed
  | error error => trivial

/-- A receipt that a call returns is on record. -/
theorem call_deployAcquired : CallTriple repository letters caller
      (fun world => world.stage caller = some (.acquired requestId))
      (deployAcquired letters requestId provider).run
      (onOutcome (fun receipt world =>
        repository.record world.state requestId = some (.complete receipt)) fun _ _ => True) := by
  refine fallibleBind (mapError (call_deployIdempotent provider requestId))
    fun externalAgentId => ?_
  refine fallibleBind (call_complete _) fun stored => ?_
  exact fallibleBind (call_computed _) fun _ => done fun _ _ => id

/-- What a caller knows once `begin` has answered. -/
def begunAssertion (repository : ProviderDeploymentRepository State Error) (caller : Nat)
    (requestId : String) : BeginDeployment → DeployWorld State → Prop
  | .acquired, world => world.stage caller = some (.acquired requestId)
  | .inFlight _, _ => True
  | .complete receipt, world => repository.record world.state requestId = some (.complete receipt)

theorem call_begin (intent : ProviderDeploymentIntent) :
    CallTriple repository letters caller (fun _ => True)
      (attempt ProviderReconcileError.storage (.begin intent)).run
      (onOutcome (begunAssertion repository caller intent.requestId) fun _ _ => True) := by
  refine attempt stable_true fun world accounted _ _ => ?_
  refine ⟨trivial, accounted_of_duty accounted trivial, ?_⟩
  have found : ∀ receipt, (repository.begin intent world.state).1 = .ok (.complete receipt) → _ :=
    fun receipt => repository.begin_complete
  show onOutcome _ _ (repository.begin intent world.state).1
    (perform repository caller (.begin intent) world).2
  unfold perform
  dsimp only
  generalize (repository.begin intent world.state).1 = answer at found
  rcases answer with error | (_ | existing | receipt)
  · trivial
  · exact Function.update_self ..
  · trivial
  · exact found receipt rfl

theorem call_deployOnce :
    CallTriple repository letters caller (fun _ => True) (deployOnce letters requestId provider).run
      (onOutcome (fun receipt world =>
        repository.record world.state requestId = some (.complete receipt)) fun _ _ => True) := by
  unfold deployOnce
  split
  · exact call_throw _
  refine fallibleBind (call_begin (intentOf provider requestId)) fun begun => ?_
  cases begun with
  | acquired => exact call_deployAcquired requestId provider
  | inFlight existing =>
    exact fallibleBind (call_computed _) fun _ => call_throw _
  | complete receipt =>
    exact fallibleBind (call_computed _) fun _ => done fun _ _ => id

theorem call_deployCall :
    CallTriple repository letters caller (fun _ => True) (deployCall letters requestId provider)
      fun _ _ => True := by
  refine bind (call_deployOnce requestId provider) fun outcome => ?_
  cases outcome with
  | ok receipt =>
    have finish : ∀ response : Unit, CallTriple repository letters caller (fun _ => True)
        (.done response) fun _ _ => True := fun _ => done fun _ _ _ => trivial
    exact step stable_record
      (fun world accounted stored _ => ⟨stored, accounted_of_duty accounted stored, trivial⟩) finish
  | error error =>
    have finish : ∀ response : Unit, CallTriple repository letters caller (fun _ => True)
        (.done response) fun _ _ => True := fun _ => done fun _ _ _ => trivial
    exact step stable_true
      (fun world accounted _ _ => ⟨trivial, accounted_of_duty accounted trivial, trivial⟩) finish

end

theorem callers_lawful : (callers repository).Lawful (coordinator repository letters)
      (unrestricted Nat (DeployAction Error) (DeployWorld State)) where
  rely_refl := fun _ _ => ⟨rfl, fun _ => .refl _⟩
  rely_trans := fun _ _ _ _ first second =>
    ⟨second.1.trans first.1, fun id => (first.2 id).trans (second.2 id)⟩
  idle_stable := fun _ => stable_true
  start := by
    rintro caller world program after ⟨⟨requestId, provider, rfl⟩, rfl⟩ accounted -
    exact ⟨accounted, fun _ _ => ⟨rfl, fun _ => .refl _⟩,
      (call_deployCall requestId provider).meets _ accounted trivial⟩
  environment := by
    rintro world after ⟨history, stage, evolves⟩ accounted
    exact ⟨accounted.move (@Moves.evolve _ _ _ 0 _ _ evolves history stage),
      fun _ => ⟨by rw [stage], evolves⟩⟩
  restart := by
    rintro world after threads ⟨⟨history, stage, evolves⟩, rfl⟩ accounted
    exact ⟨accounted.move (@Moves.evolve _ _ _ 0 _ _ evolves history stage), fun _ => trivial⟩

/-- Callers that have done nothing yet, over any records. -/
def DeployWorld.untouched (state : State) (payload : Except ProviderError (Value × Value))
    (process : Except ProviderError ProviderRun) : DeployWorld State :=
  ⟨state, payload, process, [], fun _ => none⟩

theorem accounted_untouched (state : State) (payload : Except ProviderError (Value × Value))
    (process : Except ProviderError ProviderRun) :
    Accounted repository (untouched state payload process) := by
  have nobody : ∀ caller id, ¬(untouched state payload process).Holds caller id := by
    rintro caller id ⟨stage, ⟨⟩, -⟩
  exact ⟨fun _ _ _ holds => absurd holds (nobody _ _), fun _ _ holds => absurd holds (nobody _ _),
    fun _ => nofun, fun _ => nofun, fun _ _ => nofun, fun _ _ holds => absurd holds (nobody _ _),
    fun _ => Nat.zero_le _, fun _ => Nat.zero_le _, fun _ _ => nofun⟩

/-- However many callers deploy through however many providers, and whenever they crash: for
each request the payload closure runs at most once, the provider is started at most once, and
all receipts that are returned are equal. -/
theorem deployOnce_at_most_once (repository : ProviderDeploymentRepository State Error)
    (letters : LetterCases) (state : State) (payload : Except ProviderError (Value × Value))
    (process : Except ProviderError ProviderRun)
    {pool : Pool Nat (DeployAction Error) (DeployWorld State)}
    (reached : (coordinator repository letters).Reaches
      (unrestricted Nat (DeployAction Error) (DeployWorld State))
      ⟨DeployWorld.untouched state payload process, fun _ => .done ()⟩ pool) (id : String) :
    pool.world.history.count (.built id) ≤ 1 ∧ pool.world.history.count (.deployed id) ≤ 1 ∧
      ∀ first second, DeployEvent.answered id first ∈ pool.world.history →
        DeployEvent.answered id second ∈ pool.world.history → first = second := by
  have holds : (callers repository).Holds (coordinator repository letters) _ pool :=
    callers_lawful.holds reached ⟨accounted_untouched state payload process, fun _ => trivial⟩
  refine ⟨holds.1.builtOnce id, holds.1.deployedOnce id, ?_⟩
  intro first second one two
  have same : some (DeploymentRecord.complete first) = some (.complete second) :=
    (holds.1.answered id first one).symm.trans (holds.1.answered id second two)
  cases same
  rfl

/-- A repository that keeps its records in memory and never fails. -/
def memoryReceipts : ProviderDeploymentRepository (String → Option DeploymentRecord) Unit where
  record := fun state => state
  begin := fun intent state =>
    match state intent.requestId with
    | none => (.ok .acquired, Function.update state intent.requestId (some (.inFlight intent)))
    | some record => (.ok record.report, state)
  complete := fun receipt state =>
    match state receipt.requestId with
    | none => (.error (), state)
    | some (.complete existing) => (.ok existing, state)
    | some (.inFlight intent) =>
        if receipt.requestId = intent.requestId ∧ receipt.providerId = intent.providerId ∧
            receipt.stagedSha256 = intent.stagedSha256 then
          (.ok receipt, Function.update state receipt.requestId (some (.complete receipt)))
        else (.error (), state)
  begin_own := by
    intro intent state
    cases found : state intent.requestId with
    | none =>
      simp only [Function.update_self]
      exact .acquired
    | some record =>
      simp only [found]
      exact .found record rfl
  begin_other := by
    intro intent state id different
    cases found : state intent.requestId with
    | none => exact Function.update_of_ne different _ _
    | some record => rfl
  complete_own := by
    intro receipt state
    cases found : state receipt.requestId with
    | none =>
      simp only [found]
      exact .refused _ _
    | some record =>
      cases record with
      | complete existing =>
        simp only [found]
        exact .found existing
      | inFlight intent =>
        dsimp only
        split
        · next matching =>
          simp only [Function.update_self]
          exact .stored matching
        · simp only [found]
          exact .refused _ _
  complete_other := by
    intro receipt state id different
    cases found : state receipt.requestId with
    | none => rfl
    | some record =>
      cases record with
      | complete existing => rfl
      | inFlight intent =>
        dsimp only
        split
        · exact Function.update_of_ne different _ _
        · rfl

/-- A provider with an empty schema. -/
def fakeProvider : NegotiatedProvider := ⟨"fake", .object [], "digest"⟩

/-- A payload with an agent and an empty configuration. -/
def fakePayload : Value × Value := (.object [("name", .string "agent")], .object [])

def fakeResponse : ProviderRun :=
  .exited true (some (.object [("agent_id", .string "fake-agent"), ("ok", .bool true)])) ""

/-- Two callers deploy one request, the second of them before the first is done, and the second
asks again afterwards. -/
def overlappingDeployments :
    Pool Nat (DeployAction Unit) (DeployWorld (String → Option DeploymentRecord)) :=
  let callers := coordinator memoryReceipts .ascii
  let call := deployCall .ascii "op-1" fakeProvider
  let started : Pool Nat (DeployAction Unit) (DeployWorld (String → Option DeploymentRecord)) :=
    ⟨DeployWorld.untouched (fun _ => none) (.ok fakePayload) (.ok fakeResponse), fun _ => .done ()⟩
  let first := callers.acts 0 2 (System.launch 0 call started)
  let second := callers.acts 1 2 (System.launch 1 call first)
  let finished := callers.acts 0 3 second
  callers.acts 1 2 (System.launch 1 call finished)

theorem overlappingDeployments_reached :
    (coordinator memoryReceipts .ascii).Reaches (unrestricted _ _ _)
      ⟨untouched (fun _ => none) (.ok fakePayload) (.ok fakeResponse),
        fun _ => .done ()⟩ overlappingDeployments := by
  have acts : ∀ caller count pool, (coordinator memoryReceipts .ascii).Reaches
      (unrestricted _ _ _) pool ((coordinator memoryReceipts .ascii).acts caller count pool) :=
    fun caller count pool => System.reaches_acts (fun _ _ _ _ _ => trivial)
      (System.actsPass_always caller count pool)
  have launches : ∀ caller pool, (coordinator memoryReceipts .ascii).Reaches
      (unrestricted _ _ _) pool
      (System.launch caller (deployCall .ascii "op-1" fakeProvider) pool) :=
    fun caller pool => System.reaches_launch ⟨⟨_, _, rfl⟩, rfl⟩
  exact ((((((launches 0 _).trans (acts 0 2 _)).trans (launches 1 _)).trans (acts 1 2 _)).trans
    (acts 0 3 _)).trans (launches 1 _)).trans (acts 1 2 _)

theorem overlappingDeployments_history : overlappingDeployments.world.history =
      [.built "op-1", .deployed "op-1", .answered "op-1" ⟨"op-1", "fake", "digest", "fake-agent"⟩,
        .answered "op-1" ⟨"op-1", "fake", "digest", "fake-agent"⟩] := by
  decide +kernel

theorem overlappingDeployments_at_most_once : overlappingDeployments.world.history.length = 4 ∧
      overlappingDeployments.world.history.count (.built "op-1") ≤ 1 ∧
      overlappingDeployments.world.history.count (.deployed "op-1") ≤ 1 ∧
      ∀ first second, DeployEvent.answered "op-1" first ∈ overlappingDeployments.world.history →
        DeployEvent.answered "op-1" second ∈ overlappingDeployments.world.history →
          first = second :=
  ⟨by rw [overlappingDeployments_history]; rfl,
    deployOnce_at_most_once memoryReceipts .ascii _ _ _ overlappingDeployments_reached "op-1"⟩

/-! ### Calls that fail before the provider is started -/

section

variable (repository letters) (caller : Nat)

/-- One call from its beginning to its end. -/
def deployAlone (requestId : String) (provider : NegotiatedProvider) (world : DeployWorld State) :
    Except (ProviderReconcileError Error) ProviderDeploymentReceipt × DeployWorld State :=
  alone (DeployAction.perform repository caller) (deployOnce letters requestId provider) world

/-- How many provider processes were started for a request. -/
def DeployWorld.started (world : DeployWorld State) (id : String) : Nat :=
  world.history.count (.deployed id)

variable {repository letters caller}

theorem alone_computed (outcome : Except Failure Result) (world : DeployWorld State) :
    alone (perform repository caller) (computed outcome) world = (outcome, world) := by
  cases outcome <;> rfl

theorem uses_computed {permitted : ∀ ⦃Response : Type⦄, DeployAction Error Response → Prop}
    (outcome : Except Failure Result) : Program.Uses permitted (computed outcome).run := by
  cases outcome <;> exact .done _

/-- The repository does not notice what happens between `begin` and `complete`. -/
theorem deployIdempotent_state (provider : NegotiatedProvider) (requestId : String)
    (world : DeployWorld State) :
    (alone (perform repository caller)
      (deployIdempotent letters provider requestId) world).2.state = world.state := by
  have quiet : Program.Uses (fun ⦃Response : Type⦄ (action : DeployAction Error Response) =>
      ∀ world : DeployWorld State, (action.perform repository caller world).2.state = world.state)
      (deployIdempotent letters provider requestId).run := by
    unfold deployIdempotent
    split
    · exact .done _
    refine uses_bind (uses_attempt fun _ => rfl) fun payload => ?_
    refine uses_bind (uses_computed _) fun _ => ?_
    refine uses_bind (uses_computed _) fun _ => ?_
    refine uses_bind ?_ fun response => uses_computed _
    unfold invoke
    split
    · exact .done _
    · exact uses_bind (uses_attempt fun _ => rfl) fun run => uses_computed _
  exact quiet.run_keeps (fun current : DeployWorld State => current.state = world.state)
    (fun _ _ current keeps same => (keeps current).trans same) rfl

/-- A deployment that succeeds has started the provider. -/
theorem deployIdempotent_started {provider : NegotiatedProvider} {requestId agentId : String}
    {world after : DeployWorld State}
    (succeeded : alone (perform repository caller)
      (deployIdempotent letters provider requestId) world = (.ok agentId, after)) :
    after.started requestId = world.started requestId + 1 := by
  unfold deployIdempotent at succeeded
  split at succeeded
  · cases succeeded
  obtain ⟨payload, built, closure, checks⟩ := alone_bind_eq_ok_at.mp succeeded
  obtain ⟨⟨⟩, first, configured, checks⟩ := alone_bind_eq_ok_at.mp checks
  obtain ⟨⟨⟩, second, conforms, checks⟩ := alone_bind_eq_ok_at.mp checks
  obtain ⟨response, third, invoked, named⟩ := alone_bind_eq_ok_at.mp checks
  rw [alone_computed] at configured conforms named
  cases (Prod.ext_iff.mp configured).2
  cases (Prod.ext_iff.mp conforms).2
  cases (Prod.ext_iff.mp named).2
  unfold invoke at invoked
  split at invoked
  · cases invoked
  obtain ⟨run, fourth, spawned, responded⟩ := alone_bind_eq_ok_at.mp invoked
  rw [alone_computed] at responded
  cases (Prod.ext_iff.mp responded).2
  have opened := (Prod.ext_iff.mp (alone_attempt_eq_ok.mp closure)).2
  have launched := alone_attempt_eq_ok.mp spawned
  obtain ⟨process, left⟩ := Prod.ext_iff.mp launched
  have running : built.process = .ok run := process
  simp only [perform, running] at left
  simp only [perform] at opened
  unfold DeployWorld.started
  rw [← left, ← opened]
  simp [List.count_append]

variable (requestId : String) (provider : NegotiatedProvider)

include provider

/-- What `begin` does to the world a call runs in. -/
theorem alone_begin (world : DeployWorld State) :
    ∃ answer after, perform repository caller (.begin (intentOf provider requestId))
        world = (answer, after) ∧
      after.history = world.history ∧
      repository.record after.state requestId = repository.record
        (repository.begin (intentOf provider requestId) world.state).2 requestId ∧
      Begun (intentOf provider requestId) (repository.record world.state requestId) answer
        (repository.record after.state requestId) :=
  ⟨_, _, rfl, rfl, rfl, repository.begin_own (intentOf provider requestId) world.state⟩

/-- A call that finds a record changes nothing, and fails if the record is in flight. -/
theorem deployBegun_found (record : DeploymentRecord) (world : DeployWorld State) :
    ∃ outcome, alone (perform repository caller)
      (deployBegun letters requestId provider record.report) world = (outcome, world) ∧
        ((∃ intent, record = .inFlight intent) → ∃ error, outcome = .error error) := by
  cases record with
  | inFlight existing =>
    show ∃ outcome, alone _ (computed (validateIntent existing (intentOf provider requestId))
        >>= fun _ => throw .inFlightRequiresReconciliation) world = (outcome, world) ∧ _
    cases checked : validateIntent existing (intentOf provider requestId) with
    | ok value => exact ⟨_, alone_bind_ok (alone_computed _ _), fun _ => ⟨_, rfl⟩⟩
    | error error =>
      exact ⟨_, alone_bind_error (alone_computed _ _), fun _ => ⟨error, rfl⟩⟩
  | complete receipt =>
    show ∃ outcome, alone _ (computed (validateReceipt receipt (intentOf provider requestId))
        >>= fun _ => pure receipt) world = (outcome, world) ∧ _
    cases checked : validateReceipt receipt (intentOf provider requestId) with
    | ok value => exact ⟨_, alone_bind_ok (alone_computed _ _), nofun⟩
    | error error => exact ⟨_, alone_bind_error (alone_computed _ _), nofun⟩

/-- A request in flight stays in flight: a call for it fails and runs and starts nothing. -/
theorem deployAlone_inFlight {requestId : String}
    (inFlight : repository.record world.state requestId = some (.inFlight intent)) :
    ∃ error after, deployAlone repository letters caller requestId provider world =
      (.error error, after) ∧ after.history = world.history ∧
      repository.record after.state requestId = some (.inFlight intent) := by
  unfold deployAlone deployOnce
  split
  · exact ⟨_, world, rfl, rfl, inFlight⟩
  obtain ⟨answer, after, begun, unlogged, -, own⟩ : ∃ answer after, perform repository caller
        (.begin (intentOf provider requestId)) world = (answer, after) ∧ _ :=
    alone_begin requestId provider world
  rw [inFlight] at own
  generalize left : repository.record after.state requestId = record at own
  cases own with
  | found _ reported =>
    subst reported
    obtain ⟨outcome, ended, fails⟩ : ∃ outcome, alone
        (perform repository caller) (deployBegun letters requestId provider
          (DeploymentRecord.inFlight intent).report) after = (outcome, after) ∧ _ :=
      deployBegun_found requestId provider (.inFlight intent) after
    obtain ⟨error, rfl⟩ := fails ⟨intent, rfl⟩
    refine ⟨error, after, ?_, unlogged, left⟩
    rw [alone_bind_ok (alone_attempt_eq_ok.mpr begun)]
    exact ended
  | refused _ failure =>
    exact ⟨.storage failure, after, alone_bind_error (alone_attempt_error begun), unlogged, left⟩

/-- The completion of a deployment starts nothing. -/
theorem completeDeployment_history (externalAgentId : String) (world : DeployWorld State) :
    (alone (perform repository caller) (completeDeployment requestId provider externalAgentId)
      world).2.history = world.history := by
  have quiet : Program.Uses (fun ⦃Response : Type⦄ (action : DeployAction Error Response) =>
      ∀ world : DeployWorld State,
        (action.perform repository caller world).2.history = world.history)
      (completeDeployment requestId provider externalAgentId).run := by
    refine uses_bind (uses_attempt fun _ => rfl) fun stored => ?_
    exact uses_bind (uses_computed _) fun _ => .done _
  exact quiet.run_keeps (fun current : DeployWorld State => current.history = world.history)
    (fun _ _ current keeps same => (keeps current).trans same) rfl

omit provider

variable {error : ProviderReconcileError Error}

/-- A deployment of an acquired request that fails and starts no provider leaves the repository
as it is. -/
theorem deployAcquired_unstarted {requestId : String} {provider : NegotiatedProvider}
    {world after : DeployWorld State}
    (failed : alone (perform repository caller)
      (deployAcquired letters requestId provider) world = (.error error, after))
    (unstarted : after.started requestId = world.started requestId) :
    after.state = world.state := by
  rcases ran : alone (perform repository caller)
    (deployIdempotent letters provider requestId) world with ⟨outcome, middle⟩
  have state : middle.state = world.state := by
    have kept : (alone (perform repository caller)
        (deployIdempotent letters provider requestId) world).2.state = world.state :=
      deployIdempotent_state provider requestId world
    rw [ran] at kept
    exact kept
  unfold deployAcquired at failed
  cases outcome with
  | error problem =>
    rw [alone_bind_error (by rw [alone_mapError, ran]; rfl)] at failed
    cases failed
    exact state
  | ok agentId =>
    have started := deployIdempotent_started ran
    rw [alone_bind_ok (by rw [alone_mapError, ran]; rfl)] at failed
    have unlogged : after.history = middle.history := by
      have kept : (alone (perform repository caller)
          (completeDeployment requestId provider agentId) middle).2.history = middle.history :=
        completeDeployment_history requestId provider agentId middle
      rw [failed] at kept
      exact kept
    unfold DeployWorld.started at *
    rw [unlogged] at unstarted
    omega

/-- What a call that fails without starting a provider leaves: the record that `begin` left. -/
theorem deployAlone_unstarted {requestId : String} {provider : NegotiatedProvider}
    {world after : DeployWorld State}
    (accepted : isRefusedRequestId requestId = false)
    (failed : deployAlone repository letters caller requestId provider world =
      (.error error, after))
    (unstarted : after.started requestId = world.started requestId) :
    repository.record after.state requestId = repository.record
      (repository.begin (intentOf provider requestId) world.state).2 requestId := by
  unfold deployAlone deployOnce at failed
  rw [if_neg (by simp [accepted])] at failed
  obtain ⟨answer, middle, begun, unlogged, kept, own⟩ : ∃ answer after, perform repository caller
        (.begin (intentOf provider requestId)) world = (answer, after) ∧ _ :=
    alone_begin requestId provider world
  rw [← kept]
  have sameStarted : middle.started requestId = world.started requestId := by
    rw [DeployWorld.started, unlogged, DeployWorld.started]
  generalize repository.record world.state requestId = former at own
  generalize left : repository.record middle.state requestId = record at own
  cases own with
  | acquired =>
    rw [alone_bind_ok (alone_attempt_eq_ok.mpr begun)] at failed
    rw [deployAcquired_unstarted failed (unstarted.trans sameStarted.symm), left]
  | found found reported =>
    subst reported
    rw [alone_bind_ok (alone_attempt_eq_ok.mpr begun)] at failed
    obtain ⟨outcome, ended, -⟩ : ∃ outcome, alone
        (perform repository caller) (deployBegun letters requestId provider
          found.report) middle = (outcome, middle) ∧ _ :=
      deployBegun_found requestId provider found middle
    rw [ended] at failed
    cases failed
    exact left
  | refused _ failure | unanswered failure =>
    rw [alone_bind_error (alone_attempt_error begun)] at failed
    cases failed
    exact left

end

/-- A call that fails and has started no provider either leaves the record of its request as it
was, or has put a request that had no record in flight. The first is the case exactly if the
request id is refused, if there was a record, or if `begin` inserted none. In the second case
every later call for the request fails without running its payload closure or starting a
provider, whatever its provider and its payload are, until the record is settled. -/
theorem deployOnce_failed_unstarted (repository : ProviderDeploymentRepository State Error)
    (letters : LetterCases) (caller : Nat) (requestId : String) (provider : NegotiatedProvider)
    (world after : DeployWorld State) (error : ProviderReconcileError Error)
    (failed : deployAlone repository letters caller requestId provider world =
      (.error error, after))
    (unstarted : after.started requestId = world.started requestId) :
    (repository.record after.state requestId = repository.record world.state requestId ↔
      isRefusedRequestId requestId = true ∨ repository.record world.state requestId ≠ none ∨
        repository.record (repository.begin (intentOf provider requestId) world.state).2
          requestId = none) ∧
    (repository.record after.state requestId ≠ repository.record world.state requestId →
      repository.record after.state requestId = some (.inFlight (intentOf provider requestId)) ∧
        ∀ (another : Nat) (substitute : NegotiatedProvider) (later : DeployWorld State),
          repository.record later.state requestId = repository.record after.state requestId →
            ∃ problem last, deployAlone repository letters another requestId substitute later =
              (.error problem, last) ∧ last.history = later.history ∧
              repository.record last.state requestId =
                repository.record after.state requestId) := by
  cases accepted : isRefusedRequestId requestId with
  | true =>
    unfold deployAlone deployOnce at failed
    rw [if_pos accepted] at failed
    cases failed
    exact ⟨⟨fun _ => .inl rfl, fun _ => rfl⟩, fun changed => (changed rfl).elim⟩
  | false =>
    have left := deployAlone_unstarted accepted failed unstarted
    have own : Begun (intentOf provider requestId) (repository.record world.state requestId)
        _ (repository.record (repository.begin (intentOf provider requestId) world.state).2
          requestId) := repository.begin_own (intentOf provider requestId) world.state
    rw [← left] at own ⊢
    have stays : ∀ intent, repository.record after.state requestId = some (.inFlight intent) →
        ∀ (another : Nat) (substitute : NegotiatedProvider) (later : DeployWorld State),
          repository.record later.state requestId = repository.record after.state requestId →
            ∃ problem last, deployAlone repository letters another requestId substitute later =
              (.error problem, last) ∧ last.history = later.history ∧
              repository.record last.state requestId = repository.record after.state requestId := by
      intro intent inFlight another substitute later same
      rw [inFlight] at same ⊢
      exact deployAlone_inFlight substitute same
    generalize repository.record world.state requestId = former at own ⊢
    generalize repository.record after.state requestId = record at own stays ⊢
    generalize (repository.begin (intentOf provider requestId) world.state).1 = answer at own
    cases own with
    | acquired | unanswered => exact ⟨by simp, fun _ => ⟨rfl, stays _ rfl⟩⟩
    | found => exact ⟨by simp, fun changed => (changed rfl).elim⟩
    | refused => exact ⟨by cases former <;> simp, fun changed => (changed rfl).elim⟩

/-- A payload closure that fails, with nothing deployed yet. -/
def failingPayload : DeployWorld (String → Option DeploymentRecord) :=
  DeployWorld.untouched (fun _ => none) (.error .payload) (.ok fakeResponse)

/-- The world after a call whose payload closure failed. -/
def strandedRequest : DeployWorld (String → Option DeploymentRecord) :=
  (deployAlone memoryReceipts .ascii 0 "op-1" fakeProvider failingPayload).2

theorem deployAlone_failingPayload :
    deployAlone memoryReceipts .ascii 0 "op-1" fakeProvider failingPayload =
      (.error (.provider .payload), strandedRequest) :=
  Prod.ext rfl rfl

/-- The call starts nothing and yet puts the request in flight, so that a call with a payload
that would do fails as well. -/
theorem strandedRequest_inFlight :
    deployAlone memoryReceipts .ascii 0 "op-1" fakeProvider failingPayload =
        (.error (.provider .payload), strandedRequest) ∧
      strandedRequest.started "op-1" = failingPayload.started "op-1" ∧
      memoryReceipts.record failingPayload.state "op-1" = none ∧
      memoryReceipts.record strandedRequest.state "op-1" =
        some (.inFlight ⟨"op-1", "fake", "digest"⟩) ∧
      (deployAlone memoryReceipts .ascii 0 "op-1" fakeProvider
        { strandedRequest with payload := .ok fakePayload }).1 =
          .error .inFlightRequiresReconciliation ∧
      (deployAlone memoryReceipts .ascii 0 "op-1" fakeProvider
        { failingPayload with payload := .ok fakePayload }).1 =
          .ok ⟨"op-1", "fake", "digest", "fake-agent"⟩ :=
  ⟨deployAlone_failingPayload, by decide +kernel, rfl, by decide +kernel, by decide +kernel,
    by decide +kernel⟩

theorem deployOnce_failed_unstarted_failingPayload :
    memoryReceipts.record strandedRequest.state "op-1" = some (.inFlight ⟨"op-1", "fake", "digest"⟩)
      ∧ ∀ (another : Nat) (substitute : NegotiatedProvider)
        (later : DeployWorld (String → Option DeploymentRecord)),
          memoryReceipts.record later.state "op-1" =
              memoryReceipts.record strandedRequest.state "op-1" →
            ∃ problem last, deployAlone memoryReceipts .ascii another "op-1" substitute later =
              (.error problem, last) ∧ last.history = later.history ∧
              memoryReceipts.record last.state "op-1" =
                memoryReceipts.record strandedRequest.state "op-1" :=
  (deployOnce_failed_unstarted memoryReceipts .ascii 0 "op-1" fakeProvider failingPayload
    strandedRequest (.provider .payload) deployAlone_failingPayload (by decide +kernel)).2
    (by decide +kernel)

end BuzzServer
