/-
This file develops transactions on an arbitrary state.

A transaction computes on a working copy and may stop with an error after some
of its writes. Run atomically, it either commits the working copy or leaves the
state exactly as it was, and a commit that fails counts as an error too. Each
lemma inverts one building block: what has to be true, and what the working
copy is afterwards, if the block succeeds.
-/

import Mathlib.Control.Monad.Basic

namespace Relational

/-- A computation on the working copy of a transaction. -/
abbrev Transaction (State Error : Type) : Type → Type := StateT State (Except Error)

variable {result : Unit}

namespace Transaction

variable {State Error First Second Result : Type}

/-- Runs a transaction: its working copy is committed if it succeeds and dropped if not. -/
def atomically (commitFault : Option Error) (body : Transaction State Error Result)
    (state : State) : Except Error Result × State :=
  match body state with
  | .error error => (.error error, state)
  | .ok (result, changed) =>
      match commitFault with
      | some fault => (.error fault, state)
      | none => (.ok result, changed)

/-- A check inside a transaction. -/
def ensure (condition : Bool) (error : Error) : Transaction State Error Unit :=
  if condition then pure () else throw error

/-- A value the working copy has to provide. -/
def select (missing : Error) (read : State → Option Result) :
    Transaction State Error Result := fun state =>
  match read state with
  | some value => .ok (value, state)
  | none => .error missing

/-- A write that may fail on its own, with the constraints it has to satisfy. -/
def write (fault : Option Error) (violation : Error) (satisfied : State → Bool)
    (change : State → State) : Transaction State Error Unit := fun state =>
  match fault with
  | some error => .error error
  | none => if satisfied state then .ok ((), change state) else .error violation

/-- A write that no constraint restricts. -/
def writeAlways (fault : Option Error) (change : State → State) :
    Transaction State Error Unit := fun state =>
  match fault with
  | some error => .error error
  | none => .ok ((), change state)

variable {state after : State} {rest : First → Transaction State Error Second}

theorem bind_eq_ok {body : Transaction State Error First} {result : Second} :
    (body >>= rest) state = .ok (result, after) ↔ ∃ value middle, body state = .ok (value, middle) ∧
        rest value middle = .ok (result, after) := by
  show (body state >>= fun outcome => rest outcome.1 outcome.2) = _ ↔ _
  cases body state with
  | error error =>
    constructor
    · intro impossible
      cases impossible
    · rintro ⟨_, _, impossible, -⟩
      cases impossible
  | ok outcome =>
    obtain ⟨value, middle⟩ := outcome
    constructor
    · intro holds
      exact ⟨value, middle, rfl, holds⟩
    · rintro ⟨_, _, same, holds⟩
      cases same
      exact holds

@[simp] theorem pure_eq_ok {value result : Result} :
    (pure value : Transaction State Error Result) state = .ok (result, after) ↔
      result = value ∧ after = state := by
  constructor
  · intro same
    cases same
    exact ⟨rfl, rfl⟩
  · rintro ⟨rfl, rfl⟩
    rfl

variable {error : Error} {commitFault fault : Option Error} {change : State → State}
  {body : Transaction State Error Result}

@[simp] theorem throw_eq_ok {result : Result} :
    (throw error : Transaction State Error Result) state = .ok (result, after) ↔ False := by
  show Except.error error = _ ↔ _
  simp

@[simp] theorem ensure_eq_ok {condition : Bool} :
    (ensure condition error : Transaction State Error Unit) state = .ok (result, after) ↔
      condition = true ∧ after = state := by
  unfold ensure
  cases condition with
  | true => simp
  | false => simp

@[simp] theorem select_eq_ok {missing : Error} {read : State → Option Result} {result : Result} :
    select missing read state = .ok (result, after) ↔ read state = some result ∧ after = state := by
  unfold select
  cases read state with
  | none => simp
  | some value => simp [eq_comm]

variable {satisfied : State → Bool}

@[simp] theorem write_eq_ok {violation : Error} :
    write fault violation satisfied change state = .ok (result, after) ↔
      fault = none ∧ satisfied state = true ∧ after = change state := by
  unfold write
  cases fault with
  | some error => simp
  | none =>
    cases satisfied state with
    | true => simp [eq_comm]
    | false => simp

@[simp] theorem writeAlways_eq_ok : writeAlways fault change state = .ok (result, after) ↔
      fault = none ∧ after = change state := by
  unfold writeAlways
  cases fault with
  | some error => simp
  | none => simp [eq_comm]

@[simp] theorem atomically_eq_ok {result : Result} :
    atomically commitFault body state = (.ok result, after) ↔
      body state = .ok (result, after) ∧ commitFault = none := by
  unfold atomically
  cases body state with
  | error error => simp
  | ok outcome =>
    cases commitFault with
    | some fault => simp
    | none => simp [Prod.ext_iff]

theorem atomically_succeeds_iff {result : Result} :
    (atomically commitFault body state).1 = .ok result ↔
      (∃ after, body state = .ok (result, after)) ∧ commitFault = none := by
  constructor
  · intro succeeded
    obtain ⟨body, committed⟩ := atomically_eq_ok.mp (Prod.ext succeeded rfl)
    exact ⟨⟨_, body⟩, committed⟩
  · rintro ⟨⟨after, body⟩, committed⟩
    rw [atomically_eq_ok.mpr ⟨body, committed⟩]

/-! ### Which error a transaction ends in -/

theorem bind_eq_error {body : Transaction State Error First} :
    (body >>= rest) state = .error error ↔ body state = .error error ∨
        ∃ value middle, body state = .ok (value, middle) ∧ rest value middle = .error error := by
  show (body state >>= fun outcome => rest outcome.1 outcome.2) = _ ↔ _
  cases body state with
  | error stopped =>
    show Except.error stopped = _ ↔ _
    simp
  | ok outcome =>
    obtain ⟨value, middle⟩ := outcome
    constructor
    · intro failed
      exact .inr ⟨value, middle, rfl, failed⟩
    · rintro (impossible | ⟨_, _, same, failed⟩)
      · cases impossible
      · cases same
        exact failed

@[simp] theorem pure_eq_error {value : Result} :
    (pure value : Transaction State Error Result) state = .error error ↔ False := by
  show Except.ok (value, state) = _ ↔ _
  simp

@[simp] theorem write_eq_error {violation : Error} :
    write fault violation satisfied change state = .error error ↔
      fault = some error ∨ fault = none ∧ satisfied state = false ∧ violation = error := by
  unfold write
  cases fault with
  | some stopped => simp
  | none =>
    cases satisfied state with
    | true => simp
    | false => simp

theorem atomically_eq_error : (atomically commitFault body state).1 = .error error ↔
      body state = .error error ∨ (∃ outcome, body state = .ok outcome) ∧
        commitFault = some error := by
  unfold atomically
  cases body state with
  | error stopped => simp
  | ok outcome =>
    cases commitFault with
    | some fault => simp
    | none => simp

/-- Rollback: a transaction that ends in an error changes nothing. -/
theorem atomically_error (failed : atomically commitFault body state = (.error error, after)) :
    after = state := by
  unfold atomically at failed
  split at failed
  · cases failed
    rfl
  · split at failed
    · cases failed
      rfl
    · cases failed

/-- The inversion of a transaction: it fails and changes nothing, or its body succeeds and the
working copy is committed. -/
theorem atomically_cases (commitFault : Option Error) (body : Transaction State Error Result)
    (state : State) :
    (∃ error, atomically commitFault body state = (.error error, state)) ∨
      ∃ result after, body state = .ok (result, after) ∧
        atomically commitFault body state = (.ok result, after) := by
  unfold atomically
  cases body state with
  | error error => exact .inl ⟨error, rfl⟩
  | ok outcome =>
    cases commitFault with
    | some fault => exact .inl ⟨fault, rfl⟩
    | none => exact .inr ⟨outcome.1, outcome.2, rfl, rfl⟩

end Transaction

end Relational
