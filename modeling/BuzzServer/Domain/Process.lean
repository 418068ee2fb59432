/-
This file models the states a supervised process is observed in, with their
transition rule.
-/

import Mathlib.Data.List.Basic

namespace BuzzServer

inductive ObservedProcessState where
  | starting
  | healthy
  | unhealthy
  | stopping
  | exited
  | lost
  deriving DecidableEq

def ObservedProcessState.isTerminal : ObservedProcessState → Bool
  | .exited | .lost => true
  | .starting | .healthy | .unhealthy | .stopping => false

def ObservedProcessState.canTransitionTo (state next : ObservedProcessState) : Bool :=
  if state = next then true
  else
    match state, next with
    | .starting, _ => true
    | .healthy, .unhealthy | .healthy, .stopping | .healthy, .exited | .healthy, .lost => true
    | .unhealthy, .healthy | .unhealthy, .stopping | .unhealthy, .exited
    | .unhealthy, .lost => true
    | .stopping, .exited | .stopping, .lost => true
    | _, _ => false

/-- Every state that is not terminal may end in either terminal state. -/
theorem ObservedProcessState.canTransitionTo_terminal {state next : ObservedProcessState}
    (live : state.isTerminal = false) (ended : next.isTerminal = true) :
    state.canTransitionTo next = true := by
  cases state <;> cases next <;> simp_all [isTerminal, canTransitionTo]

end BuzzServer
