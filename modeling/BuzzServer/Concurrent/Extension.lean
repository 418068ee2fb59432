/-
This file extends programs by further actions.

A system is often looked at together with something it was modelled without: a
signal, a remote service, another process. Its actions are then one part of a
larger alphabet, and its programs are programs over that alphabet which use the
part alone. Lifting a program changes neither its steps nor their order, and
commutes with everything programs are built from.
-/

import BuzzServer.Concurrent.Program

namespace Concurrent

/-- The actions of a system together with further ones. -/
inductive Extended (Base Extra : Type → Type) (Response : Type) where
  | base (action : Base Response)
  | extra (action : Extra Response)

variable {Base Extra : Type → Type} {Result First Second Error Other : Type}

/-- A program over the larger alphabet. -/
def Program.lift : Program Base Result → Program (Extended Base Extra) Result
  | .done result => .done result
  | .step action next => .step (.base action) fun response => (next response).lift

theorem Program.lift_bind (program : Program Base First)
    (continuation : First → Program Base Second) :
    (program.bind continuation).lift = (program.lift : Program (Extended Base Extra) First).bind
        fun result => (continuation result).lift := by
  induction program with
  | done result => rfl
  | step action next inductionHypothesis =>
    simp only [Program.step_bind, Program.lift, inductionHypothesis]

namespace Fallible

/-- A fallible program over the larger alphabet. -/
def lift (program : Fallible Base Error Result) : Fallible (Extended Base Extra) Error Result :=
  ExceptT.mk program.run.lift

@[simp] theorem lift_bind (program : Fallible Base Error First)
    (continuation : First → Fallible Base Error Second) :
    (lift (program >>= continuation) : Fallible (Extended Base Extra) Error Second) =
      lift program >>= fun value => lift (continuation value) := by
  refine congrArg ExceptT.mk ((Program.lift_bind _ _).trans ?_)
  congr 1
  funext outcome
  cases outcome <;> rfl

end Fallible

end Concurrent
