/-
This file develops loops that end at their first failure.

A loop whose rounds do not concern each other does for an item what the item's
own round does, provided that the loop comes to it; and it comes to it if every
earlier round succeeds.
-/

import BuzzServer.Concurrent.Program

namespace Concurrent

namespace Fallible

section

variable {Action : Type → Type} {World Error Item : Type}
  {semantics : ∀ ⦃Response : Type⦄, Action Response → World → Response × World}
  {body : Item → Fallible Action Error Unit}

theorem alone_forEach_cons (item : Item) (rest : List Item) (world : World) :
    alone semantics (forEach body (item :: rest)) world =
      match alone semantics (body item) world with
      | (.ok (), after) => alone semantics (forEach body rest) after
      | (.error error, after) => (.error error, after) := by
  have unfolded : forEach body (item :: rest) = (do
      body item
      forEach body rest) := rfl
  rw [unfolded]
  rcases round : alone semantics (body item) world with ⟨outcome, after⟩
  cases outcome with
  | ok => rw [alone_bind_ok round]
  | error error => rw [alone_bind_error round]

/-- What no round changes, the loop does not change. -/
theorem alone_forEach_keeps {holds : World → Prop} {items : List Item}
    (each : ∀ item ∈ items, ∀ world,
      holds (alone semantics (body item) world).2 ↔ holds world) (world : World) :
    holds (alone semantics (forEach body items) world).2 ↔ holds world := by
  induction items generalizing world with
  | nil => rfl
  | cons item rest inductionHypothesis =>
    have first := each item (List.mem_cons_self ..) world
    rw [alone_forEach_cons]
    rcases round : alone semantics (body item) world with ⟨outcome, after⟩
    rw [round] at first
    cases outcome with
    | ok =>
      exact (inductionHypothesis (fun later member => each later (List.mem_cons_of_mem _ member))
        after).trans first
    | error error => exact first

/-- A loop comes to its end if every round would succeed by itself, provided that no round
decides about a later one. -/
theorem returns_forEach (fine : Item → World → Prop) {items : List Item}
    (each : ∀ item ∈ items, ∀ world, Returns semantics (body item) world ↔ fine item world)
    (independent : items.Pairwise fun first second => ∀ world,
      fine second (alone semantics (body first) world).2 ↔ fine second world) (world : World) :
    Returns semantics (forEach body items) world ↔ ∀ item ∈ items, fine item world := by
  induction items generalizing world with
  | nil => exact iff_of_true (returns_pure _ _) (by simp)
  | cons item rest inductionHypothesis =>
    obtain ⟨others, remaining⟩ := List.pairwise_cons.mp independent
    have round := each item (List.mem_cons_self ..) world
    have tail := inductionHypothesis
      (fun later member => each later (List.mem_cons_of_mem _ member)) remaining
      (alone semantics (body item) world).2
    have same : (∀ later ∈ rest, fine later (alone semantics (body item) world).2) ↔
        ∀ later ∈ rest, fine later world :=
      forall₂_congr fun later member => others later member world
    unfold forEach
    rw [returns_bind, List.forall_mem_cons, ← round, ← same, ← tail]
    exact exists_and_right

theorem alone_forEach_append (before after : List Item) (world : World) :
    alone semantics (forEach body (before ++ after)) world = alone semantics (do
        forEach body before
        forEach body after) world := by
  induction before generalizing world with
  | nil => rfl
  | cons item rest inductionHypothesis =>
    rw [List.cons_append, alone_forEach_cons]
    rcases round : alone semantics (body item) world with ⟨outcome, left⟩
    cases outcome with
    | ok =>
      have first : alone semantics (forEach body (item :: rest)) world =
          alone semantics (forEach body rest) left := by
        rw [alone_forEach_cons, round]
      simp only [inductionHypothesis]
      rcases loop : alone semantics (forEach body rest) left with ⟨result, last⟩
      cases result with
      | ok => rw [alone_bind_ok loop, alone_bind_ok (first.trans loop)]
      | error error => rw [alone_bind_error loop, alone_bind_error (first.trans loop)]
    | error error =>
      have first : alone semantics (forEach body (item :: rest)) world = (.error error, left) := by
        rw [alone_forEach_cons, round]
      rw [alone_bind_error first]

/-- What only the round of one item brings about is there in the end if the item's own round
brings it about and every earlier round succeeds. -/
theorem forEach_brings_iff (fine : Item → World → Prop) (fresh done own : World → Prop)
    {before after : List Item} {target : Item} {world : World}
    (each : ∀ item ∈ before, ∀ world, Returns semantics (body item) world ↔ fine item world)
    (independent : before.Pairwise fun first second => ∀ world,
      fine second (alone semantics (body first) world).2 ↔ fine second world)
    (kept : ∀ item ∈ before ++ after, ∀ world,
      (fresh (alone semantics (body item) world).2 ↔ fresh world) ∧
        (done (alone semantics (body item) world).2 ↔ done world) ∧
        (own (alone semantics (body item) world).2 ↔ own world))
    (round : ∀ world, fresh world → (done (alone semantics (body target) world).2 ↔ own world))
    (begins : fresh world) (notYet : ¬done world) :
    done (alone semantics (forEach body (before ++ target :: after)) world).2 ↔
      (∀ item ∈ before, fine item world) ∧ own world := by
  have freshBefore : fresh (alone semantics (forEach body before) world).2 ↔ fresh world :=
    alone_forEach_keeps (fun item member world =>
      (kept item (List.mem_append_left _ member) world).1) world
  have keptBefore : done (alone semantics (forEach body before) world).2 ↔ done world :=
    alone_forEach_keeps (fun item member world =>
      (kept item (List.mem_append_left _ member) world).2.1) world
  have ownBefore : own (alone semantics (forEach body before) world).2 ↔ own world :=
    alone_forEach_keeps (fun item member world =>
      (kept item (List.mem_append_left _ member) world).2.2) world
  have comes := returns_forEach fine each independent world
  rw [alone_forEach_append]
  rcases loop : alone semantics (forEach body before) world with ⟨outcome, reached⟩
  rw [loop] at freshBefore keptBefore ownBefore
  unfold Returns at comes
  rw [loop] at comes
  cases outcome with
  | error error =>
    rw [alone_bind_error loop]
    refine iff_of_false (fun brought => notYet (keptBefore.mp brought)) fun both => ?_
    obtain ⟨_, impossible⟩ := comes.mpr both.1
    cases impossible
  | ok =>
    have all : ∀ item ∈ before, fine item world := comes.mp ⟨(), rfl⟩
    have turn := round reached (freshBefore.mpr begins)
    have later : ∀ item ∈ after, ∀ world, done (alone semantics (body item) world).2 ↔ done world :=
      fun item member world => (kept item (List.mem_append_right _ member) world).2.1
    rw [alone_bind_ok loop, alone_forEach_cons]
    rcases ends : alone semantics (body target) reached with ⟨result, left⟩
    rw [ends] at turn
    have brought : done left ↔ (∀ item ∈ before, fine item world) ∧ own world := by
      rw [turn, ownBefore]
      exact (and_iff_right all).symm
    cases result with
    | ok => exact (alone_forEach_keeps later left).trans brought
    | error error => exact brought

end

end Fallible

end Concurrent
