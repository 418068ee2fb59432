/-
This file models the cursor of an operator's event stream.

The cursor remembers the ids of the last 4096 events it has accepted and refuses
an event it remembers. So an event that is delivered again much later is accepted
again.
-/

import Mathlib.Data.Finset.Basic
import Mathlib.Data.Finset.Lattice.Lemmas

namespace BuzzServer.EventStream

/-! ### The cursor -/

/-- An event, by what the cursor reads of it. -/
structure Event where
  id : String

def maxDedupIds : Nat := 4096

/-- The ids stand in the order in which they were accepted. -/
structure EventCursor where
  since : Nat
  seenIds : Finset String
  seenOrder : List String

def EventCursor.new (since : Nat) : EventCursor := ⟨since, ∅, []⟩

def EventCursor.accept (cursor : EventCursor) (event : Event) : Bool × EventCursor :=
  if event.id ∈ cursor.seenIds then (false, cursor)
  else
    let seenIds := insert event.id cursor.seenIds
    match cursor.seenOrder ++ [event.id] with
    | expired :: rest =>
        if (expired :: rest).length > maxDedupIds then
          (true, { cursor with seenIds := seenIds.erase expired, seenOrder := rest })
        else (true, { cursor with seenIds := seenIds, seenOrder := expired :: rest })
    | [] => (true, { cursor with seenIds := seenIds, seenOrder := [] })

/-- The cursor after some events, of which the last one comes first. -/
def cursorAfter (since : Nat) : List Event → EventCursor
  | [] => .new since
  | event :: earlier => ((cursorAfter since earlier).accept event).2

/-- The ids that were accepted, the last one first. -/
def accepted (since : Nat) : List Event → List String
  | [] => []
  | event :: earlier =>
      if ((cursorAfter since earlier).accept event).1 then event.id :: accepted since earlier
      else accepted since earlier

/-- The cursor remembers the ids that were accepted last. -/
structure EventCursor.Remembers (cursor : EventCursor) (ids : List String) : Prop where
  order : cursor.seenOrder = (ids.take maxDedupIds).reverse
  ids : cursor.seenIds = cursor.seenOrder.toFinset
  distinct : cursor.seenOrder.Nodup

namespace EventCursor.Remembers

variable {cursor : EventCursor} {ids : List String} (remembers : cursor.Remembers ids)

include remembers

theorem mem_seenIds {id : String} : id ∈ cursor.seenIds ↔ id ∈ ids.take maxDedupIds := by
  rw [remembers.ids, List.mem_toFinset, remembers.order, List.mem_reverse]

/-- With one more id, the queue has the ids that are to be remembered, behind the one that expires
if there is no room for it. -/
theorem queue_cases (id : String) : let window := ((id :: ids).take maxDedupIds).reverse
    cursor.seenOrder ++ [id] = window ∨
      window.length = maxDedupIds ∧ ∃ expired, cursor.seenOrder ++ [id] = expired :: window := by
  have window : ((id :: ids).take maxDedupIds).reverse = (ids.take 4095).reverse ++ [id] :=
    List.reverse_cons
  have order : cursor.seenOrder = ids[4095]?.toList.reverse ++ (ids.take 4095).reverse := by
    rw [remembers.order, maxDedupIds, List.take_add_one, List.reverse_append]
  rw [window, order]
  cases oldest : ids[4095]? with
  | none => exact .inl rfl
  | some expired =>
    obtain ⟨long, -⟩ := List.getElem?_eq_some_iff.mp oldest
    refine .inr ⟨?_, expired, rfl⟩
    rw [List.length_append, List.length_reverse, List.length_take_of_le long.le]
    rfl

/-- An id that is not remembered is accepted, and the oldest one makes room for it. -/
theorem accept_new {event : Event} (unseen : event.id ∉ ids.take maxDedupIds) :
    (cursor.accept event).1 = true ∧ (cursor.accept event).2.Remembers (event.id :: ids) := by
  have distinct : (cursor.seenOrder ++ [event.id]).Nodup := by
    rw [← List.mem_reverse, ← remembers.order] at unseen
    exact remembers.distinct.append (List.nodup_singleton _) (by simpa using unseen)
  have inserted : insert event.id cursor.seenIds = (cursor.seenOrder ++ [event.id]).toFinset := by
    rw [remembers.ids, List.toFinset_append, Finset.union_comm]
    rfl
  unfold EventCursor.accept
  rw [if_neg (remembers.mem_seenIds.not.mpr unseen), inserted]
  rcases remembers.queue_cases event.id with room | ⟨full, expired, queue⟩
  · have short : (cursor.seenOrder ++ [event.id]).length ≤ maxDedupIds := by
      rw [room, List.length_reverse]
      exact List.length_take_le ..
    split
    · next expired rest queue =>
      rw [queue] at short distinct room ⊢
      dsimp only
      rw [if_neg short.not_gt]
      exact ⟨rfl, room, rfl, distinct⟩
    · next queue => simp at queue
  · rw [queue] at distinct ⊢
    have long : (expired :: ((event.id :: ids).take maxDedupIds).reverse).length > maxDedupIds := by
      rw [List.length_cons, full]
      exact Nat.lt_succ_self _
    dsimp only
    rw [if_pos long]
    obtain ⟨absent, distinct⟩ := List.nodup_cons.mp distinct
    refine ⟨rfl, rfl, ?_, distinct⟩
    rw [List.toFinset_cons, Finset.erase_insert (by simpa using absent)]

theorem accept_seen {event : Event} (seen : event.id ∈ ids.take maxDedupIds) :
    cursor.accept event = (false, cursor) :=
  if_pos (remembers.mem_seenIds.mpr seen)

end EventCursor.Remembers

theorem cursorAfter_remembers (since : Nat) (history : List Event) :
    (cursorAfter since history).Remembers (accepted since history) := by
  induction history with
  | nil => exact ⟨rfl, rfl, List.nodup_nil⟩
  | cons event earlier inductionHypothesis =>
    unfold cursorAfter accepted
    by_cases seen : event.id ∈ (accepted since earlier).take maxDedupIds
    · rw [inductionHypothesis.accept_seen seen]
      exact inductionHypothesis
    · obtain ⟨taken, remembers⟩ := inductionHypothesis.accept_new seen
      rw [if_pos taken]
      exact remembers

/-- Whatever events it is given, the cursor remembers at most 4096 ids, each of them once, and
refuses an event exactly if its id is among the last 4096 ids it accepted. -/
theorem eventCursor_window (since : Nat) (history : List Event) :
    let cursor := cursorAfter since history
    cursor.seenOrder.Nodup ∧ cursor.seenOrder.length ≤ maxDedupIds ∧
      cursor.seenIds = cursor.seenOrder.toFinset ∧ ∀ event, (cursor.accept event).1 = false ↔
          event.id ∈ (accepted since history).take maxDedupIds := by
  have remembers := cursorAfter_remembers since history
  refine ⟨remembers.distinct, ?_, remembers.ids, fun event => ⟨fun refused => ?_, fun seen => ?_⟩⟩
  · rw [remembers.order, List.length_reverse]
    exact List.length_take_le ..
  · by_contra unseen
    rw [(remembers.accept_new unseen).1] at refused
    cases refused
  · rw [remembers.accept_seen seen]

end BuzzServer.EventStream
