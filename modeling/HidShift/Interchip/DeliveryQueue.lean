import HidShift.Interchip.Reliable
import HidShift.Lib.BoundedVec

/-! What stands behind the cells of a sender, so that it can be sent again in
a new session (`interchip/reliable.rs`). -/

namespace HidShift

open Lib

structure ReliableDeliveryQueue (α : Type) where
  inflight : BoundedVec α spiTxWindow
  retry : BoundedVec α spiTxWindow

namespace ReliableDeliveryQueue

variable {α : Type}

def new : ReliableDeliveryQueue α := ⟨.empty, .empty⟩

def recordQueued (queue : ReliableDeliveryQueue α) (value : α) :
    Except α (ReliableDeliveryQueue α) :=
  match queue.inflight.push? value with
  | some inflight => .ok { queue with inflight }
  | none => .error value

def acknowledge (queue : ReliableDeliveryQueue α) (count : Nat) :
    ReliableDeliveryQueue α :=
  { queue with inflight := queue.inflight.drop count }

def nextRetry (queue : ReliableDeliveryQueue α) :
    Option α × ReliableDeliveryQueue α :=
  (queue.retry.toList.head?, { queue with retry := queue.retry.drop 1 })

/-- Values from the back of `inflight` to the front of `retry`, until one does
not fit; what is left of `inflight` comes with the new `retry`. -/
def moveBack (inflight : BoundedVec α spiTxWindow) :
    Nat → BoundedVec α spiTxWindow →
      BoundedVec α spiTxWindow × BoundedVec α spiTxWindow
  | 0, retry => (inflight.take 0, retry)
  | left + 1, retry =>
      match inflight.toList[left]? with
      | none => moveBack inflight left retry
      | some value =>
          match retry.pushFront? value with
          | none => (inflight.take (left + 1), retry)
          | some retry => moveBack inflight left retry

def retryAfterSessionReset (queue : ReliableDeliveryQueue α) :
    ReliableDeliveryQueue α :=
  let (inflight, retry) :=
    moveBack queue.inflight queue.inflight.toList.length queue.retry
  { inflight, retry }

def hasInflight (queue : ReliableDeliveryQueue α) : Bool :=
  !queue.inflight.toList.isEmpty

theorem recordQueued_ok {queue : ReliableDeliveryQueue α} {value : α}
    (room : queue.inflight.toList.length < spiTxWindow) :
    ∃ recorded, queue.recordQueued value = .ok recorded ∧
      recorded.inflight.toList = queue.inflight.toList ++ [value] ∧
        recorded.retry = queue.retry := by
  obtain ⟨inflight, pushed⟩ : ∃ inflight,
      queue.inflight.push? value = some inflight := by
    rw [← Option.ne_none_iff_exists']
    intro full
    have := BoundedVec.push?_eq_none.mp full
    omega
  refine ⟨{ queue with inflight }, ?_, BoundedVec.push?_eq_some.mp pushed, rfl⟩
  rw [recordQueued, pushed]

theorem moveBack_all (inflight : BoundedVec α spiTxWindow) (left : Nat)
    (retry : BoundedVec α spiTxWindow)
    (within : left ≤ inflight.toList.length)
    (room : left + retry.toList.length ≤ spiTxWindow) :
    (moveBack inflight left retry).1.toList = [] ∧
      (moveBack inflight left retry).2.toList =
        inflight.toList.take left ++ retry.toList := by
  induction left generalizing retry with
  | zero => exact ⟨rfl, rfl⟩
  | succ left ih =>
      have present := List.getElem?_eq_getElem within
      obtain ⟨pushed, pushes⟩ : ∃ pushed,
          retry.pushFront? inflight.toList[left] = some pushed := by
        refine ⟨⟨inflight.toList[left] :: retry.toList, ?_⟩,
          BoundedVec.pushFront?_eq_some.mpr rfl⟩
        rw [List.length_cons]
        omega
      have lists := BoundedVec.pushFront?_eq_some.mp pushes
      have length := congrArg List.length lists
      rw [List.length_cons] at length
      obtain ⟨emptied, moved⟩ := ih pushed (by omega) (by omega)
      rw [moveBack, present]
      simp only [pushes]
      refine ⟨emptied, ?_⟩
      rw [moved, lists, List.take_succ_eq_append_getElem within,
        List.append_assoc]
      rfl

theorem retryAfterSessionReset_all {queue : ReliableDeliveryQueue α}
    (room : queue.inflight.toList.length + queue.retry.toList.length ≤
      spiTxWindow) :
    queue.retryAfterSessionReset.inflight.toList = [] ∧
      queue.retryAfterSessionReset.retry.toList =
        queue.inflight.toList ++ queue.retry.toList := by
  obtain ⟨emptied, moved⟩ := moveBack_all queue.inflight
    queue.inflight.toList.length queue.retry (Nat.le_refl _) room
  rw [List.take_length] at moved
  exact ⟨emptied, moved⟩

end ReliableDeliveryQueue

end HidShift
