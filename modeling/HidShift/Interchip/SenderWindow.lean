import HidShift.Interchip.Reliable
import HidShift.Lib.FrontFilled

namespace HidShift

open Lib

/-! Sequence numbers against positions in the stream.  The cell queued at
position `i` carries the `i`-th number of the cycle `1, 2, …, 65535, 1, …`,
and a receiver that has accepted `k` cells acknowledges the number before the
`k`-th. -/

def sequenceAt (position : Nat) : UInt16 :=
  UInt16.ofNat (position % 65535 + 1)

def ackAt : Nat → UInt16
  | 0 => 0
  | accepted + 1 => sequenceAt accepted

theorem toNat_sequenceAt (position : Nat) :
    (sequenceAt position).toNat = position % 65535 + 1 := by
  rw [sequenceAt, UInt16.toNat_ofNat']
  apply Nat.mod_eq_of_lt
  have := Nat.mod_lt position (show 0 < 65535 by decide)
  omega

theorem sequenceAt_ne_zero (position : Nat) : sequenceAt position ≠ 0 := by
  intro zero
  have := congrArg UInt16.toNat zero
  rw [toNat_sequenceAt, UInt16.toNat_zero] at this
  omega

theorem nextSequence_sequenceAt (position : Nat) :
    nextSequence (sequenceAt position) = sequenceAt (position + 1) := by
  have current := toNat_sequenceAt position
  have following := toNat_sequenceAt (position + 1)
  rw [nextSequence]
  split
  · rename_i wraps
    rcases wraps with last | zero
    · rw [last] at current
      apply UInt16.toNat_inj.mp
      rw [following]
      change 65535 = _ at current
      change 1 = _
      omega
    · exact absurd zero (sequenceAt_ne_zero position)
  · rename_i inside
    apply UInt16.toNat_inj.mp
    have notLast : (sequenceAt position).toNat ≠ 65535 := fun last =>
      inside (.inl (UInt16.toNat_inj.mp last))
    rw [UInt16.toNat_add, following]
    change (_ + 1) % 65536 = _
    omega

theorem nextSequence_ackAt (accepted : Nat) :
    nextSequence (ackAt accepted) = sequenceAt accepted := by
  cases accepted with
  | zero => decide
  | succ accepted => exact nextSequence_sequenceAt accepted

theorem sequenceAt_inj (near : left < right + 65535 ∧ right < left + 65535)
    (same : sequenceAt left = sequenceAt right) : left = right := by
  have := congrArg UInt16.toNat same
  rw [toNat_sequenceAt, toNat_sequenceAt] at this
  omega

/-- The number `right` comes directly after `left`, zero left out. -/
def FollowsSequence (left right : UInt16) : Prop :=
  left ≠ 0 ∧
    (left = 65535 ∧ right = 1 ∨ left < 65535 ∧ right = left + 1)

theorem sequenceAt_follows (position : Nat) :
    FollowsSequence (sequenceAt position) (sequenceAt (position + 1)) := by
  refine ⟨sequenceAt_ne_zero position, ?_⟩
  rw [← nextSequence_sequenceAt, nextSequence]
  split
  · rename_i wraps
    rcases wraps with last | zero
    · exact .inl ⟨last, rfl⟩
    · exact absurd zero (sequenceAt_ne_zero position)
  · rename_i inside
    refine .inr ⟨?_, rfl⟩
    have notLast : (sequenceAt position).toNat ≠ 65535 := fun last =>
      inside (.inl (UInt16.toNat_inj.mp last))
    have bound := (sequenceAt position).toNat_lt
    rw [UInt16.lt_iff_toNat_lt]
    change _ < 65535
    omega

namespace ReliableSender

/-- The window holds exactly `entries`, in its first slots. -/
def Holds (sender : ReliableSender) (entries : List PendingCell) : Prop :=
  sender.pending.toList = frontFilled spiTxWindow entries

variable {sender : ReliableSender} {entries : List PendingCell}

theorem holds_new (sessionId : UInt32) : (new sessionId).Holds [] := by
  rw [Holds, FrontFilled.nil]
  exact Vector.toList_replicate

theorem Holds.pendingCells (window : sender.Holds entries) :
    sender.pendingCells = entries := by
  rw [ReliableSender.pendingCells, window, FrontFilled.reduceOption]

theorem Holds.length_le (window : sender.Holds entries) :
    entries.length ≤ spiTxWindow := by
  have filled := sender.pending.length_toList
  rw [window] at filled
  exact FrontFilled.length_le filled

theorem payload_queuedCell (content : List UInt8) (recordCount : UInt8)
    (fits : content.length ≤ spiCellPayloadLen) :
    (sender.queuedCell content recordCount).payload = content := by
  have small : content.length < 65536 := by
    unfold spiCellPayloadLen at fits
    omega
  have counted : (UInt16.ofNat content.length).toNat = content.length := by
    rw [UInt16.toNat_ofNat']
    exact Nat.mod_eq_of_lt small
  have header : (sender.queuedCell content recordCount).header.payloadLen =
      UInt16.ofNat content.length := rfl
  rw [SpiCell.payload, header, counted]
  refine List.ext_getElem? fun index => ?_
  rw [List.getElem?_take]
  split
  · rename_i inside
    have inCell : index < spiCellPayloadLen := Nat.lt_of_lt_of_le inside fits
    rw [queuedCell, fillPayload, Vector.toList_ofFn, List.getElem?_ofFn,
      dif_pos inCell, List.getD_eq_getElem?_getD,
      List.getElem?_eq_getElem inside]
    rfl
  · rename_i outside
    exact (List.getElem?_eq_none (Nat.not_lt.mp outside)).symm

theorem queue_ok (window : sender.Holds entries)
    (queued : sender.queue content recordCount nowMs = .ok (cell, after)) :
    content.length ≤ spiCellPayloadLen ∧
      cell = sender.queuedCell content recordCount ∧
        after.Holds (entries ++ [⟨cell, nowMs, 1⟩]) ∧
          after.sessionId = sender.sessionId ∧
            after.nextSequence = HidShift.nextSequence sender.nextSequence := by
  unfold queue at queued
  split at queued
  · cases queued
  · rename_i fits
    split at queued
    · cases queued
    · rename_i slot found
      cases queued
      rw [window] at found
      obtain ⟨rfl, free⟩ := FrontFilled.free_slot found
      refine ⟨Nat.not_lt.mp fits, rfl, ?_, rfl, rfl⟩
      rw [Holds, Vector.toList_setIfInBounds, window,
        FrontFilled.fill_slot free]

theorem queue_session
    (queued : sender.queue content recordCount nowMs = .ok (cell, after)) :
    after.sessionId = sender.sessionId := by
  unfold queue at queued
  split at queued
  · cases queued
  · split at queued
    · cases queued
    · cases queued
      rfl

theorem acknowledgedCount_eq (window : sender.Holds entries)
    (cumulativeAck : UInt16) :
    sender.acknowledgedCount cumulativeAck =
      match entries.findIdx? fun pending =>
          pending.cell.header.txSequence = cumulativeAck with
      | none => 0
      | some index => index + 1 := by
  refine congrArg (fun found : Option Nat =>
    match found with
    | none => 0
    | some index => index + 1) ?_
  rw [window, FrontFilled.find]

theorem acknowledge_removed (cumulativeAck : UInt16) :
    (sender.acknowledge cumulativeAck).1 =
      sender.acknowledgedCount cumulativeAck := by
  simp only [acknowledge]
  split
  · rename_i none_removed
    exact none_removed.symm
  · rfl

theorem acknowledge_holds (window : sender.Holds entries)
    (cumulativeAck : UInt16) :
    (sender.acknowledge cumulativeAck).2.Holds
      (entries.drop (sender.acknowledgedCount cumulativeAck)) := by
  simp only [acknowledge]
  split
  · rename_i none_removed
    rw [none_removed, List.drop_zero]
    exact window
  · rw [Holds, Vector.toList_ofFn, window]
    exact FrontFilled.shift window.length_le _

@[simp] theorem acknowledge_sessionId (cumulativeAck : UInt16) :
    (sender.acknowledge cumulativeAck).2.sessionId = sender.sessionId := by
  simp only [acknowledge]
  split <;> rfl

@[simp] theorem acknowledge_nextSequence (cumulativeAck : UInt16) :
    (sender.acknowledge cumulativeAck).2.nextSequence =
      sender.nextSequence := by
  simp only [acknowledge]
  split <;> rfl

theorem setCumulativeAck_holds (window : sender.Holds entries)
    (cumulativeAck : UInt16) :
    (sender.setCumulativeAck cumulativeAck).Holds
      (entries.map (setPendingAck cumulativeAck)) := by
  rw [Holds, setCumulativeAck, Vector.toList_map, window, FrontFilled.map]

theorem pollRetransmit_cases (window : sender.Holds entries)
    (nowMs timeoutMs : UInt64) (maxAttempts : UInt8) :
    (sender.pollRetransmit nowMs timeoutMs maxAttempts = (.idle, sender) ∨
      sender.pollRetransmit nowMs timeoutMs maxAttempts =
        (.linkResetRequired, sender)) ∨
      ∃ oldest rest attempts after, entries = oldest :: rest ∧
        sender.pollRetransmit nowMs timeoutMs maxAttempts =
          (.send oldest.cell, after) ∧
        after.Holds (⟨oldest.cell, nowMs, attempts⟩ :: rest) ∧
          after.sessionId = sender.sessionId ∧
            after.nextSequence = sender.nextSequence := by
  simp only [pollRetransmit]
  rw [window]
  cases entries with
  | nil =>
      rw [FrontFilled.first_slot_nil]
      exact .inl (.inl rfl)
  | cons oldest rest =>
      rw [FrontFilled.first_slot_cons]
      simp only [FrontFilled.slot_join, List.getElem?_cons_zero]
      split
      · exact .inl (.inl rfl)
      · split
        · exact .inl (.inr rfl)
        · refine .inr
            ⟨oldest, rest, saturatingSucc oldest.attempts, _, rfl, rfl, ?_,
              rfl, rfl⟩
          rw [Holds, Vector.toList_setIfInBounds, window, FrontFilled.set_first]

end ReliableSender

end HidShift
