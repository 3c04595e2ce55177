import HidShift.Interchip.Cell
import HidShift.Interchip.SenderWindow

namespace HidShift

theorem ReliableSender.valid_queuedCell {sender : ReliableSender}
    {content : List UInt8} (fits : content.length ≤ spiCellPayloadLen)
    (numbered : sender.nextSequence ≠ 0) :
    (sender.queuedCell content recordCount).Valid := by
  have payload := sender.payload_queuedCell content recordCount fits
  exact {
    magic := rfl
    version := rfl
    fits := by
      change (UInt16.ofNat content.length).toNat ≤ _
      rw [UInt16.toNat_ofNat']
      exact Nat.le_trans (Nat.mod_le _ _) fits
    numbered := fun unnumbered => numbered unnumbered.1
    padded := by
      rw [payload]
      rfl }

theorem SpiCell.valid_empty (sessionId : UInt32) :
    (SpiCell.empty sessionId).Valid where
  magic := rfl
  version := rfl
  fits := Nat.zero_le _
  numbered := fun unnumbered => unnumbered.2.elim (absurd rfl) (absurd rfl)
  padded := by
    apply Vector.ext
    intro index inside
    rw [SpiCell.empty, readArray, Vector.getElem_ofFn]
    exact Vector.getElem_replicate inside

def SpiCell.withAck (cell : SpiCell) (cumulativeAck : UInt16) : SpiCell :=
  { cell with header := { cell.header with cumulativeAck } }

theorem SpiCell.Valid.withAck {cell : SpiCell} (valid : cell.Valid)
    (cumulativeAck : UInt16) : (cell.withAck cumulativeAck).Valid where
  magic := valid.magic
  version := valid.version
  fits := valid.fits
  numbered := valid.numbered
  padded := valid.padded

namespace ReliableSender

structure Numbered (sender : ReliableSender) (position : Nat)
    (cell : SpiCell) : Prop where
  valid : cell.Valid
  session : cell.header.sessionId = sender.sessionId
  sequence : cell.header.txSequence = sequenceAt position

structure Stream (sender : ReliableSender) (released : Nat) : Prop where
  window : sender.Holds sender.pendingCells
  next : sender.nextSequence = sequenceAt (released + sender.pendingLen)
  cells : ∀ index pending, sender.pendingCells[index]? = some pending →
    sender.Numbered (released + index) pending.cell

variable {sender after : ReliableSender} {released : Nat}

theorem Stream.length_le (stream : sender.Stream released) :
    sender.pendingLen ≤ 4 := stream.window.length_le

theorem stream_of_empty {sessionId : UInt32} {cumulativeAck : UInt16} :
    Stream ⟨sessionId, 1, cumulativeAck, Vector.replicate spiTxWindow none⟩
      0 := by
  have window := holds_new sessionId
  have none_pending := window.pendingCells
  exact {
    window := by
      change (new sessionId).Holds (new sessionId).pendingCells
      rw [none_pending]
      exact window
    next := by
      change (1 : UInt16) = sequenceAt (0 + (new sessionId).pendingCells.length)
      rw [none_pending]
      decide
    cells := by
      intro index pending found
      change (new sessionId).pendingCells[index]? = some pending at found
      rw [none_pending] at found
      cases found }

theorem stream_new (sessionId : UInt32) : (new sessionId).Stream 0 :=
  stream_of_empty

theorem stream_resetSession (sender : ReliableSender) (sessionId : UInt32) :
    (sender.resetSession sessionId).Stream 0 := stream_of_empty

section

variable (stream : sender.Stream released)

include stream

theorem Stream.queue
    (queued : sender.queue content recordCount nowMs = .ok (cell, after)) :
    after.Stream released ∧ after.sessionId = sender.sessionId ∧
      after.pendingCells = sender.pendingCells ++ [⟨cell, nowMs, 1⟩] ∧
        after.Numbered (released + sender.pendingLen) cell := by
  obtain ⟨fits, rfl, window, session, next⟩ := queue_ok stream.window queued
  have pending := window.pendingCells
  have numbered : after.Numbered (released + sender.pendingLen)
      (sender.queuedCell content recordCount) := {
    valid := valid_queuedCell fits (by
      rw [stream.next]
      exact sequenceAt_ne_zero _)
    session := session.symm
    sequence := stream.next }
  refine ⟨?_, session, pending, numbered⟩
  exact {
    window := by rw [pending]; exact window
    next := by
      rw [next, stream.next, nextSequence_sequenceAt, pendingLen, pendingLen,
        pending, List.length_append, List.length_singleton, Nat.add_assoc]
    cells := by
      intro index entry found
      rw [pending, List.getElem?_append] at found
      split at found
      · have earlier := stream.cells index entry found
        exact ⟨earlier.valid, earlier.session.trans session.symm,
          earlier.sequence⟩
      · rename_i beyond
        obtain ⟨inside, rfl⟩ := List.getElem?_eq_some_iff.mp found
        rw [List.length_singleton] at inside
        have last : index = sender.pendingLen := by
          unfold pendingLen
          omega
        have place : index - sender.pendingCells.length = 0 := by
          unfold pendingLen at last
          omega
        simp only [place, List.getElem_singleton]
        rw [last]
        exact numbered }

theorem Stream.setCumulativeAck (cumulativeAck : UInt16) :
    (sender.setCumulativeAck cumulativeAck).Stream released ∧
      (sender.setCumulativeAck cumulativeAck).pendingCells =
        sender.pendingCells.map (setPendingAck cumulativeAck) := by
  have window := setCumulativeAck_holds stream.window cumulativeAck
  have pending := window.pendingCells
  refine ⟨?_, pending⟩
  exact {
    window := by rw [pending]; exact window
    next := by
      rw [pendingLen, pending, List.length_map]
      exact stream.next
    cells := by
      intro index entry found
      rw [pending, List.getElem?_map] at found
      obtain ⟨original, present, rfl⟩ := Option.map_eq_some_iff.mp found
      have numbered := stream.cells index original present
      exact ⟨numbered.valid.withAck cumulativeAck, numbered.session,
        numbered.sequence⟩ }

theorem Stream.pollRetransmit (nowMs timeoutMs : UInt64) (maxAttempts : UInt8) :
    (sender.pollRetransmit nowMs timeoutMs maxAttempts = (.idle, sender) ∨
      sender.pollRetransmit nowMs timeoutMs maxAttempts =
        (.linkResetRequired, sender)) ∨
      ∃ cell after,
        sender.pollRetransmit nowMs timeoutMs maxAttempts =
          (.send cell, after) ∧
        after.Stream released ∧ after.sessionId = sender.sessionId ∧
          after.pendingLen = sender.pendingLen ∧
            (∃ pending ∈ sender.pendingCells, pending.cell = cell) ∧
              after.Numbered released cell := by
  rcases pollRetransmit_cases stream.window nowMs timeoutMs maxAttempts with
    unchanged | ⟨oldest, rest, attempts, after, entries, polled, window,
      session, next⟩
  · exact .inl unchanged
  · have pending := window.pendingCells
    have same : after.pendingLen = sender.pendingLen := by
      rw [pendingLen, pendingLen, pending, entries, List.length_cons,
        List.length_cons]
    have numbered : after.Numbered released oldest.cell := by
      have first := stream.cells 0 oldest (by rw [entries]; rfl)
      exact ⟨first.valid, first.session.trans session.symm, first.sequence⟩
    have held : oldest ∈ sender.pendingCells := by
      rw [entries]
      exact List.mem_cons_self
    refine .inr ⟨oldest.cell, after, polled, ?_, session, same,
      ⟨oldest, held, rfl⟩, numbered⟩
    exact {
      window := by rw [pending]; exact window
      next := by rw [next, stream.next, same]
      cells := by
        intro index entry found
        rw [pending] at found
        cases index with
        | zero =>
            cases found
            exact numbered
        | succ index =>
            have later := stream.cells (index + 1) entry (by
              rw [entries]
              exact found)
            exact ⟨later.valid, later.session.trans session.symm,
              later.sequence⟩ }

theorem acknowledgedCount_le (cumulativeAck : UInt16) :
    sender.acknowledgedCount cumulativeAck ≤ sender.pendingLen := by
  rw [acknowledgedCount_eq stream.window]
  split
  · exact Nat.zero_le _
  · rename_i found
    exact (List.findIdx?_eq_some_iff_getElem.mp found).1

theorem Stream.acknowledge (cumulativeAck : UInt16) :
    (sender.acknowledge cumulativeAck).2.Stream
        (released + sender.acknowledgedCount cumulativeAck) ∧
      (sender.acknowledge cumulativeAck).2.pendingCells =
        sender.pendingCells.drop (sender.acknowledgedCount cumulativeAck) := by
  have window := acknowledge_holds stream.window cumulativeAck
  have pending := window.pendingCells
  have bounded := acknowledgedCount_le stream cumulativeAck
  refine ⟨?_, pending⟩
  exact {
    window := by rw [pending]; exact window
    next := by
      rw [acknowledge_nextSequence, stream.next, pendingLen, pendingLen,
        pending, List.length_drop]
      unfold pendingLen at bounded
      congr 1
      omega
    cells := by
      intro index entry found
      rw [pending, List.getElem?_drop] at found
      have numbered := stream.cells _ entry found
      rw [← Nat.add_assoc] at numbered
      exact ⟨numbered.valid,
        numbered.session.trans (acknowledge_sessionId _).symm,
        numbered.sequence⟩ }

theorem Stream.acknowledged_sequence {cumulativeAck : UInt16}
    (some_released : sender.acknowledgedCount cumulativeAck ≠ 0) :
    cumulativeAck = sequenceAt
      (released + sender.acknowledgedCount cumulativeAck - 1) := by
  rw [acknowledgedCount_eq stream.window] at some_released ⊢
  split
  · rename_i missing
    rw [missing] at some_released
    exact absurd rfl some_released
  · rename_i index found
    obtain ⟨inside, named, _⟩ := List.findIdx?_eq_some_iff_getElem.mp found
    have numbered := stream.cells index _ (List.getElem?_eq_getElem inside)
    exact (of_decide_eq_true named).symm.trans numbered.sequence

end

end ReliableSender

end HidShift
