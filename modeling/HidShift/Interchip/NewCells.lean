import HidShift.Interchip.RecordRoundTrip
import HidShift.Interchip.SenderStream

namespace HidShift

/-- What tells a cell from every other one that is pending with it. -/
def SpiCell.key (cell : SpiCell) : UInt32 × UInt16 :=
  (cell.header.sessionId, cell.header.txSequence)

namespace ReliableSender

def Streams (sender : ReliableSender) : Prop :=
  ∃ released, sender.Stream released

def keys (sender : ReliableSender) : List (UInt32 × UInt16) :=
  sender.pendingCells.map fun pending => pending.cell.key

def newCells (before after : ReliableSender) : List SpiCell :=
  (after.pendingCells.map (·.cell)).filter fun cell => cell.key ∉ before.keys

variable {before middle after sender : ReliableSender}

theorem newCells_nil (known : after.keys ⊆ before.keys) :
    before.newCells after = [] := by
  refine List.filter_eq_nil_iff.mpr fun cell member => ?_
  obtain ⟨pending, held, rfl⟩ := List.mem_map.mp member
  rw [decide_eq_true_iff, Decidable.not_not]
  exact known (List.mem_map_of_mem held)

theorem newCells_same (same : after.keys = before.keys) :
    before.newCells after = [] :=
  newCells_nil (same ▸ List.Subset.refl _)

@[simp] theorem newCells_self (sender : ReliableSender) :
    sender.newCells sender = [] := newCells_same rfl

theorem newCells_congr (same : before.keys = middle.keys) :
    before.newCells after = middle.newCells after := by
  rw [newCells, same, newCells]

variable {released : Nat}

section

variable (stream : sender.Stream released)

include stream

theorem keys_setCumulativeAck (cumulativeAck : UInt16) :
    (sender.setCumulativeAck cumulativeAck).keys = sender.keys := by
  rw [keys, keys, (stream.setCumulativeAck cumulativeAck).2, List.map_map]
  rfl

theorem keys_acknowledge (cumulativeAck : UInt16) :
    (sender.acknowledge cumulativeAck).2.keys ⊆ sender.keys := by
  rw [keys, keys, (stream.acknowledge cumulativeAck).2, List.map_drop]
  exact List.drop_subset _ _

theorem keys_pollRetransmit (nowMs timeoutMs : UInt64) (maxAttempts : UInt8) :
    (sender.pollRetransmit nowMs timeoutMs maxAttempts).2.keys =
      sender.keys := by
  rcases pollRetransmit_cases stream.window nowMs timeoutMs maxAttempts with
    (idle | reset) | ⟨oldest, rest, attempts, after, entries, polled, window, _⟩
  · rw [idle]
  · rw [reset]
  · rw [polled, keys, keys, window.pendingCells, entries]
    rfl

theorem keys_session
    (member : key ∈ sender.keys) : key.1 = sender.sessionId := by
  obtain ⟨pending, held, rfl⟩ := List.mem_map.mp member
  obtain ⟨index, inside, found⟩ := List.getElem_of_mem held
  exact (stream.cells index pending
    (List.getElem?_eq_some_iff.mpr ⟨inside, found⟩)).session

end

theorem newCells_session (beforeStream : before.Stream first)
    (afterStream : after.Stream second)
    (changed : after.sessionId ≠ before.sessionId) :
    before.newCells after = after.pendingCells.map (·.cell) := by
  refine List.filter_eq_self.mpr fun cell member => ?_
  obtain ⟨pending, held, rfl⟩ := List.mem_map.mp member
  refine decide_eq_true fun known => changed ?_
  rw [← keys_session afterStream (List.mem_map_of_mem held)]
  exact keys_session beforeStream known

@[simp] theorem keys_resetSession (sender : ReliableSender)
    (sessionId : UInt32) : (sender.resetSession sessionId).keys = [] := by
  change (new sessionId).keys = []
  rw [keys, (holds_new sessionId).pendingCells]
  rfl

theorem newCells_restarted (beforeStream : before.Stream first)
    (afterStream : after.Stream second) (empty : middle.keys = [])
    (changed : after.sessionId ≠ before.sessionId) :
    before.newCells after = middle.newCells after := by
  rw [newCells_session beforeStream afterStream changed]
  symm
  rw [newCells, empty]
  exact List.filter_eq_self.mpr fun _ _ => decide_eq_true List.not_mem_nil

theorem newCells_queue (stream : sender.Stream released)
    (queued : sender.queue content recordCount nowMs = .ok (cell, after)) :
    sender.newCells after = [cell] := by
  obtain ⟨afterStream, session, cells, numbered⟩ := stream.queue queued
  have fresh : cell.key ∉ sender.keys := by
    intro known
    obtain ⟨pending, held, same⟩ := List.mem_map.mp known
    obtain ⟨index, inside, found⟩ := List.getElem_of_mem held
    have earlier := (stream.cells index pending
      (List.getElem?_eq_some_iff.mpr ⟨inside, found⟩)).sequence
    have window := stream.length_le
    have equal := congrArg Prod.snd same
    change pending.cell.header.txSequence = cell.header.txSequence at equal
    rw [earlier, numbered.sequence] at equal
    unfold pendingLen at equal window
    have := sequenceAt_inj (by omega) equal
    omega
  have old : (sender.pendingCells.map (·.cell)).filter
      (fun cell => cell.key ∉ sender.keys) = [] := sender.newCells_self
  rw [newCells, cells, List.map_append, List.filter_append, old]
  exact List.filter_eq_self.mpr fun found member => by
    rw [List.mem_singleton.mp member]
    exact decide_eq_true fresh

structure Adds (before after : ReliableSender) (records : List Record) :
    Prop where
  streams : after.Streams
  session : after.sessionId = before.sessionId
  room : before.pendingLen < spiTxWindow
  new : ∃ cell, before.newCells after = [cell] ∧ cell.CarriesRecords records

theorem adds_queue (streams : sender.Streams)
    (encoded : encodeRecords records = .ok (content, count))
    (queued : sender.queue content count nowMs = .ok (cell, after)) :
    sender.Adds after records := by
  obtain ⟨released, stream⟩ := streams
  obtain ⟨_, cell_eq, window, session, _⟩ := queue_ok stream.window queued
  exact {
    streams := ⟨released, (stream.queue queued).1⟩
    session := session
    room := by
      have bounded := window.length_le
      rw [List.length_append, List.length_singleton] at bounded
      exact bounded
    new := by
      refine ⟨cell, newCells_queue stream queued, ?_⟩
      rw [cell_eq]
      exact sender.queuedCell_carries encoded }

theorem length_keys (sender : ReliableSender) :
    sender.keys.length = sender.pendingLen := List.length_map _

theorem Adds.congr (adds : middle.Adds after records)
    (keys : before.keys = middle.keys)
    (session : middle.sessionId = before.sessionId) :
    before.Adds after records where
  streams := adds.streams
  session := adds.session.trans session
  room := by
    rw [← length_keys, keys, length_keys]
    exact adds.room
  new := by
    rw [newCells_congr keys]
    exact adds.new

end ReliableSender

end HidShift
