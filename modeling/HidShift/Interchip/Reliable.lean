import Mathlib.Data.List.Basic
import Mathlib.Data.List.ReduceOption

/-! `interchip/cell.rs` and `interchip/reliable.rs`: the go-back-N link between
the two boards.  Sequence numbers are `u16`, zero marks an idle cell and is
skipped when the counter wraps. -/

namespace HidShift

def spiCellPayloadLen : Nat := 110

def spiTxWindow : Nat := 4

structure SpiCellHeader where
  magic : UInt16
  version : UInt8
  flags : UInt8
  sessionId : UInt32
  txSequence : UInt16
  cumulativeAck : UInt16
  payloadLen : UInt16
  recordCount : UInt8
  receiveWindow : UInt8
deriving Repr

def SpiCellHeader.new (sessionId : UInt32) : SpiCellHeader where
  magic := 0x4853
  version := 1
  flags := 0
  sessionId := sessionId
  txSequence := 0
  cumulativeAck := 0
  payloadLen := 0
  recordCount := 0
  receiveWindow := 4

structure SpiCell where
  header : SpiCellHeader
  bytes : Vector UInt8 spiCellPayloadLen

namespace SpiCell

def empty (sessionId : UInt32) : SpiCell where
  header := SpiCellHeader.new sessionId
  bytes := Vector.replicate spiCellPayloadLen 0

def payload (cell : SpiCell) : List UInt8 :=
  cell.bytes.toList.take cell.header.payloadLen.toNat

end SpiCell

def nextSequence (sequence : UInt16) : UInt16 :=
  if sequence = 65535 ∨ sequence = 0 then 1 else sequence + 1

def previousSequence (sequence : UInt16) : UInt16 :=
  if sequence ≤ 1 then 65535 else sequence - 1

/-- The loop of `is_recent_sequence`, `count` comparisons from `recent`
backwards. -/
def isRecentWithin (candidate : UInt16) : Nat → UInt16 → Bool
  | 0, _ => false
  | count + 1, recent =>
      if candidate = recent then true
      else isRecentWithin candidate count (previousSequence recent)

def isRecentSequence (candidate cumulativeAck : UInt16) : Bool :=
  isRecentWithin candidate spiTxWindow cumulativeAck

structure PendingCell where
  cell : SpiCell
  lastSentMs : UInt64
  attempts : UInt8

inductive SenderError where
  | payloadTooLong
  | windowFull
deriving DecidableEq

inductive RetransmitAction where
  | idle
  | send (cell : SpiCell)
  | linkResetRequired

structure ReliableSender where
  sessionId : UInt32
  nextSequence : UInt16
  cumulativeAck : UInt16
  pending : Vector (Option PendingCell) spiTxWindow

namespace ReliableSender

def new (sessionId : UInt32) : ReliableSender where
  sessionId := sessionId
  nextSequence := 1
  cumulativeAck := 0
  pending := Vector.replicate spiTxWindow none

def resetSession (sender : ReliableSender) (sessionId : UInt32) :
    ReliableSender :=
  { sender with
    sessionId
    nextSequence := 1
    cumulativeAck := 0
    pending := Vector.replicate spiTxWindow none }

/-- The occupied slots, oldest first: `pending.iter().flatten()`. -/
def pendingCells (sender : ReliableSender) : List PendingCell :=
  sender.pending.toList.reduceOption

def pendingLen (sender : ReliableSender) : Nat :=
  sender.pendingCells.length

/-- `payload[..len].copy_from_slice` into the zeroed cell. -/
def fillPayload (content : List UInt8) : Vector UInt8 spiCellPayloadLen :=
  Vector.ofFn fun index => content.getD index 0

/-- The cell `queue` builds for the next sequence number. -/
def queuedCell (sender : ReliableSender) (content : List UInt8)
    (recordCount : UInt8) : SpiCell where
  header :=
    { SpiCellHeader.new sender.sessionId with
      txSequence := sender.nextSequence
      cumulativeAck := sender.cumulativeAck
      payloadLen := UInt16.ofNat content.length
      recordCount := recordCount }
  bytes := fillPayload content

def queue (sender : ReliableSender) (content : List UInt8)
    (recordCount : UInt8) (nowMs : UInt64) :
    Except SenderError (SpiCell × ReliableSender) :=
  if spiCellPayloadLen < content.length then
    .error .payloadTooLong
  else
    match sender.pending.toList.findIdx? Option.isNone with
    | none => .error .windowFull
    | some slot =>
        let cell := sender.queuedCell content recordCount
        .ok (cell,
          { sender with
            nextSequence := HidShift.nextSequence sender.nextSequence
            pending :=
              sender.pending.setIfInBounds slot (some ⟨cell, nowMs, 1⟩) })

/-- The slot `acknowledge` finds, as the number of cells it releases. -/
def acknowledgedCount (sender : ReliableSender)
    (cumulativeAck : UInt16) : Nat :=
  match sender.pending.toList.findIdx? fun entry =>
      entry.any fun pending =>
        pending.cell.header.txSequence = cumulativeAck with
  | none => 0
  | some index => index + 1

def acknowledge (sender : ReliableSender) (cumulativeAck : UInt16) :
    Nat × ReliableSender :=
  match sender.acknowledgedCount cumulativeAck with
  | 0 => (0, sender)
  | removed =>
      (removed,
        { sender with
          pending :=
            Vector.ofFn fun destination =>
              sender.pending.toList[destination.val + removed]?.join })

def setPendingAck (cumulativeAck : UInt16) (pending : PendingCell) :
    PendingCell :=
  { pending with
    cell :=
      { pending.cell with
        header := { pending.cell.header with cumulativeAck } } }

def setCumulativeAck (sender : ReliableSender)
    (cumulativeAck : UInt16) : ReliableSender :=
  { sender with
    cumulativeAck
    pending := sender.pending.map (Option.map (setPendingAck cumulativeAck)) }

def saturatingSub (left right : UInt64) : UInt64 :=
  if left < right then 0 else left - right

def saturatingSucc (attempts : UInt8) : UInt8 :=
  if attempts = 255 then 255 else attempts + 1

def pollRetransmit (sender : ReliableSender) (nowMs timeoutMs : UInt64)
    (maxAttempts : UInt8) : RetransmitAction × ReliableSender :=
  match sender.pending.toList.findIdx? Option.isSome with
  | none => (.idle, sender)
  | some slot =>
      match sender.pending.toList[slot]?.join with
      | none => (.idle, sender)
      | some pending =>
          if saturatingSub nowMs pending.lastSentMs < timeoutMs then
            (.idle, sender)
          else if maxAttempts ≤ pending.attempts then
            (.linkResetRequired, sender)
          else
            (.send pending.cell,
              { sender with
                pending :=
                  sender.pending.setIfInBounds slot
                    (some
                      { pending with
                        attempts := saturatingSucc pending.attempts
                        lastSentMs := nowMs }) })

end ReliableSender

inductive ReceiveDisposition where
  | empty
  | sessionChanged
  | accepted (sessionChanged : Bool) (cumulativeAck : UInt16)
  | duplicate (cumulativeAck : UInt16)
  | gap (expected cumulativeAck : UInt16)
deriving DecidableEq

/-- The cell belongs to another session than the ones before. -/
def ReceiveDisposition.remoteSessionChanged : ReceiveDisposition → Bool
  | .accepted changed _ => changed
  | .sessionChanged => true
  | _ => false

structure ReliableReceiver where
  sessionId : Option UInt32
  cumulativeAck : UInt16
deriving DecidableEq

namespace ReliableReceiver

def new : ReliableReceiver where
  sessionId := none
  cumulativeAck := 0

def resetSession (_receiver : ReliableReceiver) (sessionId : UInt32) :
    ReliableReceiver := ⟨some sessionId, 0⟩

def enterSession (receiver : ReliableReceiver) (sessionId : UInt32) :
    ReliableReceiver :=
  if receiver.sessionId ≠ some sessionId then ⟨some sessionId, 0⟩
  else receiver

def receive (receiver : ReliableReceiver) (cell : SpiCell) :
    ReceiveDisposition × ReliableReceiver :=
  let sessionChanged := decide (receiver.sessionId ≠ some cell.header.sessionId)
  let entered := receiver.enterSession cell.header.sessionId
  if cell.header.txSequence = 0 then
    (if sessionChanged then .sessionChanged else .empty, entered)
  else
    let expected := nextSequence entered.cumulativeAck
    if cell.header.txSequence = expected then
      (.accepted sessionChanged cell.header.txSequence,
        { entered with cumulativeAck := cell.header.txSequence })
    else if isRecentSequence cell.header.txSequence entered.cumulativeAck then
      (.duplicate entered.cumulativeAck, entered)
    else
      (.gap expected entered.cumulativeAck, entered)

end ReliableReceiver

theorem ReliableReceiver.receive_cases (receiver : ReliableReceiver)
    (cell : SpiCell) :
    (∃ changed, receiver.receive cell =
        (.accepted changed cell.header.txSequence,
          { receiver.enterSession cell.header.sessionId with
            cumulativeAck := cell.header.txSequence }) ∧
      cell.header.txSequence ≠ 0 ∧
      cell.header.txSequence = nextSequence
        (receiver.enterSession cell.header.sessionId).cumulativeAck) ∨
    ((receiver.receive cell).2 = receiver.enterSession cell.header.sessionId ∧
      ∀ changed ack, (receiver.receive cell).1 ≠ .accepted changed ack) := by
  unfold receive
  simp only
  split
  · refine .inr ⟨rfl, fun changed ack => ?_⟩
    split
    · intro impossible
      cases impossible
    · intro impossible
      cases impossible
  · rename_i numbered
    split
    · rename_i expected
      exact .inl ⟨_, rfl, numbered, expected⟩
    · split
      · exact .inr ⟨rfl, fun _ _ impossible => by cases impossible⟩
      · exact .inr ⟨rfl, fun _ _ impossible => by cases impossible⟩

theorem ReliableReceiver.enterSession_same {receiver : ReliableReceiver}
    {sessionId : UInt32} (same : receiver.sessionId = some sessionId) :
    receiver.enterSession sessionId = receiver :=
  if_neg (fun changed => changed same)

theorem ReliableReceiver.enterSession_sessionId (receiver : ReliableReceiver)
    (sessionId : UInt32) :
    (receiver.enterSession sessionId).sessionId = some sessionId := by
  unfold enterSession
  split
  · rfl
  · rename_i same
    exact Decidable.not_not.mp same

end HidShift
