import HidShift.Lib.Run
import HidShift.Mirror.ValidationSound

/-! Transfer of a mirror image to the device board
(`interchip/profile_transfer.rs`): the sender cuts the image into chunks, the
receiver collects them in its staging buffer and checks the whole. -/

namespace HidShift

open Lib Lib.Checked

inductive ProfileTransferCommand
  | begin (begin : ProfileBegin)
  | chunk (chunk : ProfileChunkData)
  | commit (transferId : UInt32)
deriving DecidableEq

inductive ProfileTransferError
  | busy
  | invalidLength
  | wrongTransfer
  | offsetGap
  | conflictingRetry
deriving DecidableEq, Repr

structure ProfileTransferEncoder where
  image : List UInt8
  begin : ProfileBegin
  offset : Nat
  phase : UInt8

namespace ProfileTransferEncoder

def new (transferId profileHash : UInt32) (image : List UInt8) :
    Except ProfileTransferError ProfileTransferEncoder :=
  if image = [] ∨ hsmiMaxSize < image.length then .error .invalidLength
  else
    .ok { image
          begin :=
            { transferId
              totalLength := UInt32.ofNat image.length
              crc32 := crc32Ieee image
              profileHash }
          offset := 0
          phase := 0 }

variable (encoder : ProfileTransferEncoder)

/-- `from_borrowed` takes every chunk of at most `PROFILE_CHUNK_MAX_DATA_LEN`
bytes, so the end is where `None` is returned. -/
def next : Option ProfileTransferCommand × ProfileTransferEncoder :=
  if encoder.phase = 0 then
    (some (.begin encoder.begin), { encoder with phase := 1 })
  else if encoder.offset < encoder.image.length then
    let stop := min (encoder.offset + profileChunkMaxDataLen)
      encoder.image.length
    let data := slice encoder.image encoder.offset (stop - encoder.offset)
    if fits : data.length ≤ profileChunkMaxDataLen then
      (some (.chunk
        { transferId := encoder.begin.transferId
          offset := UInt32.ofNat encoder.offset
          data := ⟨data, fits⟩ }), { encoder with offset := stop })
    else (none, encoder)
  else if encoder.phase = 1 then
    (some (.commit encoder.begin.transferId), { encoder with phase := 2 })
  else (none, encoder)

/-- The commands up to the first `None`, at most `fuel` of them. -/
def commandsWithin : Nat → ProfileTransferEncoder → List ProfileTransferCommand
  | 0, _ => []
  | fuel + 1, encoder =>
      match encoder.next.1 with
      | none => []
      | some command => command :: commandsWithin fuel encoder.next.2

def commands : List ProfileTransferCommand :=
  commandsWithin (encoder.image.length + 2) encoder

end ProfileTransferEncoder

structure ProfileChunk where
  transferId : UInt32
  offset : UInt32
  data : List UInt8

def ProfileChunkData.asBorrowed (chunk : ProfileChunkData) : ProfileChunk where
  transferId := chunk.transferId
  offset := chunk.offset
  data := chunk.data.toList

structure TransferState where
  begin : ProfileBegin
  nextOffset : Nat

structure CommittedProfile where
  transferId : UInt32
  profileHash : UInt32
  length : Nat

inductive ProfileChunkDisposition
  | appended
  | duplicate
deriving DecidableEq

structure ProfileTransferReceiver where
  staging : List UInt8
  active : Option TransferState
  committed : Option CommittedProfile

def failureResult (transferId profileHash : UInt32)
    (status : ProfileResultStatus) (reason : MirrorRejectReason) :
    ProfileResult where
  transferId := transferId
  profileHash := profileHash
  status := status
  rejectReason := reason.toByte
  detail := 0

def MirrorRejectReason.resultStatus :
    MirrorRejectReason → ProfileResultStatus
  | .endpointResourceExhausted => .resourceExhausted
  | .nonHidInterface | .unsupportedAlternateSetting
  | .unsupportedEndpointType | .packetTooLarge | .unsupportedUsbVersion
  | .remoteWakeUnsupported => .unsupported
  | _ => .invalidImage

theorem MirrorRejectReason.resultStatus_ne_accepted
    (reason : MirrorRejectReason) : reason.resultStatus ≠ .accepted := by
  cases reason <;> decide

namespace ProfileTransferReceiver

def new (staging : List UInt8) : ProfileTransferReceiver where
  staging := staging
  active := none
  committed := none

/-- `&staging[start..stop]`; nothing when that is out of range. -/
def staged (receiver : ProfileTransferReceiver) (start stop : Nat) :
    Option (List UInt8) :=
  if start ≤ stop ∧ stop ≤ receiver.staging.length then
    some (slice receiver.staging start (stop - start))
  else none

variable (receiver : ProfileTransferReceiver)

def cancel : ProfileTransferReceiver := { receiver with active := none }

def clearCommitted : ProfileTransferReceiver :=
  { receiver with committed := none }

/-- `usize::try_from` of the length cannot fail. -/
def begin (start : ProfileBegin) :
    ProfileTransferReceiver × Except ProfileTransferError Unit :=
  let totalLength := start.totalLength.toNat
  if receiver.active ≠ none ∨ receiver.committed ≠ none then
    (receiver, .error .busy)
  else if totalLength = 0 ∨ hsmiMaxSize < totalLength ∨
      receiver.staging.length < totalLength then
    (receiver, .error .invalidLength)
  else
    ({ receiver with active := some { begin := start, nextOffset := 0 } },
      .ok ())

/-- A result of nothing is an access out of range. -/
def chunk (chunk : ProfileChunk) :
    Option (ProfileTransferReceiver ×
      Except ProfileTransferError ProfileChunkDisposition) :=
  match receiver.active with
  | none => some (receiver, .error .wrongTransfer)
  | some state =>
      let offset := chunk.offset.toNat
      let stop := offset + chunk.data.length
      if chunk.transferId ≠ state.begin.transferId then
        some (receiver, .error .wrongTransfer)
      else if chunk.data = [] then
        some (receiver.cancel, .error .invalidLength)
      else if usizeCount ≤ stop then
        some (receiver.cancel, .error .invalidLength)
      else if state.begin.totalLength.toNat < stop then
        some (receiver.cancel, .error .invalidLength)
      else if state.nextOffset < offset then
        some (receiver.cancel, .error .offsetGap)
      else if offset < state.nextOffset then
        if stop ≤ state.nextOffset then
          (receiver.staged offset stop).map fun held =>
            if held = chunk.data then (receiver, .ok .duplicate)
            else (receiver.cancel, .error .conflictingRetry)
        else some (receiver.cancel, .error .conflictingRetry)
      else if stop ≤ receiver.staging.length then
        some ({ receiver with
          staging := overwrite receiver.staging offset chunk.data
          active := some { state with nextOffset := stop } }, .ok .appended)
      else none

def commit (transferId : UInt32) :
    Option (ProfileTransferReceiver × ProfileResult) :=
  match receiver.active with
  | none => some (receiver.cancel,
      failureResult transferId 0 .invalidImage .malformedImage)
  | some state =>
      let profileHash := state.begin.profileHash
      let length := state.begin.totalLength.toNat
      if state.begin.transferId ≠ transferId then
        some (receiver.cancel,
          failureResult transferId profileHash .busy .malformedImage)
      else if state.nextOffset ≠ length then
        some (receiver.cancel,
          failureResult transferId profileHash .invalidImage .malformedImage)
      else
        (receiver.staged 0 length).bind fun image =>
          if crc32Ieee image ≠ state.begin.crc32 then
            some (receiver.cancel, failureResult transferId profileHash
              .invalidImage .malformedImage)
          else
            (validateMirrorImage image).run.map fun
              | .error reason => (receiver.cancel, failureResult transferId
                  profileHash reason.resultStatus reason)
              | .ok _ =>
                  ({ receiver with
                      active := none
                      committed := some { transferId, profileHash, length } },
                    { transferId
                      profileHash
                      status := .accepted
                      rejectReason := MirrorRejectReason.none.toByte
                      detail := 0 })

/-- What `committed` returns. -/
def committedImage : Option (CommittedProfile × List UInt8) :=
  receiver.committed.map fun profile =>
    (profile, slice receiver.staging 0 profile.length)

end ProfileTransferReceiver

inductive ProfileReceiverCall
  | begin (begin : ProfileBegin)
  | chunk (chunk : ProfileChunk)
  | commit (transferId : UInt32)
  | cancel
  | clearCommitted

inductive ProfileReceiverReply
  | begun (result : Except ProfileTransferError Unit)
  | chunked (result : Except ProfileTransferError ProfileChunkDisposition)
  | committed (result : ProfileResult)
  | done

def ProfileTransferReceiver.advance (receiver : ProfileTransferReceiver) :
    ProfileReceiverCall →
      Option (ProfileTransferReceiver × ProfileReceiverReply)
  | .begin start =>
      some ((receiver.begin start).1, .begun (receiver.begin start).2)
  | .chunk chunk =>
      (receiver.chunk chunk).map fun next => (next.1, .chunked next.2)
  | .commit transferId =>
      (receiver.commit transferId).map fun next =>
        (next.1, .committed next.2)
  | .cancel => some (receiver.cancel, .done)
  | .clearCommitted => some (receiver.clearCommitted, .done)

namespace ProfileTransferReceiver

variable {receiver after : ProfileTransferReceiver}

theorem chunk_cases (taken : receiver.chunk piece = some (after, reply)) :
    after = receiver ∨ after = receiver.cancel ∨
      ∃ state, receiver.active = some state ∧
        piece.transferId = state.begin.transferId ∧ piece.data ≠ [] ∧
        piece.offset.toNat = state.nextOffset ∧
        state.nextOffset + piece.data.length ≤ state.begin.totalLength.toNat ∧
        after = { receiver with
          staging :=
            overwrite receiver.staging state.nextOffset piece.data
          active := some { state with
            nextOffset := state.nextOffset + piece.data.length } } ∧
        reply = .ok .appended := by
  rw [chunk] at taken
  split at taken
  · cases taken
    exact .inl rfl
  rename_i state active
  dsimp only at taken
  split at taken
  · cases taken
    exact .inl rfl
  rename_i same
  split at taken
  · cases taken
    exact .inr (.inl rfl)
  rename_i some
  split at taken
  · cases taken
    exact .inr (.inl rfl)
  split at taken
  · cases taken
    exact .inr (.inl rfl)
  rename_i inside
  split at taken
  · cases taken
    exact .inr (.inl rfl)
  rename_i noGap
  split at taken
  · split at taken
    · obtain ⟨held, -, same⟩ := Option.map_eq_some_iff.mp taken
      split at same
      · cases same
        exact .inl rfl
      · cases same
        exact .inr (.inl rfl)
    · cases taken
      exact .inr (.inl rfl)
  rename_i notEarly
  split at taken
  · have next : piece.offset.toNat = state.nextOffset := by omega
    rw [next] at taken inside
    cases taken
    exact .inr (.inr ⟨state, active, not_not.mp same, some, next,
      Nat.le_of_not_lt inside, rfl, rfl⟩)
  · cases taken

theorem chunk_foreign (active : receiver.active = some state)
    (foreign : piece.transferId ≠ state.begin.transferId) :
    receiver.chunk piece = some (receiver, .error .wrongTransfer) := by
  simp only [chunk, active]
  rw [if_pos foreign]

theorem commit_cases {result : ProfileResult}
    (taken : receiver.commit transferId = some (after, result)) :
    (after = receiver.cancel ∧ result.status ≠ .accepted) ∨
      ∃ state image plan, receiver.active = some state ∧
        state.begin.transferId = transferId ∧
        state.nextOffset = state.begin.totalLength.toNat ∧
        receiver.staged 0 state.nextOffset = some image ∧
        crc32Ieee image = state.begin.crc32 ∧
        Yields (validateMirrorImage image) (.ok plan) ∧
        after = { receiver with
          active := none
          committed := some
            { transferId
              profileHash := state.begin.profileHash
              length := state.nextOffset } } ∧
        result.status = .accepted := by
  rw [commit] at taken
  split at taken
  · cases taken
    exact .inl ⟨rfl, by simp [failureResult]⟩
  rename_i state active
  dsimp only at taken
  split at taken
  · cases taken
    exact .inl ⟨rfl, by simp [failureResult]⟩
  rename_i same
  split at taken
  · cases taken
    exact .inl ⟨rfl, by simp [failureResult]⟩
  rename_i complete
  obtain ⟨image, staged, taken⟩ := Option.bind_eq_some_iff.mp taken
  split at taken
  · cases taken
    exact .inl ⟨rfl, by simp [failureResult]⟩
  rename_i crc
  obtain ⟨outcome, validated, taken⟩ := Option.map_eq_some_iff.mp taken
  cases outcome with
  | error reason =>
      cases taken
      exact .inl ⟨rfl, reason.resultStatus_ne_accepted⟩
  | ok plan =>
      rw [← not_not.mp complete] at staged taken
      cases taken
      exact .inr ⟨state, image, plan, active, not_not.mp same,
        not_not.mp complete, staged, not_not.mp crc, validated, rfl, rfl⟩

end ProfileTransferReceiver

def ProfileReceiverCall.ForeignTo (transferId : UInt32) :
    ProfileReceiverCall → Prop
  | .chunk piece => piece.transferId ≠ transferId
  | .commit other => other ≠ transferId
  | _ => False

/-- A call for another transfer leaves the running one alone, for all that can
follow, exactly when it is a chunk. -/
theorem foreign_call_keeps_iff {receiver : ProfileTransferReceiver}
    {state : TransferState} {call : ProfileReceiverCall}
    (active : receiver.active = some state)
    (foreign : call.ForeignTo state.begin.transferId) :
    (∃ after reply, receiver.advance call = some (after, reply) ∧
      after.active = receiver.active ∧ after.staging = receiver.staging ∧
        ∀ calls, Run.attempt ProfileTransferReceiver.advance after calls =
          Run.attempt ProfileTransferReceiver.advance receiver calls) ↔
      ∃ chunk, call = .chunk chunk := by
  cases call with
  | begin start => exact foreign.elim
  | chunk chunk =>
      refine iff_of_true ⟨receiver, .chunked (.error .wrongTransfer), ?_, rfl,
        rfl, fun _ => rfl⟩ ⟨chunk, rfl⟩
      rw [ProfileTransferReceiver.advance,
        ProfileTransferReceiver.chunk_foreign active foreign]
      rfl
  | commit other =>
      refine iff_of_false ?_ ?_
      · intro kept
        obtain ⟨after, reply, taken, same, -, -⟩ := kept
        obtain ⟨⟨next, result⟩, committed, ended⟩ :=
          Option.map_eq_some_iff.mp taken
        cases ended
        rcases ProfileTransferReceiver.commit_cases committed with
          ⟨rfl, -⟩ | ⟨found, image, plan, running, own, -⟩
        · rw [active] at same
          cases same
        · rw [active] at running
          cases running
          exact foreign own.symm
      · intro isChunk
        obtain ⟨chunk, same⟩ := isChunk
        cases same
  | cancel => exact foreign.elim
  | clearCommitted => exact foreign.elim

def halfTransfer : ProfileTransferReceiver where
  staging := [1, 0]
  active := some
    { begin :=
        { transferId := 7, totalLength := 2, crc32 := 0, profileHash := 0 }
      nextOffset := 1 }
  committed := none

theorem foreign_call_keeps_of_chunk :
    ∃ after reply, halfTransfer.advance (.chunk ⟨8, 1, [2]⟩) =
        some (after, reply) ∧
      after.active = halfTransfer.active ∧
        after.staging = halfTransfer.staging ∧
          ∀ calls, Run.attempt ProfileTransferReceiver.advance after calls =
            Run.attempt ProfileTransferReceiver.advance halfTransfer calls :=
  (@foreign_call_keeps_iff halfTransfer _ (.chunk ⟨8, 1, [2]⟩) rfl
    (show (8 : UInt32) ≠ 7 by decide)).mpr ⟨_, rfl⟩

/-- A commit of transfer 8 ends transfer 7, whose next chunk is refused. -/
theorem foreign_commit_ends_the_transfer :
    Run.attempt ProfileTransferReceiver.advance (.new [0, 0])
        [.begin
          { transferId := 7, totalLength := 2, crc32 := 0, profileHash := 0 },
          .chunk ⟨7, 0, [1]⟩, .commit 8, .chunk ⟨7, 1, [2]⟩] =
      some (⟨[1, 0], none, none⟩,
        [.begun (.ok ()), .chunked (.ok .appended),
          .committed (failureResult 8 0 .busy .malformedImage),
          .chunked (.error .wrongTransfer)]) := rfl

end HidShift
