import HidShift.Bridge.State
import HidShift.Storage.Persist

/-! The configuration waiting to be written (`StoragePersistence`): what is
staged, when it is due and how often it is tried. -/

namespace HidShift

open Lib
open StorageSlotBackend (slot writeSlot other_slot)
open NorFlashStorageBackend
  (Decodes GenerationNewer StorageWriteResult decodes_iff_isOk)

def storageRetryBaseMs : Nat := 1000

def storageRetryMaxMs : Nat := 60000

def storageRetryFailureLimit : UInt8 := 6

structure StoragePersistence where
  normalDelayMs : UInt64
  lazyDelayMs : UInt64
  pendingState : Option StorageState
  pendingPriority : Option StoragePersistPriority
  deadlineMs : Option UInt64
  consecutiveFailures : UInt8
  retrySuspended : Bool

namespace StoragePersistence

def new (normalDelayMs lazyDelayMs : UInt64) : StoragePersistence :=
  ⟨normalDelayMs, lazyDelayMs, none, none, none, 0, false⟩

def delayFor (persistence : StoragePersistence) :
    StoragePersistPriority → UInt64
  | .critical => 0
  | .normal => persistence.normalDelayMs
  | .lazy => persistence.lazyDelayMs

def isNewSnapshot (persistence : StoragePersistence)
    (state : StorageState) : Bool :=
  match persistence.pendingState with
  | none => true
  | some pending => pending.generation ≠ state.generation

def mergedPriority (persistence : StoragePersistence)
    (priority : StoragePersistPriority) : StoragePersistPriority :=
  match persistence.pendingPriority with
  | none => priority
  | some current => current.max priority

def stagedDeadline (persistence : StoragePersistence)
    (priority : StoragePersistPriority) (nowMs : UInt64) : UInt64 :=
  let merged := persistence.mergedPriority priority
  let newDeadline := saturatingAddMs nowMs (persistence.delayFor merged)
  match persistence.deadlineMs with
  | none => newDeadline
  | some currentDeadline =>
      if merged ≠ priority then min currentDeadline newDeadline
      else newDeadline

def stage (persistence : StoragePersistence) (state : StorageState)
    (priority : StoragePersistPriority) (nowMs : UInt64) : StoragePersistence :=
  { persistence with
    consecutiveFailures :=
      if persistence.isNewSnapshot state then 0
      else persistence.consecutiveFailures
    retrySuspended :=
      if persistence.isNewSnapshot state then false
      else persistence.retrySuspended
    pendingState := some state
    pendingPriority := some (persistence.mergedPriority priority)
    deadlineMs := some (persistence.stagedDeadline priority nowMs) }

/-- A snapshot of the generation that is pending replaces it and keeps its
deadline. -/
def stageQuiesceSnapshot (persistence : StoragePersistence)
    (state : StorageState) (nowMs : UInt64) : StoragePersistence :=
  if persistence.isNewSnapshot state then
    persistence.stage state .critical nowMs
  else
    { persistence with pendingState := some state }

def saturatingSucc (failures : UInt8) : UInt8 :=
  if failures = 255 then 255 else failures + 1

/-- `STORAGE_RETRY_BASE_MS` doubled for every failure but the first, in
saturating 64-bit arithmetic. -/
def retryDelayMs (failures : UInt8) : UInt64 :=
  let shift := failures.toNat - 1
  let factor := if shift < 64 then 1 <<< shift else UInt64.size - 1
  UInt64.ofNat (min (storageRetryBaseMs * factor) storageRetryMaxMs)

def recordFailure (persistence : StoragePersistence) (nowMs : UInt64) :
    StoragePersistence :=
  let failures := saturatingSucc persistence.consecutiveFailures
  if storageRetryFailureLimit ≤ failures then
    { persistence with
      consecutiveFailures := failures
      retrySuspended := true
      deadlineMs := none }
  else
    { persistence with
      consecutiveFailures := failures
      deadlineMs := some (saturatingAddMs nowMs (retryDelayMs failures)) }

def clearPending (persistence : StoragePersistence) : StoragePersistence :=
  { persistence with
    pendingState := none
    pendingPriority := none
    deadlineMs := none
    consecutiveFailures := 0
    retrySuspended := false }

section

variable {β ω : Type} [StorageSlotBackend β ω]

def persistDue (build : Build) (persistence : StoragePersistence)
    (backend : β) (outcome : ω) (nowMs : UInt64) :
    Except StorageError (Option StorageWriteResult) × StoragePersistence × β :=
  match persistence.deadlineMs with
  | none => (.ok none, persistence, backend)
  | some deadlineMs =>
      if nowMs < deadlineMs then (.ok none, persistence, backend)
      else
        match persistence.pendingState with
        | none => (.ok none, persistence, backend)
        | some state =>
            match persistStorageState build backend outcome state with
            | (.ok result, after) =>
                (.ok (some result), persistence.clearPending, after)
            | (.error error, after) =>
                (.error error, persistence.recordFailure nowMs, after)

def flush (build : Build) (persistence : StoragePersistence)
    (backend : β) (outcome : ω) :
    Except StorageError (Option StorageWriteResult) × StoragePersistence × β :=
  match persistence.pendingState with
  | none => (.ok none, persistence, backend)
  | some state =>
      match persistStorageState build backend outcome state with
      | (.ok result, after) =>
          (.ok (some result), persistence.clearPending, after)
      | (.error error, after) => (.error error, persistence, after)

end

structure Scheduled (persistence : StoragePersistence) : Prop where
  paired : persistence.pendingState.isSome =
    persistence.pendingPriority.isSome
  deadline : persistence.pendingState.isSome = true →
    persistence.retrySuspended = false → persistence.deadlineMs.isSome = true

variable {persistence : StoragePersistence}

theorem scheduled_new (normalDelayMs lazyDelayMs : UInt64) :
    (new normalDelayMs lazyDelayMs).Scheduled := by
  refine ⟨rfl, ?_⟩
  intro pending
  cases pending

theorem scheduled_stage (state : StorageState)
    (priority : StoragePersistPriority) (nowMs : UInt64) :
    (persistence.stage state priority nowMs).Scheduled :=
  ⟨rfl, fun _ _ => rfl⟩

theorem Scheduled.stageQuiesceSnapshot (scheduled : persistence.Scheduled)
    (state : StorageState) (nowMs : UInt64) :
    (persistence.stageQuiesceSnapshot state nowMs).Scheduled := by
  unfold StoragePersistence.stageQuiesceSnapshot
  split
  · exact scheduled_stage state .critical nowMs
  · rename_i known
    have pending : persistence.pendingState.isSome = true := by
      unfold isNewSnapshot at known
      cases held : persistence.pendingState with
      | none =>
          rw [held] at known
          exact absurd rfl known
      | some state => rfl
    refine ⟨?_, ?_⟩
    · rw [← scheduled.paired, pending]
      rfl
    · intro _ running
      exact scheduled.deadline pending running

theorem Scheduled.recordFailure (scheduled : persistence.Scheduled)
    (nowMs : UInt64) : (persistence.recordFailure nowMs).Scheduled := by
  unfold StoragePersistence.recordFailure
  dsimp only
  split
  · refine ⟨scheduled.paired, ?_⟩
    intro _ running
    cases running
  · exact ⟨scheduled.paired, fun _ _ => rfl⟩

theorem scheduled_clearPending : persistence.clearPending.Scheduled := by
  refine ⟨rfl, ?_⟩
  intro pending
  cases pending

@[simp] theorem stageQuiesceSnapshot_pendingState (state : StorageState)
    (nowMs : UInt64) :
    (persistence.stageQuiesceSnapshot state nowMs).pendingState =
      some state := by
  unfold StoragePersistence.stageQuiesceSnapshot
  split <;> rfl

@[simp] theorem recordFailure_pendingState (nowMs : UInt64) :
    (persistence.recordFailure nowMs).pendingState =
      persistence.pendingState := by
  unfold StoragePersistence.recordFailure
  dsimp only
  split <;> rfl

end StoragePersistence

end HidShift
