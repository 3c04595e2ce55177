import HidShift.Bridge.State
import HidShift.Interchip.Reliable

/-! When the host polls, transfers and takes input (`interchip/recovery.rs`,
`interchip/handshake.rs`, `interchip/rate_budget.rs`). -/

namespace HidShift

inductive RecoveryPhase
  | polling (lastProgressMs : UInt64)
  | quiet (untilMs : UInt64)
deriving Repr

inductive SpiLinkRecoveryAction
  | poll
  | enterQuiet
  | stayQuiet
  | resumePolling
deriving DecidableEq

structure SpiLinkRecovery where
  phase : RecoveryPhase
  progressTimeoutMs : UInt64
  quietPeriodMs : UInt64
deriving Repr

namespace SpiLinkRecovery

def new (startedMs progressTimeoutMs quietPeriodMs : UInt64) :
    SpiLinkRecovery :=
  ⟨.polling startedMs, progressTimeoutMs, quietPeriodMs⟩

def observeValidCell (recovery : SpiLinkRecovery) (nowMs : UInt64) :
    SpiLinkRecovery :=
  match recovery.phase with
  | .polling _ => { recovery with phase := .polling nowMs }
  | .quiet _ => recovery

def advance (recovery : SpiLinkRecovery) (nowMs : UInt64) :
    SpiLinkRecoveryAction × SpiLinkRecovery :=
  match recovery.phase with
  | .polling lastProgressMs =>
      if recovery.progressTimeoutMs ≤
          ReliableSender.saturatingSub nowMs lastProgressMs then
        (.enterQuiet,
          { recovery with
            phase := .quiet (saturatingAddMs nowMs recovery.quietPeriodMs) })
      else (.poll, recovery)
  | .quiet untilMs =>
      if nowMs < untilMs then (.stayQuiet, recovery)
      else (.resumePolling, { recovery with phase := .polling nowMs })

end SpiLinkRecovery

inductive SpiReadyPhase
  | awaitingReady
  | awaitingDeassertion (transferStartedMs : UInt64)
deriving DecidableEq

inductive SpiReadyAction
  | wait
  | transfer
  | recoverTransfer
deriving DecidableEq

structure SpiReadyHandshake where
  phase : SpiReadyPhase
  deassertionTimeoutMs : UInt64
deriving DecidableEq

namespace SpiReadyHandshake

def new (deassertionTimeoutMs : UInt64) : SpiReadyHandshake :=
  ⟨.awaitingReady, deassertionTimeoutMs⟩

def observe (handshake : SpiReadyHandshake)
    (readyHigh deassertionObserved : Bool) (nowMs : UInt64) :
    SpiReadyAction × SpiReadyHandshake :=
  match handshake.phase with
  | .awaitingReady => (if readyHigh then .transfer else .wait, handshake)
  | .awaitingDeassertion transferStartedMs =>
      if deassertionObserved || !readyHigh then
        (if readyHigh then .transfer else .wait,
          { handshake with phase := .awaitingReady })
      else if handshake.deassertionTimeoutMs ≤
          ReliableSender.saturatingSub nowMs transferStartedMs then
        (.recoverTransfer, handshake)
      else (.wait, handshake)

def markTransferStarted (handshake : SpiReadyHandshake) (nowMs : UInt64) :
    SpiReadyHandshake :=
  { handshake with phase := .awaitingDeassertion nowMs }

def cancelTransfer (handshake : SpiReadyHandshake) : SpiReadyHandshake :=
  { handshake with phase := .awaitingReady }

end SpiReadyHandshake

structure FixedIntervalBudget where
  intervalUs : UInt64
  creditUs : UInt64
  lastRefillUs : UInt64
  maxCreditUs : UInt64
deriving Repr

namespace FixedIntervalBudget

def saturatingMul (left right : UInt64) : UInt64 :=
  UInt64.ofNat (min (left.toNat * right.toNat) 0xffffffffffffffff)

def new (nowUs intervalUs : UInt64) (maxBurst : UInt8) :
    FixedIntervalBudget where
  intervalUs
  creditUs := intervalUs
  lastRefillUs := nowUs
  maxCreditUs := saturatingMul intervalUs maxBurst.toUInt64

def refill (budget : FixedIntervalBudget) (nowUs : UInt64) :
    FixedIntervalBudget :=
  let elapsed := ReliableSender.saturatingSub nowUs budget.lastRefillUs
  { budget with
    lastRefillUs := nowUs
    creditUs :=
      min (saturatingAddMs budget.creditUs elapsed) budget.maxCreditUs }

def tryTake (budget : FixedIntervalBudget) (nowUs : UInt64) :
    Bool × FixedIntervalBudget :=
  let refilled := budget.refill nowUs
  if refilled.creditUs < refilled.intervalUs then (false, refilled)
  else
    (true,
      { refilled with creditUs := refilled.creditUs - refilled.intervalUs })

end FixedIntervalBudget

end HidShift
