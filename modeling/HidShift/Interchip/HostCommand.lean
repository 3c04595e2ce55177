import HidShift.Interchip.ControlFragment
import HidShift.Interchip.InputBatch
import HidShift.ManagementCodec
import HidShift.Runtime.Command

/-! What the host sends over the link (`mirror_spi_task.rs`). -/

namespace HidShift

open Lib

namespace HostLink

def retransmitTimeoutMs : UInt64 := 5

def maxRetransmitAttempts : UInt8 := 8

def heartbeatIntervalMs : UInt64 := 500

def linkLossTimeoutMs : UInt64 := 1500

def deviceResetQuietPeriodMs : UInt64 := 2000

def spiReadyDeassertionTimeoutMs : UInt64 := 5

def deviceUsbInputIntervalUs : UInt64 := 1053

def deviceUsbInputMaxBurst : UInt8 := 4

end HostLink

def hostCapabilities : UInt32 :=
  capabilityDynamicProfile ||| capabilityFallbackProfile |||
    capabilityStandardWiredHid ||| capabilityUsbStateReporting |||
      capabilityControlForwarding ||| capabilityHidManagement

def requiredDeviceCapabilities : UInt32 :=
  capabilityFallbackProfile ||| capabilityStandardWiredHid |||
    capabilityUsbStateReporting ||| capabilityHidManagement

inductive WireCommand
  | command (command : DeviceTaskCommand)
  | inputReportBatch (batch : InputReportBatch)
  | controlResponseFragment (response : MirrorControlResponse) (offset : Nat)
  | heartbeat

/-- A response, where its next fragment starts, and whether none is left. -/
structure ControlProgress where
  response : MirrorControlResponse
  nextOffset : Nat
  last : Bool

def nextNonzero (value : UInt16) : UInt16 :=
  if value = 65535 ∨ value = 0 then 1 else value + 1

def notifyReasonFlags : NotifyReason → UInt8
  | .input => 0
  | .inputEdge => (1 : UInt8) <<< 0
  | .inputRelease => (1 : UInt8) <<< 1
  | .targetSwitchRelease => (1 : UInt8) <<< 2
  | .usbDeviceRemovedRelease => (1 : UInt8) <<< 3
  | .safetyRelease => (1 : UInt8) <<< 4

def inputReport (command : DeviceTaskCommand) (reportSequence : UInt16) :
    Option InputReport :=
  match command with
  | .standardReport report reason =>
      some (.standard ⟨notifyReasonFlags reason, reportSequence, report⟩)
  | .rawEndpointIn report => some (.raw report)
  | _ => none

def isInputCommand : DeviceTaskCommand → Bool
  | .standardReport _ _ => true
  | .rawEndpointIn _ => true
  | _ => false

def advanceReportSequence (command : DeviceTaskCommand)
    (reportSequence : UInt16) : UInt16 :=
  match command with
  | .standardReport _ _ => nextNonzero reportSequence
  | _ => reportSequence

def queueContent (sender : ReliableSender) (content : List UInt8)
    (count : UInt8) (nowMs : UInt64) : Option (SpiCell × ReliableSender) :=
  (sender.queue content count nowMs).toOption

def queueRecord (sender : ReliableSender) (recordType : UInt8)
    (data : List UInt8) (nowMs : UInt64) : Option (SpiCell × ReliableSender) :=
  match encodeRecords [⟨recordType, 0, data⟩] with
  | .error _ => none
  | .ok (content, count) => queueContent sender content count nowMs

def hostHello : Hello where
  role := .host
  protocolVersion := spiProtocolVersion
  firmwareMajor := 0
  firmwareMinor := 2
  capabilities := hostCapabilities
  activeProfileHash := 0

def queueHello (sender : ReliableSender) (nowMs : UInt64) :
    Option (SpiCell × ReliableSender) :=
  queueRecord sender recordHello hostHello.encode nowMs

def queueCommand (sender : ReliableSender) (command : DeviceTaskCommand)
    (nowMs : UInt64) : Option (SpiCell × ReliableSender) :=
  match command with
  | .standardReport _ _ => none
  | .rawEndpointIn _ => none
  | .releaseAll => queueRecord sender recordStandardReleaseAll [] nowMs
  | .activateFallback operationId =>
      queueRecord sender recordForceFallback (writeU32 operationId) nowMs
  | .activateMirror activate =>
      queueRecord sender recordActivateProfile activate.encode nowMs
  | .profileBegin start =>
      queueRecord sender recordProfileBegin start.encode nowMs
  | .profileChunk chunk =>
      queueRecord sender recordProfileChunk chunk.encode nowMs
  | .profileCommit transferId =>
      queueRecord sender recordProfileCommit (writeU32 transferId) nowMs
  | .controlResponse _ => none
  | .managementResponse response =>
      queueRecord sender recordManagementResponse response.encode nowMs
  | .managementEvent event =>
      queueRecord sender recordManagementEvent event.encode nowMs

def queueControlResponseFragment (sender : ReliableSender)
    (response : MirrorControlResponse) (offset : Nat) (nowMs : UInt64) :
    Option (SpiCell × ControlProgress × ReliableSender) :=
  match ControlResponseFragment.fromResponse response offset with
  | .error _ => none
  | .ok fragment =>
      (queueRecord sender recordControlResponse fragment.encode nowMs).map
        fun (cell, sender) =>
          (cell,
            ⟨response, offset + fragment.data.toList.length,
              isLastFragment fragment.flags⟩, sender)

def queueWireCommand (sender : ReliableSender) (command : WireCommand)
    (nowMs : UInt64) :
    Option (SpiCell × Option ControlProgress × ReliableSender) :=
  match command with
  | .command command =>
      (queueCommand sender command nowMs).map
        fun (cell, sender) => (cell, none, sender)
  | .inputReportBatch batch =>
      (queueContent sender batch.encoded.1 batch.encoded.2 nowMs).map
        fun (cell, sender) => (cell, none, sender)
  | .controlResponseFragment response offset =>
      (queueControlResponseFragment sender response offset nowMs).map
        fun (cell, progress, sender) => (cell, some progress, sender)
  | .heartbeat =>
      (queueRecord sender recordHeartbeat [] nowMs).map
        fun (cell, sender) => (cell, none, sender)

end HidShift
