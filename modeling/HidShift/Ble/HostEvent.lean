import HidShift.Bridge.State

/-! Events of the BLE stack as events of the bridge (`ble.rs`). -/

namespace HidShift

open Lib

inductive BleHidAttribute
  | keyboardInputCccd
  | mouseInputCccd
  | consumerInputCccd
  | keyboardOutputCccd
  | keyboardOutputReport
  | bootKeyboardOutputReport
  | unknown
deriving DecidableEq

inductive BleHostAdapterEvent
  | connected
  | disconnected
  | securityChanged (encrypted bonded : Bool) (bond : Option StoredBond)
  | gattWrite (encrypted : Bool) (hidAttribute : BleHidAttribute)
      (data : List UInt8)

inductive BleHostAdapterError
  /-- The length error of `BleKeyboardLedOutputReport::from_bytes`. -/
  | output
  | invalidCccdLength
  | invalidOutputReportLength
  | encryptionRequired
  | eventCapacity
deriving Repr

def keyboardReportId : UInt8 := 1

def keyboardLedsFromBleOutput (bytes : List UInt8) :
    Except BleHostAdapterError KeyboardLedState :=
  match bytes with
  | [bits] => .ok (bits.toBitVec &&& 0x07#8)
  | _ => .error .output

def cccdNotifyEnabled (data : List UInt8) : Except BleHostAdapterError Bool :=
  match data with
  | [low, _] => .ok (low &&& 1 != 0)
  | _ => .error .invalidCccdLength

def keyboardOutputReportPayload (data : List UInt8) :
    Except BleHostAdapterError (List UInt8) :=
  match data with
  | [bits] => .ok [bits]
  | [reportId, bits] =>
      if reportId = keyboardReportId then .ok [bits]
      else .error .invalidOutputReportLength
  | _ => .error .invalidOutputReportLength

variable {build : Build}

def cccdEvent (hostId : HostId) (report : ReportKind) (data : List UInt8) :
    Except BleHostAdapterError (List (BridgeEvent build)) :=
  (fun enabled => [.cccdChanged hostId report enabled]) <$>
    cccdNotifyEnabled data

def keyboardLedEvent (hostId : HostId) (bytes : List UInt8) :
    Except BleHostAdapterError (List (BridgeEvent build)) :=
  (fun leds => [.hostKeyboardLedChanged hostId leds]) <$>
    keyboardLedsFromBleOutput bytes

def bridgeEventsFromGattWrite (hostId : HostId)
    (hidAttribute : BleHidAttribute) (data : List UInt8) :
    Except BleHostAdapterError (List (BridgeEvent build)) :=
  match hidAttribute with
  | .keyboardInputCccd => cccdEvent hostId .keyboard data
  | .mouseInputCccd => cccdEvent hostId .mouse data
  | .consumerInputCccd => cccdEvent hostId .consumer data
  | .keyboardOutputCccd => cccdEvent hostId .keyboardOutput data
  | .keyboardOutputReport => do
      keyboardLedEvent hostId (← keyboardOutputReportPayload data)
  | .bootKeyboardOutputReport => keyboardLedEvent hostId data
  | .unknown => .ok []

/-- Every event gives at most one event of the bridge. -/
def bridgeEvents (hostId : HostId) (event : BleHostAdapterEvent) :
    Except BleHostAdapterError (List (BridgeEvent build)) :=
  match event with
  | .connected => .ok [.hostConnected hostId]
  | .disconnected => .ok [.hostDisconnected hostId]
  | .securityChanged encrypted bonded bond =>
      .ok [.hostSecurityChanged hostId encrypted bonded bond]
  | .gattWrite encrypted hidAttribute data =>
      if encrypted then bridgeEventsFromGattWrite hostId hidAttribute data
      else .error .encryptionRequired

/-- The events must fit the caller's vector. -/
def bridgeEventsFromBleHostEvent (capacity : Nat) (hostId : HostId)
    (event : BleHostAdapterEvent) :
    Except BleHostAdapterError (List (BridgeEvent build)) := do
  let events ← bridgeEvents hostId event
  if events.length ≤ capacity then return events
  else .error .eventCapacity

end HidShift
