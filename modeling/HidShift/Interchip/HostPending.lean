import HidShift.Interchip.HostSession

namespace HidShift

open Lib

/-- The records a device sends once and leaves to the host when they are
accepted. -/
inductive RecordOf
  | managementRequest
  | controlRequest
  | rawEndpointOut
  | profileResult
deriving DecidableEq

namespace RecordOf

@[reducible] def Value : RecordOf → Type
  | .managementRequest => ManagementRequest .dual
  | .controlRequest => MirrorControlRequest
  | .rawEndpointOut => RawEndpointReport
  | .profileResult => ProfileResult

def slot : (kind : RecordOf) → ProcessedRecords → Option kind.Value
  | .managementRequest, records => records.managementRequest
  | .controlRequest, records => records.controlRequest
  | .rawEndpointOut, records => records.rawEndpointOut
  | .profileResult, records => records.profileResult

def recordType : RecordOf → UInt8
  | .managementRequest => recordManagementRequest
  | .controlRequest => recordControlRequest
  | .rawEndpointOut => recordRawEndpointOut
  | .profileResult => recordProfileResult

/-- What the data of a record puts into its slot.  A piece of a control
request that does not complete it puts nothing there. -/
def assigns : (kind : RecordOf) → RecordState → List UInt8 →
    Option (Option kind.Value)
  | .managementRequest, _, data =>
      (ManagementRequest.decode .dual data).toOption.map some
  | .controlRequest, state, data =>
      match ControlRequestFragment.decode data with
      | .error _ => none
      | .ok fragment =>
          (state.controlRequestAssembler.push fragment).1.toOption
  | .rawEndpointOut, _, data =>
      (RawEndpointReport.decode data).toOption.map some
  | .profileResult, _, data => (ProfileResult.decode data).toOption.map some

variable (kind : RecordOf)

def write (state : RecordState) (record : Record) :
    Option (Option kind.Value) :=
  if record.recordType = kind.recordType then
    kind.assigns state record.data
  else none

/-- What the records of a cell put into the slot, also those behind a record
that is refused. -/
def writes : RecordState → List (Except RecordCodecError Record) →
    List (Option kind.Value)
  | _, [] => []
  | state, .error _ :: rest => writes state rest
  | state, .ok record :: rest =>
      (kind.write state record).toList ++
        writes (processRecord state .empty record).1 rest

def writesOf (state : RecordState) (cell : SpiCell) :
    List (Option kind.Value) :=
  kind.writes state (RecordIter.ofCell cell).items.1

def contained : LinkAction → List kind.Value
  | .received cell disposition state =>
      if HostLink.isAccepted disposition then
        (kind.writesOf state cell).reduceOption
      else []
  | _ => []

def message : (kind : RecordOf) → HostMessage → Option kind.Value
  | .managementRequest, .managementRequest _ request _ => some request
  | .controlRequest, .mirrorControlRequest request => some request
  | .rawEndpointOut, .mirrorEndpointOut report => some report
  | .profileResult, .deviceProfileResult result => some result
  | _, _ => none

def messageOf (nowMs : UInt64) : (kind : RecordOf) → kind.Value → HostMessage
  | .managementRequest => managementMessage nowMs
  | .controlRequest => .mirrorControlRequest
  | .rawEndpointOut => .mirrorEndpointOut
  | .profileResult => .deviceProfileResult

def sent : LinkAction → List kind.Value
  | .reported message => (kind.message message).toList
  | _ => []

def room : RecordOf → ReportRoom → Bool
  | .managementRequest, room => room.managementRequest
  | .controlRequest, room => room.controlRequest
  | .rawEndpointOut, room => room.rawEndpointOut
  | .profileResult, room => room.profileResult

end RecordOf

variable {processed found : ProcessedRecords} {state next : RecordState}
  {data : List UInt8}

namespace RecordOf

variable (kind : RecordOf)

/-- A cell with values of the kind is read to its end and has only one of
them, which nothing behind it takes away again, and its slot is free. -/
def Keeps (free : Prop) : LinkAction → Prop
  | .received cell disposition state =>
      HostLink.isAccepted disposition = true →
        (kind.writesOf state cell).reduceOption = [] ∨
          (free ∧ (processRecords state cell).2.isSome = true ∧
            ∃ value, (kind.writesOf state cell).reduceOption = [value] ∧
              (kind.writesOf state cell).getLast? = some (some value))
  | _ => True

def reports (room : ReportRoom) (nowMs : UInt64)
    (pending : ProcessedRecords) : List HostMessage × Option kind.Value :=
  report (kind.room room) (kind.messageOf nowMs) (kind.slot pending)

section

variable (room : ReportRoom) (nowMs : UInt64) (pending : ProcessedRecords)

end

end RecordOf

namespace HostLink

end HostLink

namespace RecordOf

open HostLink

variable (kind : RecordOf)

def StepKeeps (before : HostLink) (actions : List LinkAction)
    (after : HostLink) : Prop :=
  (kind.slot before.pending).toList ++ actions.flatMap kind.contained =
    actions.flatMap kind.sent ++ (kind.slot after.pending).toList

theorem StepKeeps.waits (keeps : kind.StepKeeps before actions after)
    (waiting : kind.slot before.pending = some value) :
    value ∈ actions.flatMap kind.sent ∨
      kind.slot after.pending = some value := by
  rw [StepKeeps, waiting] at keeps
  have member : value ∈ actions.flatMap kind.sent ++
      (kind.slot after.pending).toList := by
    rw [← keeps]
    exact List.mem_append_left _ (Option.mem_toList.mpr rfl)
  rcases List.mem_append.mp member with sent | held
  · exact .inl sent
  · exact .inr (Option.mem_toList.mp held)

def stored (profileHash : UInt32) : Record :=
  ⟨recordProfileResult, 0,
    ProfileResult.encode ⟨1, profileHash, .accepted, 0, 0⟩⟩

/-- The first result is sent before the second one comes. -/
def roomy (nowMs : UInt64) : HostInput :=
  ⟨nowMs, 0, ⟨true, true, true, true, true, true, true⟩, true, true⟩

end RecordOf

end HidShift
