import HidShift.Interchip.Message

/-! Input reports that share a cell (`interchip/input_batch.rs`). -/

namespace HidShift

open Lib

def inputReportBatchMaxReports : Nat := 4

inductive InputReport
  | raw (report : RawEndpointReport)
  | standard (report : StandardInputReport)

def InputReport.encode : InputReport → UInt8 × List UInt8
  | .raw report => (recordRawEndpointIn, report.encode)
  | .standard report => (recordStandardInputReport, report.encode)

structure InputReportBatch where
  content : List UInt8
  reportCount : Nat

namespace InputReportBatch

def pushEncoded (batch : InputReportBatch) (recordType : UInt8)
    (data : List UInt8) : InputReportBatch where
  content := batch.content ++ Record.encode ⟨recordType, 0, data⟩
  reportCount := batch.reportCount + 1

def new (report : InputReport) : InputReportBatch :=
  let (recordType, data) := report.encode
  pushEncoded ⟨[], 0⟩ recordType data

def tryPush (batch : InputReportBatch) (report : InputReport) :
    Except InputReport InputReportBatch :=
  if inputReportBatchMaxReports ≤ batch.reportCount then .error report
  else
    let (recordType, data) := report.encode
    if spiCellPayloadLen <
        batch.content.length + align4 (recordHeaderLen + data.length) then
      .error report
    else .ok (batch.pushEncoded recordType data)

def encoded (batch : InputReportBatch) : List UInt8 × UInt8 :=
  (batch.content, UInt8.ofNat batch.reportCount)

end InputReportBatch

end HidShift
