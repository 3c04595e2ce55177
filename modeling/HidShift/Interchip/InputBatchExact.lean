import HidShift.Interchip.InputBatch
import HidShift.Interchip.RecordExact
import HidShift.Lib.ZeroFilled

namespace HidShift

open Lib Lib.Checked

def standardInputMaxLen : Nat := standardInputHeaderLen + 8

def StandardInputReport.encodeBytes (report : StandardInputReport) :
    Checked Empty (List UInt8 × UInt8) := do
  let bytes := List.replicate standardInputMaxLen 0
  let bytes ← stored bytes 1 report.flags
  let bytes ← placed bytes 2 4 (writeU16 report.sequence)
  let (kind, data) := content report.report
  let bytes ← stored bytes 0 kind
  let bytes ← stored bytes 4 (UInt8.ofNat data.length)
  let bytes ← placed bytes standardInputHeaderLen
    (standardInputHeaderLen + data.length) data
  return (bytes, UInt8.ofNat (standardInputHeaderLen + data.length))

/-- The type of the record, the array and the length that is used. -/
def InputReport.encodeBytes :
    InputReport → Checked Empty (UInt8 × List UInt8 × Nat)
  | .raw report => do
      let data := List.replicate rawEndpointMaxWireLen 0
      let reportData := report.data.toList
      let data ← stored data 0 report.endpointAddress
      let data ← placed data 2 4 (writeU16 report.packetSequence)
      let data ← placed data 4 6 (writeU16 (UInt16.ofNat reportData.length))
      let data ← placed data 6 (6 + reportData.length) reportData
      return (recordRawEndpointIn, data, 6 + reportData.length)
  | .standard report => do
      let data := List.replicate rawEndpointMaxWireLen 0
      let (encoded, length) ← report.encodeBytes
      let encoded ← sliced encoded 0 length.toNat
      let data ← placed data 0 length.toNat encoded
      return (recordStandardInputReport, data, length.toNat)

namespace InputReportBatch

/-- The payload of the batch, its used length and its number of reports. -/
structure Buffer where
  payload : Vector UInt8 spiCellPayloadLen
  payloadLen : UInt8
  reportCount : UInt8

namespace Buffer

def empty : Buffer := ⟨Vector.replicate spiCellPayloadLen 0, 0, 0⟩

def pushEncoded (buffer : Buffer) (recordType : UInt8) (data : List UInt8) :
    Checked Empty Buffer := do
  let recordLen := align4 (recordHeaderLen + data.length)
  let offset := buffer.payloadLen.toNat
  let payload ← stored buffer.payload.toList offset recordType
  let payload ← stored payload (offset + 1) 0
  let payload ← placed payload (offset + 2) (offset + 4)
    (writeU16 (UInt16.ofNat data.length))
  let message := offset + recordHeaderLen
  let payload ← placed payload message (message + data.length) data
  let reportCount ← below 256 (buffer.reportCount.toNat + 1)
  return ⟨readArray spiCellPayloadLen payload,
    UInt8.ofNat (offset + recordLen), UInt8.ofNat reportCount⟩

def new (report : InputReport) : Checked Empty Buffer := do
  let (recordType, data, dataLen) ← report.encodeBytes
  let data ← sliced data 0 dataLen
  empty.pushEncoded recordType data

def tryPush (buffer : Buffer) (report : InputReport) :
    Checked Empty (Except InputReport Unit × Buffer) :=
  if inputReportBatchMaxReports ≤ buffer.reportCount.toNat then
    return (.error report, buffer)
  else do
    let (recordType, data, dataLen) ← report.encodeBytes
    let recordLen := align4 (recordHeaderLen + dataLen)
    let offset := buffer.payloadLen.toNat
    if spiCellPayloadLen < offset + recordLen then
      return (.error report, buffer)
    else do
      let data ← sliced data 0 dataLen
      let buffer ← buffer.pushEncoded recordType data
      return (.ok (), buffer)

def encoded (buffer : Buffer) : Checked Empty (List UInt8 × UInt8) := do
  let content ← sliced buffer.payload.toList 0 buffer.payloadLen.toNat
  return (content, buffer.reportCount)

/-- A sequence of `try_push` calls, with the result of each. -/
def tryPushAll : List InputReport → Buffer →
    Checked Empty (List (Except InputReport Unit) × Buffer)
  | [], buffer => return ([], buffer)
  | report :: later, buffer => do
      let (outcome, buffer) ← buffer.tryPush report
      let (outcomes, buffer) ← tryPushAll later buffer
      return (outcome :: outcomes, buffer)

end Buffer

end InputReportBatch

theorem StandardInputReport.content_length (report : StandardHidReport) :
    (content report).2.length ≤ 8 := by
  cases report <;> simp [content]

theorem StandardInputReport.length_encode (report : StandardInputReport) :
    report.encode.length =
      standardInputHeaderLen + (content report.report).2.length := by
  unfold encode
  simp only [List.length_append, List.length_cons, List.length_nil,
    length_writeU16, standardInputHeaderLen]

theorem StandardInputReport.encodeBytes_yields (report : StandardInputReport) :
    Yields report.encodeBytes
      (.ok (zeroFilled standardInputMaxLen report.encode,
        UInt8.ofNat report.encode.length)) := by
  have short := content_length report.report
  have length := report.length_encode
  rw [standardInputHeaderLen] at length
  have start : List.replicate standardInputMaxLen 0 =
      zeroFilled standardInputMaxLen [0] :=
    @ZeroFilled.ofZeros standardInputMaxLen 1 (by decide)
  unfold encodeBytes
  rw [start]
  apply ZeroFilled.yields_stored rfl (by decide)
  apply ZeroFilled.yields_placed rfl (by rw [length_writeU16]; rfl) (by decide)
  apply ZeroFilled.yields_changed (by simp)
  apply ZeroFilled.yields_stored (by simp) (by decide)
  apply ZeroFilled.yields_placed (by simp [standardInputHeaderLen]) rfl
    (Nat.add_le_add_left short _)
  rw [length]
  exact yields_pure _

theorem InputReport.length_encode (report : InputReport) :
    report.encode.2.length ≤ rawEndpointMaxWireLen := by
  cases report with
  | raw report =>
      have short := report.data.length_le
      simp only [encode, RawEndpointReport.encode, List.length_append,
        List.length_cons, List.length_nil, length_writeU16]
      rw [rawEndpointMaxWireLen, rawEndpointHeaderLen]
      omega
  | standard report =>
      have short := StandardInputReport.content_length report.report
      rw [encode, report.length_encode]
      rw [standardInputHeaderLen, rawEndpointMaxWireLen, rawEndpointHeaderLen,
        rawEndpointMaxDataLen]
      omega

theorem InputReport.encodeBytes_yields (report : InputReport) :
    Yields report.encodeBytes
      (.ok (report.encode.1, zeroFilled rawEndpointMaxWireLen report.encode.2,
        report.encode.2.length)) := by
  have short := report.length_encode
  cases report with
  | raw report =>
      have start : List.replicate rawEndpointMaxWireLen 0 =
          zeroFilled rawEndpointMaxWireLen [] := ZeroFilled.nil.symm
      have gap : zeroFilled rawEndpointMaxWireLen [report.endpointAddress] =
          zeroFilled rawEndpointMaxWireLen [report.endpointAddress, 0] :=
        (@ZeroFilled.zeros _ [report.endpointAddress] 1
          (by rw [List.length_singleton]; decide)).symm
      have length : (encode (.raw report)).2.length =
          6 + report.data.toList.length := by
        simp only [encode, RawEndpointReport.encode, List.length_append,
          List.length_cons, List.length_nil, length_writeU16]
      rw [length] at short
      unfold encodeBytes
      rw [start]
      apply ZeroFilled.yields_stored rfl (by decide)
      rw [List.nil_append, gap]
      apply ZeroFilled.yields_placed rfl (by rw [length_writeU16]; rfl)
        (by decide)
      apply ZeroFilled.yields_placed (by simp) (by rw [length_writeU16])
        (by decide)
      apply ZeroFilled.yields_placed (by simp) rfl short
      rw [length]
      exact yields_pure _
  | standard report =>
      have start : List.replicate rawEndpointMaxWireLen 0 =
          zeroFilled rawEndpointMaxWireLen [] := ZeroFilled.nil.symm
      have small := StandardInputReport.content_length report.report
      have length := report.length_encode
      rw [standardInputHeaderLen] at length
      have counted : (UInt8.ofNat report.encode.length).toNat =
          report.encode.length := by
        rw [UInt8.toNat_ofNat']
        omega
      unfold encodeBytes
      refine yields_then report.encodeBytes_yields ?_
      dsimp only
      rw [counted, start]
      refine yields_sliced ⟨Nat.zero_le _, ?_⟩ ?_
      · rw [ZeroFilled.length (by rw [standardInputMaxLen,
          standardInputHeaderLen]; omega), standardInputMaxLen,
          standardInputHeaderLen]
        omega
      rw [Nat.sub_zero, show slice (zeroFilled standardInputMaxLen
        report.encode) 0 report.encode.length = report.encode from
          ZeroFilled.take]
      apply ZeroFilled.yields_placed rfl (Nat.zero_add _) short
      exact yields_pure _

namespace InputReportBatch

structure Buffer.Represents (buffer : Buffer) (batch : InputReportBatch) :
    Prop where
  payload : buffer.payload.toList = zeroFilled spiCellPayloadLen batch.content
  payloadLen : buffer.payloadLen.toNat = batch.content.length
  reportCount : buffer.reportCount.toNat = batch.reportCount
  few : batch.reportCount ≤ inputReportBatchMaxReports
  fits : batch.content.length ≤ spiCellPayloadLen

namespace Buffer

variable {buffer : Buffer} {batch : InputReportBatch}

theorem empty_represents : empty.Represents ⟨[], 0⟩ where
  payload := by
    rw [ZeroFilled.nil]
    exact Vector.toList_replicate
  payloadLen := rfl
  reportCount := rfl
  few := Nat.zero_le _
  fits := Nat.zero_le _

theorem pushEncoded_represents (represents : buffer.Represents batch)
    (recordType : UInt8) (short : data.length ≤ 65535)
    (few : batch.reportCount < inputReportBatchMaxReports)
    (room : batch.content.length + align4 (recordHeaderLen + data.length) ≤
      spiCellPayloadLen) :
    EndsIn (buffer.pushEncoded recordType data) fun next =>
      next.Represents (batch.pushEncoded recordType data) := by
  obtain ⟨payload, payloadLen, reportCount, -, fits⟩ := represents
  have enough := align4_ge (recordHeaderLen + data.length)
  have header : recordHeaderLen = 4 := rfl
  have padded : (Record.encode ⟨recordType, 0, data⟩).length =
      align4 (recordHeaderLen + data.length) := Record.length_encode _
  rw [spiCellPayloadLen] at room
  rw [inputReportBatchMaxReports] at few
  -- What is written, before the padding.
  obtain ⟨written, isWritten⟩ : ∃ written, written = batch.content ++
      [recordType] ++ [0] ++ writeU16 (UInt16.ofNat data.length) ++ data :=
    ⟨_, rfl⟩
  have writtenLength : written.length =
      batch.content.length + (recordHeaderLen + data.length) := by
    rw [isWritten]
    simp [header]
    omega
  have whole : zeroFilled spiCellPayloadLen (batch.content ++
      Record.encode ⟨recordType, 0, data⟩) =
        zeroFilled spiCellPayloadLen written := by
    have zeros := @ZeroFilled.zeros spiCellPayloadLen written
      (align4 (recordHeaderLen + data.length) - (recordHeaderLen + data.length))
      (by rw [writtenLength, spiCellPayloadLen]; omega)
    rw [← zeros, isWritten, Record.encode]
    simp only [List.append_assoc]
    rfl
  refine ⟨⟨readArray spiCellPayloadLen (zeroFilled spiCellPayloadLen written),
    UInt8.ofNat (batch.content.length + align4 (recordHeaderLen + data.length)),
    UInt8.ofNat (batch.reportCount + 1)⟩, ?_, ?_⟩
  · unfold pushEncoded
    rw [payload, payloadLen, reportCount]
    apply ZeroFilled.yields_stored rfl (by rw [spiCellPayloadLen]; omega)
    apply ZeroFilled.yields_stored (by simp) (by rw [spiCellPayloadLen]; omega)
    apply ZeroFilled.yields_placed (by simp) (by simp)
      (by rw [spiCellPayloadLen]; omega)
    apply ZeroFilled.yields_placed (by simp [header]) rfl
      (by rw [spiCellPayloadLen]; omega)
    rw [← isWritten]
    refine yields_lift (if_pos (by omega)) ?_
    exact yields_pure _
  · refine ⟨?_, ?_, ?_, by rw [inputReportBatchMaxReports]; exact few, ?_⟩
    · rw [toList_readArray (ZeroFilled.length (by
        rw [writtenLength, spiCellPayloadLen]; omega))]
      exact whole.symm
    · rw [UInt8.toNat_ofNat']
      change _ = (batch.content ++ Record.encode ⟨recordType, 0, data⟩).length
      rw [List.length_append, padded]
      omega
    · rw [UInt8.toNat_ofNat']
      change _ = batch.reportCount + 1
      omega
    · change (batch.content ++ Record.encode ⟨recordType, 0, data⟩).length ≤ _
      rw [List.length_append, padded, spiCellPayloadLen]
      omega

theorem encode_represents (represents : buffer.Represents batch)
    (report : InputReport) (few : batch.reportCount < inputReportBatchMaxReports)
    (room : batch.content.length +
      align4 (recordHeaderLen + report.encode.2.length) ≤ spiCellPayloadLen) :
    EndsIn (do
      let data ← sliced (zeroFilled rawEndpointMaxWireLen report.encode.2) 0
        report.encode.2.length
      buffer.pushEncoded report.encode.1 data) fun next =>
        next.Represents (batch.pushEncoded report.encode.1 report.encode.2) := by
  have short := report.length_encode
  have sized := ZeroFilled.length short
  rw [rawEndpointMaxWireLen, rawEndpointHeaderLen, rawEndpointMaxDataLen]
    at short
  refine endsIn_bind (endsIn_lift (if_pos ⟨Nat.zero_le _, ?_⟩) rfl) ?_
  · rintro _ rfl
    rw [Nat.sub_zero, show slice (zeroFilled rawEndpointMaxWireLen
      report.encode.2) 0 report.encode.2.length = report.encode.2 from
        ZeroFilled.take]
    exact pushEncoded_represents represents _ (by omega) few room
  · rw [sized]
    exact report.length_encode

theorem new_represents (report : InputReport) :
    EndsIn (Buffer.new report) fun buffer =>
      buffer.Represents (InputReportBatch.new report) := by
  have short := report.length_encode
  rw [rawEndpointMaxWireLen, rawEndpointHeaderLen, rawEndpointMaxDataLen]
    at short
  refine endsIn_bind ⟨_, report.encodeBytes_yields, rfl⟩ ?_
  rintro _ rfl
  refine encode_represents empty_represents report (by decide) ?_
  rw [align4, recordHeaderLen, spiCellPayloadLen, List.length_nil]
  omega

theorem tryPush_represents (represents : buffer.Represents batch)
    (report : InputReport) :
    ∃ outcome next, Yields (buffer.tryPush report) (.ok (outcome, next)) ∧
      ((batch.tryPush report = .error report ∧ outcome = .error report ∧
          next = buffer) ∨
        ∃ after, batch.tryPush report = .ok after ∧ outcome = .ok () ∧
          next.Represents after) := by
  unfold Buffer.tryPush InputReportBatch.tryPush
  rw [represents.reportCount, represents.payloadLen]
  by_cases full : inputReportBatchMaxReports ≤ batch.reportCount
  · rw [if_pos full, if_pos full]
    exact ⟨_, _, yields_pure _, .inl ⟨rfl, rfl, rfl⟩⟩
  rw [if_neg full, if_neg full]
  by_cases beyond : spiCellPayloadLen < batch.content.length +
      align4 (recordHeaderLen + report.encode.2.length)
  · refine ⟨_, _, yields_then report.encodeBytes_yields ?_, .inl
      ⟨if_pos beyond, rfl, rfl⟩⟩
    dsimp only
    rw [if_pos beyond]
    exact yields_pure _
  · obtain ⟨next, yields, after⟩ := encode_represents represents report
      (Nat.lt_of_not_le full) (Nat.le_of_not_lt beyond)
    refine ⟨.ok (), next, yields_then report.encodeBytes_yields ?_, .inr
      ⟨_, if_neg beyond, rfl, after⟩⟩
    dsimp only
    rw [if_neg beyond, ← bind_assoc]
    exact yields_then yields (yields_pure _)

end Buffer

end InputReportBatch

theorem RawEndpointReport.decode_encode (report : RawEndpointReport) :
    decode report.encode = .ok report := by
  have short : report.data.toList.length ≤ 64 := report.data.length_le
  have length : report.encode.length = 6 + report.data.toList.length := by
    simp only [encode, List.length_append, List.length_cons, List.length_nil,
      length_writeU16]
  have counted : (readU16 (slice report.encode 4 2)).toNat =
      report.data.toList.length := by
    change (readU16 (writeU16 (UInt16.ofNat report.data.toList.length))).toNat =
      _
    rw [readU16_writeU16, UInt16.toNat_ofNat']
    exact Nat.mod_eq_of_lt (by omega)
  have sequence : readU16 (slice report.encode 2 2) = report.packetSequence :=
    readU16_writeU16 _
  have data : report.encode.drop rawEndpointHeaderLen = report.data.toList :=
    rfl
  have passes : ¬ (report.encode.length < rawEndpointHeaderLen ∨
      byteAt report.encode 1 ≠ 0 ∨ (readU16 (slice report.encode 4 2)).toNat ≠
        report.encode.length - rawEndpointHeaderLen) := by
    rw [counted, length, rawEndpointHeaderLen]
    simp [encode, byteAt]
  rw [decode, if_neg passes, sequence, data, new, dif_pos report.data.length_le]
  rfl

theorem StandardInputReport.decodeReport_content (report : StandardHidReport) :
    decodeReport (content report).1 (content report).2 = .ok report := by
  cases report <;> simp [decodeReport, content]

theorem StandardInputReport.decode_encode (report : StandardInputReport) :
    decode report.encode = .ok report := by
  have short := content_length report.report
  have length := report.length_encode
  have sequence : readU16 (slice report.encode 2 2) = report.sequence :=
    readU16_writeU16 _
  have counted : (byteAt report.encode 4).toNat =
      (content report.report).2.length := by
    change (UInt8.ofNat (content report.report).2.length).toNat = _
    rw [UInt8.toNat_ofNat']
    omega
  have data : report.encode.drop standardInputHeaderLen =
      (content report.report).2 := rfl
  have kind : byteAt report.encode 0 = (content report.report).1 := rfl
  have passes : standardInputHeaderLen ≤ report.encode.length ∧
      report.encode.length =
        standardInputHeaderLen + (byteAt report.encode 4).toNat := by
    rw [counted, length]
    exact ⟨Nat.le_add_right _ _, rfl⟩
  rw [decode, require_pos passes, data, kind, decodeReport_content, sequence]
  rfl

def InputReport.record : InputReport → Record
  | .raw report => ⟨recordRawEndpointIn, 0, report.encode⟩
  | .standard report => ⟨recordStandardInputReport, 0, report.encode⟩

def InputReport.ReadFrom (report : InputReport) (record : Record) : Prop :=
  match report with
  | .raw report => record.recordType = recordRawEndpointIn ∧
      RawEndpointReport.decode record.data = .ok report
  | .standard report => record.recordType = recordStandardInputReport ∧
      StandardInputReport.decode record.data = .ok report

theorem InputReport.readFrom_record (report : InputReport) :
    report.ReadFrom report.record := by
  cases report with
  | raw report => exact ⟨rfl, report.decode_encode⟩
  | standard report => exact ⟨rfl, report.decode_encode⟩

namespace InputReportBatch

structure Holds (batch : InputReportBatch) (reports : List InputReport) :
    Prop where
  content : batch.content =
    (reports.map InputReport.record).flatMap Record.encode
  counted : batch.reportCount = reports.length

variable {batch next : InputReportBatch} {reports : List InputReport}

theorem Holds.pushEncoded (holds : batch.Holds reports) (report : InputReport) :
    (batch.pushEncoded report.encode.1 report.encode.2).Holds
      (reports ++ [report]) where
  content := by
    rw [InputReportBatch.pushEncoded, holds.content, List.map_append,
      List.flatMap_append]
    cases report <;> simp [InputReport.record, InputReport.encode]
  counted := by
    rw [InputReportBatch.pushEncoded, holds.counted, List.length_append,
      List.length_singleton]

theorem holds_new (report : InputReport) :
    (InputReportBatch.new report).Holds [report] :=
  @Holds.pushEncoded ⟨[], 0⟩ [] ⟨rfl, rfl⟩ report

theorem Holds.tryPush (holds : batch.Holds reports) {report : InputReport}
    (pushed : batch.tryPush report = .ok next) :
    next.Holds (reports ++ [report]) := by
  unfold InputReportBatch.tryPush at pushed
  split at pushed
  · cases pushed
  · dsimp only at pushed
    split at pushed
    · cases pushed
    · obtain rfl := Except.ok.inj pushed
      exact holds.pushEncoded report

def accepted (reports : List InputReport)
    (outcomes : List (Except InputReport Unit)) : List InputReport :=
  ((reports.zip outcomes).filter fun call => call.2.isOk).map Prod.fst

theorem Holds.encodeRecords (holds : batch.Holds reports)
    {buffer : Buffer} (represents : buffer.Represents batch) :
    ∃ content count, Yields buffer.encoded (.ok (content, count)) ∧
      HidShift.encodeRecords (reports.map InputReport.record) =
        .ok (content, count) ∧
      reports.length ≤ 4 ∧ content.length ≤ 110 := by
  have few : reports.length ≤ 4 := by
    rw [← holds.counted]
    exact represents.few
  have fits := represents.fits
  rw [spiCellPayloadLen] at fits
  refine ⟨batch.content, buffer.reportCount, ?_, ?_, few, fits⟩
  · unfold Buffer.encoded
    rw [represents.payload, represents.payloadLen]
    refine yields_sliced ⟨Nat.zero_le _, ?_⟩ ?_
    · rw [ZeroFilled.length represents.fits]
      exact fits
    · rw [Nat.sub_zero, show slice (zeroFilled spiCellPayloadLen batch.content)
        0 batch.content.length = batch.content from ZeroFilled.take]
      exact yields_pure _
  · have small : ∀ record ∈ reports.map InputReport.record,
        record.data.length ≤ 65535 := by
      intro record member
      obtain ⟨report, -, rfl⟩ := List.mem_map.mp member
      have short : report.encode.2.length ≤ 70 := report.length_encode
      cases report <;> exact short.trans (by decide)
    rw [HidShift.encodeRecords, List.length_map, if_neg (by omega),
      RecordIter.encodeRecordsFrom_fits small, List.nil_append,
      ← holds.content]
    · have counted : UInt8.ofNat reports.length = buffer.reportCount := by
        rw [← holds.counted, ← represents.reportCount, UInt8.ofNat_toNat]
      rw [counted]
      rfl
    · rw [← holds.content, List.length_nil, Nat.zero_add]
      exact represents.fits

theorem tryPushAll_holds {buffer : Buffer} {batch : InputReportBatch}
    (later : List InputReport) (represents : buffer.Represents batch)
    (holds : batch.Holds reports) :
    ∃ outcomes last after, Yields (buffer.tryPushAll later)
        (.ok (outcomes, last)) ∧ outcomes.length = later.length ∧
      last.Represents after ∧
        after.Holds (reports ++ accepted later outcomes) := by
  induction later generalizing buffer reports batch with
  | nil =>
      refine ⟨[], buffer, batch, yields_pure _, rfl, represents, ?_⟩
      rw [accepted, List.zip_nil_left, List.filter_nil, List.map_nil,
        List.append_nil]
      exact holds
  | cons report later ih =>
      obtain ⟨outcome, next, yields, pushed⟩ :=
        Buffer.tryPush_represents represents report
      rcases pushed with ⟨-, rfl, rfl⟩ | ⟨middle, pushed, rfl, nextBatch⟩
      · obtain ⟨outcomes, last, after, ends, sized, lastBatch, lastHolds⟩ :=
          ih represents holds
        refine ⟨.error report :: outcomes, last, after,
          yields_then yields (yields_then ends (yields_pure _)),
          congrArg (· + 1) sized, lastBatch, ?_⟩
        exact lastHolds
      · obtain ⟨outcomes, last, after, ends, sized, lastBatch, lastHolds⟩ :=
          ih nextBatch (holds.tryPush pushed)
        refine ⟨.ok () :: outcomes, last, after,
          yields_then yields (yields_then ends (yields_pure _)),
          congrArg (· + 1) sized, lastBatch, ?_⟩
        rw [List.append_assoc] at lastHolds
        exact lastHolds

end InputReportBatch

/-- After any calls the batch holds the accepted reports in their order, as
the encoder of records writes them, and every record is read back as its
report.  A refused report comes back and changes nothing. -/
theorem inputReportBatch_lossless (first : InputReport)
    (later : List InputReport) :
    ∃ start outcomes last content count,
      Yields (InputReportBatch.Buffer.new first) (.ok start) ∧
      Yields (start.tryPushAll later) (.ok (outcomes, last)) ∧
      outcomes.length = later.length ∧
      Yields last.encoded (.ok (content, count)) ∧
      encodeRecords
          ((first :: InputReportBatch.accepted later outcomes).map
            InputReport.record) = .ok (content, count) ∧
      (first :: InputReportBatch.accepted later outcomes).length ≤ 4 ∧
      content.length ≤ 110 ∧
      (∀ report ∈ first :: InputReportBatch.accepted later outcomes,
        report.ReadFrom report.record) ∧
      ∀ report, ∃ outcome after,
        Yields (last.tryPush report) (.ok (outcome, after)) ∧
          ∀ refused, outcome = .error refused →
            refused = report ∧ after = last := by
  obtain ⟨start, begins, startBatch⟩ :=
    InputReportBatch.Buffer.new_represents first
  obtain ⟨outcomes, last, batch, ends, sized, lastBatch, holds⟩ :=
    InputReportBatch.tryPushAll_holds later startBatch
      (InputReportBatch.holds_new first)
  obtain ⟨content, count, encoded, same, few, fits⟩ :=
    holds.encodeRecords lastBatch
  refine ⟨start, outcomes, last, content, count, begins, ends, sized, encoded,
    same, few, fits, fun report _ => report.readFrom_record, fun report => ?_⟩
  obtain ⟨outcome, after, yields, pushed⟩ :=
    InputReportBatch.Buffer.tryPush_represents lastBatch report
  refine ⟨outcome, after, yields, fun refused isRefused => ?_⟩
  rcases pushed with ⟨-, isError, same⟩ | ⟨_, -, isOk, -⟩
  · rw [isError] at isRefused
    exact ⟨(Except.error.inj isRefused).symm, same⟩
  · rw [isOk] at isRefused
    cases isRefused

end HidShift
