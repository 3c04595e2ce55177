import HidShift.Lib.Ensures
import HidShift.Mirror.Image
import HidShift.Storage.ImageRoundTrip

namespace HidShift

open Lib Lib.Checked InPlace

theorem byteAt_take (inside : index < count) :
    byteAt (bytes.take count) index = byteAt bytes index := by
  rw [byteAt, byteAt, List.getD_eq_getElem?_getD, List.getD_eq_getElem?_getD,
    List.getElem?_take, if_pos inside]

theorem slice_take (inside : offset + size ≤ count) :
    slice (bytes.take count) offset size = slice bytes offset size := by
  refine List.ext_getElem? fun index => ?_
  rw [getElem?_slice, getElem?_slice]
  split
  · rw [List.getElem?_take, if_pos (by omega)]
  · rfl

theorem singleton_byteAt (inRange : index < bytes.length) :
    [byteAt bytes index] = slice bytes index 1 := by
  rw [byteAt, slice, List.getD_eq_getElem?_getD,
    List.getElem?_eq_getElem inRange, List.drop_eq_getElem_cons inRange]
  rfl

namespace MirrorImageHeader

section

variable (header : MirrorImageHeader)

@[simp] theorem length_encode : header.encode.length = hsmiHeaderLen := by
  simp [encode, hsmiHeaderLen]

def beforeCrc (header : MirrorImageHeader) : List UInt8 :=
  header.magic.toList ++ (writeU16 header.version ++
    (writeU16 header.headerLength ++ writeU32 header.totalLength))

def afterCrc (header : MirrorImageHeader) : List UInt8 :=
  writeU32 header.flags ++ (writeU16 header.deviceLength ++
    (writeU16 header.configurationLength ++ (writeU16 header.bosLength ++
      (header.stringCount :: header.hidReportCount ::
        header.reserved.toList))))

theorem encode_eq :
    header.encode = header.beforeCrc ++
      (writeU32 header.imageCrc32 ++ header.afterCrc) := by
  simp only [encode, beforeCrc, afterCrc, List.append_assoc]

@[simp] theorem length_beforeCrc : header.beforeCrc.length = 12 := by
  simp [beforeCrc]

def ofBytes (bytes : List UInt8) : MirrorImageHeader where
  magic := readArray 4 (slice bytes 0 4)
  version := readU16 (slice bytes 4 2)
  headerLength := readU16 (slice bytes 6 2)
  totalLength := readU32 (slice bytes 8 4)
  imageCrc32 := readU32 (slice bytes 12 4)
  flags := readU32 (slice bytes 16 4)
  deviceLength := readU16 (slice bytes 20 2)
  configurationLength := readU16 (slice bytes 22 2)
  bosLength := readU16 (slice bytes 24 2)
  stringCount := byteAt bytes 26
  hidReportCount := byteAt bytes 27
  reserved := readArray 4 (slice bytes 28 4)

theorem decode_yields (whole : hsmiHeaderLen ≤ bytes.length) :
    Yields (decode bytes) (.ok (ofBytes bytes)) := by
  rw [decode, if_neg (Nat.not_lt.mpr whole)]
  rw [hsmiHeaderLen] at whole
  apply yields_field (by omega)
  apply yields_field (by omega)
  apply yields_field (by omega)
  apply yields_field (by omega)
  apply yields_field (by omega)
  apply yields_field (by omega)
  apply yields_field (by omega)
  apply yields_field (by omega)
  apply yields_field (by omega)
  apply yields_indexed (by omega)
  apply yields_indexed (by omega)
  apply yields_field (by omega)
  exact yields_pure _

theorem encode_ofBytes (whole : hsmiHeaderLen ≤ bytes.length) :
    (ofBytes bytes).encode = bytes.take hsmiHeaderLen := by
  rw [hsmiHeaderLen] at whole
  have two : ∀ offset, offset + 2 ≤ 32 →
      writeU16 (readU16 (slice bytes offset 2)) = slice bytes offset 2 :=
    fun offset inside => writeU16_readU16 (length_slice (by omega))
  have four : ∀ offset, offset + 4 ≤ 32 →
      writeU32 (readU32 (slice bytes offset 4)) = slice bytes offset 4 :=
    fun offset inside => writeU32_readU32 (length_slice (by omega))
  have array : ∀ offset, offset + 4 ≤ 32 →
      (readArray 4 (slice bytes offset 4)).toList = slice bytes offset 4 :=
    fun offset inside => toList_readArray (length_slice (by omega))
  have counts : byteAt bytes 26 :: byteAt bytes 27 :: slice bytes 28 4 =
      slice bytes 26 1 ++ (slice bytes 27 1 ++ slice bytes 28 4) := by
    rw [← singleton_byteAt (by omega), ← singleton_byteAt (by omega)]
    rfl
  simp only [encode, ofBytes]
  rw [array 0 (by omega), two 4 (by omega), two 6 (by omega),
    four 8 (by omega), four 12 (by omega), four 16 (by omega),
    two 20 (by omega), two 22 (by omega), two 24 (by omega),
    array 28 (by omega), counts]
  rw [slice_append_slice bytes 27 1 4, slice_append_slice bytes 26 1 5,
    slice_append_slice bytes 24 2 6, slice_append_slice bytes 22 2 8,
    slice_append_slice bytes 20 2 10, slice_append_slice bytes 16 4 12,
    slice_append_slice bytes 12 4 16, slice_append_slice bytes 8 4 20,
    slice_append_slice bytes 6 2 24, slice_append_slice bytes 4 2 26,
    slice_append_slice bytes 0 4 28]
  rfl

theorem encode_inj {header other : MirrorImageHeader}
    (same : header.encode = other.encode) : header = other := by
  obtain ⟨magic, same⟩ := List.append_inj same (by simp)
  obtain ⟨version, same⟩ := List.append_inj same (by simp)
  obtain ⟨headerLength, same⟩ := List.append_inj same (by simp)
  obtain ⟨totalLength, same⟩ := List.append_inj same (by simp)
  obtain ⟨imageCrc32, same⟩ := List.append_inj same (by simp)
  obtain ⟨flags, same⟩ := List.append_inj same (by simp)
  obtain ⟨deviceLength, same⟩ := List.append_inj same (by simp)
  obtain ⟨configurationLength, same⟩ := List.append_inj same (by simp)
  obtain ⟨bosLength, same⟩ := List.append_inj same (by simp)
  rw [List.cons.injEq, List.cons.injEq] at same
  obtain ⟨stringCount, hidReportCount, reserved⟩ := same
  cases header
  cases other
  simp only [mk.injEq]
  exact ⟨Vector.toList_inj.mp magic, writeU16_inj version,
    writeU16_inj headerLength, writeU32_inj totalLength,
    writeU32_inj imageCrc32, writeU32_inj flags, writeU16_inj deviceLength,
    writeU16_inj configurationLength, writeU16_inj bosLength, stringCount,
    hidReportCount, Vector.toList_inj.mp reserved⟩

theorem ofBytes_encode (rest : List UInt8) :
    ofBytes (header.encode ++ rest) = header := by
  apply encode_inj
  rw [encode_ofBytes (by simp), List.take_left' header.length_encode]

end

end MirrorImageHeader

def StringRecord.word (record : StringRecord) : List UInt8 × List UInt8 :=
  (record.index :: writeU16 record.langId, record.descriptor)

def StringRecord.ofWord (word : List UInt8 × List UInt8) : StringRecord where
  index := byteAt word.1 0
  langId := readU16 (slice word.1 1 2)
  descriptor := word.2

theorem StringRecord.ofWord_word (record : StringRecord) :
    ofWord record.word = record := by
  have field : slice (record.index :: writeU16 record.langId) 1 2 =
      writeU16 record.langId := rfl
  simp only [ofWord, word, field, readU16_writeU16]
  rfl

theorem StringRecord.word_ofWord (word : List UInt8 × List UInt8)
    (fits : (framed 3).Fits word) : (ofWord word).word = word := by
  obtain ⟨sized, -⟩ := fits
  obtain ⟨front, body⟩ := word
  change front.length = 3 at sized
  have two : (slice front 1 2).length = 2 := length_slice (by omega)
  have whole : byteAt front 0 :: slice front 1 2 = front := by
    have first : byteAt front 0 :: slice front 1 2 =
        slice front 0 1 ++ slice front 1 2 := by
      rw [← singleton_byteAt (by omega)]
      rfl
    rw [first, slice_append_slice front 0 1 2, slice_whole sized]
  rw [ofWord, StringRecord.word, writeU16_readU16 two, whole]

def stringCode : PrefixCode UInt8 StringRecord :=
  (framed 3).mapped StringRecord.ofWord StringRecord.word
    StringRecord.ofWord_word StringRecord.word_ofWord

def HidReportRecord.word (record : HidReportRecord) :
    List UInt8 × List UInt8 :=
  ([record.interfaceNumber], record.descriptor)

def HidReportRecord.ofWord (word : List UInt8 × List UInt8) :
    HidReportRecord where
  interfaceNumber := byteAt word.1 0
  descriptor := word.2

theorem HidReportRecord.ofWord_word (record : HidReportRecord) :
    ofWord record.word = record := rfl

theorem HidReportRecord.word_ofWord (word : List UInt8 × List UInt8)
    (fits : (framed 1).Fits word) : (ofWord word).word = word := by
  obtain ⟨sized, -⟩ := fits
  obtain ⟨front, body⟩ := word
  obtain ⟨first, same⟩ := List.length_eq_one_iff.mp sized
  change front = [first] at same
  subst same
  rfl

def hidReportCode : PrefixCode UInt8 HidReportRecord :=
  (framed 1).mapped HidReportRecord.ofWord HidReportRecord.word
    HidReportRecord.ofWord_word HidReportRecord.word_ofWord

theorem StringRecord.fits (small : record.descriptor.length < 65536) :
    stringCode.Fits record :=
  ⟨rfl, small⟩

theorem HidReportRecord.fits (small : record.descriptor.length < 65536) :
    hidReportCode.Fits record :=
  ⟨rfl, small⟩

namespace RecordTable

section

variable {α : Type} {code : PrefixCode UInt8 α} {lengthAt : Nat}
  {record : List UInt8 → List UInt8 → α}
  (ofWord : List UInt8 × List UInt8 → α)

theorem next_of_decode (reads : ∀ bytes descriptor,
      record bytes descriptor = ofWord (bytes.take lengthAt, descriptor))
    (left : table.count ≠ 0)
    (decoded : ((framed lengthAt).decode table.remaining).map
      (fun read => (ofWord read.1, read.2)) = some (value, rest)) :
    next (lengthAt + 2) lengthAt record table =
      (some value, { remaining := rest, count := table.count - 1 }) := by
  obtain ⟨⟨word, after⟩, read, same⟩ := Option.map_eq_some_iff.mp decoded
  cases same
  change readFramed lengthAt table.remaining = _ at read
  simp only [readFramed] at read
  split at read
  · rename_i room
    cases read
    have small : leValue (slice table.remaining lengthAt 2) < 65536 := by
      have bound := leValue_lt (slice table.remaining lengthAt 2)
      rwa [length_slice (by omega)] at bound
    have length : (readU16 (slice table.remaining lengthAt 2)).toNat =
        leValue (slice table.remaining lengthAt 2) :=
      UInt16.toNat_ofNat_of_lt' small
    have header : ¬ (table.count = 0 ∨
        table.remaining.length < lengthAt + 2) := by
      intro bad
      rcases bad with none | short
      · exact left none
      · omega
    rw [next, if_neg header]
    simp only [length]
    rw [if_neg (by omega), reads]
  · cases read

theorem collect_of_decodeMany (steps : ∀ table value rest, table.count ≠ 0 →
      code.decode table.remaining = some (value, rest) →
        step table =
          (some value, { remaining := rest, count := table.count - 1 }))
    (counted : table.count.toNat = fuel)
    (decoded : code.decodeMany fuel table.remaining = some (values, rest)) :
    collect step fuel table = values := by
  induction fuel generalizing table values with
  | zero =>
      cases decoded
      rfl
  | succ fuel ih =>
      obtain ⟨value, others, middle, first, later, rfl⟩ :=
        code.decodeMany_succ.mp decoded
      have left : table.count ≠ 0 := by
        intro none
        rw [none] at counted
        cases counted
      have fewer : (table.count - 1).toNat = fuel := by
        have one : (1 : UInt8) ≤ table.count := by
          rw [UInt8.le_iff_toNat_le, counted]
          exact Nat.succ_le_succ (Nat.zero_le _)
        rw [UInt8.toNat_sub_of_le _ _ one, counted]
        rfl
      rw [collect, steps table value middle left first]
      exact congrArg (value :: ·) (ih fewer later)

end

theorem strings_next (left : table.count ≠ 0)
    (decoded : stringCode.decode table.remaining = some (value, rest)) :
    StringRecords.next table =
      (some value, { remaining := rest, count := table.count - 1 }) := by
  refine next_of_decode StringRecord.ofWord ?_ left decoded
  intro bytes descriptor
  rw [StringRecord.ofWord, byteAt_take (by decide), slice_take (by decide)]

theorem hidReports_next (left : table.count ≠ 0)
    (decoded : hidReportCode.decode table.remaining = some (value, rest)) :
    HidReportRecords.next table =
      (some value, { remaining := rest, count := table.count - 1 }) := by
  refine next_of_decode HidReportRecord.ofWord ?_ left decoded
  intro bytes descriptor
  rw [HidReportRecord.ofWord, byteAt_take (by decide)]

end RecordTable

def recordsSize (headerLength : Nat) (descriptors : List (List UInt8)) : Nat :=
  (descriptors.map fun descriptor => headerLength + descriptor.length).sum

theorem le_recordsSize {headerLength : Nat} {descriptor : List UInt8}
    {descriptors : List (List UInt8)} (member : descriptor ∈ descriptors) :
    descriptor.length ≤ recordsSize headerLength descriptors := by
  induction descriptors with
  | nil => cases member
  | cons first rest ih =>
      have size : recordsSize headerLength (first :: rest) =
          headerLength + first.length + recordsSize headerLength rest := rfl
      rcases List.mem_cons.mp member with same | later
      · subst same
        omega
      · have bound := ih later
        omega

theorem addedLength_eq_ok :
    addedLength left right = .ok total ↔
      total = left + right ∧ left + right < usizeCount := by
  rw [addedLength]
  split
  · rename_i small
    simp [small, eq_comm]
  · rename_i large
    simp [large]

theorem recordsLength_eq_ok :
    recordsLength headerLength descriptors = .ok total ↔
      total = recordsSize headerLength descriptors ∧ total < usizeCount := by
  have general : ∀ start, start < usizeCount →
      (descriptors.foldlM (fun total descriptor => do
          addedLength (← addedLength total headerLength) descriptor.length)
        start = .ok total ↔
        total = start + recordsSize headerLength descriptors ∧
          total < usizeCount) := by
    induction descriptors with
    | nil =>
        intro start small
        change Except.ok start = Except.ok total ↔ total = start ∧ _
        rw [Except.ok.injEq]
        constructor
        · intro same
          subst same
          exact ⟨rfl, small⟩
        · exact fun both => both.1.symm
    | cons descriptor rest ih =>
        intro start small
        have size : recordsSize headerLength (descriptor :: rest) =
            headerLength + descriptor.length +
              recordsSize headerLength rest := rfl
        rw [List.foldlM_cons, bind_eq_ok, size]
        constructor
        · intro added
          obtain ⟨next, first, later⟩ := added
          obtain ⟨middle, one, two⟩ := bind_eq_ok.mp first
          obtain ⟨rfl, -⟩ := addedLength_eq_ok.mp one
          obtain ⟨rfl, fits⟩ := addedLength_eq_ok.mp two
          obtain ⟨same, within⟩ := (ih _ fits).mp later
          exact ⟨by omega, within⟩
        · intro total_eq
          obtain ⟨same, within⟩ := total_eq
          have fits : start + headerLength + descriptor.length < usizeCount :=
            by omega
          refine ⟨_, bind_eq_ok.mpr ⟨_, addedLength_eq_ok.mpr ⟨rfl, by omega⟩,
            addedLength_eq_ok.mpr ⟨rfl, fits⟩⟩, (ih _ fits).mpr ⟨?_, within⟩⟩
          omega
  have whole := general 0 (by decide)
  rw [Nat.zero_add] at whole
  exact whole

theorem length_encodeAll {α : Type} {code : PrefixCode UInt8 α}
    {headerLength : Nat} {descriptor : α → List UInt8}
    (each : ∀ record, (code.encode record).length =
      headerLength + (descriptor record).length) (records : List α) :
    (code.encodeAll records).length =
      recordsSize headerLength (records.map descriptor) := by
  rw [PrefixCode.encodeAll, List.length_flatMap, recordsSize, List.map_map]
  simp only [each, Function.comp_def]

theorem length_strings (records : List StringRecord) :
    (stringCode.encodeAll records).length =
      recordsSize stringRecordHeaderLen
        (records.map StringRecord.descriptor) := by
  refine length_encodeAll (fun record => ?_) records
  change (writeFramed record.word).length = _
  simp [writeFramed, StringRecord.word, stringRecordHeaderLen]
  omega

theorem length_hidReports (records : List HidReportRecord) :
    (hidReportCode.encodeAll records).length =
      recordsSize hidReportRecordHeaderLen
        (records.map HidReportRecord.descriptor) := by
  refine length_encodeAll (fun record => ?_) records
  change (writeFramed record.word).length = _
  simp [writeFramed, HidReportRecord.word, hidReportRecordHeaderLen]
  omega

namespace MirrorImageSource

variable (source : MirrorImageSource)

def stringRecords : List UInt8 := stringCode.encodeAll source.strings

def hidReportRecords : List UInt8 :=
  hidReportCode.encodeAll source.hidReports

def body : List UInt8 :=
  source.deviceDescriptor ++ (source.configurationDescriptor ++
    (source.bosDescriptor ++ (source.stringRecords ++ source.hidReportRecords)))

def totalLength : Nat := hsmiHeaderLen + source.body.length

def headerWith (crc : UInt32) : MirrorImageHeader where
  magic := hsmiMagic
  version := hsmiVersion
  headerLength := UInt16.ofNat hsmiHeaderLen
  totalLength := UInt32.ofNat source.totalLength
  imageCrc32 := crc
  flags := source.flags
  deviceLength := UInt16.ofNat source.deviceDescriptor.length
  configurationLength := UInt16.ofNat source.configurationDescriptor.length
  bosLength := UInt16.ofNat source.bosDescriptor.length
  stringCount := UInt8.ofNat source.strings.length
  hidReportCount := UInt8.ofNat source.hidReports.length
  reserved := Vector.replicate 4 0

def bytesWith (crc : UInt32) : List UInt8 :=
  (source.headerWith crc).encode ++ source.body

def crc : UInt32 := mirrorImageCrc32 (source.bytesWith 0)

def bytes : List UInt8 := source.bytesWith source.crc

def image : MirrorImage where
  header := source.headerWith source.crc
  deviceDescriptor := source.deviceDescriptor
  configurationDescriptor := source.configurationDescriptor
  bosDescriptor := source.bosDescriptor
  stringRecords := source.stringRecords
  hidReportRecords := source.hidReportRecords

structure Fits (room : Nat) : Prop where
  small : source.totalLength ≤ hsmiMaxSize
  inRoom : source.totalLength ≤ room
  stringCount : source.strings.length < 256
  hidReportCount : source.hidReports.length < 256

@[simp] theorem length_bytesWith (crc : UInt32) :
    (source.bytesWith crc).length = source.totalLength := by
  rw [bytesWith, List.length_append, MirrorImageHeader.length_encode,
    totalLength]

variable {source} {room : Nat}

theorem totalLength_eq : source.totalLength =
    hsmiHeaderLen + source.deviceDescriptor.length +
      source.configurationDescriptor.length + source.bosDescriptor.length +
        recordsSize stringRecordHeaderLen
            (source.strings.map StringRecord.descriptor) +
          recordsSize hidReportRecordHeaderLen
            (source.hidReports.map HidReportRecord.descriptor) := by
  rw [← length_strings, ← length_hidReports]
  simp only [totalLength, body, stringRecords, hidReportRecords,
    List.length_append]
  omega

theorem lengthU16_eq_ok :
    lengthU16 length = .ok value ↔
      length < 65536 ∧ value = UInt16.ofNat length := by
  rw [lengthU16]
  split <;> simp [*, eq_comm]

theorem countU8_eq_ok :
    countU8 count = .ok value ↔
      count < 256 ∧ value = UInt8.ofNat count := by
  rw [countU8]
  split <;> simp [*, eq_comm]

theorem header_eq_ok {header : MirrorImageHeader} :
    source.header room = .ok header ↔
      source.Fits room ∧ header = source.headerWith 0 := by
  have length := @totalLength_eq source
  constructor
  · intro accepted
    rw [MirrorImageSource.header] at accepted
    obtain ⟨strings, stringsOk, accepted⟩ := bind_eq_ok.mp accepted
    obtain ⟨reports, reportsOk, accepted⟩ := bind_eq_ok.mp accepted
    obtain ⟨withDevice, deviceOk, accepted⟩ := bind_eq_ok.mp accepted
    obtain ⟨withConfig, configOk, accepted⟩ := bind_eq_ok.mp accepted
    obtain ⟨withBos, bosOk, accepted⟩ := bind_eq_ok.mp accepted
    obtain ⟨withStrings, allStringsOk, accepted⟩ := bind_eq_ok.mp accepted
    obtain ⟨total, totalOk, accepted⟩ := bind_eq_ok.mp accepted
    obtain ⟨rfl, -⟩ := recordsLength_eq_ok.mp stringsOk
    obtain ⟨rfl, -⟩ := recordsLength_eq_ok.mp reportsOk
    obtain ⟨rfl, -⟩ := addedLength_eq_ok.mp deviceOk
    obtain ⟨rfl, -⟩ := addedLength_eq_ok.mp configOk
    obtain ⟨rfl, -⟩ := addedLength_eq_ok.mp bosOk
    obtain ⟨rfl, -⟩ := addedLength_eq_ok.mp allStringsOk
    obtain ⟨rfl, -⟩ := addedLength_eq_ok.mp totalOk
    rw [← length] at accepted
    split at accepted
    · cases accepted
    rename_i small
    split at accepted
    · cases accepted
    rename_i inRoom
    obtain ⟨device, deviceFits, accepted⟩ := bind_eq_ok.mp accepted
    obtain ⟨config, configFits, accepted⟩ := bind_eq_ok.mp accepted
    obtain ⟨bos, bosFits, accepted⟩ := bind_eq_ok.mp accepted
    obtain ⟨strings, stringsFit, accepted⟩ := bind_eq_ok.mp accepted
    obtain ⟨reports, reportsFit, accepted⟩ := bind_eq_ok.mp accepted
    obtain ⟨-, rfl⟩ := lengthU16_eq_ok.mp deviceFits
    obtain ⟨-, rfl⟩ := lengthU16_eq_ok.mp configFits
    obtain ⟨-, rfl⟩ := lengthU16_eq_ok.mp bosFits
    obtain ⟨stringCount, rfl⟩ := countU8_eq_ok.mp stringsFit
    obtain ⟨hidReportCount, rfl⟩ := countU8_eq_ok.mp reportsFit
    cases accepted
    exact ⟨⟨Nat.le_of_not_lt small, Nat.le_of_not_lt inRoom, stringCount,
      hidReportCount⟩, rfl⟩
  · intro written
    obtain ⟨⟨small, inRoom, stringCount, hidReportCount⟩, rfl⟩ := written
    have limit : hsmiMaxSize < 65536 := by decide
    have words : 65536 < usizeCount := by decide
    rw [MirrorImageSource.header]
    rw [recordsLength_eq_ok.mpr ⟨rfl, by omega⟩, ok_bind,
      recordsLength_eq_ok.mpr ⟨rfl, by omega⟩, ok_bind,
      addedLength_eq_ok.mpr ⟨rfl, by omega⟩, ok_bind,
      addedLength_eq_ok.mpr ⟨rfl, by omega⟩, ok_bind,
      addedLength_eq_ok.mpr ⟨rfl, by omega⟩, ok_bind,
      addedLength_eq_ok.mpr ⟨rfl, by omega⟩, ok_bind,
      addedLength_eq_ok.mpr ⟨rfl, by omega⟩, ok_bind, ← length,
      if_neg (Nat.not_lt.mpr small), if_neg (Nat.not_lt.mpr inRoom),
      lengthU16_eq_ok.mpr ⟨by omega, rfl⟩, ok_bind,
      lengthU16_eq_ok.mpr ⟨by omega, rfl⟩, ok_bind,
      lengthU16_eq_ok.mpr ⟨by omega, rfl⟩, ok_bind,
      countU8_eq_ok.mpr ⟨stringCount, rfl⟩, ok_bind,
      countU8_eq_ok.mpr ⟨hidReportCount, rfl⟩, ok_bind]
    rfl

end MirrorImageSource

end HidShift
