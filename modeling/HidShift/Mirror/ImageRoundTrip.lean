import HidShift.Mirror.ImageWriter

namespace HidShift

open Lib Lib.Checked InPlace

variable {bytes : List UInt8}

theorem slice_slice (inside : start + length ≤ size) :
    slice (slice bytes offset size) start length =
      slice bytes (offset + start) length := by
  refine List.ext_getElem? fun index => ?_
  simp only [getElem?_slice]
  split
  · rw [if_pos (by omega), Nat.add_assoc]
  · rfl

theorem pair_byteAt (inRange : index + 2 ≤ bytes.length) :
    [byteAt bytes index, byteAt bytes (index + 1)] = slice bytes index 2 := by
  have pair : [byteAt bytes index, byteAt bytes (index + 1)] =
      slice bytes index 1 ++ slice bytes (index + 1) 1 := by
    rw [← singleton_byteAt (by omega), ← singleton_byteAt (by omega)]
    rfl
  rw [pair, slice_append_slice]

section

variable {bytes : List UInt8} {lengthAt : Nat}

theorem takeBytes_eq (small : bytes.length ≤ hsmiMaxSize)
    (inside : offset ≤ bytes.length) (word : length < 65536) :
    takeBytes bytes offset length =
      if offset + length ≤ bytes.length then
        .ok { value := slice bytes offset length, offset := offset + length }
      else .error .truncated := by
  have limit : hsmiMaxSize + 65536 < usizeCount := by decide
  rw [takeBytes, if_neg (by omega)]

theorem skipRecords_succ (small : bytes.length ≤ hsmiMaxSize)
    (header : lengthAt + 2 < 65536) (inside : offset ≤ bytes.length)
    (next : ∀ word after,
      readFramed lengthAt (bytes.drop offset) = some (word, after) →
        Yields (skipRecords bytes (lengthAt + 2) lengthAt count
          (offset + (writeFramed word).length)) rest)
    (last : readFramed lengthAt (bytes.drop offset) = none →
      rest = .error .truncated) :
    Yields (skipRecords bytes (lengthAt + 2) lengthAt (count + 1) offset)
      rest := by
  obtain ⟨size, sized⟩ : ∃ size, size =
      leValue (slice (bytes.drop offset) lengthAt 2) := ⟨_, rfl⟩
  have field : slice (bytes.drop offset) lengthAt 2 =
      slice bytes (offset + lengthAt) 2 := by
    rw [slice, slice, List.drop_drop]
  have dropped : (bytes.drop offset).length = bytes.length - offset :=
    List.length_drop
  have read : readFramed lengthAt (bytes.drop offset) =
      if lengthAt + 2 + size ≤ bytes.length - offset then
        some (((bytes.drop offset).take lengthAt,
          slice (bytes.drop offset) (lengthAt + 2) size),
          (bytes.drop offset).drop (lengthAt + 2 + size))
      else none := by
    rw [readFramed, dropped, sized]
  rw [skipRecords, takeBytes_eq small inside (by omega)]
  split
  · rename_i room
    refine yields_then (yields_result _) ?_
    have taken : (slice bytes offset (lengthAt + 2)).length = lengthAt + 2 :=
      length_slice room
    refine yields_indexed (by rw [taken]; omega) ?_
    refine yields_indexed (by rw [taken]; omega) ?_
    have pair : [byteAt (slice bytes offset (lengthAt + 2)) lengthAt,
        byteAt (slice bytes offset (lengthAt + 2)) (lengthAt + 1)] =
          slice bytes (offset + lengthAt) 2 := by
      rw [pair_byteAt (by omega), slice_slice (by omega)]
    have two : (slice bytes (offset + lengthAt) 2).length = 2 :=
      length_slice (by omega)
    have word : size < 65536 := by
      have bound := leValue_lt (slice bytes (offset + lengthAt) 2)
      rw [two, ← field, ← sized] at bound
      exact bound
    have value : (readU16 [(slice bytes offset (lengthAt + 2)).getD lengthAt 0,
        (slice bytes offset (lengthAt + 2)).getD (lengthAt + 1) 0]).toNat =
          size := by
      change (readU16 [byteAt _ lengthAt, byteAt _ (lengthAt + 1)]).toNat = _
      rw [pair, readU16, ← field, ← sized, UInt16.toNat_ofNat_of_lt' word]
    rw [value, takeBytes_eq small room word]
    split
    · rename_i enough
      rw [if_pos (by omega)] at read
      refine yields_then (yields_result _) ?_
      have after := next _ _ read
      have length : (writeFramed ((bytes.drop offset).take lengthAt,
          slice (bytes.drop offset) (lengthAt + 2) size)).length =
            lengthAt + 2 + size := by
        rw [writeFramed, List.length_append, List.length_append,
          length_leBytes, List.length_take, dropped,
          length_slice (by omega)]
        omega
      rwa [length, ← Nat.add_assoc] at after
    · rename_i short
      rw [last (by rw [read, if_neg (by omega)])]
      exact yields_throw _
  · rename_i short
    rw [last (by rw [read, if_neg (by omega)])]
    exact yields_throw _

theorem skipRecords_yields {α : Type} {code : PrefixCode UInt8 α}
    {ofWord : List UInt8 × List UInt8 → α}
    (framedBy : ∀ string, code.decode string =
      (readFramed lengthAt string).map fun read => (ofWord read.1, read.2))
    (small : bytes.length ≤ hsmiMaxSize) (header : lengthAt + 2 < 65536)
    {count offset : Nat} (inside : offset ≤ bytes.length) :
    Yields (skipRecords bytes (lengthAt + 2) lengthAt count offset)
      ((code.decodeMany count (bytes.drop offset)).elim (.error .truncated)
        fun read => .ok (offset + (code.encodeAll read.1).length)) := by
  induction count generalizing offset with
  | zero => exact yields_pure _
  | succ count ih =>
      refine skipRecords_succ small header inside ?_ ?_
      · intro word after read
        have decoded : code.decode (bytes.drop offset) =
            some (ofWord word, after) := by
          rw [framedBy, read]
          rfl
        obtain ⟨-, -, whole⟩ := writeFramed_of_read read
        obtain ⟨-, same⟩ := code.decode_iff.mp decoded
        have length : (writeFramed word).length =
            (code.encode (ofWord word)).length := by
          have lengths := congrArg List.length (whole.symm.trans same)
          rw [List.length_append, List.length_append] at lengths
          omega
        have room := congrArg List.length whole
        rw [List.length_append, List.length_drop] at room
        have left : bytes.drop (offset + (writeFramed word).length) =
            after := by
          rw [← List.drop_drop, whole, List.drop_left]
        have later := @ih (offset + (writeFramed word).length) (by omega)
        rw [left] at later
        rw [PrefixCode.decodeMany, decoded, Option.bind_some]
        cases others : code.decodeMany count after with
        | none =>
            rw [others] at later
            exact later
        | some read =>
            rw [others] at later
            rw [Option.map_some, Option.elim_some,
              PrefixCode.encodeAll_cons, List.length_append, ← length,
              ← Nat.add_assoc]
            exact later
      · intro none
        rw [PrefixCode.decodeMany, framedBy, none]
        rfl

end

theorem MirrorImageHeader.check_eq_ok {header : MirrorImageHeader} :
    header.check bytes = .ok done ↔
      header.magic = hsmiMagic ∧ header.version = hsmiVersion ∧
        header.headerLength.toNat = hsmiHeaderLen ∧
          header.totalLength.toNat = bytes.length ∧
            hsmiHeaderLen ≤ bytes.length ∧ bytes.length ≤ hsmiMaxSize ∧
              header.reserved = Vector.replicate 4 0 ∧
                mirrorImageCrc32 bytes = header.imageCrc32 := by
  simp only [check]
  constructor
  · intro accepted
    split at accepted
    · cases accepted
    rename_i magic
    split at accepted
    · cases accepted
    rename_i version
    split at accepted
    · cases accepted
    rename_i headerLength
    split at accepted
    · cases accepted
    rename_i range
    split at accepted
    · cases accepted
    rename_i long
    split at accepted
    · cases accepted
    rename_i short
    split at accepted
    · cases accepted
    rename_i reserved
    split at accepted
    · cases accepted
    rename_i crc
    obtain ⟨least, most⟩ := not_not.mp range
    exact ⟨not_not.mp magic, not_not.mp version, not_not.mp headerLength,
      by omega, by omega, by omega, not_not.mp reserved, not_not.mp crc⟩
  · intro holds
    obtain ⟨magic, version, headerLength, total, least, most, reserved, crc⟩ :=
      holds
    rw [if_neg (not_not.mpr magic), if_neg (not_not.mpr version),
      if_neg (not_not.mpr headerLength), total,
      if_neg (not_not.mpr ⟨least, most⟩), if_neg (Nat.lt_irrefl _),
      if_neg (Nat.lt_irrefl _), if_neg (not_not.mpr reserved),
      if_neg (not_not.mpr crc)]

/-- The parser has read `front`, `offset` bytes long, and `back` is left. -/
structure Reads (bytes : List UInt8) (offset : Nat) (front back : List UInt8) :
    Prop where
  whole : bytes = front ++ back
  reached : front.length = offset

namespace Reads

variable {bytes front string : List UInt8} {offset length : Nat}

theorem total (reads : Reads bytes offset front back) :
    bytes.length = offset + back.length := by
  rw [reads.whole, List.length_append, reads.reached]

section

variable (reads : Reads bytes offset front (piece ++ back))

include reads

theorem advance (sized : piece.length = length) :
    Reads bytes (offset + length) (front ++ piece) back where
  whole := reads.whole.trans (List.append_assoc ..).symm
  reached := by rw [List.length_append, reads.reached, sized]

theorem slice_piece
    (sized : piece.length = length) : slice bytes offset length = piece := by
  rw [reads.whole, slice_skip_front reads.reached, slice_front sized]

theorem takeBytes_piece
    (small : bytes.length ≤ hsmiMaxSize) (sized : piece.length = length)
    (word : length < 65536) :
    takeBytes bytes offset length =
      .ok { value := piece, offset := offset + length } := by
  have total := reads.total
  rw [List.length_append, sized] at total
  rw [takeBytes_eq small (by omega) word, if_pos (by omega),
    reads.slice_piece sized]

theorem piece_yields
    (small : bytes.length ≤ hsmiMaxSize) (sized : piece.length = length)
    (word : length < 65536)
    (rest : Reads bytes (offset + length) (front ++ piece) back →
      Yields (next ⟨piece, offset + length⟩) final) :
    Yields (result (takeBytes bytes offset length) >>= next) final :=
  yields_then (congrArg some (reads.takeBytes_piece small sized word))
    (rest (reads.advance sized))

end

theorem piece_ensures (reads : Reads bytes offset front string)
    (small : bytes.length ≤ hsmiMaxSize) (word : length < 65536)
    (rest : ∀ piece back, piece.length = length →
      Reads bytes (offset + length) (front ++ piece) back →
        Ensures (next ⟨piece, offset + length⟩) holds) :
    Ensures (result (takeBytes bytes offset length) >>= next) holds := by
  have total := reads.total
  refine Ensures.bind (Ensures.result fun taken accepted => accepted)
    fun taken accepted => ?_
  rw [takeBytes_eq small (by omega) word] at accepted
  split at accepted
  · cases accepted
    have split : string = string.take length ++ string.drop length :=
      (List.take_append_drop length string).symm
    have sized : (string.take length).length = length := by
      rw [List.length_take]
      omega
    rw [split] at reads
    rw [reads.slice_piece sized]
    exact rest _ _ sized (reads.advance sized)
  · cases accepted

section

variable {α β : Type} {code : PrefixCode UInt8 α} {records : List α}
  {header lengthAt count : Nat} {next : Nat → List UInt8 → ImageReader β}

/-- What `skipRecords` makes of a table in the given code. -/
def Skips (bytes : List UInt8) (code : PrefixCode UInt8 α)
    (header lengthAt : Nat) : Prop :=
  ∀ {count offset : Nat}, offset ≤ bytes.length →
    Yields (skipRecords bytes header lengthAt count offset)
      ((code.decodeMany count (bytes.drop offset)).elim (.error .truncated)
        fun read => .ok (offset + (code.encodeAll read.1).length))

theorem drop_front (reads : Reads bytes offset front back) :
    bytes.drop offset = back := by
  rw [reads.whole]
  exact List.drop_left' reads.reached

section

variable (reads : Reads bytes offset front (code.encodeAll records ++ back))

include reads

theorem slice_records :
    slice bytes offset (offset + (code.encodeAll records).length - offset) =
      code.encodeAll records :=
  reads.slice_piece (by omega)

theorem records_inside :
    offset ≤ offset + (code.encodeAll records).length ∧
      offset + (code.encodeAll records).length ≤ bytes.length := by
  have total := reads.total
  rw [List.length_append] at total
  omega

theorem records_yields (skips : Skips bytes code header lengthAt)
    (fit : ∀ record ∈ records, code.Fits record)
    (counted : records.length = count)
    (rest : Reads bytes (offset + (code.encodeAll records).length)
        (front ++ code.encodeAll records) back →
      Yields (next (offset + (code.encodeAll records).length)
        (code.encodeAll records)) final) :
    Yields (skipRecords bytes header lengthAt count offset >>= fun stop =>
      sliced bytes offset stop >>= next stop) final := by
  have inside := reads.records_inside
  have skipped := @skips count offset (by omega)
  rw [reads.drop_front, ← counted, code.decodeMany_encodeAll fit] at skipped
  rw [← counted]
  refine yields_then skipped (yields_sliced inside ?_)
  rw [reads.slice_records]
  exact rest (reads.advance rfl)

end

theorem records_ensures (reads : Reads bytes offset front string)
    (skips : Skips bytes code header lengthAt)
    (rest : ∀ records back, records.length = count →
      Reads bytes (offset + (code.encodeAll records).length)
        (front ++ code.encodeAll records) back →
      Ensures (next (offset + (code.encodeAll records).length)
        (code.encodeAll records)) holds) :
    Ensures (skipRecords bytes header lengthAt count offset >>= fun stop =>
      sliced bytes offset stop >>= next stop) holds := by
  have total := reads.total
  refine Ensures.bind ⟨_, skips (by omega), fun stop accepted => accepted⟩
    fun stop accepted => ?_
  rw [reads.drop_front] at accepted
  cases decoded : code.decodeMany count string with
  | none =>
      rw [decoded] at accepted
      cases accepted
  | some found =>
      rw [decoded] at accepted
      cases accepted
      obtain ⟨counted, -, rfl⟩ := code.decodeMany_iff.mp decoded
      refine Ensures.sliced reads.records_inside ?_
      rw [reads.slice_records]
      exact rest _ _ counted (reads.advance rfl)

end

end Reads

theorem skipStrings_yields (small : bytes.length ≤ hsmiMaxSize) :
    Reads.Skips bytes stringCode stringRecordHeaderLen 3 :=
  skipRecords_yields (fun _ => rfl) small (by decide)

theorem skipHidReports_yields (small : bytes.length ≤ hsmiMaxSize) :
    Reads.Skips bytes hidReportCode hidReportRecordHeaderLen 1 :=
  skipRecords_yields (fun _ => rfl) small (by decide)

namespace MirrorImageSource

variable {source : MirrorImageSource}

theorem lengths_toNat (fits : source.Fits room) (crc : UInt32) :
    source.deviceDescriptor.length =
        (source.headerWith crc).deviceLength.toNat ∧
      source.configurationDescriptor.length =
          (source.headerWith crc).configurationLength.toNat ∧
        source.bosDescriptor.length = (source.headerWith crc).bosLength.toNat ∧
          source.strings.length = (source.headerWith crc).stringCount.toNat ∧
            source.hidReports.length =
              (source.headerWith crc).hidReportCount.toNat := by
  have small := fits.small
  have limit : hsmiMaxSize < UInt16.size := by decide
  have sizes := @totalLength_eq source
  exact ⟨(UInt16.toNat_ofNat_of_lt' (by omega)).symm,
    (UInt16.toNat_ofNat_of_lt' (by omega)).symm,
    (UInt16.toNat_ofNat_of_lt' (by omega)).symm,
    (UInt8.toNat_ofNat_of_lt' fits.stringCount).symm,
    (UInt8.toNat_ofNat_of_lt' fits.hidReportCount).symm⟩

theorem parseBody_yields (fits : source.Fits room) :
    Yields (parseBody (source.headerWith source.crc) source.bytes)
      (.ok source.image) := by
  have length : source.bytes.length = source.totalLength :=
    length_bytesWith ..
  have small : source.bytes.length ≤ hsmiMaxSize := by
    rw [length]
    exact fits.small
  obtain ⟨device, configuration, bos, stringCount, hidReportCount⟩ :=
    lengths_toNat fits source.crc
  obtain ⟨strings, hidReports⟩ := descriptors_small fits
  have word : ∀ size : UInt16, size.toNat < 65536 := UInt16.toNat_lt
  have reads : Reads source.bytes hsmiHeaderLen
      (source.headerWith source.crc).encode (source.deviceDescriptor ++
        (source.configurationDescriptor ++ (source.bosDescriptor ++
          (stringCode.encodeAll source.strings ++
            (hidReportCode.encodeAll source.hidReports ++ []))))) :=
    ⟨by rw [List.append_nil]; rfl, MirrorImageHeader.length_encode _⟩
  rw [parseBody]
  refine reads.piece_yields small device (word _) fun reads => ?_
  refine reads.piece_yields small configuration (word _) fun reads => ?_
  refine reads.piece_yields small bos (word _) fun reads => ?_
  refine reads.records_yields (skipStrings_yields small)
    (fun record member => StringRecord.fits (strings record member))
    stringCount fun reads => ?_
  refine reads.records_yields (skipHidReports_yields small)
    (fun record member => HidReportRecord.fits (hidReports record member))
    hidReportCount fun reads => ?_
  have total := reads.total
  rw [List.length_nil, Nat.add_zero] at total
  rw [totalLength_toNat fits, ← length, if_neg (not_not.mpr total.symm)]
  exact yields_pure _

theorem parse_yields (fits : source.Fits room) :
    Yields (parseMirrorImage source.bytes) (.ok source.image) := by
  have length : source.bytes.length = source.totalLength :=
    length_bytesWith ..
  have least : hsmiHeaderLen ≤ source.bytes.length := by
    rw [length, totalLength]
    omega
  have most : source.bytes.length ≤ hsmiMaxSize := by
    rw [length]
    exact fits.small
  have header : MirrorImageHeader.ofBytes source.bytes =
      source.headerWith source.crc := MirrorImageHeader.ofBytes_encode _ _
  have decoded := MirrorImageHeader.decode_yields least
  rw [header] at decoded
  have checked : (source.headerWith source.crc).check source.bytes =
      .ok () := by
    refine MirrorImageHeader.check_eq_ok.mpr ⟨rfl, rfl, rfl, ?_, least, most,
      rfl, crc32_bytes source⟩
    rw [totalLength_toNat fits, length]
  rw [parseMirrorImage, if_neg (Nat.not_lt.mpr most)]
  refine yields_then (run_mapError_ok.mpr decoded) ?_
  rw [checked]
  refine yields_then (yields_result _) ?_
  exact parseBody_yields fits

end MirrorImageSource

theorem MirrorImageHeader.decode_ensures (bytes : List UInt8) :
    Ensures (decode bytes) fun header =>
      hsmiHeaderLen ≤ bytes.length ∧ header = ofBytes bytes := by
  by_cases whole : hsmiHeaderLen ≤ bytes.length
  · refine ⟨_, decode_yields whole, fun header same => ?_⟩
    cases same
    exact ⟨whole, rfl⟩
  · rw [decode, if_pos (Nat.lt_of_not_le whole)]
    exact Ensures.throw

theorem parseBody_ensures {header : MirrorImageHeader}
    (small : bytes.length ≤ hsmiMaxSize)
    (whole : header.encode ++ bytes.drop hsmiHeaderLen = bytes)
    (complete : header.totalLength.toNat = bytes.length) :
    Ensures (parseBody header bytes) fun image =>
      image.header = header ∧
      ∃ strings hidReports,
        bytes = header.encode ++ (image.deviceDescriptor ++
          (image.configurationDescriptor ++ (image.bosDescriptor ++
            (image.stringRecords ++ image.hidReportRecords)))) ∧
        image.deviceDescriptor.length = header.deviceLength.toNat ∧
        image.configurationDescriptor.length =
          header.configurationLength.toNat ∧
        image.bosDescriptor.length = header.bosLength.toNat ∧
        strings.length = header.stringCount.toNat ∧
        hidReports.length = header.hidReportCount.toNat ∧
        image.stringRecords = stringCode.encodeAll strings ∧
        image.hidReportRecords = hidReportCode.encodeAll hidReports := by
  have word : ∀ size : UInt16, size.toNat < 65536 := UInt16.toNat_lt
  have reads : Reads bytes hsmiHeaderLen header.encode
      (bytes.drop hsmiHeaderLen) := ⟨whole.symm, header.length_encode⟩
  rw [parseBody]
  refine reads.piece_ensures small (word _)
    fun device _ deviceLength reads => ?_
  refine reads.piece_ensures small (word _)
    fun configuration _ configurationLength reads => ?_
  refine reads.piece_ensures small (word _) fun bos _ bosLength reads => ?_
  refine reads.records_ensures (skipStrings_yields small)
    fun strings _ stringCount reads => ?_
  refine reads.records_ensures (skipHidReports_yields small)
    fun hidReports rest hidReportCount reads => ?_
  refine Ensures.check fun ends => ?_
  have nothing : rest = [] := by
    have total := reads.total
    rw [not_not, complete] at ends
    exact List.length_eq_zero_iff.mp (by omega)
  refine Ensures.pure ⟨rfl, strings, hidReports, ?_, deviceLength,
    configurationLength, bosLength, stringCount, hidReportCount, rfl, rfl⟩
  rw [reads.whole, nothing, List.append_nil]
  simp only [List.append_assoc]

namespace MirrorImageSource

variable {source : MirrorImageSource}

theorem headerWith_eq {header : MirrorImageHeader}
    (magic : header.magic = hsmiMagic) (version : header.version = hsmiVersion)
    (headerLength : header.headerLength.toNat = hsmiHeaderLen)
    (total : header.totalLength.toNat = source.totalLength)
    (flags : header.flags = source.flags)
    (device : source.deviceDescriptor.length = header.deviceLength.toNat)
    (configuration : source.configurationDescriptor.length =
      header.configurationLength.toNat)
    (bos : source.bosDescriptor.length = header.bosLength.toNat)
    (stringCount : source.strings.length = header.stringCount.toNat)
    (hidReportCount : source.hidReports.length = header.hidReportCount.toNat)
    (reserved : header.reserved = Vector.replicate 4 0) :
    header = source.headerWith header.imageCrc32 := by
  cases header
  simp only [headerWith, MirrorImageHeader.mk.injEq]
  refine ⟨magic, version, ?_, ?_, trivial, flags, ?_, ?_, ?_, ?_, ?_, reserved⟩
  · rw [← headerLength, UInt16.ofNat_toNat]
  · rw [← total, UInt32.ofNat_toNat]
  · rw [device, UInt16.ofNat_toNat]
  · rw [configuration, UInt16.ofNat_toNat]
  · rw [bos, UInt16.ofNat_toNat]
  · rw [stringCount, UInt8.ofNat_toNat]
  · rw [hidReportCount, UInt8.ofNat_toNat]

theorem crc_of_match {crc : UInt32}
    (matching : mirrorImageCrc32 (source.bytesWith crc) = crc) :
    crc = source.crc := by
  rw [MirrorImageSource.crc, ← matching, bytesWith_eq, bytesWith_eq]
  exact crc_field (MirrorImageHeader.length_beforeCrc _) (length_writeU32 _)
    (length_writeU32 _)

theorem parse_ensures (bytes : List UInt8) :
    Ensures (parseMirrorImage bytes) fun image =>
      ∃ source : MirrorImageSource, source.Fits bytes.length ∧
        bytes = source.bytes ∧ image = source.image := by
  rw [parseMirrorImage]
  refine Ensures.check fun notLarge => ?_
  refine Ensures.bind (Ensures.mapError
    (MirrorImageHeader.decode_ensures bytes)) fun header decoded => ?_
  obtain ⟨least, read⟩ := decoded
  refine Ensures.bind (Ensures.result fun done accepted =>
    MirrorImageHeader.check_eq_ok.mp accepted) fun done checked => ?_
  obtain ⟨magic, version, headerLength, total, -, most, reserved, matching⟩ :=
    checked
  have whole : header.encode ++ bytes.drop hsmiHeaderLen = bytes := by
    rw [read, MirrorImageHeader.encode_ofBytes least, List.take_append_drop]
  refine (parseBody_ensures most whole total).weaken fun image body => ?_
  obtain ⟨same, strings, hidReports, layout, device, configuration, bos,
    stringCount, hidReportCount, stringRecords, hidReportRecords⟩ := body
  obtain ⟨source, built⟩ : ∃ source : MirrorImageSource, source =
      { flags := header.flags
        deviceDescriptor := image.deviceDescriptor
        configurationDescriptor := image.configurationDescriptor
        bosDescriptor := image.bosDescriptor
        strings
        hidReports } := ⟨_, rfl⟩
  have body : bytes = header.encode ++ source.body := by
    rw [layout, stringRecords, hidReportRecords, built]
    rfl
  have length : bytes.length = source.totalLength := by
    rw [body, List.length_append, MirrorImageHeader.length_encode, totalLength]
  have sourceHeader : header = source.headerWith header.imageCrc32 := by
    subst built
    exact headerWith_eq magic version headerLength (total.trans length) rfl
      device configuration bos stringCount hidReportCount reserved
  have written : bytes = source.bytesWith header.imageCrc32 := by
    rw [bytesWith, ← sourceHeader]
    exact body
  have crc : header.imageCrc32 = source.crc := by
    refine crc_of_match ?_
    rw [← written]
    exact matching
  rw [crc] at written sourceHeader
  refine ⟨source, ⟨?_, ?_, ?_, ?_⟩, written, ?_⟩
  · rw [← length]
    exact most
  · rw [length]
  · rw [built, stringCount]
    exact UInt8.toNat_lt _
  · rw [built, hidReportCount]
    exact UInt8.toNat_lt _
  · cases image
    subst same stringRecords hidReportRecords
    rw [MirrorImageSource.image, ← sourceHeader, built]
    rfl

theorem image_strings (fits : source.Fits room) :
    source.image.strings = source.strings := by
  obtain ⟨-, -, -, stringCount, -⟩ := lengths_toNat fits source.crc
  obtain ⟨strings, -⟩ := descriptors_small fits
  have decoded := stringCode.decodeMany_encodeAll
    (fun record member => StringRecord.fits (strings record member)) []
  rw [List.append_nil, stringCount] at decoded
  exact RecordTable.collect_of_decodeMany
    (fun _ _ _ => RecordTable.strings_next) rfl decoded

theorem image_hidReports (fits : source.Fits room) :
    source.image.hidReports = source.hidReports := by
  obtain ⟨-, -, -, -, hidReportCount⟩ := lengths_toNat fits source.crc
  obtain ⟨-, hidReports⟩ := descriptors_small fits
  have decoded := hidReportCode.decodeMany_encodeAll
    (fun record member => HidReportRecord.fits (hidReports record member)) []
  rw [List.append_nil, hidReportCount] at decoded
  exact RecordTable.collect_of_decodeMany
    (fun _ _ _ => RecordTable.hidReports_next) rfl decoded

end MirrorImageSource

def MirrorImage.source (image : MirrorImage) : MirrorImageSource where
  flags := image.header.flags
  deviceDescriptor := image.deviceDescriptor
  configurationDescriptor := image.configurationDescriptor
  bosDescriptor := image.bosDescriptor
  strings := image.strings
  hidReports := image.hidReports

theorem MirrorImageSource.image_source {source : MirrorImageSource}
    (fits : source.Fits room) : source.image.source = source := by
  rw [MirrorImage.source, image_strings fits, image_hidReports fits]
  rfl

/-- Images and their parts correspond: parsing gives back what was serialised,
serialising gives back what was parsed, and parsing is safe on any bytes. -/
theorem mirror_images_round_trip :
    (∀ (source : MirrorImageSource) (out : List UInt8) (length : Nat)
        (written : List UInt8),
      Yields (serializeMirrorImage source out) (.ok (length, written)) →
        ∃ image, Yields (parseMirrorImage (written.take length)) (.ok image) ∧
          image.header.flags = source.flags ∧
          image.deviceDescriptor = source.deviceDescriptor ∧
          image.configurationDescriptor = source.configurationDescriptor ∧
          image.bosDescriptor = source.bosDescriptor ∧
          image.strings = source.strings ∧
          image.hidReports = source.hidReports) ∧
    (∀ (bytes : List UInt8) (image : MirrorImage) (out : List UInt8),
      Yields (parseMirrorImage bytes) (.ok image) →
        bytes.length ≤ out.length →
          Yields (serializeMirrorImage image.source out)
            (.ok (bytes.length, bytes ++ out.drop bytes.length))) ∧
    ∀ bytes : List UInt8, Finishes (parseMirrorImage bytes) := by
  refine ⟨?_, ?_, ?_⟩
  · intro source out length written yields
    obtain ⟨fits, rfl, rfl⟩ := MirrorImageSource.serialize_ok.mp yields
    have whole : (source.bytes ++ out.drop source.totalLength).take
        source.totalLength = source.bytes :=
      List.take_left' (MirrorImageSource.length_bytesWith ..)
    rw [whole]
    exact ⟨source.image, MirrorImageSource.parse_yields fits, rfl, rfl, rfl,
      rfl, MirrorImageSource.image_strings fits,
      MirrorImageSource.image_hidReports fits⟩
  · intro bytes image out yields room
    obtain ⟨source, fits, rfl, rfl⟩ :=
      (MirrorImageSource.parse_ensures bytes).of_yields yields
    have length : source.bytes.length = source.totalLength :=
      MirrorImageSource.length_bytesWith ..
    rw [MirrorImageSource.image_source fits, length]
    rw [length] at room
    exact MirrorImageSource.serialize_yields
      ⟨fits.small, room, fits.stringCount, fits.hidReportCount⟩
  · exact fun bytes => (MirrorImageSource.parse_ensures bytes).finishes

def keyboardSource : MirrorImageSource where
  flags := 1
  deviceDescriptor := [0x12, 0x01]
  configurationDescriptor := [0x09, 0x02]
  bosDescriptor := [0x05, 0x0f]
  strings := [⟨1, 0x0409, [0x04, 0x03, 0x41, 0x00]⟩]
  hidReports := [⟨0, [0x05, 0x01, 0xc0]⟩, ⟨1, [0x05, 0x0c]⟩]

theorem mirror_images_round_trip_keyboardSource :
    ∃ image, Yields (parseMirrorImage keyboardSource.bytes) (.ok image) ∧
      image.strings = keyboardSource.strings ∧
      image.hidReports = keyboardSource.hidReports ∧
      Yields (serializeMirrorImage image.source (List.replicate 100 0))
        (.ok (keyboardSource.bytes.length, keyboardSource.bytes ++
          (List.replicate 100 0).drop keyboardSource.bytes.length)) := by
  have fits : keyboardSource.Fits (List.replicate 100 (0 : UInt8)).length := by
    rw [List.length_replicate]
    exact ⟨by decide +kernel, by decide +kernel, by decide, by decide⟩
  have length : keyboardSource.bytes.length = keyboardSource.totalLength :=
    MirrorImageSource.length_bytesWith ..
  obtain ⟨image, parsed, -, -, -, -, strings, hidReports⟩ :=
    mirror_images_round_trip.1 _ _ _ _ (MirrorImageSource.serialize_yields fits)
  rw [← length, List.take_left] at parsed
  refine ⟨image, parsed, strings, hidReports,
    mirror_images_round_trip.2.1 _ _ _ parsed ?_⟩
  rw [length]
  exact fits.inRoom

end HidShift
