import HidShift.Mirror.ImageCodec

namespace HidShift

open Lib Lib.Checked InPlace

namespace ImageCursor

def behind (done old : List UInt8) : ImageCursor where
  offset := done.length
  out := done ++ old

@[simp] theorem behind_offset (done old : List UInt8) :
    (behind done old).offset = done.length := rfl

@[simp] theorem behind_out (done old : List UInt8) :
    (behind done old).out = done ++ old := rfl

def Writes (program : ImageCursor → ImageWriter ImageCursor)
    (piece : List UInt8) : Prop :=
  ∀ done old, piece.length ≤ old.length →
    Yields (program (behind done old))
      (.ok (behind (done ++ piece) (old.drop piece.length)))

theorem behind_eq {done old out : List UInt8} {offset : Nat}
    (reached : done.length = offset) (same : done ++ old = out) :
    ImageCursor.mk offset out = behind done old := by
  subst reached same
  rfl

theorem copy_writes (bytes : List UInt8) :
    Writes (fun cursor => cursor.copy bytes) bytes := by
  intro done old room
  apply yields_placed rfl rfl room
  have reached : ImageCursor.mk (done.length + bytes.length)
      (done ++ (bytes ++ old.drop bytes.length)) =
        behind (done ++ bytes) (old.drop bytes.length) :=
    behind_eq (List.length_append ..) (List.append_assoc ..)
  exact congrArg (fun cursor => some (Except.ok cursor)) reached

theorem writes_nothing : Writes (fun cursor => pure cursor) [] := by
  intro done old _
  rw [List.append_nil]
  exact yields_pure _

theorem writes_then (writes : Writes first piece) (later : Writes next more) :
    Writes (fun cursor => first cursor >>= next) (piece ++ more) := by
  intro done old room
  rw [List.length_append] at room
  refine yields_then (writes done old (by omega)) ?_
  have rest := later (done ++ piece) (old.drop piece.length)
    (by rw [List.length_drop]; omega)
  rwa [List.append_assoc, List.drop_drop, ← List.length_append] at rest

theorem foldlM_writes {α : Type} {encode : α → List UInt8}
    {place : ImageCursor → α → ImageWriter ImageCursor} {records : List α}
    (each : ∀ record ∈ records,
      Writes (fun cursor => place cursor record) (encode record)) :
    Writes (fun cursor => records.foldlM place cursor)
      (records.flatMap encode) := by
  induction records with
  | nil => exact writes_nothing
  | cons record rest ih =>
      simp only [List.foldlM_cons, List.flatMap_cons]
      exact writes_then (each record List.mem_cons_self)
        (ih fun other member => each other (List.mem_cons_of_mem _ member))

theorem lengthU16_of_lt (small : length < 65536) :
    lengthU16 length = .ok (UInt16.ofNat length) := if_pos small

theorem writeU16_ofNat (small : length < 65536) :
    writeU16 (UInt16.ofNat length) = leBytes 2 length := by
  rw [writeU16, UInt16.toNat_ofNat_of_lt' small]

theorem placeDescriptor_yields {done old descriptor : List UInt8}
    {start : Nat} (before : done.length = start)
    (small : descriptor.length < 65536)
    (room : 2 + descriptor.length ≤ old.length) :
    Yields (do
        let length ← result (lengthU16 descriptor.length)
        let out ← placed (done ++ old) start (start + 2) (writeU16 length)
        copy { offset := start + 2, out } descriptor)
      (.ok (behind (done ++ (leBytes 2 descriptor.length ++ descriptor))
        (old.drop (2 + descriptor.length)))) := by
  have length : (leBytes 2 descriptor.length).length = 2 := length_leBytes ..
  rw [lengthU16_of_lt small]
  refine yields_then (yields_result _) ?_
  rw [writeU16_ofNat small]
  apply yields_placed before (by omega) (by omega)
  rw [@behind_eq (done ++ leBytes 2 descriptor.length) _ _ _
    (by rw [List.length_append]; omega) (List.append_assoc ..)]
  have rest := copy_writes descriptor (done ++ leBytes 2 descriptor.length)
    (old.drop (leBytes 2 descriptor.length).length)
    (by rw [List.length_drop]; omega)
  rwa [List.append_assoc, List.drop_drop, length] at rest

theorem placeString_writes (small : record.descriptor.length < 65536) :
    Writes (fun cursor => cursor.placeString record)
      (stringCode.encode record) := by
  have word : stringCode.encode record = [record.index] ++
      (writeU16 record.langId ++ (leBytes 2 record.descriptor.length ++
        record.descriptor)) := by
    change writeFramed record.word = _
    simp [writeFramed, StringRecord.word]
  rw [word]
  intro done old room
  simp only [List.length_append, List.length_singleton, length_writeU16,
    length_leBytes] at room
  simp only [placeString, behind_offset, behind_out]
  apply yields_stored rfl (by omega)
  have first : done ++ record.index :: old.drop 1 =
      (done ++ [record.index]) ++ old.drop 1 := by simp
  rw [first]
  apply yields_placed (by simp) (by simp) (by simp; omega)
  rw [← List.append_assoc]
  have rest := @placeDescriptor_yields
    (done ++ [record.index] ++ writeU16 record.langId)
    ((old.drop 1).drop (writeU16 record.langId).length) record.descriptor
    (done.length + 3) (by simp) small (by simp; omega)
  simp only [List.append_assoc, List.drop_drop, length_writeU16] at rest ⊢
  have size : ([record.index] ++ (writeU16 record.langId ++
      (leBytes 2 record.descriptor.length ++ record.descriptor))).length =
        1 + 2 + (2 + record.descriptor.length) := by simp; omega
  rw [size]
  exact rest

theorem placeHidReport_writes (small : record.descriptor.length < 65536) :
    Writes (fun cursor => cursor.placeHidReport record)
      (hidReportCode.encode record) := by
  have word : hidReportCode.encode record = [record.interfaceNumber] ++
      (leBytes 2 record.descriptor.length ++ record.descriptor) := by
    change writeFramed record.word = _
    simp [writeFramed, HidReportRecord.word]
  rw [word]
  intro done old room
  simp only [List.length_append, List.length_singleton, length_leBytes] at room
  simp only [placeHidReport, behind_offset, behind_out]
  apply yields_stored rfl (by omega)
  have first : done ++ record.interfaceNumber :: old.drop 1 =
      (done ++ [record.interfaceNumber]) ++ old.drop 1 := by simp
  rw [first]
  have rest := @placeDescriptor_yields (done ++ [record.interfaceNumber])
    (old.drop 1) record.descriptor (done.length + 1) (by simp) small
    (by simp; omega)
  simp only [List.append_assoc, List.drop_drop] at rest ⊢
  have size : ([record.interfaceNumber] ++
      (leBytes 2 record.descriptor.length ++ record.descriptor)).length =
        1 + (2 + record.descriptor.length) := by simp; omega
  rw [size]
  exact rest

end ImageCursor

theorem crc_field {field : List UInt8} (before : front.length = 12)
    (four : field.length = 4) (otherFour : other.length = 4) :
    mirrorImageCrc32 (front ++ (field ++ back)) =
      mirrorImageCrc32 (front ++ (other ++ back)) := by
  have blank : ∀ {bytes : List UInt8}, bytes.length = 4 →
      (bytes.mapIdx fun index byte =>
        if 12 ≤ index + front.length ∧ index + front.length < 16 then 0
        else byte) = List.replicate 4 0 := by
    intro bytes sized
    apply List.ext_getElem
    · rw [List.length_mapIdx, List.length_replicate, sized]
    · intro index inBytes _
      rw [List.length_mapIdx] at inBytes
      rw [List.getElem_mapIdx, List.getElem_replicate, if_pos (by omega)]
  unfold mirrorImageCrc32
  simp only [List.mapIdx_append]
  rw [blank four, blank otherFour, four, otherFour]

namespace MirrorImageSource

variable {source : MirrorImageSource}

theorem bytesWith_eq (source : MirrorImageSource) (crc : UInt32) :
    source.bytesWith crc = (source.headerWith 0).beforeCrc ++
      (writeU32 crc ++ ((source.headerWith 0).afterCrc ++ source.body)) := by
  rw [bytesWith, MirrorImageHeader.encode_eq, List.append_assoc,
    List.append_assoc]
  rfl

theorem crc32_bytes (source : MirrorImageSource) :
    mirrorImageCrc32 source.bytes = source.crc := by
  rw [bytes, crc, bytesWith_eq, bytesWith_eq]
  exact crc_field (MirrorImageHeader.length_beforeCrc _) (length_writeU32 _)
    (length_writeU32 _)

theorem totalLength_toNat (fits : source.Fits room) (crc : UInt32) :
    (source.headerWith crc).totalLength.toNat = source.totalLength := by
  have limit : hsmiMaxSize < 4294967296 := by decide
  exact UInt32.toNat_ofNat_of_lt' (Nat.lt_of_le_of_lt fits.small limit)

theorem descriptors_small (fits : source.Fits room) :
    (∀ record ∈ source.strings, record.descriptor.length < 65536) ∧
      ∀ record ∈ source.hidReports, record.descriptor.length < 65536 := by
  have small := fits.small
  have limit : hsmiMaxSize < 65536 := by decide
  rw [totalLength_eq] at small
  constructor
  · intro record member
    have bound := @le_recordsSize stringRecordHeaderLen _ _
      (@List.mem_map_of_mem _ _ _ _ StringRecord.descriptor member)
    omega
  · intro record member
    have bound := @le_recordsSize hidReportRecordHeaderLen _ _
      (@List.mem_map_of_mem _ _ _ _ HidReportRecord.descriptor member)
    omega

def descriptors (source : MirrorImageSource) : List UInt8 :=
  [source.deviceDescriptor, source.configurationDescriptor,
    source.bosDescriptor].flatMap id

theorem body_eq (source : MirrorImageSource) :
    source.body = source.descriptors ++
      (source.stringRecords ++ source.hidReportRecords) := by
  simp [body, descriptors]

theorem written_yields {room : Nat} (fits : source.Fits room)
    {old : List UInt8} (enough : source.body.length ≤ old.length) :
    Yields (do
        let cursor ← [source.deviceDescriptor, source.configurationDescriptor,
          source.bosDescriptor].foldlM ImageCursor.copy
            { offset := hsmiHeaderLen
              out := (source.headerWith 0).encode ++ old }
        let cursor ← source.strings.foldlM ImageCursor.placeString cursor
        let cursor ← source.hidReports.foldlM ImageCursor.placeHidReport
          cursor
        let image ← sliced cursor.out 0 source.totalLength
        let out ← placed cursor.out 12 16 (writeU32 (mirrorImageCrc32 image))
        return (source.totalLength, out))
      (.ok (source.totalLength,
        source.bytes ++ old.drop source.body.length)) := by
  have header : (source.headerWith 0).encode.length = hsmiHeaderLen :=
    MirrorImageHeader.length_encode _
  have pieces := congrArg List.length source.body_eq
  rw [List.length_append, List.length_append] at pieces
  obtain ⟨strings, hidReports⟩ := descriptors_small fits
  have first : ImageCursor.Writes _ source.descriptors :=
    ImageCursor.foldlM_writes fun piece _ => ImageCursor.copy_writes piece
  have second : ImageCursor.Writes _ source.stringRecords :=
    ImageCursor.foldlM_writes fun record member =>
      ImageCursor.placeString_writes (strings record member)
  have third : ImageCursor.Writes _ source.hidReportRecords :=
    ImageCursor.foldlM_writes fun record member =>
      ImageCursor.placeHidReport_writes (hidReports record member)
  rw [@ImageCursor.behind_eq _ _ _ hsmiHeaderLen header rfl]
  refine yields_then (first _ _ (by omega)) ?_
  refine yields_then (second _ _ (by rw [List.length_drop]; omega)) ?_
  refine yields_then (third _ _ (by
    rw [List.length_drop, List.length_drop]
    omega)) ?_
  have whole : (source.headerWith 0).encode ++ source.descriptors ++
      source.stringRecords ++ source.hidReportRecords = source.bytesWith 0 := by
    simp only [bytesWith, body_eq, List.append_assoc]
  have left : ((old.drop source.descriptors.length).drop
      source.stringRecords.length).drop source.hidReportRecords.length =
        old.drop source.body.length := by
    rw [List.drop_drop, List.drop_drop, pieces]
  rw [whole, left, ImageCursor.behind_out]
  apply yields_sliced
  · rw [List.length_append, length_bytesWith]
    omega
  rw [Nat.sub_zero, slice_front (length_bytesWith ..), bytesWith_eq,
    List.append_assoc, List.append_assoc]
  apply yields_placed (MirrorImageHeader.length_beforeCrc _)
    (by rw [length_writeU32]) (by simp)
  rw [List.drop_left' (by simp), bytes, bytesWith_eq, List.append_assoc,
    List.append_assoc, ← bytesWith_eq]
  exact yields_pure _

theorem serialize_yields (fits : source.Fits out.length) :
    Yields (serializeMirrorImage source out)
      (.ok (source.totalLength,
        source.bytes ++ out.drop source.totalLength)) := by
  have total := totalLength_toNat fits 0
  have zeros : (List.replicate source.totalLength (0 : UInt8)).length =
      source.totalLength := List.length_replicate ..
  have header : (source.headerWith 0).encode.length = hsmiHeaderLen :=
    MirrorImageHeader.length_encode _
  have length : source.totalLength = hsmiHeaderLen + source.body.length := rfl
  have inRoom := fits.inRoom
  rw [serializeMirrorImage, header_eq_ok.mpr ⟨fits, rfl⟩]
  refine yields_then (yields_result _) ?_
  simp only [total]
  refine @yields_placed _ _ [] _ _ _ _ _ _ rfl (by omega) (by omega) ?_
  refine @yields_placed _ _ [] _ _ _ _ _ _ rfl (by omega)
    (by rw [List.length_append]; omega) ?_
  rw [zeros]
  -- What is left of the buffer behind the header.
  obtain ⟨old, buffer⟩ : ∃ old, old =
      (List.replicate source.totalLength 0 ++
        out.drop source.totalLength).drop (source.headerWith 0).encode.length :=
    ⟨_, rfl⟩
  have oldLength : old.length = out.length - hsmiHeaderLen := by
    rw [buffer, List.length_drop, List.length_append, zeros, header,
      List.length_drop]
    omega
  have oldRest : old.drop source.body.length = out.drop source.totalLength := by
    rw [buffer, List.drop_drop, header, ← length]
    exact List.drop_left' zeros
  rw [← buffer, ← oldRest]
  exact written_yields fits (by omega)

theorem serialize_ok :
    Yields (serializeMirrorImage source out) (.ok (length, written)) ↔
      source.Fits out.length ∧ length = source.totalLength ∧
        written = source.bytes ++ out.drop source.totalLength := by
  constructor
  · intro yields
    obtain ⟨header, checked, -⟩ := run_bind_ok yields
    have accepted : source.header out.length = .ok header :=
      Option.some.inj checked
    obtain ⟨fits, -⟩ := header_eq_ok.mp accepted
    have same := (serialize_yields fits).symm.trans yields
    cases same
    exact ⟨fits, rfl, rfl⟩
  · intro written
    obtain ⟨fits, rfl, rfl⟩ := written
    exact serialize_yields fits

end MirrorImageSource

end HidShift
