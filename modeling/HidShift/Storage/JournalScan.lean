import HidShift.Storage.Journal
import HidShift.Storage.ImageLayout

namespace HidShift

open Lib

namespace StorageFlashLayout

variable (layout : StorageFlashLayout)

theorem record_inside (index : StorageSlotIndex)
    (inRange : recordIndex < layout.recordsPerSlot) :
    layout.slotOffset index ≤ layout.recordOffset index recordIndex ∧
      layout.recordOffset index recordIndex + storageImageLen ≤
        layout.slotOffset index + layout.slotSize := by
  have whole : layout.recordsPerSlot * storageImageLen ≤ layout.slotSize :=
    Nat.div_mul_le_self layout.slotSize storageImageLen
  have step : (recordIndex + 1) * storageImageLen ≤
      layout.recordsPerSlot * storageImageLen :=
    Nat.mul_le_mul_right storageImageLen inRange
  rw [Nat.add_mul, Nat.one_mul] at step
  simp only [recordOffset]
  omega

theorem slots_apart (index : StorageSlotIndex) :
    layout.slotOffset index + layout.slotSize ≤ layout.slotOffset index.other ∨
      layout.slotOffset index.other + layout.slotSize ≤
        layout.slotOffset index := by
  cases index with
  | a => exact .inl (Nat.le_refl _)
  | b => exact .inr (Nat.le_refl _)

theorem records_apart (index : StorageSlotIndex) (different : left ≠ right) :
    layout.recordOffset index left + storageImageLen ≤
        layout.recordOffset index right ∨
      layout.recordOffset index right + storageImageLen ≤
        layout.recordOffset index left := by
  simp only [recordOffset, storageImageLen]
  omega

end StorageFlashLayout

namespace NorFlashStorageBackend

section

variable (flash content : Flash) (layout : StorageFlashLayout)
  (index : StorageSlotIndex)

theorem record_fill_record_same (recordIndex : Nat) :
    record (flash.fill (layout.recordOffset index recordIndex)
        storageImageLen content) layout index recordIndex =
      (List.range storageImageLen).map content :=
  Flash.read_fill_same ..

theorem record_fill_record_other (different : other ≠ recordIndex) :
    record (flash.fill (layout.recordOffset index recordIndex)
        storageImageLen content) layout index other =
      record flash layout index other :=
  Flash.read_fill_disjoint flash content (layout.records_apart index different)

theorem record_fill_record_otherSlot
    (inRange : recordIndex < layout.recordsPerSlot)
    (otherInRange : other < layout.recordsPerSlot) :
    record (flash.fill (layout.recordOffset index recordIndex)
        storageImageLen content) layout index.other other =
      record flash layout index.other other := by
  have inside := layout.record_inside index inRange
  have otherInside := layout.record_inside index.other otherInRange
  have apart := layout.slots_apart index
  apply Flash.read_fill_disjoint flash content
  omega

theorem record_fill_slot_otherSlot
    (otherInRange : other < layout.recordsPerSlot) :
    record (flash.fill (layout.slotOffset index) layout.slotSize content)
        layout index.other other =
      record flash layout index.other other := by
  have otherInside := layout.record_inside index.other otherInRange
  have apart := layout.slots_apart index
  apply Flash.read_fill_disjoint flash content
  omega

theorem record_erased (inRange : recordIndex < layout.recordsPerSlot) :
    record (flash.fill (layout.slotOffset index) layout.slotSize Flash.erased)
        layout index recordIndex =
      List.replicate storageImageLen 0xff := by
  have inside := layout.record_inside index inRange
  rw [List.eq_replicate_iff]
  refine ⟨by rw [record, Flash.read, List.length_map, List.length_range], ?_⟩
  intro byte member
  obtain ⟨position, inRecord, rfl⟩ := List.mem_map.mp member
  rw [List.mem_range] at inRecord
  rw [Flash.fill, if_pos (by omega)]
  rfl

end

variable {build : Build} {flash : Flash} {layout : StorageFlashLayout}
  {index : StorageSlotIndex}

def Decodes (build : Build) (image : List UInt8) : Prop :=
  ∃ state, decodeStorageImage build image = .ok state

variable {image : List UInt8}

theorem decodes_iff_isOk :
    Decodes build image ↔ (decodeStorageImage build image).isOk = true := by
  simp only [Decodes]
  cases decodeStorageImage build image <;> simp [Except.isOk, Except.toBool]

theorem Decodes.magic (decodes : Decodes build image) :
    slice image 0 4 = storageMagic := by
  obtain ⟨state, read⟩ := decodes
  unfold decodeStorageImage at read
  obtain ⟨hostCount, header, -⟩ := bind_eq_ok.mp read
  obtain ⟨-, -, afterLength⟩ := bind_eq_ok.mp header
  obtain ⟨done, magicRead, -⟩ := bind_eq_ok.mp afterLength
  exact require_eq_ok.mp magicRead

theorem not_erased_of_decodes (decodes : Decodes build image) :
    imageIsErased image = false := by
  by_contra erased
  rw [Bool.not_eq_false, imageIsErased, List.all_eq_true] at erased
  have first : (0x45 : UInt8) ∈ slice image 0 4 := by
    rw [decodes.magic]
    decide
  have member := List.mem_of_mem_drop (List.mem_of_mem_take first)
  exact absurd (erased _ member) (by decide)

theorem scanRecords_step {nextRecord : Nat}
    (decodes : Decodes build (record flash layout index recordIndex)) :
    scanRecords build flash layout index (remaining + 1) recordIndex
        latestImage nextRecord =
      scanRecords build flash layout index remaining (recordIndex + 1)
        (record flash layout index recordIndex) (recordIndex + 1) := by
  have present := not_erased_of_decodes decodes
  obtain ⟨state, read⟩ := decodes
  rw [scanRecords]
  simp only [present, read, Bool.false_eq_true, if_false]

theorem scanRecords_stop {nextRecord : Nat}
    (stops : 0 < remaining →
      ¬ Decodes build (record flash layout index recordIndex)) :
    (scanRecords build flash layout index remaining recordIndex latestImage
      nextRecord).1 = latestImage := by
  cases remaining with
  | zero => rw [scanRecords]
  | succ remaining =>
      rw [scanRecords]
      split
      · rfl
      · split
        · rename_i state read
          exact absurd ⟨state, read⟩ (stops (Nat.succ_pos _))
        · rfl

theorem scanRecords_latest {nextRecord : Nat} (inRange : ahead < remaining)
    (run : ∀ offset, offset ≤ ahead →
      Decodes build (record flash layout index (recordIndex + offset)))
    (stops : ahead + 1 < remaining →
      ¬ Decodes build (record flash layout index (recordIndex + ahead + 1))) :
    (scanRecords build flash layout index remaining recordIndex latestImage
      nextRecord).1 = record flash layout index (recordIndex + ahead) := by
  induction ahead generalizing remaining recordIndex latestImage nextRecord with
  | zero =>
      obtain ⟨remaining, rfl⟩ : ∃ rest, remaining = rest + 1 :=
        ⟨remaining - 1, by omega⟩
      have here : Decodes build (record flash layout index recordIndex) :=
        run 0 (Nat.le_refl 0)
      rw [scanRecords_step here]
      exact scanRecords_stop fun more => stops (by omega)
  | succ ahead ih =>
      obtain ⟨remaining, rfl⟩ : ∃ rest, remaining = rest + 1 :=
        ⟨remaining - 1, by omega⟩
      have here : Decodes build (record flash layout index recordIndex) :=
        run 0 (Nat.zero_le _)
      rw [scanRecords_step here, Nat.add_comm ahead 1, ← Nat.add_assoc]
      refine ih (by omega) ?_ ?_
      · intro offset within
        rw [Nat.add_assoc, Nat.add_comm 1 offset]
        exact run (offset + 1) (by omega)
      · intro more
        rw [Nat.add_assoc recordIndex, Nat.add_comm 1 ahead]
        exact stops (by omega)

theorem scanRecords_congr (same : ∀ offset < remaining,
      record flash layout index (recordIndex + offset) =
        record other layout index (recordIndex + offset))
    (latestImage : List UInt8) (nextRecord : Nat) :
    scanRecords build flash layout index remaining recordIndex latestImage
        nextRecord =
      scanRecords build other layout index remaining recordIndex latestImage
        nextRecord := by
  induction remaining generalizing recordIndex latestImage nextRecord with
  | zero => rfl
  | succ remaining ih =>
      have here := same 0 (Nat.succ_pos _)
      rw [Nat.add_zero] at here
      have later : ∀ offset < remaining,
          record flash layout index (recordIndex + 1 + offset) =
            record other layout index (recordIndex + 1 + offset) := by
        intro offset within
        rw [Nat.add_assoc, Nat.add_comm 1 offset]
        exact same (offset + 1) (by omega)
      rw [scanRecords, scanRecords, here]
      split
      · rfl
      · split
        · exact ih later _ _
        · rfl

theorem scanFlashSlot_congr (same : ∀ recordIndex < layout.recordsPerSlot,
      record flash layout index recordIndex =
        record other layout index recordIndex) :
    scanFlashSlot build flash layout index =
      scanFlashSlot build other layout index := by
  rw [scanFlashSlot, scanFlashSlot]
  refine scanRecords_congr ?_ _ _
  intro offset within
  rw [Nat.zero_add]
  exact same offset within

theorem scanFlashSlot_latest (inRange : latest < layout.recordsPerSlot)
    (run : ∀ recordIndex ≤ latest,
      Decodes build (record flash layout index recordIndex))
    (stops : latest + 1 < layout.recordsPerSlot →
      ¬ Decodes build (record flash layout index (latest + 1))) :
    (scanFlashSlot build flash layout index).1 =
      record flash layout index latest := by
  have found : (scanRecords build flash layout index layout.recordsPerSlot 0
      (List.replicate storageImageLen 0xff) 0).1 =
        record flash layout index (0 + latest) :=
    scanRecords_latest inRange
      (fun offset within => by rw [Nat.zero_add]; exact run offset within)
      (fun more => by rw [Nat.zero_add]; exact stops more)
  rw [Nat.zero_add] at found
  rw [scanFlashSlot]
  exact found

end NorFlashStorageBackend

end HidShift
