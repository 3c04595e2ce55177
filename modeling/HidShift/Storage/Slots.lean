import HidShift.Storage.JournalScan

/-! The two-slot store (`StorageSlotBackend`, `persist_storage_state`). -/

namespace HidShift

open Lib
open NorFlashStorageBackend (Decodes StorageWriteResult decodes_iff_isOk)

theorem StorageSlotIndex.other_ne (index : StorageSlotIndex) :
    index.other ≠ index := by
  cases index <;> decide

@[simp] theorem StorageSlotIndex.other_other (index : StorageSlotIndex) :
    index.other.other = index := by
  cases index <;> rfl

/-- An `ω` is what the device does during one write.  No write touches the
slot that it does not name. -/
class StorageSlotBackend (β : Type) (ω : outParam Type) where
  slot : β → StorageSlotIndex → List UInt8
  writeSlot : Build → β → ω → StorageSlotIndex → List UInt8 →
    Except StorageError Unit × β
  other_slot : ∀ build backend outcome index image,
    slot (writeSlot build backend outcome index image).2 index.other =
      slot backend index.other

open StorageSlotBackend (slot writeSlot other_slot)

def newestSlot (build : Build) (slots : StorageSlotIndex → List UInt8) :
    Option StorageSlot :=
  selectNewestValidStorageImage build (slots .a) (slots .b)

def targetSlot : Option StorageSlot → StorageSlotIndex
  | some slot => slot.index.other
  | none => .a

section

variable {β ω : Type} [StorageSlotBackend β ω]

def restoreLatestStorageState (build : Build) (backend : β) :
    Option StorageState :=
  (newestSlot build (slot backend)).map StorageSlot.state

def persistStorageState (build : Build) (backend : β) (outcome : ω)
    (state : StorageState) : Except StorageError StorageWriteResult × β :=
  match state.validate with
  | .error error => (.error error, backend)
  | .ok () =>
      let target := targetSlot (newestSlot build (slot backend))
      match encodeStorageImage build state with
      | .error error => (.error error, backend)
      | .ok image =>
          match writeSlot build backend outcome target image with
          | (.error error, after) => (.error error, after)
          | (.ok (), after) =>
              if slot after target ≠ image ∨
                  (decodeStorageImage build (slot after target)).isOk =
                    false then
                (.error .flashVerify, after)
              else
                (.ok ⟨target, state, image⟩, after)

end

/-- Generations are newer by less than half the counter's range. -/
def NorFlashStorageBackend.GenerationNewer (left right : UInt32) : Prop :=
  left ≠ right ∧ left - right < 0x80000000

open NorFlashStorageBackend (GenerationNewer)

theorem GenerationNewer.not_older (newer : GenerationNewer left right) :
    StorageSlot.generationIsNewerOrEqual right left = false := by
  obtain ⟨different, near⟩ := newer
  have distinct : left.toNat ≠ right.toNat :=
    fun same => different (UInt32.toNat_inj.mp same)
  have leftBound := left.toNat_lt
  have rightBound := right.toNat_lt
  rw [UInt32.lt_iff_toNat_lt, UInt32.toNat_sub] at near
  rw [StorageSlot.generationIsNewerOrEqual, decide_eq_false_iff_not,
    UInt32.lt_iff_toNat_lt, UInt32.toNat_sub]
  change (2 ^ 32 - right.toNat + left.toNat) % 2 ^ 32 < 2147483648 at near
  change ¬ (2 ^ 32 - left.toNat + right.toNat) % 2 ^ 32 < 2147483648
  omega

variable {build : Build} {slots : StorageSlotIndex → List UInt8}

theorem newestSlot_of_newer
    (holds : decodeStorageImage build (slots index) = .ok held)
    (newer : ∀ older,
      decodeStorageImage build (slots index.other) = .ok older →
        GenerationNewer held.generation older.generation) :
    newestSlot build slots = some ⟨index, slots index, held⟩ := by
  simp only [newestSlot, selectNewestValidStorageImage]
  cases index with
  | a =>
      rw [holds]
      cases other : decodeStorageImage build (slots .b) with
      | error error => rfl
      | ok older =>
          exact if_pos (decide_eq_true (newer older other).2)
  | b =>
      rw [holds]
      cases other : decodeStorageImage build (slots .a) with
      | error error => rfl
      | ok older =>
          exact if_neg (by
            rw [GenerationNewer.not_older (newer older other)]
            decide)

theorem newestSlot_of_tie
    (holdsFirst : decodeStorageImage build (slots .a) = .ok first)
    (holdsSecond : decodeStorageImage build (slots .b) = .ok second)
    (tie : first.generation = second.generation) :
    newestSlot build slots = some ⟨.a, slots .a, first⟩ := by
  simp only [newestSlot, selectNewestValidStorageImage]
  rw [holdsFirst, holdsSecond]
  refine if_pos (decide_eq_true ?_)
  rw [tie, UInt32.sub_self]
  decide

theorem newestSlot_decodes (selected : newestSlot build slots = some newest) :
    decodeStorageImage build (slots newest.index) = .ok newest.state := by
  unfold newestSlot selectNewestValidStorageImage at selected
  split at selected
  · rename_i first second
    split at selected
    · cases selected
      exact first
    · cases selected
      exact second
  · rename_i first second
    cases selected
    exact first
  · rename_i first second
    cases selected
    exact second
  · cases selected

theorem newestSlot_none
    (nothing : newestSlot build slots = none) (index : StorageSlotIndex) :
    ¬ Decodes build (slots index) := by
  rintro ⟨held, decodes⟩
  unfold newestSlot selectNewestValidStorageImage at nothing
  split at nothing
  · split at nothing
    · cases nothing
    · cases nothing
  · cases nothing
  · cases nothing
  · rename_i first second
    cases index with
    | a =>
        rw [decodes] at first
        cases first
    | b =>
        rw [decodes] at second
        cases second

theorem newestSlot_other (decodes : decodeStorageImage build
      (slots (targetSlot (newestSlot build slots)).other) = .ok older) :
    ∃ newest, newestSlot build slots = some newest ∧ newest.state = older := by
  cases selected : newestSlot build slots with
  | none => exact absurd ⟨older, decodes⟩ (newestSlot_none selected _)
  | some newest =>
      rw [selected] at decodes
      refine ⟨newest, rfl, ?_⟩
      have read := newestSlot_decodes selected
      simp only [targetSlot, StorageSlotIndex.other_other] at decodes
      rw [read] at decodes
      exact Except.ok.inj decodes

end HidShift
