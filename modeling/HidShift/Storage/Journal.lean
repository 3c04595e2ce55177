import HidShift.Lib.Flash
import HidShift.Storage.Image
import Mathlib.Logic.Function.Basic

/-! The two-sector journal on NOR flash (`NorFlashStorageBackend`).  The flash
is third-party code: during a write it may fail to erase, program any bytes
into the record it was given, report either result, and fail the read back.
What it never does is touch bytes outside the range of the call. -/

namespace HidShift

open Lib

inductive StorageSlotIndex
  | a
  | b
deriving DecidableEq, Repr

def StorageSlotIndex.other : StorageSlotIndex → StorageSlotIndex
  | .a => .b
  | .b => .a

structure StorageSlot where
  index : StorageSlotIndex
  image : List UInt8
  state : StorageState

def StorageSlot.generationIsNewerOrEqual (left right : UInt32) : Bool :=
  left - right < 0x80000000

def selectNewestValidStorageImage (build : Build)
    (slotA slotB : List UInt8) : Option StorageSlot :=
  match decodeStorageImage build slotA, decodeStorageImage build slotB with
  | .ok a, .ok b =>
      if StorageSlot.generationIsNewerOrEqual a.generation b.generation then
        some ⟨.a, slotA, a⟩
      else
        some ⟨.b, slotB, b⟩
  | .ok state, .error _ => some ⟨.a, slotA, state⟩
  | .error _, .ok state => some ⟨.b, slotB, state⟩
  | .error _, .error _ => none

structure StorageFlashLayout where
  baseOffset : Nat
  slotSize : Nat

structure FlashGeometry where
  capacity : Nat
  eraseSize : Nat
  writeSize : Nat
  readSize : Nat

def isAligned (value align : Nat) : Bool := align ≠ 0 ∧ value % align = 0

namespace StorageFlashLayout

def new (baseOffset : Nat) : StorageFlashLayout := ⟨baseOffset, 4096⟩

def len (layout : StorageFlashLayout) : Nat := layout.slotSize * 2

def recordsPerSlot (layout : StorageFlashLayout) : Nat :=
  layout.slotSize / storageImageLen

def slotOffset (layout : StorageFlashLayout) : StorageSlotIndex → Nat
  | .a => layout.baseOffset
  | .b => layout.baseOffset + layout.slotSize

def recordOffset (layout : StorageFlashLayout) (index : StorageSlotIndex)
    (recordIndex : Nat) : Nat :=
  layout.slotOffset index + recordIndex * storageImageLen

/-- Offsets are `u32`; the checked addition is the second test. -/
def validateForFlash (layout : StorageFlashLayout)
    (geometry : FlashGeometry) : Except StorageError Unit :=
  if layout.slotSize < storageImageLen ∨
      2 ^ 32 ≤ layout.baseOffset + layout.len ∨
      geometry.capacity < layout.baseOffset + layout.len ∨
      ¬ isAligned layout.baseOffset geometry.eraseSize ∨
      ¬ isAligned layout.slotSize geometry.eraseSize ∨
      layout.slotSize % storageImageLen ≠ 0 ∨
      ¬ isAligned layout.baseOffset geometry.writeSize ∨
      ¬ isAligned storageImageLen geometry.writeSize ∨
      ¬ isAligned layout.baseOffset geometry.readSize ∨
      ¬ isAligned storageImageLen geometry.readSize then
    .error .flashLayout
  else
    .ok ()

end StorageFlashLayout

/-- What the flash does during one `write_slot`: the sector it leaves when an
erase fails, the bytes it leaves in the record, and the results it reports. -/
structure FlashOutcome where
  eraseFailure : Option Flash
  programmed : Flash
  programReported : Bool
  readReported : Bool

structure NorFlashStorageBackend where
  flash : Flash
  layout : StorageFlashLayout
  slots : StorageSlotIndex → List UInt8
  nextRecord : StorageSlotIndex → Nat

namespace NorFlashStorageBackend

def record (flash : Flash) (layout : StorageFlashLayout)
    (index : StorageSlotIndex) (recordIndex : Nat) : List UInt8 :=
  flash.read (layout.recordOffset index recordIndex) storageImageLen

def imageIsErased (image : List UInt8) : Bool := image.all fun byte => byte = 0xff

/-- The loop of `scan_flash_slot` from `recordIndex` on, `remaining` records
before the end of the sector. -/
def scanRecords (build : Build) (flash : Flash) (layout : StorageFlashLayout)
    (index : StorageSlotIndex) :
    (remaining recordIndex : Nat) → (latestImage : List UInt8) →
      (nextRecord : Nat) → List UInt8 × Nat
  | 0, _, latestImage, nextRecord => (latestImage, nextRecord)
  | remaining + 1, recordIndex, latestImage, _ =>
      let image := record flash layout index recordIndex
      if imageIsErased image then (latestImage, recordIndex)
      else
        match decodeStorageImage build image with
        | .ok _ =>
            scanRecords build flash layout index remaining (recordIndex + 1)
              image (recordIndex + 1)
        | .error _ => (latestImage, layout.recordsPerSlot)

@[irreducible] def scanFlashSlot (build : Build) (flash : Flash)
    (layout : StorageFlashLayout) (index : StorageSlotIndex) :
    List UInt8 × Nat :=
  scanRecords build flash layout index layout.recordsPerSlot 0
    (List.replicate storageImageLen 0xff) 0

def new (build : Build) (geometry : FlashGeometry) (flash : Flash)
    (layout : StorageFlashLayout) :
    Except StorageError NorFlashStorageBackend := do
  layout.validateForFlash geometry
  return {
    flash
    layout
    slots := fun index => (scanFlashSlot build flash layout index).1
    nextRecord := fun index => (scanFlashSlot build flash layout index).2 }

/-- Programs a record, reads it back and accepts it if it verifies.  The next
write goes behind it either way. -/
def programRecord (build : Build) (backend : NorFlashStorageBackend)
    (outcome : FlashOutcome) (index : StorageSlotIndex) (recordIndex : Nat)
    (image : List UInt8) : Except StorageError Unit × NorFlashStorageBackend :=
  let offset := backend.layout.recordOffset index recordIndex
  let backend :=
    { backend with
      flash := backend.flash.fill offset storageImageLen outcome.programmed
      nextRecord := Function.update backend.nextRecord index (recordIndex + 1) }
  let verified := backend.flash.read offset storageImageLen
  if outcome.programReported = false then (.error .flashWrite, backend)
  else if outcome.readReported = false then (.error .flashRead, backend)
  else if verified ≠ image ∨
      (decodeStorageImage build verified).isOk = false then
    (.error .flashVerify, backend)
  else
    (.ok (), { backend with slots := Function.update backend.slots index image })

def eraseSlot (backend : NorFlashStorageBackend)
    (index : StorageSlotIndex) : NorFlashStorageBackend :=
  { backend with
    flash :=
      backend.flash.fill (backend.layout.slotOffset index)
        backend.layout.slotSize Flash.erased }

def writeSlot (build : Build) (backend : NorFlashStorageBackend)
    (outcome : FlashOutcome) (index : StorageSlotIndex)
    (image : List UInt8) : Except StorageError Unit × NorFlashStorageBackend :=
  if backend.layout.recordsPerSlot ≤ backend.nextRecord index then
    match outcome.eraseFailure with
    | some left =>
        (.error .flashErase,
          { backend with
            flash :=
              backend.flash.fill (backend.layout.slotOffset index)
                backend.layout.slotSize left })
    | none =>
        programRecord build (backend.eraseSlot index) outcome index 0 image
  else
    programRecord build backend outcome index (backend.nextRecord index) image

def newestValid (build : Build) (backend : NorFlashStorageBackend) :
    Option StorageSlot :=
  selectNewestValidStorageImage build (backend.slots .a) (backend.slots .b)

def restoreLatestStorageState (build : Build)
    (backend : NorFlashStorageBackend) : Option StorageState :=
  (backend.newestValid build).map StorageSlot.state

/-- The slot the next write goes to: away from the newest valid image. -/
def target (build : Build) (backend : NorFlashStorageBackend) :
    StorageSlotIndex :=
  match backend.newestValid build with
  | some slot => slot.index.other
  | none => .a

structure StorageWriteResult where
  index : StorageSlotIndex
  state : StorageState
  image : List UInt8

def persistStorageState (build : Build) (backend : NorFlashStorageBackend)
    (outcome : FlashOutcome) (state : StorageState) :
    Except StorageError StorageWriteResult × NorFlashStorageBackend :=
  match state.validate with
  | .error error => (.error error, backend)
  | .ok () =>
      let target := backend.target build
      match encodeStorageImage build state with
      | .error error => (.error error, backend)
      | .ok image =>
          match backend.writeSlot build outcome target image with
          | (.error error, after) => (.error error, after)
          | (.ok (), after) =>
              if after.slots target ≠ image ∨
                  (decodeStorageImage build (after.slots target)).isOk =
                    false then
                (.error .flashVerify, after)
              else
                (.ok ⟨target, state, image⟩, after)

end NorFlashStorageBackend

end HidShift
