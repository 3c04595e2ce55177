import HidShift.Storage.Slots
import HidShift.Lib.Run

namespace HidShift

open Lib

namespace NorFlashStorageBackend

variable {build : Build} {geometry : FlashGeometry}
  {backend after : NorFlashStorageBackend} {outcome : FlashOutcome}
  {index : StorageSlotIndex} {image : List UInt8}

/-- A write leaves the other sector alone, and on failure every image held in
memory. -/
structure Kept (before after : NorFlashStorageBackend)
    (index : StorageSlotIndex) : Prop where
  layout : after.layout = before.layout
  otherSlot : after.slots index.other = before.slots index.other
  otherRecords : ∀ recordIndex < before.layout.recordsPerSlot,
    record after.flash before.layout index.other recordIndex =
      record before.flash before.layout index.other recordIndex

/-- The sector `index` lets a write be found at boot: its journal is full, so
that it is erased first, or every record before the next one decodes and the
record behind the next one does not. -/
def CleanSector (build : Build) (backend : NorFlashStorageBackend)
    (index : StorageSlotIndex) : Prop :=
  backend.nextRecord index < backend.layout.recordsPerSlot →
    (∀ recordIndex < backend.nextRecord index,
      Decodes build (record backend.flash backend.layout index recordIndex)) ∧
    (backend.nextRecord index + 1 < backend.layout.recordsPerSlot →
      ¬ Decodes build (record backend.flash backend.layout index
        (backend.nextRecord index + 1)))

variable {layout : StorageFlashLayout} {failure : StorageError}
  {recordIndex : Nat}

theorem programRecord_kept
    (inRange : recordIndex < backend.layout.recordsPerSlot) :
    Kept backend
      (programRecord build backend outcome index recordIndex image).2 index := by
  have flash := fun other (otherInRange : other <
      backend.layout.recordsPerSlot) =>
    record_fill_record_otherSlot backend.flash outcome.programmed
      backend.layout index inRange otherInRange
  unfold programRecord
  dsimp only
  split
  · exact ⟨rfl, rfl, flash⟩
  · split
    · exact ⟨rfl, rfl, flash⟩
    · split
      · exact ⟨rfl, rfl, flash⟩
      · exact ⟨rfl, Function.update_of_ne index.other_ne .., flash⟩

theorem programRecord_failed
    (failed : (programRecord build backend outcome index recordIndex image).1 =
      .error failure) :
    (programRecord build backend outcome index recordIndex image).2.slots =
      backend.slots := by
  unfold programRecord at failed ⊢
  dsimp only at failed ⊢
  split at failed
  · rename_i writeFailed
    rw [if_pos writeFailed]
  · rename_i written
    rw [if_neg written]
    split at failed
    · rename_i readFailed
      rw [if_pos readFailed]
    · rename_i read
      rw [if_neg read]
      split at failed
      · rename_i unverified
        rw [if_pos unverified]
      · cases failed

theorem programRecord_accepted
    (accepted : (programRecord build backend outcome index recordIndex image).1
      = .ok ()) :
    (programRecord build backend outcome index recordIndex image).2.slots
        index = image ∧
      Decodes build image ∧
      record (programRecord build backend outcome index recordIndex
        image).2.flash backend.layout index recordIndex = image ∧
      ∀ other ≠ recordIndex,
        record (programRecord build backend outcome index recordIndex
          image).2.flash backend.layout index other =
            record backend.flash backend.layout index other := by
  unfold programRecord at accepted ⊢
  dsimp only at accepted ⊢
  split at accepted
  · cases accepted
  · rename_i written
    rw [if_neg written]
    split at accepted
    · cases accepted
    · rename_i read
      rw [if_neg read]
      split at accepted
      · cases accepted
      · rename_i verified
        rw [if_neg verified]
        rw [not_or, not_not] at verified
        obtain ⟨same, decodes⟩ := verified
        refine ⟨Function.update_self .., ?_, same, ?_⟩
        · rw [decodes_iff_isOk, ← same]
          exact (Bool.not_eq_false _).mp decodes
        · intro other different
          exact record_fill_record_other _ _ _ _ different

theorem not_decodes_erased (build : Build) :
    ¬ Decodes build (List.replicate storageImageLen 0xff) := by
  intro decodes
  have present := not_erased_of_decodes decodes
  rw [imageIsErased, List.all_replicate] at present
  revert present
  decide

variable (usable : 0 < backend.layout.recordsPerSlot)

include usable in
theorem writeSlot_kept :
    Kept backend (backend.writeSlot build outcome index image).2 index := by
  have erased := fun content other (otherInRange : other <
      backend.layout.recordsPerSlot) =>
    record_fill_slot_otherSlot backend.flash content backend.layout index
      otherInRange
  simp only [writeSlot]
  split
  · split
    · rename_i left failed
      exact ⟨rfl, rfl, erased left⟩
    · have programmed : Kept (backend.eraseSlot index)
          (programRecord build (backend.eraseSlot index) outcome index 0
            image).2 index := programRecord_kept usable
      refine ⟨programmed.layout, programmed.otherSlot, ?_⟩
      intro other otherInRange
      exact (programmed.otherRecords other otherInRange).trans
        (erased Flash.erased other otherInRange)
  · rename_i room
    exact programRecord_kept (Nat.not_le.mp room)

theorem writeSlot_failed
    (failed : (backend.writeSlot build outcome index image).1 = .error failure) :
    (backend.writeSlot build outcome index image).2.slots =
      backend.slots := by
  simp only [writeSlot] at failed ⊢
  split at failed
  · rename_i full
    rw [if_pos full]
    split at failed
    · rfl
    · exact programRecord_failed failed
  · rename_i room
    rw [if_neg room]
    exact programRecord_failed failed

theorem writeSlot_slot
    (accepted : (backend.writeSlot build outcome index image).1 = .ok ()) :
    (backend.writeSlot build outcome index image).2.slots index = image ∧
      Decodes build image := by
  simp only [writeSlot] at accepted ⊢
  split at accepted
  · rename_i full
    rw [if_pos full]
    split at accepted
    · cases accepted
    · obtain ⟨slot, decodes, -⟩ := programRecord_accepted accepted
      exact ⟨slot, decodes⟩
  · rename_i room
    rw [if_neg room]
    obtain ⟨slot, decodes, -⟩ := programRecord_accepted accepted
    exact ⟨slot, decodes⟩

include usable in
theorem writeSlot_scanned (clean : CleanSector build backend index)
    (accepted : (backend.writeSlot build outcome index image).1 = .ok ()) :
    (scanFlashSlot build (backend.writeSlot build outcome index image).2.flash
      backend.layout index).1 = image := by
  simp only [writeSlot] at accepted ⊢
  split at accepted
  · rename_i full
    rw [if_pos full]
    split at accepted
    · cases accepted
    · obtain ⟨-, decodes, written, others⟩ := programRecord_accepted accepted
      change record _ backend.layout index 0 = image at written
      rw [scanFlashSlot_latest usable, written]
      · intro recordIndex first
        rw [Nat.le_zero.mp first, written]
        exact decodes
      · intro more stale
        have erased := (others 1 (by decide)).trans
          (record_erased backend.flash backend.layout index more)
        apply not_decodes_erased build
        rw [← erased]
        exact stale
  · rename_i room
    rw [if_neg room]
    have inRange := Nat.not_le.mp room
    obtain ⟨earlier, later⟩ := clean inRange
    obtain ⟨-, decodes, written, others⟩ := programRecord_accepted accepted
    rw [scanFlashSlot_latest inRange, written]
    · intro recordIndex upTo
      rcases Nat.lt_or_eq_of_le upTo with before | rfl
      · rw [others recordIndex (Nat.ne_of_lt before)]
        exact earlier recordIndex before
      · rw [written]
        exact decodes
    · intro more
      rw [others _ (Nat.succ_ne_self _)]
      exact later more

variable {state : StorageState}

theorem persist_ok {result : StorageWriteResult}
    (persisted : backend.persistStorageState build outcome state =
      (.ok result, after)) :
    state.validate = .ok () ∧
      (backend.writeSlot build outcome (backend.target build)
        (imageOf build state)).1 = .ok () ∧
      after = (backend.writeSlot build outcome (backend.target build)
        (imageOf build state)).2 := by
  unfold persistStorageState at persisted
  split at persisted
  · cases persisted
  · rename_i valid
    rw [encodeStorageImage_valid build valid] at persisted
    dsimp only at persisted
    split at persisted
    · cases persisted
    · rename_i written finished
      split at persisted
      · cases persisted
      · cases persisted
        rw [finished]
        exact ⟨valid, rfl, rfl⟩

theorem persist_error
    (persisted : backend.persistStorageState build outcome state = (.error
      failure, after)) :
    after = backend ∨ ∃ image,
      after = (backend.writeSlot build outcome (backend.target build)
        image).2 ∧ after.slots = backend.slots := by
  unfold persistStorageState at persisted
  split at persisted
  · cases persisted
    exact .inl rfl
  · split at persisted
    · cases persisted
      exact .inl rfl
    · rename_i image encoded
      dsimp only at persisted
      split at persisted
      · rename_i error written finished
        cases persisted
        refine .inr ⟨image, ?_, ?_⟩
        · rw [finished]
        · have failed : (backend.writeSlot build outcome
              (backend.target build) image).2.slots = backend.slots :=
            writeSlot_failed (congrArg Prod.fst finished)
          rwa [finished] at failed
      · rename_i written finished
        -- An accepted write always passes the second check.
        have held : (backend.writeSlot build outcome (backend.target build)
            image).2.slots (backend.target build) = image ∧
              Decodes build image :=
          writeSlot_slot (congrArg Prod.fst finished)
        rw [finished] at held
        obtain ⟨slot, decodes⟩ := held
        rw [if_neg] at persisted
        · cases persisted
        · rw [slot, decodes_iff_isOk.mp decodes]
          simp

structure PersistCall where
  state : StorageState
  outcome : FlashOutcome

def Persists (build : Build) (before : NorFlashStorageBackend)
    (call : PersistCall) (output : Except StorageError StorageWriteResult)
    (after : NorFlashStorageBackend) : Prop :=
  before.persistStorageState build call.outcome call.state = (output, after)

abbrev JournalRun (build : Build) := Run (Persists build)

/-- Between two writes, the sector that holds the newest image scans to the
image held in memory. -/
structure JournalGood (build : Build) (layout : StorageFlashLayout)
    (backend : NorFlashStorageBackend) : Prop where
  layout : backend.layout = layout
  usable : 0 < backend.layout.recordsPerSlot
  scanned : (scanFlashSlot build backend.flash backend.layout
      (backend.target build).other).1 =
    backend.slots (backend.target build).other

def Persisted (build : Build) (backend : NorFlashStorageBackend)
    (state : StorageState) : Prop :=
  (∀ index, (scanFlashSlot build backend.flash backend.layout index).1 =
    backend.slots index) ∧
    backend.restoreLatestStorageState build = some (state.durable build)

theorem Kept.scan (kept : Kept before after index) :
    (scanFlashSlot build after.flash after.layout index.other).1 =
      (scanFlashSlot build before.flash before.layout index.other).1 := by
  rw [kept.layout, scanFlashSlot_congr kept.otherRecords]

theorem JournalGood.persist_error (good : JournalGood build layout backend)
    (persisted : backend.persistStorageState build outcome state = (.error
      failure, after)) :
    JournalGood build layout after := by
  rcases NorFlashStorageBackend.persist_error persisted with
    rfl | ⟨image, written, slots⟩
  · exact good
  · have kept : Kept backend after (backend.target build) := by
      rw [written]
      exact writeSlot_kept good.usable
    have target : after.target build = backend.target build := by
      rw [NorFlashStorageBackend.target, newestValid, slots]
      rfl
    exact {
      layout := kept.layout.trans good.layout
      usable := by rw [kept.layout]; exact good.usable
      scanned := by rw [target, kept.scan, slots, good.scanned] }

theorem JournalGood.persist_ok {result : StorageWriteResult}
    (good : JournalGood build layout backend)
    (newer : ∀ slot, backend.newestValid build = some slot → GenerationNewer
      state.generation slot.state.generation)
    (clean : CleanSector build backend (backend.target build))
    (persisted : backend.persistStorageState build outcome state = (.ok result,
      after)) :
    JournalGood build layout after ∧ Persisted build after state := by
  obtain ⟨valid, accepted, rfl⟩ :=
    NorFlashStorageBackend.persist_ok persisted
  have kept : Kept backend (backend.writeSlot build outcome
      (backend.target build) (imageOf build state)).2
        (backend.target build) := writeSlot_kept good.usable
  have scanned := writeSlot_scanned good.usable clean accepted
  obtain ⟨slot, decoded, read⟩ := writeSlot_slot accepted
  generalize (backend.writeSlot build outcome (backend.target build)
    (imageOf build state)).2 = after at kept scanned slot persisted ⊢
  generalize index_eq : backend.target build = index at *
  cases decoded_eq_durable build state valid read
  have newest : after.newestValid build =
      some ⟨index, after.slots index, state.durable build⟩ := by
    apply newestSlot_of_newer (by rw [slot]; exact read)
    intro older decodes
    rw [kept.otherSlot, ← index_eq] at decodes
    obtain ⟨newestSlot, selected, rfl⟩ := newestSlot_other decodes
    exact newer newestSlot selected
  have target : after.target build = index.other := by
    rw [NorFlashStorageBackend.target, newest]
  have back : index.other.other = index := by
    cases index <;> rfl
  have otherScanned : (scanFlashSlot build after.flash after.layout
      index.other).1 = after.slots index.other := by
    rw [kept.scan, kept.otherSlot, ← index_eq]
    exact good.scanned
  have ownScanned : (scanFlashSlot build after.flash after.layout index).1 =
      after.slots index := by
    rw [kept.layout, slot]
    exact scanned
  refine ⟨⟨kept.layout.trans good.layout,
    by rw [kept.layout]; exact good.usable, ?_⟩, ?_, ?_⟩
  · rw [target, back]
    exact ownScanned
  · intro other
    by_cases same : other = index
    · rw [same]
      exact ownScanned
    · have isOther : other = index.other := by
        revert same
        cases other <;> cases index <;> decide
      rw [isOther]
      exact otherScanned
  · rw [restoreLatestStorageState, newest]
    rfl

theorem validate_usable (valid : layout.validateForFlash geometry = .ok ()) :
    0 < layout.recordsPerSlot := by
  unfold StorageFlashLayout.validateForFlash at valid
  split at valid
  · cases valid
  · rename_i checks
    rw [not_or] at checks
    exact Nat.div_pos (Nat.not_lt.mp checks.1) (by decide)

theorem JournalGood.of_new {flash : Flash}
    (boot : new build geometry flash layout = .ok backend) :
    JournalGood build layout backend := by
  obtain ⟨done, valid, opened⟩ := bind_eq_ok.mp boot
  cases opened
  exact ⟨rfl, validate_usable valid, rfl⟩

theorem reopen {flash : Flash}
    (boot : new build geometry flash layout = .ok opened)
    (sameLayout : backend.layout = layout)
    (persisted : Persisted build backend state) :
    ∃ reopened, new build geometry backend.flash layout = .ok reopened ∧
      reopened.restoreLatestStorageState build =
        some (state.durable build) := by
  obtain ⟨⟨⟩, valid, -⟩ := bind_eq_ok.mp boot
  obtain ⟨scanned, restored⟩ := persisted
  refine ⟨_, bind_eq_ok.mpr ⟨(), valid, rfl⟩, ?_⟩
  rw [sameLayout] at scanned
  rw [← restored]
  unfold restoreLatestStorageState newestValid
  dsimp only
  rw [scanned .a, scanned .b]

end NorFlashStorageBackend

namespace NorFlashStorageBackend

theorem decodes_imageOf_new (build : Build) (generation : UInt32) :
    Decodes build (imageOf build (.new generation)) := by
  refine ⟨(StorageState.new generation).durable build, ?_⟩
  have settings : GlobalSettings.default.Storable := by
    simp only [GlobalSettings.Storable]
    decide
  rw [decodeStorageImage_imageOf build _ rfl]
  change (decodeGlobalSettings (encodeGlobalSettings .default) >>= _) = _
  rw [decodeGlobalSettings_encode.mpr ⟨settings, rfl⟩]
  rfl

def programs (image : List UInt8) : FlashOutcome :=
  ⟨none, Flash.ofBytes image, true, true⟩

def corrupts : FlashOutcome := ⟨none, fun _ => 0, true, true⟩

def testGeometry : FlashGeometry := ⟨8192, 4096, 4, 1⟩

def testLayout : StorageFlashLayout := .new 0

def booted (build : Build) (flash : Flash) : NorFlashStorageBackend where
  flash := flash
  layout := testLayout
  slots := fun index => (scanFlashSlot build flash testLayout index).1
  nextRecord := fun index => (scanFlashSlot build flash testLayout index).2

theorem new_test (build : Build) (flash : Flash) :
    new build testGeometry flash testLayout = .ok (booted build flash) := rfl

theorem booted_nextRecord (build : Build) (flash : Flash)
    (index : StorageSlotIndex) :
    (booted build flash).nextRecord index =
      (scanFlashSlot build flash testLayout index).2 := rfl

theorem scan_blocked {flash : Flash} {layout : StorageFlashLayout}
    (blocked : ¬ Decodes build (record flash layout index 0)) :
    (scanFlashSlot build flash layout index).1 =
      List.replicate storageImageLen 0xff := by
  rw [scanFlashSlot]
  exact scanRecords_stop fun _ => blocked

theorem newestValid_blocked {flash : Flash}
    (blocked : ∀ index, ¬ Decodes build (record flash testLayout index 0)) :
    (booted build flash).newestValid build = none := by
  have undecodable := not_decodes_erased build
  unfold newestValid selectNewestValidStorageImage booted
  dsimp only
  rw [scan_blocked (blocked .a), scan_blocked (blocked .b)]
  cases read : decodeStorageImage build
      (List.replicate storageImageLen 0xff) with
  | error error => rfl
  | ok state => exact absurd ⟨state, read⟩ undecodable

theorem record_erasedFlash (index : StorageSlotIndex) (recordIndex : Nat) :
    record Flash.erased testLayout index recordIndex =
      List.replicate storageImageLen 0xff := by
  rw [List.eq_replicate_iff]
  refine ⟨by rw [record, Flash.read, List.length_map, List.length_range], ?_⟩
  intro byte member
  obtain ⟨position, -, rfl⟩ := List.mem_map.mp member
  rfl

theorem scan_erasedFlash (build : Build) (index : StorageSlotIndex) :
    scanFlashSlot build Flash.erased testLayout index =
      (List.replicate storageImageLen 0xff, 0) := by
  have erased : imageIsErased (record Flash.erased testLayout index 0) =
      true := by
    rw [record_erasedFlash, imageIsErased, List.all_replicate]
    decide
  have four : testLayout.recordsPerSlot = 3 + 1 := rfl
  rw [scanFlashSlot, four, scanRecords, if_pos erased]

variable {build : Build} {backend : NorFlashStorageBackend}
  {outcome : FlashOutcome} {index : StorageSlotIndex} {image : List UInt8}
  {state : StorageState}

theorem programRecord_flash (recordIndex : Nat) :
    (programRecord build backend outcome index recordIndex image).2.flash =
        backend.flash.fill (backend.layout.recordOffset index recordIndex)
          storageImageLen outcome.programmed ∧
      (programRecord build backend outcome index recordIndex
        image).2.nextRecord index = recordIndex + 1 := by
  unfold programRecord
  dsimp only
  split
  · exact ⟨rfl, Function.update_self ..⟩
  · split
    · exact ⟨rfl, Function.update_self ..⟩
    · split
      · exact ⟨rfl, Function.update_self ..⟩
      · exact ⟨rfl, Function.update_self ..⟩

theorem programRecord_programs (sized : image.length = storageImageLen)
    (decodes : Decodes build image) (recordIndex : Nat) :
    (programRecord build backend (programs image) index recordIndex
      image).1 = .ok () := by
  have read : (backend.flash.fill
      (backend.layout.recordOffset index recordIndex) storageImageLen
        (programs image).programmed).read
          (backend.layout.recordOffset index recordIndex) storageImageLen =
      image :=
    (Flash.read_fill_same ..).trans (Flash.read_ofBytes sized)
  unfold programRecord
  dsimp only
  rw [if_neg (by simp [programs]), if_neg (by simp [programs]), if_neg]
  rw [read, decodes_iff_isOk.mp decodes]
  simp

theorem writeSlot_programs (sized : image.length = storageImageLen)
    (decodes : Decodes build image) :
    (backend.writeSlot build (programs image) index image).1 = .ok () := by
  simp only [writeSlot]
  split
  · exact programRecord_programs sized decodes 0
  · exact programRecord_programs sized decodes _

theorem persist_programs (valid : state.validate = .ok ())
    (decodes : Decodes build (imageOf build state)) :
    backend.persistStorageState build (programs (imageOf build state)) state =
      (.ok ⟨backend.target build, state, imageOf build state⟩,
        (backend.writeSlot build (programs (imageOf build state))
          (backend.target build) (imageOf build state)).2) := by
  have accepted : (backend.writeSlot build (programs (imageOf build state))
      (backend.target build) (imageOf build state)).1 = .ok () :=
    writeSlot_programs (length_imageOf build state) decodes
  obtain ⟨slot, -⟩ := writeSlot_slot accepted
  simp only [persistStorageState]
  rw [valid, encodeStorageImage_valid build valid]
  dsimp only
  generalize backend.writeSlot build (programs (imageOf build state))
    (backend.target build) (imageOf build state) = written at accepted slot ⊢
  obtain ⟨done, after⟩ := written
  cases accepted
  dsimp only at slot ⊢
  rw [if_neg]
  rw [slot, decodes_iff_isOk.mp decodes]
  simp

theorem not_decodes_zeros (build : Build) :
    ¬ Decodes build ((List.range storageImageLen).map fun _ => 0) := by
  intro decodes
  have first : (0x45 : UInt8) ∈
      slice ((List.range storageImageLen).map fun _ => 0) 0 4 := by
    rw [decodes.magic]
    decide
  have member := List.mem_of_mem_drop (List.mem_of_mem_take first)
  obtain ⟨position, -, zero⟩ := List.mem_map.mp member
  revert zero
  decide

theorem programRecord_corrupts (recordIndex : Nat) :
    (programRecord build backend corrupts index recordIndex image).1 =
      .error .flashVerify := by
  unfold programRecord
  dsimp only
  rw [if_neg (by decide), if_neg (by decide), if_pos]
  apply Or.inr
  rw [Flash.read_fill_same, ← Bool.not_eq_true, ← decodes_iff_isOk]
  exact not_decodes_zeros build

theorem persist_corrupts (valid : state.validate = .ok ())
    (room : backend.nextRecord (backend.target build) <
      backend.layout.recordsPerSlot) :
    backend.persistStorageState build corrupts state =
      (.error .flashVerify,
        (programRecord build backend corrupts (backend.target build)
          (backend.nextRecord (backend.target build))
          (imageOf build state)).2) := by
  have failed : (programRecord build backend corrupts (backend.target build)
      (backend.nextRecord (backend.target build))
      (imageOf build state)).1 = .error .flashVerify :=
    programRecord_corrupts _
  simp only [persistStorageState, writeSlot]
  rw [valid, encodeStorageImage_valid build valid]
  dsimp only
  rw [if_neg (Nat.not_le.mpr room)]
  generalize programRecord build backend corrupts (backend.target build)
    (backend.nextRecord (backend.target build)) (imageOf build state) =
      written at failed ⊢
  obtain ⟨done, after⟩ := written
  cases failed
  rfl

theorem target_blocked (blocked : backend.newestValid build = none) :
    backend.target build = .a := by
  rw [target, blocked]

/-- On an erased flash a first write is corrupted and skipped, a second write
of the same state succeeds, and the next boot finds nothing. -/
theorem persist_lost (valid : state.validate = .ok ())
    (decodes : Decodes build (imageOf build state)) :
    ∃ opened first second reopened result,
      new build testGeometry Flash.erased testLayout = .ok opened ∧
      opened.persistStorageState build corrupts state =
        (.error .flashVerify, first) ∧
      first.newestValid build = none ∧
      first.persistStorageState build (programs (imageOf build state)) state =
        (.ok result, second) ∧
      new build testGeometry second.flash testLayout = .ok reopened ∧
      reopened.restoreLatestStorageState build = none := by
  have undecodable := not_decodes_erased build
  have emptyFlash : ∀ index,
      ¬ Decodes build (record Flash.erased testLayout index 0) := by
    intro index
    rw [record_erasedFlash]
    exact undecodable
  have nothing := newestValid_blocked emptyFlash
  have target := target_blocked nothing
  have position : (booted build Flash.erased).nextRecord .a = 0 := by
    rw [booted_nextRecord, scan_erasedFlash]
  have room : 0 < (booted build Flash.erased).layout.recordsPerSlot :=
    show 0 < testLayout.recordsPerSlot by decide
  have corrupted : (booted build Flash.erased).persistStorageState build
      corrupts state = _ :=
    persist_corrupts valid (by rw [target, position]; exact room)
  rw [target, position] at corrupted
  -- The first record now holds zeros and is skipped.
  have slots : (programRecord build (booted build Flash.erased) corrupts .a 0
      (imageOf build state)).2.slots = (booted build Flash.erased).slots :=
    programRecord_failed (programRecord_corrupts 0)
  have layout : (programRecord build (booted build Flash.erased) corrupts .a 0
      (imageOf build state)).2.layout = testLayout :=
    (programRecord_kept room).layout
  have flash : (programRecord build (booted build Flash.erased) corrupts .a 0
      (imageOf build state)).2.flash =
        Flash.erased.fill (testLayout.recordOffset .a 0) storageImageLen
          fun _ => 0 :=
    (programRecord_flash 0).1
  have next : (programRecord build (booted build Flash.erased) corrupts .a 0
      (imageOf build state)).2.nextRecord .a = 1 :=
    (programRecord_flash 0).2
  generalize (programRecord build (booted build Flash.erased) corrupts .a 0
    (imageOf build state)).2 = first at corrupted slots layout flash next
  have nothingFirst : first.newestValid build = none := by
    rw [newestValid, slots]
    exact nothing
  have targetFirst := target_blocked nothingFirst
  have persisted : first.persistStorageState build
      (programs (imageOf build state)) state = _ :=
    persist_programs valid decodes
  have fits : ¬ first.layout.recordsPerSlot ≤ first.nextRecord .a := by
    rw [layout, next]
    decide
  rw [targetFirst, writeSlot, if_neg fits, next] at persisted
  -- The second record is written behind it, which the scan never reaches.
  have written : (programRecord build first (programs (imageOf build state))
      .a 1 (imageOf build state)).2.flash =
        first.flash.fill (testLayout.recordOffset .a 1) storageImageLen
          (Flash.ofBytes (imageOf build state)) := by
    rw [(programRecord_flash 1).1, layout]
    rfl
  generalize (programRecord build first (programs (imageOf build state)) .a 1
    (imageOf build state)).2 = second at persisted written
  refine ⟨_, first, second, _, _, new_test .., corrupted, nothingFirst,
    persisted, new_test .., ?_⟩
  rw [restoreLatestStorageState, newestValid_blocked]
  · rfl
  · intro index
    rw [written]
    cases index with
    | a =>
        rw [record_fill_record_other _ _ _ _ (by decide), flash,
          record_fill_record_same]
        exact not_decodes_zeros build
    | b =>
        have untouched : ∀ flash content recordIndex,
            recordIndex < testLayout.recordsPerSlot →
              record (Flash.fill flash
                  (testLayout.recordOffset .a recordIndex) storageImageLen
                  content) testLayout .b 0 =
                record flash testLayout .b 0 :=
          fun flash content _ inRange => record_fill_record_otherSlot flash
            content testLayout .a inRange (by decide)
        rw [untouched _ _ 1 (by decide), flash, untouched _ _ 0 (by decide)]
        exact emptyFlash .b

end NorFlashStorageBackend

open NorFlashStorageBackend in
/-- A state whose last write succeeded comes back at the next boot, provided
every write that succeeded went to a clean sector. -/
theorem persisted_state_restored {build : Build} {geometry : FlashGeometry}
    {flash : Flash} {layout : StorageFlashLayout}
    {opened final : NorFlashStorageBackend}
    {history : List (Transition NorFlashStorageBackend PersistCall
      (Except StorageError StorageWriteResult))}
    {last : Transition NorFlashStorageBackend PersistCall
      (Except StorageError StorageWriteResult)}
    {result : StorageWriteResult}
    (boot : new build geometry flash layout = .ok opened)
    (run : JournalRun build opened (history ++ [last]) final)
    (newer : ∀ taken ∈ history ++ [last], ∀ slot,
      taken.before.newestValid build = some slot →
        GenerationNewer taken.event.state.generation slot.state.generation)
    (clean : ∀ taken ∈ history ++ [last],
      (∃ result, taken.output = .ok result) →
        CleanSector build taken.before (taken.before.target build))
    (persisted : last.output = .ok result) :
    ∃ reopened, new build geometry final.flash layout = .ok reopened ∧
      reopened.restoreLatestStorageState build =
        some (last.event.state.durable build) := by
  obtain ⟨middle, earlier, lastRun⟩ := Run.append_iff.mp run
  obtain ⟨rfl, rfl, taken⟩ := Run.singleton_iff.mp lastRun
  have good : JournalGood build layout last.before := by
    apply earlier.invariant (JournalGood build layout) (.of_new boot)
    intro step member stepTaken good
    have inRun := List.mem_append_left [last] member
    cases output : step.output with
    | error failure =>
        rw [output] at stepTaken
        exact good.persist_error stepTaken
    | ok result =>
        rw [output] at stepTaken
        exact (good.persist_ok (newer step inRun)
          (clean step inRun ⟨result, output⟩) stepTaken).1
  have inRun : last ∈ history ++ [last] :=
    List.mem_append_right history List.mem_cons_self
  rw [persisted] at taken
  obtain ⟨goodAfter, restored⟩ := good.persist_ok (newer last inRun)
    (clean last inRun ⟨result, persisted⟩) taken
  exact reopen boot goodAfter.layout restored

open NorFlashStorageBackend in
theorem persisted_state_restored_firstWrite :
    ∃ opened after reopened result,
      new .single testGeometry Flash.erased testLayout = .ok opened ∧
      opened.persistStorageState .single
          (programs (imageOf .single (.new 1))) (.new 1) =
        (.ok result, after) ∧
      new .single testGeometry after.flash testLayout = .ok reopened ∧
      reopened.restoreLatestStorageState .single =
        some ((StorageState.new 1).durable .single) := by
  have undecodable : ∀ index recordIndex, ¬ Decodes .single
      (record Flash.erased testLayout index recordIndex) := by
    intro index recordIndex
    rw [record_erasedFlash]
    exact not_decodes_erased .single
  have nothing := newestValid_blocked fun index => undecodable index 0
  obtain ⟨result, after, persisted⟩ : ∃ result after,
      (booted .single Flash.erased).persistStorageState .single
          (programs (imageOf .single (.new 1))) (.new 1) =
        (.ok result, after) :=
    ⟨_, _, persist_programs rfl (decodes_imageOf_new .single 1)⟩
  have run : JournalRun .single (booted .single Flash.erased)
      ([] ++ [⟨booted .single Flash.erased,
        ⟨.new 1, programs (imageOf .single (.new 1))⟩, .ok result, after⟩])
      after := .cons persisted (.nil after)
  have clean : CleanSector .single (booted .single Flash.erased) .a := by
    intro room
    have position : (booted .single Flash.erased).nextRecord .a = 0 := by
      rw [booted_nextRecord, scan_erasedFlash]
    rw [position]
    exact ⟨fun _ impossible => absurd impossible (Nat.not_lt_zero _),
      fun _ => undecodable .a _⟩
  have newer : ∀ slot,
      (booted .single Flash.erased).newestValid .single = some slot →
        GenerationNewer 1 slot.state.generation := by
    intro slot newest
    rw [nothing] at newest
    cases newest
  obtain ⟨reopened, boot, restored⟩ := persisted_state_restored
    (new_test .single Flash.erased) run
    (fun _ member => by
      rw [List.mem_singleton.mp member]
      exact newer)
    (fun _ member _ => by
      rw [List.mem_singleton.mp member, target_blocked nothing]
      exact clean)
    rfl
  exact ⟨_, after, reopened, result, new_test .., persisted, boot, restored⟩

open NorFlashStorageBackend in
theorem persisted_state_lost :
    ∃ opened first second reopened result,
      new .single testGeometry Flash.erased testLayout = .ok opened ∧
      opened.persistStorageState .single corrupts (.new 1) =
        (.error .flashVerify, first) ∧
      first.newestValid .single = none ∧
      first.persistStorageState .single
          (programs (imageOf .single (.new 1))) (.new 1) =
        (.ok result, second) ∧
      new .single testGeometry second.flash testLayout = .ok reopened ∧
      reopened.restoreLatestStorageState .single = none :=
  persist_lost rfl (decodes_imageOf_new .single 1)

end HidShift
