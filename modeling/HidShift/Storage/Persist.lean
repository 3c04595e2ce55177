import HidShift.Storage.Durability

namespace HidShift

open Lib
open StorageSlotBackend (slot writeSlot other_slot)
open NorFlashStorageBackend
  (Decodes GenerationNewer StorageWriteResult decodes_iff_isOk)

namespace NorFlashStorageBackend

theorem programRecord_otherSlot (build : Build)
    (backend : NorFlashStorageBackend) (outcome : FlashOutcome)
    (index : StorageSlotIndex) (recordIndex : Nat) (image : List UInt8) :
    (programRecord build backend outcome index recordIndex image).2.slots
        index.other = backend.slots index.other := by
  unfold programRecord
  dsimp only
  split
  · rfl
  · split
    · rfl
    · split
      · rfl
      · exact Function.update_of_ne index.other_ne ..

theorem writeSlot_otherSlot (build : Build)
    (backend : NorFlashStorageBackend) (outcome : FlashOutcome)
    (index : StorageSlotIndex) (image : List UInt8) :
    (backend.writeSlot build outcome index image).2.slots index.other =
      backend.slots index.other := by
  simp only [NorFlashStorageBackend.writeSlot]
  split
  · split
    · rfl
    · exact programRecord_otherSlot build (backend.eraseSlot index) outcome
        index 0 image
  · exact programRecord_otherSlot build backend outcome index _ image

instance : StorageSlotBackend NorFlashStorageBackend FlashOutcome where
  slot := NorFlashStorageBackend.slots
  writeSlot build backend outcome index image :=
    backend.writeSlot build outcome index image
  other_slot := writeSlot_otherSlot

theorem restoreLatestStorageState_eq (build : Build)
    (backend : NorFlashStorageBackend) :
    backend.restoreLatestStorageState build =
      HidShift.restoreLatestStorageState build backend := rfl

theorem persistStorageState_eq (build : Build)
    (backend : NorFlashStorageBackend) (outcome : FlashOutcome)
    (state : StorageState) :
    backend.persistStorageState build outcome state =
      HidShift.persistStorageState build backend outcome state := by
  unfold NorFlashStorageBackend.persistStorageState
    HidShift.persistStorageState
  have target : targetSlot (newestSlot build backend.slots) =
      backend.target build := by
    unfold NorFlashStorageBackend.target targetSlot
    rfl
  simp only [slot, StorageSlotBackend.writeSlot, target]
  cases state.validate with
  | error error => rfl
  | ok valid =>
      cases encodeStorageImage build state with
      | error error => rfl
      | ok image =>
          dsimp only
          obtain ⟨done, after⟩ := backend.writeSlot build outcome
            (backend.target build) image
          cases done with
          | error error => rfl
          | ok done => rfl

end NorFlashStorageBackend

structure InMemoryStorageBackend where
  slots : StorageSlotIndex → List UInt8

namespace InMemoryStorageBackend

def new : InMemoryStorageBackend :=
  ⟨fun _ => List.replicate storageImageLen 0⟩

def writeSlot (backend : InMemoryStorageBackend) (index : StorageSlotIndex)
    (image : List UInt8) : InMemoryStorageBackend :=
  ⟨Function.update backend.slots index image⟩

instance : StorageSlotBackend InMemoryStorageBackend Unit where
  slot := InMemoryStorageBackend.slots
  writeSlot _ backend _ index image := (.ok (), backend.writeSlot index image)
  other_slot _ _ _ index _ := Function.update_of_ne index.other_ne ..

end InMemoryStorageBackend

section

variable {β ω : Type} [StorageSlotBackend β ω] {build : Build}
  {backend after : β} {outcome : ω} {state : StorageState}
  {result : StorageWriteResult}

theorem persistStorageState_ok
    (persisted : persistStorageState build backend outcome state =
      (.ok result, after)) :
    state.validate = .ok () ∧
      writeSlot build backend outcome
        (targetSlot (newestSlot build (slot backend)))
        (imageOf build state) = (.ok (), after) ∧
      slot after (targetSlot (newestSlot build (slot backend))) =
        imageOf build state ∧
      decodeStorageImage build (imageOf build state) =
        .ok (state.durable build) ∧
      result.state = state := by
  unfold persistStorageState at persisted
  split at persisted
  · cases persisted
  · rename_i valid
    rw [encodeStorageImage_valid build valid] at persisted
    dsimp only at persisted
    split at persisted
    · cases persisted
    · rename_i written finished
      split at persisted
      · cases persisted
      · rename_i verified
        cases persisted
        rw [not_or, not_not] at verified
        obtain ⟨same, decodes⟩ := verified
        rw [same, Bool.not_eq_false, ← decodes_iff_isOk] at decodes
        obtain ⟨decoded, read⟩ := decodes
        refine ⟨valid, finished, same, ?_, rfl⟩
        cases decoded_eq_durable build state valid read
        exact read

theorem persistStorageState_other
    (persisted : persistStorageState build backend outcome state =
      (.ok result, after)) :
    slot after (targetSlot (newestSlot build (slot backend))).other =
      slot backend (targetSlot (newestSlot build (slot backend))).other := by
  obtain ⟨-, written, -⟩ := persistStorageState_ok persisted
  have kept := other_slot build backend outcome
    (targetSlot (newestSlot build (slot backend))) (imageOf build state)
  rw [written] at kept
  exact kept

/-- A write that has to displace an image of its own generation from slot A
does not: both images are kept and A wins. -/
def LosesTie (build : Build) (backend : β) (state : StorageState) : Prop :=
  ∃ newest, newestSlot build (slot backend) = some newest ∧
    newest.index = .a ∧ newest.state.generation = state.generation ∧
      newest.state ≠ state.durable build

end

theorem newer_of_ne (different : left ≠ right)
    (current : StorageSlot.generationIsNewerOrEqual left right = true) :
    GenerationNewer left right :=
  ⟨different, of_decide_eq_true current⟩

theorem newestSlot_written
    (other : after (targetSlot (newestSlot build before)).other =
      before (targetSlot (newestSlot build before)).other)
    (holds : decodeStorageImage build
      (after (targetSlot (newestSlot build before))) = .ok held)
    (current : ∀ newest, newestSlot build before = some newest →
      StorageSlot.generationIsNewerOrEqual held.generation
        newest.state.generation = true) :
    newestSlot build after =
        some ⟨targetSlot (newestSlot build before),
          after (targetSlot (newestSlot build before)), held⟩ ∨
      ∃ newest, newestSlot build before = some newest ∧
        newest.index = .a ∧ newest.state.generation = held.generation ∧
          newestSlot build after = some ⟨.a, after .a, newest.state⟩ := by
  cases selected : newestSlot build before with
  | none =>
      rw [selected] at holds other
      left
      apply newestSlot_of_newer holds
      intro older decodes
      rw [other] at decodes
      exact absurd ⟨older, decodes⟩ (newestSlot_none selected _)
  | some newest =>
      have kept : decodeStorageImage build (after newest.index) =
          .ok newest.state := by
        rw [selected, targetSlot, StorageSlotIndex.other_other] at other
        rw [other]
        exact newestSlot_decodes selected
      rw [selected, targetSlot] at holds
      by_cases tie : newest.state.generation = held.generation
      · cases place : newest.index with
        | a =>
            rw [place] at kept holds
            right
            exact ⟨newest, rfl, place, tie, newestSlot_of_tie kept holds tie⟩
        | b =>
            rw [place] at kept holds
            left
            simp only [targetSlot, place]
            exact newestSlot_of_tie holds kept tie.symm
      · left
        apply newestSlot_of_newer holds
        intro older decodes
        rw [StorageSlotIndex.other_other, kept] at decodes
        cases decodes
        exact newer_of_ne (Ne.symm tie) (current newest selected)

section

variable {β ω : Type} [StorageSlotBackend β ω] {build : Build}
  {backend after : β} {outcome : ω} {state : StorageState}
  {result : StorageWriteResult}

def Current (build : Build) (backend : β) (state : StorageState) : Prop :=
  ∀ newest, newestSlot build (slot backend) = some newest →
    StorageSlot.generationIsNewerOrEqual state.generation
      newest.state.generation = true

def Restores (build : Build) (backend : β) (state : StorageState) : Prop :=
  restoreLatestStorageState build backend = some (state.durable build)

theorem persisted_holds
    (persisted : persistStorageState build backend outcome state =
      (.ok result, after)) :
    decodeStorageImage build
        (slot after (targetSlot (newestSlot build (slot backend)))) =
      .ok (state.durable build) := by
  obtain ⟨-, -, same, read, -⟩ := persistStorageState_ok persisted
  rw [same]
  exact read

theorem restores_of_no_tie (current : Current build backend state)
    (persisted : persistStorageState build backend outcome state =
      (.ok result, after))
    (settled : ¬ LosesTie build backend state) :
    Restores build after state := by
  rcases newestSlot_written (persistStorageState_other persisted)
      (persisted_holds persisted) current with
    restored | ⟨newest, selected, place, tie, restored⟩
  · rw [Restores, restoreLatestStorageState, restored]
    rfl
  · rw [Restores, restoreLatestStorageState, restored]
    by_contra different
    apply settled
    refine ⟨newest, selected, place, tie, ?_⟩
    intro same
    exact different (congrArg some same)

theorem not_restores_of_tie
    (persisted : persistStorageState build backend outcome state =
      (.ok result, after))
    (lost : LosesTie build backend state) : ¬ Restores build after state := by
  obtain ⟨newest, selected, place, tie, different⟩ := lost
  have other := persistStorageState_other persisted
  have holds := persisted_holds persisted
  have kept : decodeStorageImage build (slot after .a) = .ok newest.state := by
    rw [selected, targetSlot, StorageSlotIndex.other_other, place] at other
    rw [other, ← place]
    exact newestSlot_decodes selected
  rw [selected, targetSlot, place] at holds
  rw [Restores, restoreLatestStorageState, newestSlot_of_tie kept holds tie,
    Option.map_some, Option.some.injEq]
  exact different

end

theorem NorFlashStorageBackend.restores_iff_persisted
    {backend after : NorFlashStorageBackend}
    (current : Current build backend state)
    (persisted : backend.persistStorageState build outcome state =
      (.ok result, after)) :
    after.restoreLatestStorageState build = some (state.durable build) ↔
      ¬ LosesTie build backend state := by
  rw [persistStorageState_eq] at persisted
  rw [restoreLatestStorageState_eq]
  refine ⟨?_, restores_of_no_tie current persisted⟩
  intro restored lost
  exact not_restores_of_tie persisted lost restored

/-- A write that succeeds is what the next boot restores, unless it loses a
tie. -/
theorem persisted_state_wins {β ω : Type} [StorageSlotBackend β ω]
    {build : Build} {backend after : β} {outcome : ω} {state : StorageState}
    {result : StorageWriteResult}
    (current : ∀ newest, newestSlot build (slot backend) = some newest →
      StorageSlot.generationIsNewerOrEqual state.generation
        newest.state.generation = true)
    (persisted : persistStorageState build backend outcome state =
      (.ok result, after)) :
    restoreLatestStorageState build after = some (state.durable build) ↔
      ¬ LosesTie build backend state := by
  refine ⟨?_, restores_of_no_tie current persisted⟩
  intro restored lost
  exact not_restores_of_tie persisted lost restored

theorem decodeStorageImage_settings (build : Build) (generation : UInt32)
    (storable : settings.Storable) :
    decodeStorageImage build (imageOf build
        { StorageState.new generation with globalSettings := settings }) =
      .ok (StorageState.durable build
        { StorageState.new generation with globalSettings := settings }) := by
  rw [decodeStorageImage_imageOf build _ rfl]
  change (decodeGlobalSettings (encodeGlobalSettings settings) >>= _) = _
  rw [decodeGlobalSettings_encode.mpr ⟨storable, rfl⟩]
  rfl

theorem not_decodes_zeroImage (build : Build) :
    ¬ Decodes build (List.replicate storageImageLen 0) := by
  intro decodes
  exact absurd decodes.magic (by decide)

theorem newestSlot_blank (build : Build) :
    newestSlot build (fun _ => List.replicate storageImageLen 0) = none := by
  cases selected : newestSlot build
      (fun _ => List.replicate storageImageLen 0) with
  | none => rfl
  | some newest =>
      exact absurd ⟨newest.state, newestSlot_decodes selected⟩
        (not_decodes_zeroImage build)

namespace InMemoryStorageBackend

@[simp] theorem slot_eq (backend : InMemoryStorageBackend) :
    slot backend = backend.slots := rfl

theorem writeSlot_same (backend : InMemoryStorageBackend)
    (index : StorageSlotIndex) (image : List UInt8) :
    (backend.writeSlot index image).slots index = image :=
  Function.update_self ..

theorem persist_ok {build : Build} {backend : InMemoryStorageBackend}
    {state : StorageState} (valid : state.validate = .ok ())
    (read : decodeStorageImage build (imageOf build state) =
      .ok (state.durable build)) :
    persistStorageState build backend () state =
      (.ok ⟨targetSlot (newestSlot build backend.slots), state,
          imageOf build state⟩,
        backend.writeSlot (targetSlot (newestSlot build backend.slots))
          (imageOf build state)) := by
  simp only [persistStorageState, slot, StorageSlotBackend.writeSlot]
  rw [valid, encodeStorageImage_valid build valid]
  dsimp only
  rw [if_neg]
  rw [writeSlot_same, read]
  simp [Except.isOk, Except.toBool]

def holding (build : Build) (state : StorageState) : InMemoryStorageBackend :=
  new.writeSlot .a (imageOf build state)

theorem newestSlot_holding
    (read : decodeStorageImage build (imageOf build state) =
      .ok (state.durable build)) :
    newestSlot build (holding build state).slots =
      some ⟨.a, imageOf build state, state.durable build⟩ := by
  apply newestSlot_of_newer read
  intro older decodes
  exact absurd ⟨older, decodes⟩ (not_decodes_zeroImage build)

end InMemoryStorageBackend

open InMemoryStorageBackend (holding persist_ok newestSlot_holding)

theorem decodeStorageImage_new (build : Build) (generation : UInt32) :
    decodeStorageImage build (imageOf build (.new generation)) =
      .ok ((StorageState.new generation).durable build) := by
  apply decodeStorageImage_settings build generation
  simp only [GlobalSettings.Storable]
  decide

def quieter : StorageState :=
  { StorageState.new 1 with
    globalSettings := { GlobalSettings.default with logLevel := 1 } }

theorem decodeStorageImage_quieter (build : Build) :
    decodeStorageImage build (imageOf build quieter) =
      .ok (quieter.durable build) := by
  apply decodeStorageImage_settings build 1
  simp only [GlobalSettings.Storable]
  decide

theorem persisted_state_wins_overOlder :
    ∃ result after,
      persistStorageState .single (holding .single (.new 1)) () (.new 2) =
        (.ok result, after) ∧
      (restoreLatestStorageState .single after =
          some ((StorageState.new 2).durable .single) ↔
        ¬ LosesTie .single (holding .single (.new 1)) (.new 2)) := by
  have persisted := @persist_ok .single (holding .single (.new 1)) (.new 2)
    rfl (decodeStorageImage_new .single 2)
  refine ⟨_, _, persisted, persisted_state_wins ?_ persisted⟩
  intro newest selected
  rw [InMemoryStorageBackend.slot_eq,
    newestSlot_holding (decodeStorageImage_new .single 1)] at selected
  cases selected
  decide

theorem persisted_state_tied :
    ∃ result after, quieter.validate = .ok () ∧
      (∀ newest, newestSlot .single (slot (holding .single (.new 1))) =
          some newest →
        StorageSlot.generationIsNewerOrEqual quieter.generation
          newest.state.generation = true) ∧
      persistStorageState .single (holding .single (.new 1)) () quieter =
        (.ok result, after) ∧
      restoreLatestStorageState .single after ≠
        some (quieter.durable .single) := by
  have stored := decodeStorageImage_new .single 1
  have changed := decodeStorageImage_quieter .single
  have persisted := @persist_ok .single (holding .single (.new 1)) quieter
    rfl changed
  refine ⟨_, _, rfl, ?_, persisted, ?_⟩
  · intro newest selected
    rw [InMemoryStorageBackend.slot_eq, newestSlot_holding stored] at selected
    cases selected
    decide
  · apply not_restores_of_tie persisted
    refine ⟨_, newestSlot_holding stored, rfl, rfl, ?_⟩
    decide

end HidShift
