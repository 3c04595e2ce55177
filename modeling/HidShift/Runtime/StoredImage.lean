import HidShift.Input.ProfileRegistry
import HidShift.Runtime.StoredSettings
import HidShift.Storage.CheckedDecode

namespace HidShift

open Lib
open Lib.Checked (Yields)

def InputProfile.withoutRuntime (profile : InputProfile) : InputProfile :=
  { profile with
    connected := false
    mouseRemainders := .zero
    shortcutArmed := true }

def InputProfileRegistry.withoutRuntime (registry : InputProfileRegistry) :
    InputProfileRegistry where
  profiles :=
    ⟨registry.profiles.toList.map InputProfile.withoutRuntime, by
      rw [List.length_map]
      exact registry.profiles.length_le⟩
  nextSequence :=
    registry.profiles.toList.foldl
      (fun sequence profile => max sequence (profile.lastSeen + 1)) 1

def StorageState.withoutRuntime (build : Build) (state : StorageState) :
    StorageState :=
  { state with
    inputProfiles := state.inputProfiles.withoutRuntime
    presentation := state.presentation.durable build }

def InputProfileRegistry.Accepted (registry : InputProfileRegistry) : Prop :=
  ∀ profile ∈ registry.profiles.toList, profile.settings.Accepted

theorem InputProfileRegistry.durable_eq {registry : InputProfileRegistry}
    (accepted : registry.Accepted) :
    registry.durable = registry.withoutRuntime := by
  have same : registry.profiles.toList.map InputProfile.durable =
      registry.profiles.toList.map InputProfile.withoutRuntime := by
    apply List.map_congr_left
    intro profile member
    have inSchema := InputSettings.accepted_iff.mp (accepted profile member)
    rw [InputProfile.durable, inSchema.storable.2]
    rfl
  exact congrArg₂ InputProfileRegistry.mk (BoundedVec.ext same) rfl

theorem restoreProfileRecord_fresh (storable : profile.settings.Storable)
    (newId : ∀ item ∈ registry.profiles.toList, item.id ≠ profile.id)
    (newIdentity : ∀ item ∈ registry.profiles.toList,
      item.identity ≠ profile.identity)
    (room : registry.profiles.toList.length < inputProfileCapacity) :
    ∃ next, restoreProfileRecord registry (encodeInputProfile profile) =
      .ok next := by
  have decoded := decodeInputProfile_encode.mpr ⟨storable, rfl⟩
  have fits : (registry.profiles.toList ++ [profile.durable]).length ≤
      inputProfileCapacity := by
    rw [List.length_append, List.length_singleton]
    exact room
  have pushed : registry.profiles.push? profile.durable =
      some ⟨registry.profiles.toList ++ [profile.durable], fits⟩ :=
    BoundedVec.push?_eq_some.mpr rfl
  have restored : registry.restore profile.durable = .ok
      ⟨⟨registry.profiles.toList ++ [profile.durable], fits⟩,
        max registry.nextSequence (profile.durable.lastSeen + 1)⟩ := by
    unfold InputProfileRegistry.restore
    rw [if_neg, if_neg, pushed]
    · intro known
      obtain ⟨item, member, same⟩ := List.any_eq_true.mp known
      exact newIdentity item member (of_decide_eq_true same)
    · intro known
      obtain ⟨item, member, same⟩ := List.any_eq_true.mp known
      exact newId item member (of_decide_eq_true same)
  rw [restoreProfileRecord, decoded, ok_bind, restored]
  exact ⟨_, rfl⟩

theorem restoreProfiles_fresh {registry : InputProfileRegistry}
    {profiles : List InputProfile}
    (storable : ∀ profile ∈ profiles, profile.settings.Storable)
    (ids : (registry.profiles.toList.map InputProfile.id ++
      profiles.map InputProfile.id).Nodup)
    (identities : (registry.profiles.toList.map InputProfile.identity ++
      profiles.map InputProfile.identity).Nodup)
    (room : registry.profiles.toList.length + profiles.length ≤
      inputProfileCapacity) :
    ∃ next, (profiles.map encodeInputProfile).foldlM restoreProfileRecord
      registry = .ok next := by
  induction profiles generalizing registry with
  | nil => exact ⟨registry, rfl⟩
  | cons profile rest ih =>
      rw [List.map_cons] at ids identities
      rw [List.length_cons] at room
      have newId : ∀ item ∈ registry.profiles.toList, item.id ≠ profile.id := by
        intro item member
        exact (List.nodup_append.mp ids).2.2 _ (List.mem_map_of_mem member) _
          List.mem_cons_self
      have newIdentity : ∀ item ∈ registry.profiles.toList,
          item.identity ≠ profile.identity := by
        intro item member
        exact (List.nodup_append.mp identities).2.2 _
          (List.mem_map_of_mem member) _ List.mem_cons_self
      obtain ⟨middle, first⟩ := restoreProfileRecord_fresh
        (storable profile List.mem_cons_self) newId newIdentity (by omega)
      obtain ⟨held, -⟩ := restoreProfileRecord_encode first
      rw [List.map_cons, List.foldlM_cons]
      have later : ∃ next, (rest.map encodeInputProfile).foldlM
          restoreProfileRecord middle = .ok next := by
        apply ih
        · intro other member
          exact storable other (List.mem_cons_of_mem _ member)
        · rw [held, List.map_append, List.append_assoc]
          exact ids
        · rw [held, List.map_append, List.append_assoc]
          exact identities
        · rw [held, List.length_append, List.length_singleton]
          omega
      obtain ⟨next, restored⟩ := later
      exact ⟨next, bind_eq_ok.mpr ⟨middle, first, restored⟩⟩

/-- The parts of a state that its decoder checks are as the setters leave
them. -/
structure StorageState.Sound (state : StorageState) : Prop where
  valid : state.validate = .ok ()
  globalSettings : state.globalSettings.Accepted
  inputSettings : state.inputProfiles.Accepted
  distinct : state.inputProfiles.Distinct

theorem StorageState.Sound.decoded {state : StorageState} (build : Build)
    (sound : state.Sound) :
    decodeStorageImage build (imageOf build state) =
      .ok (state.withoutRuntime build) := by
  have settings := (GlobalSettings.accepted_iff.mp
    sound.globalSettings).storable
  have restores : ∃ next,
      (state.inputProfiles.profiles.toList.map encodeInputProfile).foldlM
        restoreProfileRecord .new = .ok next := by
    apply restoreProfiles_fresh
    · intro profile member
      exact (InputSettings.accepted_iff.mp
        (sound.inputSettings profile member)).storable.1
    · exact sound.distinct.ids
    · exact sound.distinct.identities
    · exact (Nat.zero_add _).le.trans state.inputProfiles.profiles.length_le
  obtain ⟨registry, restored⟩ := restores
  have same : registry = state.inputProfiles.withoutRuntime :=
    (restoreRegistry_encode restored).trans
      (InputProfileRegistry.durable_eq sound.inputSettings)
  rw [decodeStorageImage_imageOf build state sound.valid,
    decodeGlobalSettings_encode.mpr ⟨settings, rfl⟩, ok_bind, restored,
    ok_bind, same]
  rfl

/-- An image of a state that the setters and the registry produce decodes to
the state without its runtime part; and decoding any image reads no byte
outside it and gives only valid states. -/
theorem storage_image_round_trip (build : Build) :
    (∀ state : StorageState, state.validate = .ok () →
      state.globalSettings.Accepted → state.inputProfiles.Accepted →
        state.inputProfiles.Reached →
          ∃ image, encodeStorageImage build state = .ok image ∧
            image.length = storageImageLen ∧
            decodeStorageImage build image = .ok (state.withoutRuntime build)) ∧
    ∀ image : List UInt8, storageImageLen ≤ image.length →
      Yields (decodeStorageImageChecked build image)
          (decodeStorageImage build image) ∧
        ∀ state, decodeStorageImage build image = .ok state →
          state.validate = .ok () := by
  constructor
  · intro state valid globalSettings inputSettings reached
    have sound : state.Sound :=
      ⟨valid, globalSettings, inputSettings, reached.distinct⟩
    exact ⟨imageOf build state, encodeStorageImage_valid build valid,
      length_imageOf build state, sound.decoded build⟩
  · intro image _
    refine ⟨yields_decodeStorageImage build image, ?_⟩
    intro state decoded
    exact decodeStorageImage_valid decoded

def deskHost : StoredHostProfile where
  hostId := ⟨2⟩
  bonded := true
  keyboardCccdEnabled := true
  mouseCccdEnabled := true
  consumerCccdEnabled := false
  keyboardOutputCccdEnabled := true
  name := ⟨2, ((Vector.replicate 32 0).setIfInBounds 0 0x50).setIfInBounds 1
    0x43, by decide⟩
  bond := some ⟨Vector.replicate 6 0xc2, .randomAddress,
    some (Vector.replicate 16 7), Vector.replicate 16 9, true, .encrypted⟩

def quickMouse (profile : InputProfile) : InputProfile :=
  { profile with settings :=
      { profile.settings with mouseSensitivityPercent := 150 } }

theorem deskHost_inRange : hostSlotMin ≤ 2 ∧ 2 ≤ hostSlotMax := by decide

theorem quickMouse_inRange :
    (1 : UInt8) ≤ 1 ∧ (1 : UInt8).toNat ≤ inputProfileCapacity := by decide

/-- A state with two hosts, of which the first is active. -/
def configured : StorageState where
  generation := 7
  lastActiveHost := some ⟨2⟩
  globalSettings := { GlobalSettings.default with logLevel := 1 }
  inputProfiles := (InputProfileRegistry.new.observe ⟨1, 2, 3⟩).1.update
    ⟨1, quickMouse_inRange⟩ quickMouse
  presentation :=
    ⟨.ble ⟨2, deskHost_inRange⟩, some ⟨2, deskHost_inRange⟩, none⟩
  hosts := ⟨[deskHost, { deskHost with hostId := ⟨1⟩, bond := none }],
    by decide⟩

theorem configured_reached : configured.inputProfiles.Reached :=
  @InputProfileRegistry.Reached.update _ (.observe .new ⟨1, 2, 3⟩)
    ⟨1, quickMouse_inRange⟩ quickMouse (fun _ => rfl) fun _ => rfl

theorem configured_sound : configured.Sound where
  valid := rfl
  globalSettings := by
    apply GlobalSettings.accepted_iff.mpr
    constructor <;> decide
  inputSettings := by
    intro profile member
    rw [List.mem_singleton.mp member]
    apply InputSettings.accepted_iff.mpr
    constructor <;> decide
  distinct := configured_reached.distinct

theorem storage_image_round_trip_configured :
    ∃ image, encodeStorageImage .dual configured = .ok image ∧
      image.length = storageImageLen ∧
      decodeStorageImage .dual image = .ok (configured.withoutRuntime .dual) :=
  (storage_image_round_trip .dual).1 configured configured_sound.valid
    configured_sound.globalSettings configured_sound.inputSettings
    configured_reached

end HidShift
