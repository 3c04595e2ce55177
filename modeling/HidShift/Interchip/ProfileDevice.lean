import HidShift.Interchip.ProfileDelivery
import HidShift.Mirror.CommitAtomic

/-! What the device board does with the profiles that come over the link
(`device-firmware/src/main.rs`, `device-firmware/src/profile_store.rs`). -/

namespace HidShift

open Lib ProfileStore

inductive ProfileFlashError
  | bounds
  | read
  | erase
  | write

def storageErrorResult (error : ProfileStoreError ProfileFlashError)
    (transferId profileHash : UInt32) : ProfileResult :=
  { failureResult transferId profileHash .storageError .storageFailure with
    detail := match error with
      | .backend .bounds => 1
      | .backend .read => 2
      | .backend .erase => 3
      | .backend .write => 4
      | .imageTooLarge => 5
      | .readBackMismatch => 6 }

/-- The answer of the store to an image the receiver has accepted. -/
def storedResult (transferId profileHash : UInt32) (result : ProfileResult) :
    Except (ProfileStoreError ProfileFlashError) ProfileCommitOutcome →
      ProfileResult
  | .ok (.stored _) => result
  | .ok (.alreadyStored _) => { result with status := .alreadyStored }
  | .error error => storageErrorResult error transferId profileHash

theorem storedResult_stored
    (stored : (storedResult transferId profileHash result
      outcome).status.isStored = true) :
    outcome.isOk = true ∧ (storedResult transferId profileHash result
      outcome).profileHash = result.profileHash := by
  cases outcome with
  | error error => cases stored
  | ok outcome => cases outcome <;> exact ⟨rfl, rfl⟩

def profileTransferErrorResult (error : ProfileTransferError)
    (transferId profileHash : UInt32) : ProfileResult :=
  failureResult transferId profileHash
    (if error = .busy then .busy else .invalidImage) .malformedImage

/-- The store is there when its partition could be opened. -/
structure ProfileDevice where
  receiver : ProfileTransferReceiver
  opened : Bool
  flash : Flash
  commitCache : Option ProfileResult

/-- A commit comes with the fault its flash operations meet. -/
inductive ProfileEvent
  | begin (begin : ProfileBegin)
  | chunk (chunk : ProfileChunkData)
  | commit (transferId : UInt32) (fault : Option (FlashFault ProfileFlashError))
  | hostSessionChange
  | restart (staging : List UInt8) (opened : Bool)

def ProfileEvent.Unforged (before : Flash) : ProfileEvent → Prop
  | .commit _ fault => ∀ image profileHash,
      CommitCall.Unforged ⟨image, profileHash, fault⟩ before
  | _ => True

namespace ProfileDevice

def boot (staging : List UInt8) (opened : Bool) (flash : Flash) :
    ProfileDevice where
  receiver := .new staging
  opened := opened
  flash := flash
  commitCache := none

variable (device : ProfileDevice)

/-- The active profile, when the store is opened again. -/
def active :
    Except (ProfileStoreError ProfileFlashError) (Option StoredProfile) :=
  query ProfileStore.active device.flash

def storeCommitted (transferId : UInt32)
    (fault : Option (FlashFault ProfileFlashError)) (result : ProfileResult) :
    Flash × ProfileResult :=
  match device.opened, device.receiver.committedImage with
  | true, some (metadata, image) =>
      let stored := CommitCall.perform ⟨image, metadata.profileHash, fault⟩
        device.flash
      (stored.1, storedResult transferId metadata.profileHash result
        stored.2.result)
  | _, _ => (device.flash, failureResult transferId result.profileHash
      .storageError .storageFailure)

/-- The result is what the board has to send next; it is kept for the host to
ask again. -/
def handle :
    ProfileEvent → Option (ProfileDevice × Option ProfileResult)
  | .begin start =>
      let cleared := { device with commitCache := none }
      if device.opened then
        let begun := device.receiver.begin start
        some ({ cleared with receiver := begun.1 }, match begun.2 with
          | .ok _ => none
          | .error error => some (profileTransferErrorResult error
              start.transferId start.profileHash))
      else
        some (cleared, some (failureResult start.transferId start.profileHash
          .storageError .storageFailure))
  | .chunk piece =>
      (device.receiver.chunk piece.asBorrowed).map fun chunked =>
        ({ device with receiver := chunked.1 }, match chunked.2 with
          | .ok _ => none
          | .error error =>
              some (profileTransferErrorResult error piece.transferId 0))
  | .commit transferId fault =>
      match device.commitCache.filter (·.transferId = transferId) with
      | some result => some (device, some result)
      | none => (device.receiver.commit transferId).map fun committed =>
          let received := { device with receiver := committed.1 }
          if committed.2.status = .accepted then
            let stored := received.storeCommitted transferId fault committed.2
            ({ received with
                receiver := committed.1.clearCommitted
                flash := stored.1
                commitCache := some stored.2 }, some stored.2)
          else
            ({ received with commitCache := some committed.2 },
              some committed.2)
  | .hostSessionChange =>
      some ({ device with receiver := device.receiver.cancel }, none)
  | .restart staging opened => some (boot staging opened device.flash, none)

end ProfileDevice

abbrev ProfileDeviceStep (before : ProfileDevice) (event : ProfileEvent)
    (reply : Option ProfileResult) (after : ProfileDevice) : Prop :=
  before.handle event = some (after, reply)

theorem ProfileTransferReceiver.commit_answers
    {receiver after : ProfileTransferReceiver} {result : ProfileResult}
    (taken : receiver.commit transferId = some (after, result))
    (stored : result.status.isStored = true) :
    result.status = .accepted ∧ ∃ profile, after.committed = some profile ∧
      profile.profileHash = result.profileHash := by
  unfold commit at taken
  split at taken
  · cases taken
    cases stored
  dsimp only at taken
  split at taken
  · cases taken
    cases stored
  split at taken
  · cases taken
    cases stored
  obtain ⟨image, -, checked⟩ := Option.bind_eq_some_iff.mp taken
  split at checked
  · cases checked
    cases stored
  obtain ⟨outcome, -, same⟩ := Option.map_eq_some_iff.mp checked
  cases outcome with
  | error reason =>
      cases same
      cases reason <;> cases stored
  | ok plan =>
      cases same
      exact ⟨rfl, _, rfl, rfl⟩

namespace ProfileDevice

/-- Every image in the flash was announced and checked, and a result that says
it is stored is that of the last commit with an effect. -/
structure Known (announced : ProfileBegin → Prop) (device : ProfileDevice) :
    Prop where
  tracks : ∃ last, device.receiver.Tracks last ∧
    ∀ start, last = some start → announced start
  settled : ∃ commits : List (CommitTransition ProfileFlashError),
    ProfileStore.Settled commits device.flash ∧
      (∀ taken ∈ commits, ∃ start profile, announced start ∧
        PublishedAs start profile taken.event.image ∧
          taken.event.profileHash = start.profileHash) ∧
      ∀ result ∈ device.commitCache, result.status.isStored = true →
        ∃ taken, lastEffect commits = some taken ∧
          taken.event.profileHash = result.profileHash

variable {announced : ProfileBegin → Prop} {device after : ProfileDevice}

section

variable (known : device.Known announced)

include known

theorem Known.moved (flash : after.flash = device.flash)
    (cache : ∀ result ∈ after.commitCache, result ∈ device.commitCache)
    (tracks : after.receiver.Tracks last)
    (heard : ∀ start, last = some start → announced start) :
    after.Known announced := by
  obtain ⟨-, commits, settled, checked, answered⟩ := known
  refine ⟨⟨last, tracks, heard⟩, commits, flash ▸ settled, checked, ?_⟩
  exact fun result cached => answered result (cache result cached)

theorem Known.begin (announces : announced start)
    (taken : device.handle (.begin start) = some (after, reply)) :
    after.Known announced := by
  obtain ⟨last, tracks, heard⟩ := known.tracks
  unfold handle at taken
  dsimp only at taken
  split at taken
  · cases taken
    refine known.moved rfl (fun _ cached => ?_) (tracks.begin start) ?_
    · cases cached
    · intro other begun
      unfold begunBy at begun
      split at begun
      · rename_i same _
        cases same
        cases begun
        exact announces
      · exact heard other begun
  · cases taken
    refine known.moved rfl (fun _ cached => ?_) tracks heard
    cases cached

theorem Known.commit (unforged : ∀ image profileHash,
      CommitCall.Unforged ⟨image, profileHash, fault⟩ device.flash)
    (taken : device.handle (.commit transferId fault) = some (after, reply)) :
    after.Known announced := by
  obtain ⟨⟨last, tracks, heard⟩, commits, settled, checked, answered⟩ := known
  unfold handle at taken
  dsimp only at taken
  split at taken
  · cases taken
    exact ⟨⟨last, tracks, heard⟩, commits, settled, checked, answered⟩
  obtain ⟨⟨receiver, result⟩, committed, same⟩ :=
    Option.map_eq_some_iff.mp taken
  have tracked := tracks.commit committed
  have answers := ProfileTransferReceiver.commit_answers committed
  dsimp only at same
  split at same
  · rename_i accepted
    obtain ⟨-, profile, published, own⟩ := answers (by rw [accepted]; rfl)
    have image : receiver.committedImage = some (profile,
        slice receiver.staging 0 profile.length) := by
      rw [ProfileTransferReceiver.committedImage, published]
      rfl
    obtain ⟨start, begun, shown⟩ := tracked.published _ _ image
    cases same
    unfold storeCommitted
    dsimp only
    rw [image]
    cases device.opened with
    | false =>
        refine ⟨⟨last, tracked.clearCommitted, heard⟩, commits, settled,
          checked, ?_⟩
        intro result cached stored
        cases cached
        cases stored
    | true =>
        let call : CommitCall ProfileFlashError :=
          ⟨slice receiver.staging 0 profile.length, profile.profileHash, fault⟩
        let step : CommitTransition ProfileFlashError :=
          ⟨device.flash, call, (call.perform device.flash).2,
            (call.perform device.flash).1⟩
        refine ⟨⟨last, tracked.clearCommitted, heard⟩, commits ++ [step],
          @ProfileStore.Settled.step _ _ step settled (unforged _ _) rfl,
          ?_, ?_⟩
        · intro written member
          rcases List.mem_append.mp member with earlier | this
          · exact checked written earlier
          · cases List.mem_singleton.mp this
            exact ⟨start, profile, heard start begun, shown, shown.profileHash⟩
        · intro kept cached stored
          cases cached
          obtain ⟨effective, same⟩ := storedResult_stored stored
          exact ⟨step, Run.lastWhere_append_pos _ _ (.inl effective),
            own.trans same.symm⟩
  · rename_i refused
    cases same
    refine ⟨⟨last, tracked, heard⟩, commits, settled, checked, ?_⟩
    intro kept cached stored
    cases cached
    exact absurd (answers stored).1 refused

theorem Known.handle
    (announces : ∀ start, event = .begin start → announced start)
    (unforged : event.Unforged device.flash)
    (taken : device.handle event = some (after, reply)) :
    after.Known announced := by
  cases event with
  | begin start => exact known.begin (announces start rfl) taken
  | chunk piece =>
      obtain ⟨last, tracks, heard⟩ := known.tracks
      obtain ⟨chunked, received, same⟩ := Option.map_eq_some_iff.mp taken
      cases same
      exact known.moved rfl (fun _ => id) (tracks.chunk received) heard
  | commit transferId fault => exact known.commit unforged taken
  | hostSessionChange =>
      obtain ⟨last, tracks, heard⟩ := known.tracks
      cases taken
      exact known.moved rfl (fun _ => id) tracks.cancel heard
  | restart staging opened =>
      cases taken
      refine known.moved rfl (fun _ cached => ?_)
        (ProfileTransferReceiver.tracks_new staging) fun _ begun => ?_
      · cases cached
      · cases begun

end

end ProfileDevice

/-- Whatever arrives, is lost or fails, the active profile reads back as an
image that was announced and checked, and a commit is answered as stored only
if its profile is the active one. -/
theorem device_profiles_sound
    (run : Lib.Run ProfileDeviceStep (.boot staging opened Flash.erased)
      history device)
    (unforged : ∀ taken ∈ history, taken.event.Unforged taken.before.flash) :
    (∀ profile, device.active = .ok (some profile) →
      ∃ taken ∈ history, ∃ start metadata image,
        taken.event = .begin start ∧ PublishedAs start metadata image ∧
          StoredAs profile image start.profileHash ∧
            ∀ room, profile.length ≤ room →
              query (readProfile profile room :
                StoreM ProfileFlashError _) device.flash = .ok image) ∧
      ∀ result ∈ device.commitCache, result.status.isStored = true →
        ∃ profile, device.active = .ok (some profile) ∧
          profile.profileHash = result.profileHash := by
  have known : device.Known fun start =>
      ∃ taken ∈ history, taken.event = .begin start := by
    apply run.invariant
    · refine ⟨⟨none, ProfileTransferReceiver.tracks_new staging,
        fun _ begun => ?_⟩, [], settled_erased, ?_, fun _ cached => ?_⟩
      · cases begun
      · simp only [List.not_mem_nil, false_implies, implies_true]
      · cases cached
    · intro taken member stepped known
      exact known.handle (fun start same => ⟨taken, member, same⟩)
        (unforged taken member) stepped
  obtain ⟨-, commits, settled, checked, answered⟩ := known
  constructor
  · intro profile found
    cases last : lastWriter commits with
    | none =>
        rw [ProfileDevice.active, query_active,
          current_eq_none.mpr (settled.empty last).2] at found
        cases found
    | some writer =>
        obtain ⟨stored, -, -, holds, written, -⟩ := settled.active writer last
        rw [ProfileDevice.active, query_active, holds.current] at found
        cases found
        obtain ⟨start, metadata, ⟨taken, member, begun⟩, shown, same⟩ :=
          checked writer (Run.mem_of_lastWhere _ last).1
        refine ⟨taken, member, start, metadata, _, begun, shown,
          same ▸ written, ?_⟩
        intro room fits
        have image := holds.stored
        rw [← image]
        apply query_readProfile fits
        rw [image]
        exact written.2.2.symm
  · intro result cached stored
    obtain ⟨taken, effect, same⟩ := answered result cached stored
    cases last : lastWriter commits with
    | none =>
        rw [(settled.empty last).1] at effect
        cases effect
    | some writer =>
        obtain ⟨profile, latest, known, holds, -, own, -⟩ :=
          settled.active writer last
        cases known.symm.trans effect
        exact ⟨profile, query_active.trans (congrArg _ holds.current),
          own.1.trans same⟩

def ProfileTransferCommand.event :
    ProfileTransferCommand → ProfileEvent
  | .begin start => .begin start
  | .chunk piece => .chunk piece
  | .commit transferId => .commit transferId none

def transferred : List ProfileEvent :=
  match ProfileTransferEncoder.new 1 7 otherEntryFirst with
  | .ok encoder => encoder.commands.map ProfileTransferCommand.event
  | .error _ => []

theorem unforged_transferred {event : ProfileEvent} {before : Flash}
    (member : event ∈ transferred) : event.Unforged before := by
  obtain ⟨command, -, rfl⟩ := List.mem_map.mp member
  cases command with
  | begin start => trivial
  | chunk piece => trivial
  | commit transferId =>
      intro _ _ fault faulty
      cases faulty

theorem device_profiles_sound_transferred :
    ∃ device replies profile,
      Run.attempt ProfileDevice.handle
          (.boot (.replicate 92 0) true Flash.erased) transferred =
        some (device, replies) ∧
      device.active = .ok (some profile) ∧ profile.profileHash = 7 := by
  have answered : (Run.attempt ProfileDevice.handle
      (.boot (.replicate 92 0) true Flash.erased) transferred).any (fun finish =>
        finish.1.commitCache.any fun result =>
          result.status.isStored && result.profileHash == 7) = true := by
    decide +kernel
  obtain ⟨⟨device, replies⟩, reached, cached⟩ :=
    (Option.any_eq_true _ _).mp answered
  obtain ⟨result, kept, known⟩ := (Option.any_eq_true _ _).mp cached
  obtain ⟨stored, hash⟩ := Bool.and_eq_true_iff.mp known
  obtain ⟨history, run, events, -⟩ := Run.of_attempt _ reached
  have unforged : ∀ taken ∈ history, taken.event.Unforged taken.before.flash :=
    fun taken member => unforged_transferred
      (events ▸ List.mem_map_of_mem member)
  obtain ⟨profile, found, same⟩ :=
    (device_profiles_sound run unforged).2 result kept stored
  exact ⟨device, replies, profile, reached, found, same.trans (eq_of_beq hash)⟩

end HidShift
