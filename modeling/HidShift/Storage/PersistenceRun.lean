import HidShift.Storage.Persistence

namespace HidShift

open Lib
open StorageSlotBackend (slot writeSlot other_slot)
open NorFlashStorageBackend
  (Decodes GenerationNewer StorageWriteResult decodes_iff_isOk)

/-- A write, successful or not, leaves its slot as it was, undecodable or
holding the whole image. -/
def WritesWhole (build : Build) (β : Type) {ω : Type}
    [StorageSlotBackend β ω] : Prop :=
  ∀ (backend : β) (outcome : ω) index image,
    slot (writeSlot build backend outcome index image).2 index =
        slot backend index ∨
      ¬ Decodes build
        (slot (writeSlot build backend outcome index image).2 index) ∨
      slot (writeSlot build backend outcome index image).2 index = image

theorem newestSlot_undecodable
    (other : after (targetSlot (newestSlot build before)).other =
      before (targetSlot (newestSlot build before)).other)
    (undecodable : ¬ Decodes build
      (after (targetSlot (newestSlot build before)))) :
    (newestSlot build after).map StorageSlot.state =
      (newestSlot build before).map StorageSlot.state := by
  cases selected : newestSlot build before with
  | none =>
      rw [selected] at other undecodable
      cases found : newestSlot build after with
      | none => rfl
      | some newest =>
          have decodes := newestSlot_decodes found
          cases place : newest.index with
          | a =>
              rw [place] at decodes
              exact absurd ⟨newest.state, decodes⟩ undecodable
          | b =>
              rw [place, show after .b = before .b from other] at decodes
              exact absurd ⟨newest.state, decodes⟩ (newestSlot_none selected .b)
  | some newest =>
      rw [selected] at other undecodable
      rw [targetSlot] at undecodable
      rw [targetSlot, StorageSlotIndex.other_other] at other
      have kept : decodeStorageImage build (after newest.index) =
          .ok newest.state := by
        rw [other]
        exact newestSlot_decodes selected
      rw [newestSlot_of_newer kept]
      · rfl
      · intro older decodes
        exact absurd ⟨older, decodes⟩ undecodable

section

variable {β ω : Type} [StorageSlotBackend β ω] {build : Build}
  {backend after : β} {outcome : ω} {state : StorageState}

theorem restored_of_image (valid : state.validate = .ok ())
    (current : Current build backend state)
    (other : slot after (targetSlot (newestSlot build (slot backend))).other =
      slot backend (targetSlot (newestSlot build (slot backend))).other)
    (image : slot after (targetSlot (newestSlot build (slot backend))) =
      imageOf build state) :
    restoreLatestStorageState build after =
        restoreLatestStorageState build backend ∨
      Restores build after state := by
  cases read : decodeStorageImage build (imageOf build state) with
  | error error =>
      left
      apply newestSlot_undecodable other
      rintro ⟨decoded, decodes⟩
      rw [image, read] at decodes
      cases decodes
  | ok decoded =>
      cases decoded_eq_durable build state valid read
      rw [← image] at read
      rcases newestSlot_written other read current with
        restored | ⟨newest, selected, -, -, restored⟩
      · right
        rw [Restores, restoreLatestStorageState, restored]
        rfl
      · left
        rw [restoreLatestStorageState, restoreLatestStorageState, restored,
          selected]
        rfl

theorem restored_of_write (whole : WritesWhole build β)
    (valid : state.validate = .ok ())
    (current : Current build backend state)
    (written : (writeSlot build backend outcome
      (targetSlot (newestSlot build (slot backend)))
      (imageOf build state)).2 = after) :
    restoreLatestStorageState build after =
        restoreLatestStorageState build backend ∨
      Restores build after state := by
  have other := other_slot build backend outcome
    (targetSlot (newestSlot build (slot backend))) (imageOf build state)
  rw [written] at other
  have left := whole backend outcome
    (targetSlot (newestSlot build (slot backend))) (imageOf build state)
  rw [written] at left
  rcases left with same | undecodable | image
  · left
    have slots : slot after = slot backend := by
      funext index
      by_cases target :
          index = targetSlot (newestSlot build (slot backend))
      · rw [target, same]
      · have otherIndex : index =
            (targetSlot (newestSlot build (slot backend))).other := by
          revert target
          cases index <;>
            cases targetSlot (newestSlot build (slot backend)) <;> decide
        rw [otherIndex, other]
    rw [restoreLatestStorageState, slots]
    rfl
  · exact .inl (newestSlot_undecodable other undecodable)
  · exact restored_of_image valid current other image

theorem persistStorageState_restored (whole : WritesWhole build β)
    (current : Current build backend state)
    (persisted : persistStorageState build backend outcome state =
      (result, after)) :
    restoreLatestStorageState build after =
        restoreLatestStorageState build backend ∨
      Restores build after state := by
  unfold persistStorageState at persisted
  split at persisted
  · cases persisted
    exact .inl rfl
  · rename_i valid
    rw [encodeStorageImage_valid build valid] at persisted
    dsimp only at persisted
    split at persisted
    · rename_i error written finished
      cases persisted
      exact restored_of_write whole valid current (by rw [finished])
    · rename_i written finished
      have restored := @restored_of_write _ _ _ build backend written outcome
        state whole valid current (by rw [finished])
      split at persisted
      · cases persisted
        exact restored
      · cases persisted
        exact restored

end

inductive PersistenceEvent (ω : Type)
  | stage (state : StorageState) (priority : StoragePersistPriority)
      (nowMs : UInt64)
  | stageQuiesceSnapshot (state : StorageState) (nowMs : UInt64)
  | persistDue (outcome : ω) (nowMs : UInt64)
  | flush (outcome : ω)

structure PersistenceSystem (β : Type) where
  persistence : StoragePersistence
  backend : β

abbrev PersistenceTransition (β ω : Type) :=
  Transition (PersistenceSystem β) (PersistenceEvent ω)
    (Except StorageError (Option StorageWriteResult))

section

variable {β ω : Type} [StorageSlotBackend β ω]

inductive Persists (build : Build) : PersistenceSystem β →
    PersistenceEvent ω → Except StorageError (Option StorageWriteResult) →
      PersistenceSystem β → Prop
  | stage (system : PersistenceSystem β) (state : StorageState)
      (priority : StoragePersistPriority) (nowMs : UInt64) :
      Persists build system (.stage state priority nowMs) (.ok none)
        ⟨system.persistence.stage state priority nowMs, system.backend⟩
  | stageQuiesceSnapshot (system : PersistenceSystem β)
      (state : StorageState) (nowMs : UInt64) :
      Persists build system (.stageQuiesceSnapshot state nowMs) (.ok none)
        ⟨system.persistence.stageQuiesceSnapshot state nowMs, system.backend⟩
  | persistDue {system : PersistenceSystem β} {outcome : ω} {nowMs : UInt64}
      {output : Except StorageError (Option StorageWriteResult)}
      {persistence : StoragePersistence} {backend : β}
      (done : system.persistence.persistDue build system.backend outcome
        nowMs = (output, persistence, backend)) :
      Persists build system (.persistDue outcome nowMs) output
        ⟨persistence, backend⟩
  | flush {system : PersistenceSystem β} {outcome : ω}
      {output : Except StorageError (Option StorageWriteResult)}
      {persistence : StoragePersistence} {backend : β}
      (done : system.persistence.flush build system.backend outcome =
        (output, persistence, backend)) :
      Persists build system (.flush outcome) output ⟨persistence, backend⟩

end

/-- The state a call writes and what the device does meanwhile. -/
def PersistenceEvent.writes {ω : Type} (persistence : StoragePersistence) :
    PersistenceEvent ω → Option (StorageState × ω)
  | .stage .. => none
  | .stageQuiesceSnapshot .. => none
  | .persistDue outcome nowMs =>
      match persistence.deadlineMs with
      | none => none
      | some deadlineMs =>
          if nowMs < deadlineMs then none
          else persistence.pendingState.map fun state => (state, outcome)
  | .flush outcome =>
      persistence.pendingState.map fun state => (state, outcome)

def PersistenceEvent.staged {ω : Type} :
    PersistenceEvent ω → Option StorageState
  | .stage state _ _ => some state
  | .stageQuiesceSnapshot state _ => some state
  | .persistDue _ _ => none
  | .flush _ => none

section

variable {β ω : Type}

def stagedIn (history : List (PersistenceTransition β ω)) :
    List StorageState :=
  history.filterMap fun taken => taken.event.staged

def persistedIn (history : List (PersistenceTransition β ω)) :
    List StorageState :=
  history.filterMap fun taken =>
    match taken.output with
    | .ok (some result) => some result.state
    | _ => none

@[simp] theorem stagedIn_append (earlier : List (PersistenceTransition β ω))
    (taken : PersistenceTransition β ω) :
    stagedIn (earlier ++ [taken]) =
      stagedIn earlier ++ taken.event.staged.toList := by
  rw [stagedIn, List.filterMap_append, List.filterMap_cons]
  cases taken.event.staged <;> rfl

variable [StorageSlotBackend β ω] (build : Build)

/-- The generations of the restored state and of all states staged since. -/
def generationsSince (start : β)
    (history : List (PersistenceTransition β ω)) : List UInt32 :=
  (restoreLatestStorageState build start).toList.map StorageState.generation ++
    (stagedIn history).map StorageState.generation

/-- What is staged is newer than everything before, or of the generation that
is still pending. -/
def StagesInOrder (start : β)
    (history : List (PersistenceTransition β ω)) : Prop :=
  ∀ earlier taken later, history = earlier ++ taken :: later →
    ∀ state, taken.event.staged = some state →
      (∀ generation ∈ generationsSince build start earlier,
        GenerationNewer state.generation generation) ∨
      ∃ pending, taken.before.persistence.pendingState = some pending ∧
        state.generation = pending.generation

structure WriteHolds (backend : β) (outcome : ω) (state : StorageState) :
    Prop where
  valid : state.validate = .ok ()
  decodes : Decodes build (imageOf build state)
  reported : (writeSlot build backend outcome
    (targetSlot (newestSlot build (slot backend)))
    (imageOf build state)).1 = .ok ()
  held : slot (writeSlot build backend outcome
      (targetSlot (newestSlot build (slot backend)))
      (imageOf build state)).2
    (targetSlot (newestSlot build (slot backend))) = imageOf build state

def NoTieLost (history : List (PersistenceTransition β ω)) : Prop :=
  ∀ taken ∈ history, ∀ state outcome,
    taken.event.writes taken.before.persistence = some (state, outcome) →
      WriteHolds build taken.before.backend outcome state →
        ¬ LosesTie build taken.before.backend state

/-- The last state staged is pending or restored by a boot; a boot restores a
state that was staged, or the one from the start, and none older than the last
one persisted. -/
structure StagedKept (start : β) (history : List (PersistenceTransition β ω))
    (system : PersistenceSystem β) : Prop where
  pendingOrRestored : ∀ last, (stagedIn history).getLast? = some last →
    system.persistence.pendingState = some last ∨
      Restores build system.backend last
  restored : restoreLatestStorageState build system.backend =
      restoreLatestStorageState build start ∨
    ∃ state ∈ stagedIn history, Restores build system.backend state
  notOlder : ∀ persisted, (persistedIn history).getLast? = some persisted →
    ∃ restored, restoreLatestStorageState build system.backend = some restored ∧
      StorageSlot.generationIsNewerOrEqual restored.generation
        persisted.generation = true
  scheduled : system.persistence.Scheduled

end

section

variable {β ω : Type} [StorageSlotBackend β ω] {build : Build}
  {before after : PersistenceSystem β} {event : PersistenceEvent ω}
  {output : Except StorageError (Option StorageWriteResult)}

section

variable (taken : Persists build before event output after)

include taken

theorem Persists.idle (unstaged : event.staged = none)
    (unwritten : event.writes before.persistence = none) :
    output = .ok none ∧ after = before := by
  cases taken with
  | stage => cases unstaged
  | stageQuiesceSnapshot => cases unstaged
  | persistDue done =>
      unfold StoragePersistence.persistDue at done
      unfold PersistenceEvent.writes at unwritten
      cases deadline : before.persistence.deadlineMs with
      | none =>
          rw [deadline] at done
          cases done
          exact ⟨rfl, rfl⟩
      | some deadlineMs =>
          rw [deadline] at done unwritten
          dsimp only at done unwritten
          split at done
          · cases done
            exact ⟨rfl, rfl⟩
          · rename_i due
            rw [if_neg due, Option.map_eq_none_iff] at unwritten
            rw [unwritten] at done
            cases done
            exact ⟨rfl, rfl⟩
  | flush done =>
      unfold StoragePersistence.flush at done
      have empty : before.persistence.pendingState = none :=
        Option.map_eq_none_iff.mp unwritten
      rw [empty] at done
      cases done
      exact ⟨rfl, rfl⟩

theorem Persists.write
    (written : event.writes before.persistence = some (state, outcome)) :
    before.persistence.pendingState = some state ∧ event.staged = none ∧
      ((∃ result,
        persistStorageState build before.backend outcome state =
          (.ok result, after.backend) ∧
        output = .ok (some result) ∧
        after.persistence = before.persistence.clearPending) ∨
      (∃ error,
        persistStorageState build before.backend outcome state =
          (.error error, after.backend) ∧
        output = .error error ∧
        (after.persistence = before.persistence ∨ ∃ nowMs,
          after.persistence = before.persistence.recordFailure nowMs))) := by
  cases taken with
  | stage => cases written
  | stageQuiesceSnapshot => cases written
  | @persistDue device nowMs _ _ _ done =>
      unfold StoragePersistence.persistDue at done
      unfold PersistenceEvent.writes at written
      cases deadline : before.persistence.deadlineMs with
      | none =>
          rw [deadline] at written
          cases written
      | some deadlineMs =>
          rw [deadline] at done written
          dsimp only at done written
          split at done
          · rename_i early
            rw [if_pos early] at written
            cases written
          · rename_i due
            rw [if_neg due, Option.map_eq_some_iff] at written
            obtain ⟨held, pending, same⟩ := written
            cases same
            rw [pending] at done
            refine ⟨pending, rfl, ?_⟩
            dsimp only at done
            split at done
            · rename_i result backend persisted
              cases done
              exact .inl ⟨result, persisted, rfl, rfl⟩
            · rename_i error backend persisted
              cases done
              exact .inr ⟨error, persisted, rfl, .inr ⟨nowMs, rfl⟩⟩
  | flush done =>
      unfold StoragePersistence.flush at done
      obtain ⟨held, pending, same⟩ := Option.map_eq_some_iff.mp written
      cases same
      rw [pending] at done
      refine ⟨pending, rfl, ?_⟩
      dsimp only at done
      split at done
      · rename_i result backend persisted
        cases done
        exact .inl ⟨result, persisted, rfl, rfl⟩
      · rename_i error backend persisted
        cases done
        exact .inr ⟨error, persisted, rfl, .inl rfl⟩

theorem Persists.stages (staged : event.staged = some state) :
    output = .ok none ∧ after.backend = before.backend ∧
      after.persistence.pendingState = some state := by
  cases taken with
  | stage =>
      cases staged
      exact ⟨rfl, rfl, rfl⟩
  | stageQuiesceSnapshot =>
      cases staged
      exact ⟨rfl, rfl, StoragePersistence.stageQuiesceSnapshot_pendingState ..⟩
  | persistDue => cases staged
  | flush => cases staged

theorem Persists.scheduled (scheduled : before.persistence.Scheduled) :
    after.persistence.Scheduled := by
  cases staged : event.staged with
  | some state =>
      cases taken with
      | stage => exact StoragePersistence.scheduled_stage ..
      | stageQuiesceSnapshot => exact scheduled.stageQuiesceSnapshot ..
      | persistDue => cases staged
      | flush => cases staged
  | none =>
      cases written : event.writes before.persistence with
      | none =>
          obtain ⟨-, rfl⟩ := taken.idle staged written
          exact scheduled
      | some write =>
          obtain ⟨-, -, ⟨result, -, -, cleared⟩ |
            ⟨error, -, -, same | ⟨nowMs, failed⟩⟩⟩ := taken.write written
          · rw [cleared]
            exact StoragePersistence.scheduled_clearPending
          · rw [same]
            exact scheduled
          · rw [failed]
            exact scheduled.recordFailure nowMs

end

end

section

variable {β ω : Type} [StorageSlotBackend β ω] {build : Build} {start : β}
  {earlier : List (PersistenceTransition β ω)}
  {system : PersistenceSystem β}

structure Accounted (build : Build) (start : β)
    (history : List (PersistenceTransition β ω))
    (system : PersistenceSystem β) : Prop where
  kept : StagedKept build start history system
  pendingLast : ∀ state,
    system.persistence.pendingState = some state →
      (stagedIn history).getLast? = some state
  lastNewest : ∀ last, (stagedIn history).getLast? = some last →
    ∀ generation ∈ generationsSince build start history,
      StorageSlot.generationIsNewerOrEqual last.generation generation = true
  persistedStaged : ∀ state ∈ persistedIn history, state ∈ stagedIn history

theorem newerOrEqual_refl (generation : UInt32) :
    StorageSlot.generationIsNewerOrEqual generation generation = true := by
  rw [StorageSlot.generationIsNewerOrEqual, UInt32.sub_self]
  decide

variable {state : StorageState}

theorem staged_mem_generations (member : state ∈ stagedIn earlier) :
    state.generation ∈ generationsSince build start earlier :=
  List.mem_append_right _ (List.mem_map_of_mem member)

theorem StagedKept.newest_known (kept : StagedKept build start earlier system)
    (selected : newestSlot build (slot system.backend) = some newest) :
    newest.state.generation ∈ generationsSince build start earlier := by
  have restored : restoreLatestStorageState build system.backend =
      some newest.state := by
    rw [restoreLatestStorageState, selected]
    rfl
  rcases kept.restored with initial | ⟨state, member, known⟩
  · rw [restored] at initial
    apply List.mem_append_left
    rw [← initial]
    exact List.mem_singleton.mpr rfl
  · rw [Restores, restored, Option.some.injEq] at known
    rw [known]
    have staged : state.generation ∈ generationsSince build start earlier :=
      staged_mem_generations member
    exact staged

theorem Accounted.current (accounted : Accounted build start earlier system)
    (pending : system.persistence.pendingState = some state) :
    Current build system.backend state := by
  intro newest selected
  exact accounted.lastNewest state (accounted.pendingLast state pending) _
    (accounted.kept.newest_known selected)

theorem accounted_start (normalDelayMs lazyDelayMs : UInt64) :
    Accounted build start ([] : List (PersistenceTransition β ω))
      ⟨.new normalDelayMs lazyDelayMs, start⟩ where
  kept := {
    pendingOrRestored := by
      intro last impossible
      cases impossible
    restored := .inl rfl
    notOlder := by
      intro persisted impossible
      cases impossible
    scheduled := StoragePersistence.scheduled_new .. }
  pendingLast := by
    intro state impossible
    cases impossible
  lastNewest := by
    intro last impossible
    cases impossible
  persistedStaged := by
    intro state impossible
    cases impossible

theorem Accounted.stage (accounted : Accounted build start earlier taken.before)
    (step : Persists build taken.before taken.event taken.output taken.after)
    (staged : taken.event.staged = some state)
    (inOrder : (∀ generation ∈ generationsSince build start earlier,
      GenerationNewer state.generation generation) ∨ ∃ pending,
      taken.before.persistence.pendingState = some pending ∧ state.generation =
      pending.generation) :
    Accounted build start (earlier ++ [taken]) taken.after := by
  obtain ⟨quiet, backend, pending⟩ := step.stages staged
  have history : stagedIn (earlier ++ [taken]) =
      stagedIn earlier ++ [state] := by
    rw [stagedIn_append, staged]
    rfl
  have last : (stagedIn (earlier ++ [taken])).getLast? = some state := by
    rw [history, List.getLast?_concat]
  have persisted : persistedIn (earlier ++ [taken]) = persistedIn earlier := by
    rw [persistedIn, List.filterMap_append, List.filterMap_cons, quiet]
    exact List.append_nil _
  refine ⟨⟨?_, ?_, ?_, step.scheduled accounted.kept.scheduled⟩, ?_, ?_, ?_⟩
  · intro newLast found
    rw [last, Option.some.injEq] at found
    rw [← found]
    exact .inl pending
  · rw [backend, history]
    rcases accounted.kept.restored with initial | ⟨known, member, restored⟩
    · exact .inl initial
    · exact .inr ⟨known, List.mem_append_left _ member, restored⟩
  · rw [persisted, backend]
    exact accounted.kept.notOlder
  · intro held found
    rw [pending, Option.some.injEq] at found
    rw [← found]
    exact last
  · intro newLast found generation member
    rw [last, Option.some.injEq] at found
    rw [← found]
    rw [generationsSince, history, List.map_append, ← List.append_assoc]
      at member
    rcases List.mem_append.mp member with before | own
    · rcases inOrder with newer | ⟨previous, held, same⟩
      · exact decide_eq_true (newer generation before).2
      · rw [same]
        exact accounted.lastNewest previous
          (accounted.pendingLast previous held) generation before
    · rw [List.mem_singleton.mp own]
      exact newerOrEqual_refl _
  · rw [persisted, history]
    intro known member
    exact List.mem_append_left _ (accounted.persistedStaged known member)

theorem Accounted.write (whole : WritesWhole build β)
    (accounted : Accounted build start earlier taken.before)
    (step : Persists build taken.before taken.event taken.output taken.after)
    (written : taken.event.writes taken.before.persistence = some (state,
      outcome))
    (settled : WriteHolds build taken.before.backend outcome state → ¬ LosesTie
      build taken.before.backend state) :
    Accounted build start (earlier ++ [taken]) taken.after := by
  have scheduled := step.scheduled accounted.kept.scheduled
  obtain ⟨pending, unstaged, finished⟩ := step.write written
  have current := accounted.current pending
  have last := accounted.pendingLast state pending
  have stagedState : state ∈ stagedIn earlier := List.mem_of_getLast? last
  have history : stagedIn (earlier ++ [taken]) = stagedIn earlier := by
    rw [stagedIn_append, unstaged]
    exact List.append_nil _
  have generations : generationsSince build start (earlier ++ [taken]) =
      generationsSince build start earlier := by
    rw [generationsSince, history]
    rfl
  have notOlder : ∀ persisted ∈ persistedIn earlier,
      StorageSlot.generationIsNewerOrEqual state.generation
        persisted.generation = true := by
    intro persisted member
    exact accounted.lastNewest state last _ (staged_mem_generations
      (accounted.persistedStaged persisted member))
  rcases finished with ⟨result, persisted, output, cleared⟩ |
    ⟨error, persisted, output, kept⟩
  · obtain ⟨valid, done, held, read, resultState⟩ :=
      persistStorageState_ok persisted
    have restores : Restores build taken.after.backend state := by
      refine restores_of_no_tie current persisted (settled ?_)
      refine ⟨valid, ⟨_, read⟩, ?_, ?_⟩
      · rw [done]
      · rw [done]
        exact held
    have persistedNow : persistedIn (earlier ++ [taken]) =
        persistedIn earlier ++ [state] := by
      rw [persistedIn, List.filterMap_append, List.filterMap_cons, output,
        ← resultState]
      rfl
    refine ⟨⟨?_, ?_, ?_, scheduled⟩, ?_, ?_, ?_⟩
    · intro newLast found
      rw [history, last, Option.some.injEq] at found
      rw [← found]
      exact .inr restores
    · rw [history]
      exact .inr ⟨state, stagedState, restores⟩
    · intro newest found
      rw [persistedNow, List.getLast?_concat, Option.some.injEq] at found
      rw [← found]
      exact ⟨_, restores, newerOrEqual_refl _⟩
    · intro held pendingAfter
      rw [cleared] at pendingAfter
      cases pendingAfter
    · rw [history, generations]
      exact accounted.lastNewest
    · rw [persistedNow, history]
      intro known member
      rcases List.mem_append.mp member with before | own
      · exact accounted.persistedStaged known before
      · rw [List.mem_singleton.mp own]
        exact stagedState
  · have pendingAfter : taken.after.persistence.pendingState = some state := by
      rcases kept with same | ⟨nowMs, failed⟩
      · rw [same, pending]
      · rw [failed, StoragePersistence.recordFailure_pendingState, pending]
    have persistedSame : persistedIn (earlier ++ [taken]) =
        persistedIn earlier := by
      rw [persistedIn, List.filterMap_append, List.filterMap_cons, output]
      exact List.append_nil _
    have restored := persistStorageState_restored whole current persisted
    refine ⟨⟨?_, ?_, ?_, scheduled⟩, ?_, ?_, ?_⟩
    · intro newLast found
      rw [history, last] at found
      rw [pendingAfter, found]
      exact .inl rfl
    · rw [history]
      rcases restored with same | restores
      · rcases accounted.kept.restored with
          initial | ⟨known, member, restoredKnown⟩
        · exact .inl (same.trans initial)
        · exact .inr ⟨known, member, same.trans restoredKnown⟩
      · exact .inr ⟨state, stagedState, restores⟩
    · rw [persistedSame]
      rcases restored with same | restores
      · rw [same]
        exact accounted.kept.notOlder
      · intro newest found
        exact ⟨_, restores, notOlder newest (List.mem_of_getLast? found)⟩
    · intro held found
      rw [pendingAfter] at found
      rw [history, ← found]
      exact last
    · rw [history, generations]
      exact accounted.lastNewest
    · rw [persistedSame, history]
      exact accounted.persistedStaged

theorem Accounted.step (whole : WritesWhole build β)
    (accounted : Accounted build start earlier taken.before)
    (step : Persists build taken.before taken.event taken.output taken.after)
    (inOrder : ∀ state, taken.event.staged = some state →
      (∀ generation ∈ generationsSince build start earlier,
        GenerationNewer state.generation generation) ∨
      ∃ pending, taken.before.persistence.pendingState = some pending ∧
        state.generation = pending.generation)
    (settled : ∀ state outcome,
      taken.event.writes taken.before.persistence = some (state, outcome) →
        WriteHolds build taken.before.backend outcome state →
          ¬ LosesTie build taken.before.backend state) :
    Accounted build start (earlier ++ [taken]) taken.after := by
  cases staged : taken.event.staged with
  | some state => exact accounted.stage step staged (inOrder state staged)
  | none =>
      cases written : taken.event.writes taken.before.persistence with
      | some write =>
          exact accounted.write whole step written (settled _ _ written)
      | none =>
          obtain ⟨output, same⟩ := step.idle staged written
          have history : stagedIn (earlier ++ [taken]) = stagedIn earlier := by
            rw [stagedIn_append, staged]
            exact List.append_nil _
          have persisted : persistedIn (earlier ++ [taken]) =
              persistedIn earlier := by
            rw [persistedIn, List.filterMap_append, List.filterMap_cons, output]
            exact List.append_nil _
          obtain ⟨⟨pendingOrRestored, restored, notOlder, scheduled⟩,
            pendingLast, lastNewest, persistedStaged⟩ := accounted
          rw [same]
          refine ⟨⟨?_, ?_, ?_, scheduled⟩, ?_, ?_, ?_⟩
          · rwa [history]
          · rwa [history]
          · rwa [persisted]
          · rwa [history]
          · rw [generationsSince, history]
            exact lastNewest
          · rwa [persisted, history]

end

/-- A staged configuration is kept through failing writes, provided no write
that succeeds loses a tie. -/
theorem staged_state_kept {β ω : Type} [StorageSlotBackend β ω]
    {build : Build} {start : β} {normalDelayMs lazyDelayMs : UInt64}
    {history : List (PersistenceTransition β ω)}
    {final : PersistenceSystem β} (whole : WritesWhole build β)
    (run : Run (Persists build)
      ⟨.new normalDelayMs lazyDelayMs, start⟩ history final)
    (inOrder : StagesInOrder build start history)
    (settled : NoTieLost build history) :
    StagedKept build start history final := by
  have accounted : Accounted build start history final := by
    apply run.invariant_history (Accounted build start)
      (accounted_start normalDelayMs lazyDelayMs)
    intro earlier taken later split step accounted
    have member : taken ∈ history := by
      rw [split]
      exact List.mem_append_right _ List.mem_cons_self
    exact accounted.step whole step (inOrder earlier taken later split)
      (settled taken member)
  exact accounted.kept

section

variable {β ω : Type} [StorageSlotBackend β ω] {build : Build}
  {persistence : StoragePersistence} {backend after : β} {outcome : ω}
  {state : StorageState}

theorem Persists.flush_ok (pending : persistence.pendingState = some state)
    (persisted : persistStorageState build backend outcome state =
      (.ok result, after)) :
    Persists build ⟨persistence, backend⟩ (.flush outcome)
      (.ok (some result)) ⟨persistence.clearPending, after⟩ := by
  refine .flush ?_
  rw [StoragePersistence.flush, pending]
  dsimp only
  rw [persisted]

theorem Persists.flush_error (pending : persistence.pendingState = some state)
    (persisted : persistStorageState build backend outcome state =
      (.error error, after)) :
    Persists build ⟨persistence, backend⟩ (.flush outcome)
      (.error error) ⟨persistence, after⟩ := by
  refine .flush ?_
  rw [StoragePersistence.flush, pending]
  dsimp only
  rw [persisted]

end

structure UnreliableMemory where
  slots : StorageSlotIndex → List UInt8

namespace UnreliableMemory

def new : UnreliableMemory :=
  ⟨fun _ => List.replicate storageImageLen 0⟩

def writeSlot (memory : UnreliableMemory) (index : StorageSlotIndex)
    (image : List UInt8) : UnreliableMemory :=
  ⟨Function.update memory.slots index image⟩

instance : StorageSlotBackend UnreliableMemory (Except StorageError Unit) where
  slot := UnreliableMemory.slots
  writeSlot _ memory reported index image :=
    (reported, memory.writeSlot index image)
  other_slot _ _ _ index _ := Function.update_of_ne index.other_ne ..

theorem writesWhole (build : Build) : WritesWhole build UnreliableMemory := by
  intro memory outcome index image
  exact .inr (.inr (Function.update_self ..))

variable {build : Build} {memory : UnreliableMemory} {state : StorageState}
  {target : StorageSlotIndex}

theorem persist_error (error : StorageError) (valid : state.validate = .ok ())
    (selected : targetSlot (newestSlot build memory.slots) = target) :
    persistStorageState build memory (.error error) state =
      (.error error, memory.writeSlot target (imageOf build state)) := by
  simp only [persistStorageState, slot, StorageSlotBackend.writeSlot]
  rw [valid, encodeStorageImage_valid build valid, selected]

theorem persist_ok (valid : state.validate = .ok ())
    (read : decodeStorageImage build (imageOf build state) =
      .ok (state.durable build))
    (selected : targetSlot (newestSlot build memory.slots) = target) :
    persistStorageState build memory (.ok ()) state =
      (.ok ⟨target, state, imageOf build state⟩,
        memory.writeSlot target (imageOf build state)) := by
  have held : (memory.writeSlot target (imageOf build state)).slots target =
      imageOf build state := Function.update_self ..
  simp only [persistStorageState, slot, StorageSlotBackend.writeSlot]
  rw [valid, encodeStorageImage_valid build valid, selected]
  dsimp only
  rw [if_neg]
  rw [held, read]
  simp [Except.isOk, Except.toBool]

end UnreliableMemory

namespace UnreliableMemory

theorem selected_new : newestSlot .single (slot new) = none :=
  newestSlot_blank .single

def written : UnreliableMemory := new.writeSlot .a (imageOf .single (.new 1))

theorem selected_written : newestSlot .single (slot written) =
    some ⟨.a, imageOf .single (.new 1), (StorageState.new 1).durable .single⟩ :=
  InMemoryStorageBackend.newestSlot_holding (decodeStorageImage_new .single 1)

def staged : StoragePersistence :=
  (StoragePersistence.new 5000 30000).stage (.new 1) .normal 0

theorem persists_staging : Persists .single ⟨.new 5000 30000, new⟩
    (.stage (.new 1) .normal 0) (.ok none) ⟨staged, new⟩ := .stage ..

theorem persists_failing : Persists .single ⟨staged, new⟩
    (.flush (.error .flashWrite)) (.error .flashWrite) ⟨staged, written⟩ :=
  Persists.flush_error rfl (persist_error .flashWrite rfl
    (congrArg targetSlot selected_new))

end UnreliableMemory

open UnreliableMemory

theorem staged_state_kept_afterFailure :
    ∃ history final, Run (Persists .single)
        ⟨.new 5000 30000, UnreliableMemory.new⟩ history final ∧
      history.map Transition.event =
        [.stage (.new 1) .normal 0, .flush (.error .flashWrite),
          .stage (.new 2) .critical 1, .flush (.ok ())] ∧
      StagedKept .single UnreliableMemory.new history final := by
  have flushed := Persists.flush_ok
    (show (staged.stage (.new 2) .critical 1).pendingState =
      some (.new 2) from rfl)
    (UnreliableMemory.persist_ok rfl (decodeStorageImage_new .single 2)
      (congrArg targetSlot selected_written))
  have restaged := @Persists.stage _ _ _ .single ⟨staged, written⟩ (.new 2)
    .critical 1
  have run := Run.cons persists_staging (.cons persists_failing
    (.cons restaged (.cons flushed (.nil _))))
  refine ⟨_, _, run, rfl, ?_⟩
  apply staged_state_kept (UnreliableMemory.writesWhole .single) run
  · intro earlier taken later split state stages
    left
    intro generation member
    rcases earlier with _ | ⟨first, _ | ⟨second, _ | ⟨third, _ |
      ⟨fourth, rest⟩⟩⟩⟩
    · rw [generationsSince, restoreLatestStorageState, selected_new] at member
      cases member
    · cases split
      cases stages
    · cases split
      cases stages
      rw [generationsSince, restoreLatestStorageState, selected_new] at member
      rw [List.mem_singleton.mp member]
      exact ⟨by decide, by decide⟩
    · cases split
      cases stages
    · simp at split
  · intro taken member state outcome written holds lost
    obtain ⟨newest, selected, -, tie, -⟩ := lost
    simp only [List.mem_cons, List.not_mem_nil, or_false] at member
    rcases member with rfl | rfl | rfl | rfl
    · cases written
    · cases selected_new.symm.trans selected
    · cases written
    · cases written
      cases selected_written.symm.trans selected
      cases tie

/-- The snapshot that replaces the first goes to slot B and loses the tie. -/
theorem staged_state_lost :
    ∃ history final, WritesWhole .single UnreliableMemory ∧
      Run (Persists .single) ⟨.new 5000 30000, UnreliableMemory.new⟩
        history final ∧
      history.map Transition.event =
        [.stage (.new 1) .normal 0, .flush (.error .flashWrite),
          .stageQuiesceSnapshot quieter 0, .flush (.ok ())] ∧
      StagesInOrder .single UnreliableMemory.new history ∧
      (stagedIn history).getLast? = some quieter ∧
      final.persistence.pendingState ≠ some quieter ∧
      ¬ Restores .single final.backend quieter := by
  have replaced := @Persists.stageQuiesceSnapshot _ _ _ .single
    ⟨staged, written⟩ quieter 0
  have persisted := UnreliableMemory.persist_ok rfl
    (decodeStorageImage_quieter .single)
    (congrArg targetSlot selected_written)
  have flushed := Persists.flush_ok
    (show (staged.stageQuiesceSnapshot quieter 0).pendingState =
      some quieter from rfl) persisted
  have run := Run.cons persists_staging (.cons persists_failing
    (.cons replaced (.cons flushed (.nil _))))
  refine ⟨_, _, UnreliableMemory.writesWhole .single, run, rfl, ?_, rfl, ?_, ?_⟩
  · intro earlier taken later split state stages
    rcases earlier with _ | ⟨first, _ | ⟨second, _ | ⟨third, _ |
      ⟨fourth, rest⟩⟩⟩⟩
    · left
      intro generation member
      rw [generationsSince, restoreLatestStorageState, selected_new] at member
      cases member
    · cases split
      cases stages
    · cases split
      cases stages
      exact .inr ⟨.new 1, rfl, rfl⟩
    · cases split
      cases stages
    · simp at split
  · intro pending
    cases pending
  · apply not_restores_of_tie persisted
    refine ⟨_, selected_written, rfl, rfl, ?_⟩
    decide

end HidShift
