import HidShift.Lib.Run
import HidShift.Mirror.Commit

namespace HidShift

open Lib InPlace

namespace ProfileStore

variable {ε : Type}

structure CommitReport (ε : Type) where
  result : Except (ProfileStoreError ε) ProfileCommitOutcome
  programs : List (Nat × List UInt8)

def CommitCall.perform (call : CommitCall ε) (before : Flash) :
    Flash × CommitReport ε :=
  match (commit call.image call.profileHash).run
      (FlashDevice.start before call.fault) with
  | .ok outcome device => (device.flash, ⟨.ok outcome, device.programs⟩)
  | .error error device => (device.flash, ⟨.error error, device.programs⟩)

abbrev Commits (before : Flash) (call : CommitCall ε)
    (report : CommitReport ε) (after : Flash) : Prop :=
  call.perform before = (after, report)

abbrev CommitTransition (ε : Type) :=
  Transition Flash (CommitCall ε) (CommitReport ε)

def query {α : Type} (program : StoreM ε α) (flash : Flash) :
    Except (ProfileStoreError ε) α :=
  match program.run (FlashDevice.start flash none) with
  | .ok value _ => .ok value
  | .error error _ => .error error

def WritesMarker (taken : CommitTransition ε) : Prop :=
  Marked taken.output.programs

/-- A call that returned a profile, or was stopped behind the marker. -/
def TakesEffect (taken : CommitTransition ε) : Prop :=
  taken.output.result.isOk = true ∨ WritesMarker taken

theorem marked_iff :
    ((ProfileSlot.a.metadataOffset + 28, writeU32 commitMarker) ∈ programs ∨
      (ProfileSlot.b.metadataOffset + 28, writeU32 commitMarker) ∈
        programs) ↔ Marked programs := by
  constructor
  · rintro (first | second)
    · exact ⟨.a, first⟩
    · exact ⟨.b, second⟩
  · rintro ⟨slot, member⟩
    cases slot with
    | a => exact .inl member
    | b => exact .inr member

instance : DecidablePred (WritesMarker (ε := ε)) :=
  fun _ => decidable_of_iff _ marked_iff

instance : DecidablePred (TakesEffect (ε := ε)) :=
  fun _ => inferInstanceAs (Decidable (_ ∨ _))

def lastWriter (history : List (CommitTransition ε)) :
    Option (CommitTransition ε) :=
  Run.lastWhere WritesMarker history

def lastEffect (history : List (CommitTransition ε)) :
    Option (CommitTransition ε) :=
  Run.lastWhere TakesEffect history

section

variable {flash : Flash}

theorem query_active :
    query (active : StoreM ε _) flash = .ok (current flash) := rfl

theorem query_readProfile (fits : profile.length ≤ room)
    (matching : crc32Ieee (flash.read profile.slot.profileOffset
      profile.length) = profile.crc32) :
    query (readProfile profile room : StoreM ε _) flash =
      .ok (flash.read profile.slot.profileOffset profile.length) := by
  have ran : (readProfile profile room : StoreM ε _).run
      (FlashDevice.start flash none) =
        .ok (flash.read profile.slot.profileOffset profile.length)
          (FlashDevice.start flash none).next := by
    unfold readProfile
    rw [if_neg (Nat.not_lt.mpr fits)]
    exact congrArg (fun program : StoreM ε (List UInt8) =>
      program.run (FlashDevice.start flash none).next)
        (if_neg (not_not.mpr matching))
  rw [query, ran]

theorem newestProfile_of_newer
    (next : newer.generation = older.generation + 1) :
    newestProfile (some newer) (some older) = some newer ∧
      newestProfile (some older) (some newer) = some newer := by
  have later : newer.generation - older.generation = 1 := by
    rw [next]
    grind
  have earlier : older.generation - newer.generation = -1 := by
    rw [next]
    grind
  constructor
  · rw [newestProfile, generationIsNewerOrEqual, later]
    rfl
  · rw [newestProfile, generationIsNewerOrEqual, earlier]
    rfl

theorem current_eq_none :
    current flash = none ↔ ∀ slot, record flash slot = none := by
  unfold current
  constructor
  · intro nothing slot
    cases first : record flash .a with
    | some profile =>
        rw [first] at nothing
        cases second : record flash .b with
        | none =>
            rw [second] at nothing
            cases nothing
        | some other =>
            rw [second] at nothing
            cases nothing
    | none =>
        rw [first] at nothing
        cases slot with
        | a => exact first
        | b => exact nothing
  · intro nothing
    rw [nothing, nothing]
    rfl

end

/-- The active profile and its image are in place; the other slot holds
nothing or the profile before. -/
structure Holds (flash : Flash) (profile : StoredProfile)
    (image : List UInt8) : Prop where
  recorded : record flash profile.slot = some profile
  stored : flash.read profile.slot.profileOffset profile.length = image
  older : ∀ other, record flash profile.slot.other = some other →
    profile.generation = other.generation + 1

theorem Holds.current (holds : Holds flash profile image) :
    current flash = some profile := by
  obtain ⟨recorded, -, older⟩ := holds
  cases other : record flash profile.slot.other with
  | none =>
      unfold ProfileStore.current
      cases slot : profile.slot with
      | a =>
          rw [slot] at recorded other
          rw [recorded, show record flash .b = none from other]
          rfl
      | b =>
          rw [slot] at recorded other
          rw [recorded, show record flash .a = none from other]
          rfl
  | some old =>
      have newer := newestProfile_of_newer (older old other)
      unfold ProfileStore.current
      cases slot : profile.slot with
      | a =>
          rw [slot] at recorded other
          rw [recorded, show record flash .b = some old from other]
          exact newer.1
      | b =>
          rw [slot] at recorded other
          rw [recorded, show record flash .a = some old from other]
          exact newer.2

section

variable {call : CommitCall ε} {before after : Flash}

theorem target_of_current {profile : StoredProfile}
    (active : current before = some profile) :
    call.target before = profile.slot.other ∧
      (call.next before).generation = profile.generation + 1 := by
  unfold CommitCall.target CommitCall.next nextProfile
  rw [active]
  exact ⟨rfl, rfl⟩

theorem Holds.kept (holds : Holds before profile image) (sized : profile.Sized)
    (effect : CommitEffect call before false after) :
    Holds after profile image := by
  obtain ⟨target, -⟩ := @target_of_current ε call before profile holds.current
  have slot : (call.target before).other = profile.slot := by
    rw [target, ProfileSlot.other_other]
  obtain ⟨recorded, stored, older⟩ := holds
  have same (touched : Touches (call.target before) before after)
      (later : ∀ other, record after (call.target before) = some other →
        record before (call.target before) = some other) :
      Holds after profile image := by
    have other := touched.other
    rw [slot] at other
    refine ⟨other.record.trans recorded, ?_, ?_⟩
    · exact (other.area _ sized.fits).trans stored
    · intro old found
      rw [← target] at found
      apply older
      rw [← target]
      exact later old found
  cases effect with
  | unchanged => exact ⟨recorded, stored, older⟩
  | area stopped touched kept bytes =>
      apply same touched
      intro old found
      exact kept.symm.trans found
  | cleared touched wiped =>
      apply same touched
      intro old found
      rw [wiped] at found
      cases found

theorem empty_kept (empty : ∀ slot, record before slot = none)
    (effect : CommitEffect call before false after) :
    ∀ slot, record after slot = none := by
  have same (touched : Touches (call.target before) before after)
      (wiped : record after (call.target before) = none) :
      ∀ slot, record after slot = none := by
    intro slot
    by_cases written : slot = call.target before
    · rw [written]
      exact wiped
    · have other : slot = (call.target before).other := by
        revert written
        cases slot <;> cases call.target before <;> decide
      rw [other]
      exact touched.other.record.trans (empty _)
  cases effect with
  | unchanged => exact empty
  | area stopped touched kept bytes =>
      exact same touched (kept.trans (empty _))
  | cleared touched wiped => exact same touched wiped

theorem holds_written
    (older : ∀ other, record before (call.target before).other = some other →
      current before = some other)
    (effect : CommitEffect call before true after) :
    Holds after (call.next before) call.image := by
  cases effect with
  | stored completes touched recorded image =>
      refine ⟨recorded, image, ?_⟩
      intro other found
      have kept := touched.other.record
      have known := older other (kept.symm.trans found)
      exact (target_of_current known).2

end

structure Settled (history : List (CommitTransition ε)) (flash : Flash) :
    Prop where
  empty : lastWriter history = none →
    lastEffect history = none ∧ ∀ slot, record flash slot = none
  active : ∀ writer, lastWriter history = some writer →
    ∃ profile taken, lastEffect history = some taken ∧
      Holds flash profile writer.event.image ∧
      StoredAs profile writer.event.image writer.event.profileHash ∧
      StoredAs profile taken.event.image taken.event.profileHash ∧
      (taken.output.result = .ok (.alreadyStored profile) ∨
        taken = writer ∧ (taken.output.result = .ok (.stored profile) ∨
          taken.output.result.isOk = false))

theorem Holds.sized (holds : Holds flash profile image) : profile.Sized :=
  (decodeMetadata_some holds.recorded).2

theorem commits_cases {report : CommitReport ε}
    (unforged : call.Unforged before)
    (performed : Commits before call report after) :
    (∃ profile, report.result = .ok (.alreadyStored profile) ∧
      current before = some profile ∧
      StoredAs profile call.image call.profileHash ∧ after = before ∧
      ¬ Marked report.programs) ∨
    ((report.result = .ok (.stored (call.next before)) ∨
        report.result.isOk = false) ∧
      CommitEffect call before true after ∧ Marked report.programs) ∨
    (report.result.isOk = false ∧ CommitEffect call before false after ∧
      ¬ Marked report.programs) := by
  have ended := triple_commit unforged _ rfl
  have starts : (FlashDevice.start before call.fault).Ahead :=
    fun _ _ => Nat.zero_le _
  have ahead := triple_commit_ahead call.image call.profileHash _ starts
  unfold Commits CommitCall.perform at performed
  cases ran : (commit call.image call.profileHash).run
      (FlashDevice.start before call.fault) with
  | ok outcome device =>
      rw [ran] at performed
      cases performed
      rcases ended.finished outcome device ran with
        ⟨profile, rfl, active, stored, flash, unmarked⟩ |
          ⟨rfl, sized, fresh, reached⟩
      · exact .inl ⟨profile, rfl, active, stored, flash, unmarked⟩
      · have completes := completes_of_ahead sized fresh reached
          (ahead.finished _ device ran)
        rw [reached]
        refine .inr (.inl ⟨.inl rfl, effect_marked completes, ?_⟩)
        exact (marked_programs _).mpr ((marked_marker _ 4).mpr (Nat.le_refl 4))
  | error error device =>
      rw [ran] at performed
      cases performed
      obtain ⟨marked, effect, known⟩ := ended.stopped error device ran
      cases marked with
      | true => exact .inr (.inl ⟨.inr rfl, effect, known.mpr rfl⟩)
      | false =>
          refine .inr (.inr ⟨rfl, effect, fun marked => ?_⟩)
          cases known.mp marked

section

variable {earlier : List (CommitTransition ε)} {taken : CommitTransition ε}

section

variable (settled : Settled earlier taken.before)

include settled

theorem Settled.already
    (result : taken.output.result = .ok (.alreadyStored profile))
    (active : current taken.before = some profile)
    (stored : StoredAs profile taken.event.image taken.event.profileHash)
    (unmarked : ¬ WritesMarker taken) :
    Settled (earlier ++ [taken]) taken.before := by
  have effective : TakesEffect taken := .inl (by rw [result]; rfl)
  have writers : lastWriter (earlier ++ [taken]) = lastWriter earlier :=
    Run.lastWhere_append_neg _ _ unmarked
  constructor
  · intro nothing
    rw [writers] at nothing
    have empty := current_eq_none.mpr (settled.empty nothing).2
    rw [empty] at active
    cases active
  · intro writer found
    rw [writers] at found
    obtain ⟨known, last, -, holds, written, -⟩ :=
      settled.active writer found
    have same : known = profile :=
      Option.some.inj (holds.current.symm.trans active)
    subst same
    exact ⟨known, taken, Run.lastWhere_append_pos _ _ effective, holds,
      written, stored, .inl result⟩

theorem Settled.older :
    ∀ other, record taken.before slot.other = some other →
      (∀ profile, current taken.before = some profile →
        slot = profile.slot.other) → current taken.before = some other := by
  intro other found target
  cases last : lastWriter earlier with
  | none =>
      rw [(settled.empty last).2] at found
      cases found
  | some writer =>
      obtain ⟨profile, _, -, holds, -⟩ := settled.active writer last
      have here := target profile holds.current
      rw [here, ProfileSlot.other_other, holds.recorded] at found
      rw [holds.current]
      exact found

theorem Settled.written (result : taken.output.result =
        .ok (.stored (taken.event.next taken.before)) ∨
      taken.output.result.isOk = false)
    (effect : CommitEffect taken.event taken.before true taken.after)
    (marked : WritesMarker taken) :
    Settled (earlier ++ [taken]) taken.after := by
  have writers : lastWriter (earlier ++ [taken]) = some taken :=
    Run.lastWhere_append_pos _ _ marked
  constructor
  · intro nothing
    rw [writers] at nothing
    cases nothing
  · intro writer found
    rw [writers] at found
    cases found
    have holds := holds_written (fun other known =>
      settled.older other known fun profile active =>
        (target_of_current active).1) effect
    exact ⟨_, taken, Run.lastWhere_append_pos _ _ (.inr marked), holds,
      ⟨rfl, rfl, rfl⟩, ⟨rfl, rfl, rfl⟩, .inr ⟨rfl, result⟩⟩

theorem Settled.unmarked (result : taken.output.result.isOk = false)
    (effect : CommitEffect taken.event taken.before false taken.after)
    (unmarked : ¬ WritesMarker taken) :
    Settled (earlier ++ [taken]) taken.after := by
  have ineffective : ¬ TakesEffect taken := by
    rintro (ok | marked)
    · rw [result] at ok
      cases ok
    · exact unmarked marked
  have writers : lastWriter (earlier ++ [taken]) = lastWriter earlier :=
    Run.lastWhere_append_neg _ _ unmarked
  have effects : lastEffect (earlier ++ [taken]) = lastEffect earlier :=
    Run.lastWhere_append_neg _ _ ineffective
  constructor
  · rw [writers, effects]
    intro nothing
    obtain ⟨silent, empty⟩ := settled.empty nothing
    exact ⟨silent, empty_kept empty effect⟩
  · rw [writers, effects]
    intro writer found
    obtain ⟨profile, last, known, holds, rest⟩ :=
      settled.active writer found
    exact ⟨profile, last, known, holds.kept holds.sized effect, rest⟩

end

end

theorem record_erased (slot : ProfileSlot) :
    record Flash.erased slot = none := by
  apply decodeMetadata_unmarked
  rw [marker_read]
  cases slot with
  | a => decide
  | b => decide

theorem settled_erased :
    Settled ([] : List (CommitTransition ε)) Flash.erased := by
  constructor
  · exact fun _ => ⟨rfl, record_erased⟩
  · intro writer found
    cases found

theorem Settled.step (settled : Settled earlier taken.before)
    (unforged : taken.event.Unforged taken.before)
    (performed : Commits taken.before taken.event taken.output taken.after) :
    Settled (earlier ++ [taken]) taken.after := by
  rcases commits_cases unforged performed with
    ⟨profile, result, active, stored, flash, unmarked⟩ |
      ⟨result, effect, marked⟩ | ⟨result, effect, unmarked⟩
  · rw [flash]
    exact settled.already result active stored unmarked
  · exact settled.written result effect marked
  · exact settled.unmarked result effect unmarked

theorem settled_run {history : List (CommitTransition ε)}
    (run : Run Commits Flash.erased history flash)
    (unforged : ∀ taken ∈ history, taken.event.Unforged taken.before) :
    Settled history flash := by
  apply run.invariant_history Settled settled_erased
  intro earlier taken later split performed settled
  apply settled.step _ performed
  apply unforged
  rw [split]
  exact List.mem_append_right _ List.mem_cons_self

/-- After any run of commits from an erased flash the active profile is the
one of the last commit that returned it or wrote the whole marker, and its
image reads back as the bytes of the commit that wrote it.  A commit that
found its profile stored wrote nothing; its image has the length and the
checksum of these bytes. -/
theorem commit_atomic {flash : Flash} {history : List (CommitTransition ε)}
    (run : Run Commits Flash.erased history flash)
    (unforged : ∀ taken ∈ history, taken.event.Unforged taken.before) :
    (lastEffect history = none → query (active : StoreM ε _) flash = .ok none) ∧
    ∀ taken, lastEffect history = some taken →
      ∃ profile writer, query (active : StoreM ε _) flash = .ok (some profile) ∧
        StoredAs profile taken.event.image taken.event.profileHash ∧
        (∀ room, profile.length ≤ room →
          query (readProfile profile room : StoreM ε _) flash =
            .ok writer.event.image) ∧
        lastWriter history = some writer ∧
        StoredAs profile writer.event.image writer.event.profileHash ∧
        (taken.output.result = .ok (.alreadyStored profile) ∨
          taken = writer ∧ (taken.output.result = .ok (.stored profile) ∨
            taken.output.result.isOk = false)) := by
  have settled := settled_run run unforged
  cases last : lastWriter history with
  | none =>
      obtain ⟨silent, empty⟩ := settled.empty last
      constructor
      · intro _
        rw [query_active, current_eq_none.mpr empty]
      · intro taken found
        rw [silent] at found
        cases found
  | some writer =>
      obtain ⟨profile, latest, known, holds, written, stored, result⟩ :=
        settled.active writer last
      constructor
      · intro silent
        rw [known] at silent
        cases silent
      · intro taken found
        rw [known] at found
        cases found
        refine ⟨profile, writer, ?_, stored, ?_, rfl, written, result⟩
        · rw [query_active, holds.current]
        · intro room fits
          have image := holds.stored
          rw [← image]
          apply query_readProfile fits
          rw [image]
          exact written.2.2.symm

namespace CommitScenario

def history (calls : List (CommitCall Unit)) :
    List (CommitTransition Unit) :=
  Run.trace (fun before (call : CommitCall Unit) => call.perform before)
    Flash.erased calls

def final (calls : List (CommitCall Unit)) : Flash :=
  Run.final (fun before (call : CommitCall Unit) => call.perform before)
    Flash.erased calls

theorem run (calls : List (CommitCall Unit)) :
    Run Commits Flash.erased (history calls) (final calls) :=
  Run.of_trace _ _ _

def metadataLeft : Flash :=
  .ofBytes (encodeMetadata ⟨.a, 1, 7, 3, 0x55bc801d⟩ commitMarker)

def uninterrupted : List (CommitCall Unit) :=
  [⟨[1, 2, 3], 7, none⟩, ⟨[4, 5], 8, none⟩]

/-- The commit stops in the erase of the metadata, which is still there. -/
def interrupted : CommitCall Unit :=
  ⟨[1, 2, 3], 9, some ⟨5, metadataLeft, 0, ()⟩⟩

def stopped : List (CommitCall Unit) := uninterrupted ++ [interrupted]

theorem stopped_unforged :
    ∀ taken ∈ history stopped, taken.event.Unforged taken.before := by
  intro taken member fault faulty _
  simp only [history, stopped, uninterrupted, List.cons_append,
    List.nil_append, Run.trace, List.mem_cons, List.not_mem_nil, or_false]
    at member
  rcases member with rfl | rfl | rfl
  · cases faulty
  · cases faulty
  · cases faulty
    right
    decide +kernel

def zeros : List UInt8 := [0, 0, 0, 0, 0]

def sameChecksum : List UInt8 := [0x41, 0x06, 0x71, 0xdb, 0x01]

def colliding : List (CommitCall Unit) :=
  [⟨zeros, 7, none⟩, ⟨sameChecksum, 7, none⟩]

end CommitScenario

open CommitScenario

theorem commit_atomic_stopped :
    ∃ profile, query (active : StoreM Unit _) (final stopped) =
        .ok (some profile) ∧
      query (readProfile profile hsmiMaxSize : StoreM Unit _)
        (final stopped) = .ok [4, 5] := by
  have effect : (lastEffect (history stopped)).isSome = true := by
    decide +kernel
  have image : (lastWriter (history stopped)).map (·.event.image) =
      some [4, 5] := by
    decide +kernel
  obtain ⟨taken, found⟩ := Option.isSome_iff_exists.mp effect
  obtain ⟨profile, writer, active, -, read, last, written, -⟩ :=
    (commit_atomic (run stopped) stopped_unforged).2 taken found
  rw [last] at image
  have bytes : writer.event.image = [4, 5] := Option.some.inj image
  refine ⟨profile, active, ?_⟩
  rw [read hsmiMaxSize, bytes]
  rw [written.2.1, bytes]
  decide

/-- The second commit returns the profile of the first, whose bytes are not
those of its image. -/
theorem collision_not_stored :
    ∃ taken profile, lastEffect (history colliding) = some taken ∧
      taken.event.image = sameChecksum ∧
      taken.output.result = .ok (.alreadyStored profile) ∧
      query (active : StoreM Unit _) (final colliding) = .ok (some profile) ∧
      query (readProfile profile hsmiMaxSize : StoreM Unit _)
        (final colliding) = .ok zeros ∧ zeros ≠ sameChecksum := by
  have effect : (lastEffect (history colliding)).map (fun taken =>
      (taken.event.image, taken.output.result)) =
        some (sameChecksum,
          .ok (.alreadyStored ⟨.a, 1, 7, 5, 0xc622f71d⟩)) := by
    decide +kernel
  obtain ⟨taken, found, same⟩ := Option.map_eq_some_iff.mp effect
  refine ⟨taken, ⟨.a, 1, 7, 5, 0xc622f71d⟩, found, congrArg Prod.fst same,
    congrArg Prod.snd same, ?_, ?_, ?_⟩
  · decide +kernel
  · decide +kernel
  · decide

end ProfileStore

end HidShift
