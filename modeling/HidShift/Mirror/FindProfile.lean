import HidShift.Mirror.CommitAtomic
import Mathlib.Data.List.ReduceOption

/-! Which profiles `find` gives.  A commit that is stopped between its two
erases leaves the metadata of a slot over an image area that it does not
describe; and `find` looks at slot A first, not at the active slot. -/

namespace HidShift

open Lib InPlace

namespace ProfileStore

variable {ε : Type}

def Shadowed (flash : Flash) (profile : StoredProfile) : Prop :=
  profile.slot = .b ∧ ∃ first, record flash .a = some first ∧
    first.profileHash = profile.profileHash

namespace CommitCall

variable (call : CommitCall ε) (before : Flash)

/-- The call stops over an image area that it has changed and whose old
metadata can still be found. -/
def LeavesStale : Prop :=
  ∃ fault old, call.StopsInArea before fault ∧
    record before (call.target before) = some old ∧
    ¬ Shadowed before old ∧
    ∃ index < old.length, call.areaLeft fault index ≠
      before ((call.target before).profileOffset + index)

/-- The call stores another image in slot B under the hash of slot A. -/
def ReusesHash : Prop :=
  call.Completes before ∧ call.target before = .b ∧
    ∃ active, current before = some active ∧
      active.profileHash = call.profileHash

structure Harmless : Prop where
  fresh : ¬ call.LeavesStale before
  unused : ¬ call.ReusesHash before

end CommitCall

def Intact (history : List (CommitTransition ε)) (flash : Flash)
    (profile : StoredProfile) : Prop :=
  ∃ taken ∈ history, taken.event.profileHash = profile.profileHash ∧
    flash.read profile.slot.profileOffset profile.length = taken.event.image ∧
    crc32Ieee taken.event.image = profile.crc32

structure Findable (history : List (CommitTransition ε)) (flash : Flash) :
    Prop where
  first : ∀ profile, current flash = some profile → profile.slot = .b →
    ∀ other, record flash .a = some other →
      other.profileHash ≠ profile.profileHash
  other : ∀ profile, current flash = some profile → ∀ old,
    record flash profile.slot.other = some old →
      Shadowed flash old ∨ Intact history flash old

section

variable {history earlier : List (CommitTransition ε)}
  {taken : CommitTransition ε} {flash before after : Flash}
  {profile old : StoredProfile}

theorem Intact.later (intact : Intact earlier flash profile) :
    Intact (earlier ++ [taken]) flash profile := by
  obtain ⟨writer, member, rest⟩ := intact
  exact ⟨writer, List.mem_append_left _ member, rest⟩

theorem Intact.of_read (intact : Intact history before profile)
    (same : after.read profile.slot.profileOffset profile.length =
      before.read profile.slot.profileOffset profile.length) :
    Intact history after profile := by
  obtain ⟨writer, member, hash, image, crc32⟩ := intact
  exact ⟨writer, member, hash, same.trans image, crc32⟩

theorem record_slot (found : record flash slot = some profile) :
    profile.slot = slot ∧ profile.Sized :=
  decodeMetadata_some found

theorem Settled.holds (settled : Settled history flash)
    (active : current flash = some profile) :
    ∃ image, Holds flash profile image ∧ Intact history flash profile := by
  cases last : lastWriter history with
  | none =>
      rw [current_eq_none.mpr (settled.empty last).2] at active
      cases active
  | some writer =>
      obtain ⟨known, _, -, holds, written, -⟩ := settled.active writer last
      have same : known = profile :=
        Option.some.inj (holds.current.symm.trans active)
      subst same
      have member := (Run.mem_of_lastWhere _ last).1
      exact ⟨_, holds, writer, member, written.1.symm, holds.stored,
        written.2.2.symm⟩

theorem Findable.already (findable : Findable earlier flash) :
    Findable (earlier ++ [taken]) flash := by
  refine ⟨findable.first, ?_⟩
  intro profile active old found
  rcases findable.other profile active old found with shadowed | intact
  · exact .inl shadowed
  · exact .inr intact.later

theorem Findable.kept (harmless : call.Harmless before)
    (effect : CommitEffect call before false after)
    (found : record after (call.target before) = some old)
    (known : record before (call.target before) = some old →
      Shadowed before old ∨ Intact earlier before old) :
    record before (call.target before) = some old ∧
      (Shadowed after old ∨ Intact earlier after old) := by
  cases effect with
  | unchanged => exact ⟨found, known found⟩
  | cleared touched wiped =>
      rw [wiped] at found
      cases found
  | @area after fault stopped touched kept bytes =>
      have there : record before (call.target before) = some old :=
        kept.symm.trans found
      obtain ⟨slot, sized⟩ := record_slot there
      refine ⟨there, ?_⟩
      by_cases shadowed : Shadowed before old
      · refine .inl ⟨shadowed.1, ?_⟩
        obtain ⟨onB, first, recorded, hash⟩ := shadowed
        have other := touched.other.record
        rw [← slot, onB] at other
        exact ⟨first, other.trans recorded, hash⟩
      · have intact := (known there).resolve_left shadowed
        refine .inr (intact.of_read (Flash.read_congr ?_))
        intro index inside
        rw [slot, bytes index (Nat.lt_of_lt_of_le inside sized.fits)]
        by_contra changed
        exact harmless.fresh ⟨fault, old, stopped, there, shadowed, index,
          inside, changed⟩

theorem Findable.unmarked (findable : Findable earlier taken.before)
    (settled : Settled earlier taken.before)
    (harmless : taken.event.Harmless taken.before)
    (effect : CommitEffect taken.event taken.before false taken.after) :
    Findable (earlier ++ [taken]) taken.after := by
  cases active : current taken.before with
  | none =>
      have empty := empty_kept (current_eq_none.mp active) effect
      have still : current taken.after = none := current_eq_none.mpr empty
      constructor
      · intro profile found
        rw [still] at found
        cases found
      · intro profile found
        rw [still] at found
        cases found
  | some profile =>
      obtain ⟨image, holds, -⟩ := settled.holds active
      have still := (holds.kept holds.sized effect).current
      obtain ⟨target, -⟩ := @target_of_current ε taken.event _ _ active
      have kept (old : StoredProfile)
          (found : record taken.after profile.slot.other = some old) :
          record taken.before profile.slot.other = some old ∧
            (Shadowed taken.after old ∨
              Intact earlier taken.after old) := by
        rw [← target] at found ⊢
        apply Findable.kept harmless effect found
        intro there
        rw [target] at there
        exact findable.other profile active old there
      constructor
      · intro next found onB other recorded
        rw [still] at found
        cases found
        apply findable.first profile active onB other
        have there := kept other (by rw [onB]; exact recorded)
        rw [onB] at there
        exact there.1
      · intro next found old recorded
        rw [still] at found
        cases found
        rcases (kept old recorded).2 with shadowed | intact
        · exact .inl shadowed
        · exact .inr intact.later

theorem Findable.written (settled : Settled earlier taken.before)
    (harmless : taken.event.Harmless taken.before)
    (effect : CommitEffect taken.event taken.before true taken.after) :
    Findable (earlier ++ [taken]) taken.after := by
  have older {other : StoredProfile} (found : record taken.before
      (taken.event.target taken.before).other = some other) :
      current taken.before = some other :=
    settled.older other found fun profile active =>
      (target_of_current active).1
  have holds := holds_written (fun other found => older found) effect
  cases effect with
  | stored completes touched recorded image =>
      constructor
      · intro next found onB other first
        rw [holds.current] at found
        cases found
        intro same
        have target : taken.event.target taken.before = .b := onB
        have kept := touched.other.record
        rw [target] at kept
        have there : record taken.before
            (taken.event.target taken.before).other = some other := by
          rw [target]
          exact kept.symm.trans first
        have active := older there
        exact harmless.unused ⟨completes, target, other, active, same⟩
      · intro next found old second
        rw [holds.current] at found
        cases found
        have there : record taken.before
            (taken.event.target taken.before).other = some old :=
          touched.other.record.symm.trans second
        obtain ⟨_, -, intact⟩ := settled.holds (older there)
        obtain ⟨slot, sized⟩ := record_slot there
        refine .inr (Intact.later (intact.of_read ?_))
        rw [slot]
        exact touched.other.area _ sized.fits

end

theorem query_find (profileHash : UInt32) :
    query (find profileHash : StoreM ε _) flash =
      .ok ([record flash .a, record flash .b].reduceOption.find?
        fun profile => profile.profileHash = profileHash) := rfl

theorem findable_run {history : List (CommitTransition ε)}
    (run : Run Commits Flash.erased history flash)
    (unforged : ∀ taken ∈ history, taken.event.Unforged taken.before)
    (harmless : ∀ taken ∈ history, taken.event.Harmless taken.before) :
    Settled history flash ∧ Findable history flash := by
  refine run.invariant_history
    (fun earlier state => Settled earlier state ∧ Findable earlier state)
      ⟨settled_erased, ?_⟩ ?_
  · have empty : current Flash.erased = none :=
      current_eq_none.mpr record_erased
    constructor
    · intro profile active
      rw [empty] at active
      cases active
    · intro profile active
      rw [empty] at active
      cases active
  · rintro earlier taken later split performed ⟨settled, findable⟩
    have member : taken ∈ history := by
      rw [split]
      exact List.mem_append_right _ List.mem_cons_self
    refine ⟨settled.step (unforged taken member) performed, ?_⟩
    rcases commits_cases (unforged taken member) performed with
      ⟨profile, -, -, -, flash, -⟩ | ⟨-, effect, -⟩ | ⟨-, effect, -⟩
    · rw [flash]
      exact findable.already
    · exact Findable.written settled (harmless taken member) effect
    · exact findable.unmarked settled (harmless taken member) effect

section

variable {flash : Flash} {profile : StoredProfile} {profileHash : UInt32}

theorem find_recorded
    (found : query (find profileHash : StoreM ε _) flash = .ok (some profile)) :
    record flash profile.slot = some profile ∧
      profile.profileHash = profileHash ∧ ¬ Shadowed flash profile := by
  rw [query_find, Except.ok.injEq] at found
  have accepted := List.find?_some found
  have hash : profile.profileHash = profileHash := of_decide_eq_true accepted
  have member := List.mem_of_find?_eq_some found
  rw [List.reduceOption_mem_iff, List.mem_cons, List.mem_singleton] at member
  rcases member with first | second
  · have slot := (record_slot first.symm).1
    refine ⟨by rw [slot]; exact first.symm, hash, ?_⟩
    rintro ⟨onB, -⟩
    rw [slot] at onB
    cases onB
  · have slot := (record_slot second.symm).1
    refine ⟨by rw [slot]; exact second.symm, hash, ?_⟩
    rintro ⟨-, first, recorded, same⟩
    have earlier : [record flash .a, record flash .b].reduceOption.find?
        (fun profile => profile.profileHash = profileHash) = some first := by
      rw [recorded, List.reduceOption_cons_of_some]
      exact List.find?_cons_of_pos (decide_eq_true (same.trans hash))
    have equal : first = profile := Option.some.inj (earlier.symm.trans found)
    have onA := (record_slot recorded).1
    rw [equal, slot] at onA
    cases onA

theorem find_active (recorded : record flash profile.slot = some profile)
    (visible : profile.slot = .b → ∀ other, record flash .a = some other →
      other.profileHash ≠ profile.profileHash) :
    query (find profile.profileHash : StoreM ε _) flash =
      .ok (some profile) := by
  have accepted : decide (profile.profileHash = profile.profileHash) = true :=
    decide_eq_true rfl
  rw [query_find, Except.ok.injEq]
  cases slot : profile.slot with
  | a =>
      rw [slot] at recorded
      rw [recorded, List.reduceOption_cons_of_some]
      exact List.find?_cons_of_pos accepted
  | b =>
      rw [slot] at recorded
      rw [recorded]
      cases first : record flash .a with
      | none => exact List.find?_cons_of_pos accepted
      | some other =>
          rw [List.reduceOption_cons_of_some, List.find?_cons_of_neg]
          · exact List.find?_cons_of_pos accepted
          · rw [decide_eq_true_eq]
            exact visible slot other first

end

/-- After a run of calls that all are harmless, a profile that `find` gives
reads back as an image that was committed under its hash, and the active
profile is found under its hash. -/
theorem found_profile_readable {flash : Flash}
    {history : List (CommitTransition ε)}
    (run : Run Commits Flash.erased history flash)
    (unforged : ∀ taken ∈ history, taken.event.Unforged taken.before)
    (harmless : ∀ taken ∈ history, taken.event.Harmless taken.before) :
    (∀ profileHash profile,
      query (find profileHash : StoreM ε _) flash = .ok (some profile) →
        ∃ taken ∈ history, taken.event.profileHash = profileHash ∧
          ∀ room, profile.length ≤ room →
            query (readProfile profile room : StoreM ε _) flash =
              .ok taken.event.image) ∧
    ∀ profile, query (active : StoreM ε _) flash = .ok (some profile) →
      query (find profile.profileHash : StoreM ε _) flash =
        .ok (some profile) := by
  obtain ⟨settled, findable⟩ := findable_run run unforged harmless
  constructor
  · intro profileHash profile found
    obtain ⟨recorded, rfl, visible⟩ := find_recorded found
    have intact : Intact history flash profile := by
      cases known : current flash with
      | none =>
          rw [current_eq_none.mp known] at recorded
          cases recorded
      | some newest =>
          obtain ⟨image, holds, intact⟩ := settled.holds known
          by_cases same : profile.slot = newest.slot
          · rw [same, holds.recorded] at recorded
            cases recorded
            exact intact
          · have other : profile.slot = newest.slot.other := by
              revert same
              cases profile.slot <;> cases newest.slot <;> decide
            rw [other] at recorded
            exact (findable.other newest known profile recorded).resolve_left
              visible
    obtain ⟨taken, member, hash, image, crc32⟩ := intact
    refine ⟨taken, member, hash, ?_⟩
    intro room fits
    rw [← image]
    apply query_readProfile fits
    rw [image]
    exact crc32
  · intro profile known
    have active : current flash = some profile := Except.ok.inj known
    obtain ⟨image, holds, -⟩ := settled.holds active
    exact find_active holds.recorded (findable.first profile active)

namespace CommitScenario

def stale : List (CommitCall Unit) :=
  [⟨[1], 1, none⟩, ⟨[2], 2, none⟩, ⟨[3], 3, some ⟨2, Flash.erased, 0, ()⟩⟩]

def reused : List (CommitCall Unit) := [⟨[1], 1, none⟩, ⟨[2], 1, none⟩]

end CommitScenario

open CommitScenario

theorem stopped_harmless :
    ∀ taken ∈ history stopped, taken.event.Harmless taken.before := by
  intro taken member
  simp only [history, stopped, uninterrupted, List.cons_append,
    List.nil_append, Run.trace, List.mem_cons, List.not_mem_nil, or_false]
    at member
  rcases member with rfl | rfl | rfl
  · constructor
    · rintro ⟨fault, _, ⟨faulty, -⟩, -⟩
      cases faulty
    · rintro ⟨-, second, -⟩
      revert second
      decide +kernel
  · constructor
    · rintro ⟨fault, _, ⟨faulty, -⟩, -⟩
      cases faulty
    · rintro ⟨-, -, active, known, same⟩
      have first : (current (Prod.fst (CommitCall.perform (ε := Unit)
          ⟨[1, 2, 3], 7, none⟩ Flash.erased))).map (·.profileHash) =
            some 7 := by
        decide +kernel
      rw [known, Option.map_some, same] at first
      cases first
  · constructor
    · rintro ⟨fault, old, ⟨faulty, -⟩, known, -, index, inside, changed⟩
      cases faulty
      have same : ∀ old ∈ record (final uninterrupted)
          (interrupted.target (final uninterrupted)), ∀ index < old.length,
            interrupted.areaLeft ⟨5, metadataLeft, 0, ()⟩ index =
              final uninterrupted ((interrupted.target
                (final uninterrupted)).profileOffset + index) := by
        decide +kernel
      simp only [final, uninterrupted, Run.final] at same
      dsimp only at known changed
      exact changed (same old known index inside)
    · rintro ⟨-, second, -⟩
      revert second
      decide +kernel

theorem found_profile_readable_stopped :
    ∃ taken ∈ history stopped, taken.event.profileHash = 7 ∧
      query (readProfile ⟨.a, 1, 7, 3, 0x55bc801d⟩ hsmiMaxSize :
        StoreM Unit _) (final stopped) = .ok taken.event.image := by
  have found : query (find 7 : StoreM Unit _) (final stopped) =
      .ok (some ⟨.a, 1, 7, 3, 0x55bc801d⟩) := by
    decide +kernel
  obtain ⟨taken, member, hash, read⟩ := (found_profile_readable (run stopped)
    stopped_unforged stopped_harmless).1 7 _ found
  exact ⟨taken, member, hash, read hsmiMaxSize (by decide)⟩

/-- A profile of which the image is gone is found, and so is an old profile
instead of the active one of the same hash. -/
theorem stale_profile_found :
    ∃ profile, query (find 1 : StoreM Unit _) (final stale) =
        .ok (some profile) ∧
      query (readProfile profile hsmiMaxSize : StoreM Unit _)
        (final stale) = .error .readBackMismatch ∧
      ∃ newest, query (active : StoreM Unit _) (final reused) =
          .ok (some newest) ∧ newest.profileHash = 1 ∧
        query (find 1 : StoreM Unit _) (final reused) ≠ .ok (some newest) := by
  refine ⟨⟨.a, 1, 1, 1, 0xa505df1b⟩, ?_, ?_, ⟨.b, 2, 1, 1, 0x3c0c8ea1⟩,
    ?_, rfl, ?_⟩
  · decide +kernel
  · decide +kernel
  · decide +kernel
  · decide +kernel

end ProfileStore

end HidShift
