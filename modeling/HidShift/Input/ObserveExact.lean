import HidShift.Input.ProfileRegistry
import Mathlib.Data.List.MinMax
import Mathlib.Data.List.Perm.Subperm

namespace HidShift

open Lib

namespace InputProfileRegistry

def allIds : List InputProfileId :=
  (List.range' 1 inputProfileCapacity).filterMap fun candidate =>
    InputProfileId.new (UInt8.ofNat candidate)

theorem length_allIds : allIds.length = inputProfileCapacity := by decide

theorem nodup_allIds : allIds.Nodup := by decide

variable {registry : InputProfileRegistry}

theorem freeId_isSome
    (room : registry.profiles.toList.length < inputProfileCapacity) :
    ∃ id, freeId registry.profiles.toList = some id := by
  cases found : freeId registry.profiles.toList with
  | some id => exact ⟨id, rfl⟩
  | none =>
      have used : allIds ⊆ registry.profiles.toList.map InputProfile.id := by
        intro id member
        obtain ⟨candidate, inRange, isId⟩ := List.mem_filterMap.mp member
        have taken := List.findSome?_eq_none_iff.mp found candidate inRange
        rw [isId, Option.filter_some, ite_eq_right_iff] at taken
        by_contra unused
        refine absurd (taken (List.all_eq_true.mpr fun item inside => ?_))
          (Option.some_ne_none id)
        refine decide_eq_true fun same => unused ?_
        rw [← same]
        exact List.mem_map_of_mem inside
      have enough := (List.subperm_of_subset nodup_allIds used).length_le
      rw [length_allIds, List.length_map] at enough
      omega

structure Oldest (registry : InputProfileRegistry) (profile : InputProfile) :
    Prop where
  member : profile ∈ registry.profiles.toList
  disconnected : profile.connected = false
  least : ∀ other ∈ registry.profiles.toList, other.connected = false →
    profile.lastSeen ≤ other.lastSeen

theorem removable_some {profile : InputProfile}
    (found : removable registry.profiles.toList = some profile) :
    registry.Oldest profile := by
  unfold removable at found
  have member := List.mem_filter.mp (List.mem_of_find?_eq_some found)
  have least := List.find?_some found
  refine ⟨member.1, by simpa using member.2, fun other inside idle => ?_⟩
  have both := List.all_eq_true.mp least other
    (List.mem_filter.mpr ⟨inside, by simpa using idle⟩)
  exact of_decide_eq_true both

theorem removable_none (none : removable registry.profiles.toList = none) :
    ∀ profile ∈ registry.profiles.toList, profile.connected = true := by
  intro profile member
  by_contra idle
  have waits : profile ∈ registry.profiles.toList.filter (!·.connected) :=
    List.mem_filter.mpr ⟨member, by simpa using idle⟩
  cases oldest : (registry.profiles.toList.filter
      (!·.connected)).argmin fun other => other.lastSeen.toNat with
  | none =>
      rw [List.argmin_eq_none.mp oldest] at waits
      exact absurd waits List.not_mem_nil
  | some old =>
      refine absurd ?_ (List.find?_eq_none.mp none old (List.argmin_mem oldest))
      refine List.all_eq_true.mpr fun other inside => ?_
      have least := @List.le_of_mem_argmin _ _ _
        (fun other : InputProfile => other.lastSeen.toNat) _ _ _ inside oldest
      exact decide_eq_true (UInt64.le_iff_toNat_le.mpr least)

def Knows (registry : InputProfileRegistry) (identity : InputIdentity) :
    Prop :=
  ∃ profile ∈ registry.profiles.toList, profile.identity = identity

def seen (registry : InputProfileRegistry) (profile : InputProfile) :
    InputProfile :=
  { profile with connected := true, lastSeen := registry.nextSequence }

/-- All that a call of `observe` can do. -/
inductive Outcome (registry : InputProfileRegistry)
    (identity : InputIdentity) : InputProfileRegistry →
      Except InputProfileError InputProfileId → Prop
  | known (before : List InputProfile) (profile : InputProfile)
      (after : List InputProfile) {next : InputProfileRegistry}
      (same : profile.identity = identity)
      (profiles : registry.profiles.toList = before ++ profile :: after)
      (kept : next.profiles.toList = before ++ registry.seen profile :: after) :
      Outcome registry identity next (.ok profile.id)
  | replaced (before : List InputProfile) (profile : InputProfile)
      (after : List InputProfile) {next : InputProfileRegistry}
      (unknown : ¬ registry.Knows identity)
      (full : registry.profiles.toList.length = inputProfileCapacity)
      (oldest : registry.Oldest profile)
      (profiles : registry.profiles.toList = before ++ profile :: after)
      (kept : next.profiles.toList = before ++
        connectedProfile profile.id identity registry.nextSequence :: after) :
      Outcome registry identity next (.ok profile.id)
  | added (id : InputProfileId) {next : InputProfileRegistry}
      (unknown : ¬ registry.Knows identity)
      (room : registry.profiles.toList.length < inputProfileCapacity)
      (kept : next.profiles.toList = registry.profiles.toList ++
        [connectedProfile id identity registry.nextSequence]) :
      Outcome registry identity next (.ok id)
  | refused {next : InputProfileRegistry} (unknown : ¬ registry.Knows identity)
      (full : registry.profiles.toList.length = inputProfileCapacity)
      (connected : ∀ profile ∈ registry.profiles.toList,
        profile.connected = true)
      (kept : next.profiles = registry.profiles) :
      Outcome registry identity next (.error .registryFullWithConnectedProfiles)

theorem updateFirst_split (change : InputProfile → InputProfile)
    (found : registry.profiles.toList.find? matched = some profile) :
    ∃ before after, registry.profiles.toList = before ++ profile :: after ∧
      (registry.updateFirst matched change).profiles.toList =
        before ++ change profile :: after := by
  obtain ⟨holds, before, after, profiles, earlier⟩ :=
    List.find?_eq_some_iff_append.mp found
  have skipped : before.findIdx? matched = none := by
    refine List.findIdx?_eq_none_iff.mpr fun other member => ?_
    simpa using earlier other member
  have index : registry.profiles.toList.findIdx? matched =
      some before.length := by
    rw [profiles, List.findIdx?_append, skipped, List.findIdx?_cons,
      if_pos holds]
    simp
  refine ⟨before, after, profiles, ?_⟩
  unfold updateFirst
  rw [index]
  change registry.profiles.toList.modify before.length change = _
  rw [profiles]
  clear profiles skipped earlier index
  induction before with
  | nil => rfl
  | cons first before ih => exact congrArg (first :: ·) ih

theorem observe_observed (identity : InputIdentity) :
    registry.Outcome identity (registry.observe identity).1
      (registry.observe identity).2 := by
  unfold observe
  dsimp only
  cases known : registry.takeSequence.1.profiles.toList.find?
      (·.identity = identity) with
  | some profile =>
      have same : profile.identity = identity := by
        simpa using List.find?_some known
      obtain ⟨before, after, profiles, kept⟩ :=
        updateFirst_split (registry.seen) known
      exact .known before profile after same profiles kept
  | none =>
      have unknown : ¬ registry.Knows identity := by
        intro ⟨profile, member, same⟩
        exact List.find?_eq_none.mp known profile member (decide_eq_true same)
      dsimp only
      by_cases full : registry.takeSequence.1.profiles.toList.length =
          inputProfileCapacity
      · rw [if_pos full]
        cases oldest : removable registry.takeSequence.1.profiles.toList with
        | none => exact .refused unknown full (removable_none oldest) rfl
        | some old =>
            have chosen := @removable_some registry old oldest
            have found : registry.takeSequence.1.profiles.toList.find?
                (· = old) = some old := by
              cases first : registry.takeSequence.1.profiles.toList.find?
                  (· = old) with
              | none =>
                  have missing := List.find?_eq_none.mp first old chosen.member
                  exact absurd (decide_eq_true rfl) missing
              | some other =>
                  have same : other = old := by
                    simpa using List.find?_some first
                  rw [same]
            obtain ⟨before, after, profiles, kept⟩ := updateFirst_split
              (fun profile => connectedProfile profile.id identity
                registry.nextSequence) found
            exact .replaced before old after unknown full chosen profiles kept
      · rw [if_neg full]
        have room : registry.profiles.toList.length < inputProfileCapacity :=
          Nat.lt_of_le_of_ne registry.profiles.length_le full
        obtain ⟨id, free⟩ := freeId_isSome room
        obtain ⟨profiles, pushed, kept⟩ := BoundedVec.push?_room
          (connectedProfile id identity registry.nextSequence) room
        rw [show freeId registry.takeSequence.1.profiles.toList = some id from
          free]
        dsimp only
        rw [show registry.takeSequence.1.profiles.push? (connectedProfile id
          identity registry.takeSequence.2) = some profiles from pushed]
        exact .added id unknown room kept

section

variable {next : InputProfileRegistry} {identity : InputIdentity}
  {result : Except InputProfileError InputProfileId}
  {profile : InputProfile}

section

variable (observed : registry.Outcome identity next result)

include observed

theorem Outcome.holds {id : InputProfileId} (isOk : result = .ok id) :
    ∃ known ∈ next.profiles.toList, known.id = id ∧
      known.identity = identity ∧ known.connected = true := by
  cases observed with
  | known before profile after same _ kept =>
      refine ⟨registry.seen profile, ?_, Except.ok.inj isOk, same, rfl⟩
      rw [kept]
      exact List.mem_append_cons_self
  | replaced before profile after _ _ _ _ kept =>
      refine ⟨connectedProfile profile.id identity registry.nextSequence, ?_,
        Except.ok.inj isOk, rfl, rfl⟩
      rw [kept]
      exact List.mem_append_cons_self
  | added found _ _ kept =>
      refine ⟨connectedProfile found identity registry.nextSequence, ?_,
        Except.ok.inj isOk, rfl, rfl⟩
      rw [kept]
      exact List.mem_append_cons_self
  | refused => cases isOk

theorem Outcome.keeps (distinct : registry.Distinct)
    (member : profile ∈ registry.profiles.toList)
    (same : profile.identity = identity) :
    result = .ok profile.id ∧ ∃ known ∈ next.profiles.toList,
      known.id = profile.id ∧ known.identity = identity ∧
        known.settings = profile.settings := by
  cases observed with
  | known before found after isFound profiles kept =>
      have foundMember : found ∈ registry.profiles.toList := by
        rw [profiles]
        exact List.mem_append_cons_self
      obtain rfl := List.inj_on_of_nodup_map distinct.identities member
        foundMember (same.trans isFound.symm)
      refine ⟨rfl, registry.seen profile, ?_, rfl, same, rfl⟩
      rw [kept]
      exact List.mem_append_cons_self
  | replaced _ _ _ unknown => exact absurd ⟨profile, member, same⟩ unknown
  | added _ unknown => exact absurd ⟨profile, member, same⟩ unknown
  | refused unknown => exact absurd ⟨profile, member, same⟩ unknown

/-- Only the oldest disconnected profile can go, for an unknown device and
when all profiles are in use. -/
theorem Outcome.gone (member : profile ∈ registry.profiles.toList)
    (gone : ∀ known ∈ next.profiles.toList,
      ¬ (known.id = profile.id ∧ known.identity = profile.identity)) :
    ¬ registry.Knows identity ∧ registry.profiles.toList.length = 8 ∧
      registry.Oldest profile ∧ result = .ok profile.id := by
  cases observed with
  | known before found after _ profiles kept =>
      rw [profiles] at member
      rw [kept] at gone
      rcases List.mem_append.mp member with earlier | later
      · exact absurd ⟨rfl, rfl⟩ (gone profile (List.mem_append_left _ earlier))
      · rcases List.mem_cons.mp later with rfl | last
        · exact absurd ⟨rfl, rfl⟩
            (gone (registry.seen profile) List.mem_append_cons_self)
        · exact absurd ⟨rfl, rfl⟩ (gone profile
            (List.mem_append_right _ (List.mem_cons_of_mem _ last)))
  | replaced before found after unknown full oldest profiles kept =>
      rw [profiles] at member
      rw [kept] at gone
      rcases List.mem_append.mp member with earlier | later
      · exact absurd ⟨rfl, rfl⟩ (gone profile (List.mem_append_left _ earlier))
      · rcases List.mem_cons.mp later with rfl | last
        · exact ⟨unknown, full, oldest, rfl⟩
        · exact absurd ⟨rfl, rfl⟩ (gone profile
            (List.mem_append_right _ (List.mem_cons_of_mem _ last)))
  | added _ _ _ kept =>
      rw [kept] at gone
      exact absurd ⟨rfl, rfl⟩ (gone profile (List.mem_append_left _ member))
  | refused _ _ _ kept =>
      rw [kept] at gone
      exact absurd ⟨rfl, rfl⟩ (gone profile member)

theorem Outcome.refuses :
    (∃ error, result = .error error) ↔ ¬ registry.Knows identity ∧
      registry.profiles.toList.length = 8 ∧
        ∀ profile ∈ registry.profiles.toList, profile.connected = true := by
  cases observed with
  | known before found after same profiles kept =>
      refine iff_of_false nofun fun both => both.1 ⟨found, ?_, same⟩
      rw [profiles]
      exact List.mem_append_cons_self
  | replaced before found after unknown full oldest =>
      refine iff_of_false nofun fun all => ?_
      have connected := all.2.2 found oldest.member
      rw [oldest.disconnected] at connected
      cases connected
  | added id unknown room =>
      refine iff_of_false nofun fun all => ?_
      rw [all.2.1] at room
      exact absurd room (by decide)
  | refused unknown full connected =>
      exact iff_of_true ⟨_, rfl⟩ ⟨unknown, full, connected⟩

end

end

inductive RegistryCall
  | observe (identity : InputIdentity)
  | disconnect (id : InputProfileId)
  | restore (profile : InputProfile)

/-- A call that fails leaves the profiles as they are. -/
def perform (registry : InputProfileRegistry) :
    RegistryCall → InputProfileRegistry
  | .observe identity => (registry.observe identity).1
  | .disconnect id => registry.disconnect id
  | .restore profile =>
      match registry.restore profile with
      | .ok next => next
      | .error _ => registry

def after (calls : List RegistryCall) : InputProfileRegistry :=
  calls.foldl perform .new

theorem Distinct.perform (distinct : registry.Distinct)
    (call : RegistryCall) : (registry.perform call).Distinct := by
  cases call with
  | observe identity => exact distinct.observe identity
  | disconnect id => exact distinct.disconnect id
  | restore profile =>
      rw [InputProfileRegistry.perform]
      cases restored : registry.restore profile with
      | ok next => exact distinct.restore restored
      | error _ => exact distinct

theorem after_distinct (calls : List RegistryCall) :
    (after calls).Distinct := by
  unfold after
  suffices kept : ∀ registry : InputProfileRegistry, registry.Distinct →
      (calls.foldl InputProfileRegistry.perform registry).Distinct from
    kept .new distinct_new
  induction calls with
  | nil => exact fun registry distinct => distinct
  | cons call later ih =>
      exact fun registry distinct => ih _ (distinct.perform call)

end InputProfileRegistry

/-- After any calls numbers and identities are distinct.  A known device gets
its own profile with its settings.  A new one takes a free number, or that of
the disconnected profile seen longest ago when all are in use, and is refused
exactly when all of those are connected. -/
theorem inputProfileRegistry_exact
    (calls : List InputProfileRegistry.RegistryCall)
    (identity : InputIdentity) :
    let registry := InputProfileRegistry.after calls
    let next := (registry.observe identity).1
    let result := (registry.observe identity).2
    (registry.profiles.toList.map InputProfile.id).Nodup ∧
    (∀ profile ∈ registry.profiles.toList,
      1 ≤ profile.id.get.toNat ∧ profile.id.get.toNat ≤ 8) ∧
    (registry.profiles.toList.map InputProfile.identity).Nodup ∧
    (∀ id, result = .ok id → ∃ known ∈ next.profiles.toList,
      known.id = id ∧ known.identity = identity ∧ known.connected = true) ∧
    (∀ profile ∈ registry.profiles.toList, profile.identity = identity →
      result = .ok profile.id ∧ ∃ known ∈ next.profiles.toList,
        known.id = profile.id ∧ known.identity = identity ∧
          known.settings = profile.settings) ∧
    (∀ profile ∈ registry.profiles.toList,
      (∀ known ∈ next.profiles.toList,
        ¬ (known.id = profile.id ∧ known.identity = profile.identity)) →
      ¬ registry.Knows identity ∧ registry.profiles.toList.length = 8 ∧
        registry.Oldest profile ∧ result = .ok profile.id) ∧
    ((∃ error, result = .error error) ↔ ¬ registry.Knows identity ∧
      registry.profiles.toList.length = 8 ∧
        ∀ profile ∈ registry.profiles.toList, profile.connected = true) := by
  intro registry next result
  have distinct : registry.Distinct := InputProfileRegistry.after_distinct calls
  have observed : registry.Outcome identity next result :=
    registry.observe_observed identity
  refine ⟨distinct.ids, fun profile _ => profile.id.inRange,
    distinct.identities, ?_, ?_, ?_, ?_⟩
  · intro id isOk
    exact observed.holds isOk
  · intro profile member same
    exact observed.keeps distinct member same
  · intro profile member gone
    exact observed.gone member gone
  · exact observed.refuses

end HidShift
