import HidShift.Input.Transform

namespace HidShift

open Lib

namespace InputProfileRegistry

structure Distinct (registry : InputProfileRegistry) : Prop where
  ids : (registry.profiles.toList.map InputProfile.id).Nodup
  identities : (registry.profiles.toList.map InputProfile.identity).Nodup

/-- The registries that its own operations produce; a write through `get_mut`
leaves the number and the identity alone. -/
inductive Reached : InputProfileRegistry → Prop
  | new : Reached .new
  | restore {registry next : InputProfileRegistry} {profile : InputProfile}
      (earlier : Reached registry)
      (restored : registry.restore profile = .ok next) : Reached next
  | observe {registry : InputProfileRegistry} (earlier : Reached registry)
      (identity : InputIdentity) : Reached (registry.observe identity).1
  | disconnect {registry : InputProfileRegistry} (earlier : Reached registry)
      (id : InputProfileId) : Reached (registry.disconnect id)
  | update {registry : InputProfileRegistry} (earlier : Reached registry)
      (id : InputProfileId) {change : InputProfile → InputProfile}
      (sameId : ∀ profile, (change profile).id = profile.id)
      (sameIdentity : ∀ profile, (change profile).identity = profile.identity) :
      Reached (registry.update id change)

theorem map_modify_same {α β : Type} (field : α → β) {change : α → α}
    (same : ∀ item, field (change item) = field item) (items : List α)
    (index : Nat) : (items.modify index change).map field =
      items.map field := by
  refine List.ext_getElem? fun position => ?_
  rw [List.getElem?_map, List.getElem?_map, List.getElem?_modify]
  cases items[position]? with
  | none => rfl
  | some item =>
      rw [Option.map_eq_map, Option.map_some, Option.map_some, Option.map_some]
      split
      · rw [same]
      · rfl

theorem map_modify_set {α β : Type} (field : α → β) (value : β)
    {change : α → α} (becomes : ∀ item, field (change item) = value)
    (items : List α) (index : Nat) :
    (items.modify index change).map field =
      (items.map field).set index value := by
  refine List.ext_getElem? fun position => ?_
  rw [List.getElem?_map, List.getElem?_modify, List.getElem?_set,
    List.getElem?_map, List.length_map]
  by_cases here : index = position
  · subst here
    rw [if_pos rfl]
    cases found : items[index]? with
    | none =>
        rw [if_neg (Nat.not_lt.mpr (List.getElem?_eq_none_iff.mp found))]
        rfl
    | some item =>
        have inside : index < items.length :=
          (List.getElem?_eq_some_iff.mp found).1
        rw [if_pos inside, Option.map_eq_map, Option.map_some, if_pos rfl,
          Option.map_some, becomes]
  · rw [if_neg here]
    cases items[position]? with
    | none => rfl
    | some item =>
        rw [Option.map_eq_map, Option.map_some, if_neg here]

variable {registry : InputProfileRegistry}

theorem Distinct.updateFirst (distinct : registry.Distinct)
    (matched : InputProfile → Bool) {change : InputProfile → InputProfile}
    (sameId : ∀ profile, (change profile).id = profile.id)
    (sameIdentity : ∀ profile, (change profile).identity = profile.identity) :
    (registry.updateFirst matched change).Distinct := by
  unfold InputProfileRegistry.updateFirst
  split
  · exact distinct
  · refine ⟨?_, ?_⟩
    · rw [map_modify_same InputProfile.id sameId]
      exact distinct.ids
    · rw [map_modify_same InputProfile.identity sameIdentity]
      exact distinct.identities

theorem Distinct.push {profiles : BoundedVec InputProfile inputProfileCapacity}
    {nextSequence : UInt64} (distinct : registry.Distinct)
    (pushed : profiles.toList = registry.profiles.toList ++ [profile])
    (newId : ∀ item ∈ registry.profiles.toList, item.id ≠ profile.id)
    (newIdentity : ∀ item ∈ registry.profiles.toList,
      item.identity ≠ profile.identity) :
    Distinct ⟨profiles, nextSequence⟩ := by
  refine ⟨?_, ?_⟩
  · rw [pushed, List.map_append, List.map_singleton, ← List.concat_eq_append]
    apply distinct.ids.concat
    intro member
    obtain ⟨item, inside, same⟩ := List.mem_map.mp member
    exact newId item inside same
  · rw [pushed, List.map_append, List.map_singleton, ← List.concat_eq_append]
    apply distinct.identities.concat
    intro member
    obtain ⟨item, inside, same⟩ := List.mem_map.mp member
    exact newIdentity item inside same

theorem Distinct.restore (distinct : registry.Distinct)
    (restored : registry.restore profile = .ok next) : next.Distinct := by
  unfold InputProfileRegistry.restore at restored
  split at restored
  · cases restored
  · rename_i newId
    split at restored
    · cases restored
    · rename_i newIdentity
      split at restored
      · cases restored
      · rename_i profiles pushed
        cases restored
        apply distinct.push (BoundedVec.push?_eq_some.mp pushed)
        · intro item member same
          apply newId
          exact List.any_eq_true.mpr ⟨item, member, decide_eq_true same⟩
        · intro item member same
          apply newIdentity
          exact List.any_eq_true.mpr ⟨item, member, decide_eq_true same⟩

theorem freeId_free {profiles : List InputProfile} {id : InputProfileId}
    (free : freeId profiles = some id) : ∀ item ∈ profiles, item.id ≠ id := by
  obtain ⟨candidate, -, found⟩ := List.exists_of_findSome?_eq_some free
  obtain ⟨-, unused⟩ := Option.filter_eq_some_iff.mp found
  intro item member
  exact of_decide_eq_true (List.all_eq_true.mp unused item member)

theorem Distinct.observe (distinct : registry.Distinct)
    (identity : InputIdentity) : (registry.observe identity).1.Distinct := by
  have advanced : (registry.takeSequence.1).Distinct :=
    ⟨distinct.ids, distinct.identities⟩
  unfold InputProfileRegistry.observe
  dsimp only
  split
  · exact advanced.updateFirst _ (fun _ => rfl) fun _ => rfl
  · rename_i unknown
    have newIdentity : ∀ item ∈ registry.profiles.toList,
        item.identity ≠ identity := by
      intro item member same
      have := List.find?_eq_none.mp unknown item member
      exact this (decide_eq_true same)
    split
    · split
      · exact advanced
      · unfold InputProfileRegistry.updateFirst
        split
        · exact advanced
        · refine ⟨?_, ?_⟩
          · refine Eq.mpr (congrArg List.Nodup
              (map_modify_same InputProfile.id ?_ _ _)) distinct.ids
            intro profile
            rfl
          · refine Eq.mpr (congrArg List.Nodup
              (map_modify_set InputProfile.identity identity (fun _ => rfl)
                _ _)) ?_
            apply List.Nodup.set distinct.identities
            intro member
            obtain ⟨item, inside, same⟩ := List.mem_map.mp member
            exact newIdentity item inside same
    · split
      · exact advanced
      · rename_i id free
        split
        · exact advanced
        · rename_i profiles pushed
          exact distinct.push (BoundedVec.push?_eq_some.mp pushed)
            (freeId_free free) newIdentity

theorem Distinct.disconnect (distinct : registry.Distinct)
    (id : InputProfileId) : (registry.disconnect id).Distinct := by
  have advanced : (registry.takeSequence.1).Distinct :=
    ⟨distinct.ids, distinct.identities⟩
  exact advanced.updateFirst _ (fun _ => rfl) fun _ => rfl

theorem distinct_new : Distinct .new := ⟨List.nodup_nil, List.nodup_nil⟩

theorem Reached.distinct (reached : Reached registry) : registry.Distinct := by
  induction reached with
  | new => exact distinct_new
  | restore _ restored ih => exact ih.restore restored
  | observe _ identity ih => exact ih.observe identity
  | disconnect _ id ih => exact ih.disconnect id
  | update _ id sameId sameIdentity ih =>
      exact ih.updateFirst _ sameId sameIdentity

end InputProfileRegistry

end HidShift
