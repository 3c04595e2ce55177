import HidShift.Runtime.Pairing

namespace HidShift

open Lib InPlace

variable {build : Build}

section

variable {marks : List ProfileMark} {old new : ProfileMark} {index : Nat}

theorem mem_set_mark (ids : (marks.map (·.id)).Nodup)
    (here : marks[index]? = some old) (mark : ProfileMark) :
    mark ∈ marks.set index new ↔
      mark = new ∨ mark ∈ marks ∧ mark.id ≠ old.id := by
  induction marks generalizing index with
  | nil => cases here
  | cons head tail ih =>
      obtain ⟨fresh, rest⟩ := List.nodup_cons.mp ids
      cases index with
      | zero =>
          obtain rfl : head = old := Option.some.inj here
          rw [List.set_cons_zero, List.mem_cons, List.mem_cons]
          refine or_congr Iff.rfl ⟨fun inside => ⟨.inr inside, ?_⟩, ?_⟩
          · exact fun same => fresh (List.mem_map.mpr ⟨mark, inside, same⟩)
          · rintro ⟨rfl | inside, different⟩
            · exact absurd rfl different
            · exact inside
      | succ index =>
          have inside : old ∈ tail := List.mem_of_getElem? here
          have apart : head.id ≠ old.id := fun same =>
            fresh (List.mem_map.mpr ⟨old, inside, same.symm⟩)
          rw [List.set_cons_succ, List.mem_cons, ih rest here, List.mem_cons]
          constructor
          · rintro (rfl | same | ⟨member, different⟩)
            · exact .inr ⟨.inl rfl, apart⟩
            · exact .inl same
            · exact .inr ⟨.inr member, different⟩
          · rintro (same | ⟨rfl | member, different⟩)
            · exact .inr (.inl same)
            · exact .inl rfl
            · exact .inr (.inr ⟨member, different⟩)

theorem modify_mark (here : marks[index]? = some old)
    (change : ProfileMark → ProfileMark) :
    marks.modify index change = marks.set index (change old) := by
  refine List.ext_getElem? fun position => ?_
  rw [List.getElem?_modify, List.getElem?_set]
  by_cases same : index = position
  · subst same
    have inside : index < marks.length :=
      (List.getElem?_eq_some_iff.mp here).1
    rw [here, if_pos rfl, if_pos inside]
    exact congrArg some (if_pos rfl)
  · rw [if_neg same]
    cases marks[position]? with
    | none => rfl
    | some other => exact congrArg some (if_neg same)

theorem mem_disconnectMark (ids : (marks.map (·.id)).Nodup)
    (id : InputProfileId) (mark : ProfileMark) :
    mark ∈ disconnectMark marks id ↔
      (mark ∈ marks ∧ mark.id ≠ id) ∨
        ∃ before ∈ marks, before.id = id ∧ mark = before.disconnected := by
  unfold disconnectMark
  cases found : marks.findIdx? (·.id = id) with
  | none =>
      have absent : ∀ other ∈ marks, other.id ≠ id := fun other member =>
        of_decide_eq_false (List.findIdx?_eq_none_iff.mp found other member)
      constructor
      · exact fun member => .inl ⟨member, absent mark member⟩
      · rintro (⟨member, -⟩ | ⟨before, member, same, -⟩)
        · exact member
        · exact absurd same (absent before member)
  | some index =>
      obtain ⟨inside, matched, -⟩ := List.findIdx?_eq_some_iff_getElem.mp found
      have here : marks[index]? = some marks[index] :=
        List.getElem?_eq_getElem inside
      have named : marks[index].id = id := of_decide_eq_true matched
      dsimp only
      rw [modify_mark here, mem_set_mark ids here, named]
      constructor
      · rintro (rfl | other)
        · exact .inr ⟨_, List.getElem_mem inside, named, rfl⟩
        · exact .inl other
      · rintro (other | ⟨before, member, same, rfl⟩)
        · exact .inr other
        · refine .inl (congrArg ProfileMark.disconnected ?_)
          exact List.inj_on_of_nodup_map ids member
            (List.getElem_mem inside) (same.trans named.symm)

/-- The mark of the observed identity is connected; a mark that it replaces
was not, and all others stay. -/
structure Observed (marks : List ProfileMark) (identity : InputIdentity)
    (id : InputProfileId) (next : List ProfileMark) : Prop where
  mem_iff : ∀ mark, mark ∈ next ↔
    mark = ⟨id, identity, true⟩ ∨ mark ∈ marks ∧ mark.id ≠ id
  replaced : ∀ mark ∈ marks, mark.id = id →
    mark.identity = identity ∨ mark.connected = false
  known : ∀ mark ∈ marks, mark.identity = identity → mark.id = id

end

namespace InputProfileRegistry

variable {registry next : InputProfileRegistry} {identity : InputIdentity}
  {id : InputProfileId}

theorem mem_marks :
    mark ∈ registry.marks ↔
      ∃ profile ∈ registry.profiles.toList, profile.mark = mark :=
  List.mem_map

theorem Distinct.markIds (distinct : registry.Distinct) :
    (registry.marks.map (·.id)).Nodup := by
  unfold marks
  rw [List.map_map]
  exact distinct.ids

theorem observed_updateFirst (distinct : registry.Distinct)
    (found : registry.profiles.toList.find? matched = some old)
    (becomes : (change old).mark = ⟨old.id, identity, true⟩)
    (replaced : old.identity = identity ∨ old.connected = false)
    (known : ∀ profile ∈ registry.profiles.toList,
      profile.identity = identity → profile.id = old.id) :
    Observed registry.marks identity old.id
      (registry.updateFirst matched change).marks := by
  rw [List.find?_eq_bind_findIdx?_getElem?] at found
  obtain ⟨index, position, here⟩ := Option.bind_eq_some_iff.mp found
  have member : old ∈ registry.profiles.toList := List.mem_of_getElem? here
  have hereMark : registry.marks[index]? = some old.mark := by
    unfold marks
    rw [List.getElem?_map, here]
    rfl
  have updated : (registry.updateFirst matched change).marks =
      registry.marks.set index ⟨old.id, identity, true⟩ := by
    refine List.ext_getElem? fun other => ?_
    have changed : (registry.updateFirst matched change).profiles.toList =
        registry.profiles.toList.modify index change := by
      unfold updateFirst
      rw [position]
    unfold marks at hereMark ⊢
    rw [changed, List.getElem?_map, List.getElem?_modify, List.getElem?_set]
    by_cases same : index = other
    · subst same
      have inside := (List.getElem?_eq_some_iff.mp hereMark).1
      rw [here, if_pos rfl, if_pos inside]
      simp [becomes]
    · rw [if_neg same, List.getElem?_map]
      cases registry.profiles.toList[other]? with
      | none => rfl
      | some profile => simp [same]
  rw [updated]
  refine ⟨fun mark => mem_set_mark distinct.markIds hereMark mark, ?_, ?_⟩
  · intro mark inside same
    have equal : mark = old.mark := List.inj_on_of_nodup_map distinct.markIds
      inside (List.mem_of_getElem? hereMark) same
    rw [equal]
    exact replaced
  · intro mark inside same
    obtain ⟨profile, listed, rfl⟩ := mem_marks.mp inside
    exact known profile listed same

theorem observe_marks (distinct : registry.Distinct)
    (observed : registry.observe identity = (next, .ok id)) :
    Observed registry.marks identity id next.marks := by
  have advanced : (registry.takeSequence.1).Distinct :=
    ⟨distinct.ids, distinct.identities⟩
  unfold observe at observed
  dsimp only at observed
  split at observed
  · rename_i known found
    cases observed
    have named : known.identity = identity :=
      of_decide_eq_true (List.find?_some (p := fun profile : InputProfile =>
        decide (profile.identity = identity)) found)
    refine observed_updateFirst advanced found ?_ (.inl named) ?_
    · exact congrArg (ProfileMark.mk known.id · true) named
    · intro profile inside same
      exact congrArg InputProfile.id (List.inj_on_of_nodup_map
        advanced.identities inside (List.mem_of_find?_eq_some found)
          (same.trans named.symm))
  · rename_i unknown
    have unseen : ∀ profile ∈ registry.profiles.toList,
        profile.identity ≠ identity := by
      intro profile inside same
      exact List.find?_eq_none.mp unknown profile inside (decide_eq_true same)
    split at observed
    · split at observed
      · cases observed
      · rename_i old idle
        cases observed
        obtain ⟨listed, unconnected⟩ := List.mem_filter.mp
          (List.mem_of_find?_eq_some idle)
        have found : registry.takeSequence.1.profiles.toList.find? (· = old) =
            some old := by
          cases searched : registry.takeSequence.1.profiles.toList.find?
              (· = old) with
          | none =>
              exact absurd (decide_eq_true rfl)
                (List.find?_eq_none.mp searched old listed)
          | some other =>
              have same := List.find?_some searched
              rw [of_decide_eq_true same]
        refine observed_updateFirst advanced found rfl
          (.inr (Bool.not_eq_true' _ ▸ unconnected)) ?_
        exact fun profile inside same => absurd same (unseen profile inside)
    · split at observed
      · cases observed
      · rename_i fresh free
        split at observed
        · cases observed
        · rename_i profiles pushed
          cases observed
          have appended : (InputProfileRegistry.mk profiles
              registry.takeSequence.1.nextSequence).marks =
                registry.marks ++ [⟨id, identity, true⟩] := by
            unfold marks
            rw [BoundedVec.push?_eq_some.mp pushed, List.map_append]
            rfl
          have absent : ∀ mark ∈ registry.marks, mark.id ≠ id := by
            intro mark inside
            obtain ⟨profile, listed, rfl⟩ := mem_marks.mp inside
            exact freeId_free free profile listed
          rw [appended]
          refine ⟨fun mark => ?_, ?_, ?_⟩
          · rw [List.mem_append, List.mem_singleton, or_comm]
            exact or_congr Iff.rfl
              ⟨fun inside => ⟨inside, absent mark inside⟩, And.left⟩
          · exact fun mark inside same => absurd same (absent mark inside)
          · intro mark inside same
            obtain ⟨profile, listed, rfl⟩ := mem_marks.mp inside
            exact absurd same (unseen profile listed)

end InputProfileRegistry

abbrev Reports := DeviceId → Option InputIdentity

def RuntimeBooks.Carries (books : RuntimeBooks) (id : InputProfileId) : Prop :=
  ∃ interface ∈ books.interfaces.reduceOption,
    interface.inputProfileId = some id

structure Tracks (books : RuntimeBooks) (reports : Reports) : Prop where
  ids : (books.profiles.map (·.id)).Nodup
  identities : (books.profiles.map (·.identity)).Nodup
  connected : ∀ mark ∈ books.profiles,
    mark.connected = true ↔ books.Carries mark.id
  named : ∀ interface ∈ books.interfaces.reduceOption, ∀ id,
    interface.inputProfileId = some id → ∃ mark ∈ books.profiles,
      mark.id = id ∧ reports interface.deviceId = some mark.identity

section

variable {books next : RuntimeBooks} {reports : Reports}

theorem carried_iff {id : InputProfileId} :
    books.carried id = true ↔ books.Carries id := by
  unfold RuntimeBooks.carried
  rw [List.any_eq_true]
  exact exists_congr fun interface => and_congr Iff.rfl decide_eq_true_iff

theorem Tracks.same (tracks : Tracks books reports)
    (profiles : next.profiles = books.profiles)
    (interfaces : next.interfaces = books.interfaces) :
    Tracks next reports := by
  have carries : ∀ id, next.Carries id ↔ books.Carries id := by
    intro id
    unfold RuntimeBooks.Carries
    rw [interfaces]
  refine ⟨?_, ?_, ?_, ?_⟩
  · rw [profiles]
    exact tracks.ids
  · rw [profiles]
    exact tracks.identities
  · rw [profiles]
    exact fun mark listed => (tracks.connected mark listed).trans
      (carries mark.id).symm
  · rw [profiles, interfaces]
    exact tracks.named

theorem Tracks.interfaces (tracks : Tracks books reports)
    (profiles : next.profiles = books.profiles)
    (fewer : ∀ interface ∈ next.interfaces.reduceOption, ∀ id,
      interface.inputProfileId = some id →
        interface ∈ books.interfaces.reduceOption)
    (carried : ∀ id, books.Carries id → next.Carries id) :
    Tracks next reports := by
  refine ⟨?_, ?_, ?_, ?_⟩
  · rw [profiles]
    exact tracks.ids
  · rw [profiles]
    exact tracks.identities
  · rw [profiles]
    intro mark listed
    rw [tracks.connected mark listed]
    refine ⟨carried mark.id, ?_⟩
    rintro ⟨interface, registered, carries⟩
    exact ⟨interface, fewer interface registered _ carries, carries⟩
  · rw [profiles]
    intro interface registered id carries
    exact tracks.named interface (fewer interface registered id carries) id
      carries

theorem mem_set_slot {α : Type} {slots : List (Option α)} {index : Nat}
    {new : Option α} {entry : α}
    (member : entry ∈ (slots.set index new).reduceOption) :
    new = some entry ∨ entry ∈ slots.reduceOption := by
  rw [List.reduceOption_mem_iff] at member
  rcases List.mem_or_eq_of_mem_set member with inside | written
  · exact .inr (List.reduceOption_mem_iff.mpr inside)
  · exact .inl written.symm

theorem mem_set_other {α : Type} {slots : List (Option α)} {index : Nat}
    {old new : Option α} (here : slots[index]? = some old) {entry : α}
    (member : entry ∈ slots.reduceOption) (other : old ≠ some entry) :
    entry ∈ (slots.set index new).reduceOption := by
  rw [List.reduceOption_mem_iff] at member ⊢
  obtain ⟨position, inside, atPosition⟩ := List.mem_iff_getElem.mp member
  refine List.mem_iff_getElem?.mpr ⟨position, ?_⟩
  have apart : index ≠ position := by
    rintro rfl
    rw [List.getElem?_eq_getElem inside, atPosition] at here
    exact other (Option.some.inj here).symm
  rw [List.getElem?_set_ne apart, List.getElem?_eq_getElem inside, atPosition]

variable {interfaceId : InterfaceId}

theorem slot_of_found
    (found : SlotTable.slotIndex? UsbHidInterfaceRuntimeState.interfaceId
      books.interfaces interfaceId = some index) :
    ∃ old, books.interfaces[index]? = some (some old) ∧
      SlotTable.lookup UsbHidInterfaceRuntimeState.interfaceId
        books.interfaces interfaceId = some old := by
  obtain ⟨before, old, after, split, rfl, -, -⟩ :=
    SlotTable.split_of_slotIndex? found
  have here : books.interfaces[before.length]? = some (some old) := by
    rw [split]
    simp
  refine ⟨old, here, ?_⟩
  unfold SlotTable.lookup
  rw [found, Option.bind_some, here]
  rfl

def RuntimeBooks.others (books : RuntimeBooks) (interfaceId : InterfaceId) :
    List UsbHidInterfaceRuntimeState :=
  (books.drop interfaceId).interfaces.reduceOption

theorem others_of_found
    (found : SlotTable.slotIndex? UsbHidInterfaceRuntimeState.interfaceId
      books.interfaces interfaceId = some index) :
    books.others interfaceId = (books.interfaces.set index none).reduceOption := by
  unfold RuntimeBooks.others RuntimeBooks.drop
  rw [found]

/-- The profile of the interface, if it has one, is carried by another one as
well. -/
def CarriedElsewhere (books : RuntimeBooks) (interfaceId : InterfaceId) :
    Prop :=
  ∀ interface, SlotTable.lookup UsbHidInterfaceRuntimeState.interfaceId
      books.interfaces interfaceId = some interface → ∀ id,
    interface.inputProfileId = some id →
      ∃ other ∈ books.others interfaceId, other.inputProfileId = some id

theorem Tracks.plugIn (tracks : Tracks books reports)
    {interface : UsbHidInterfaceRuntimeState}
    (blank : interface.inputProfileId = none)
    (elsewhere : CarriedElsewhere books interface.interfaceId) :
    Tracks (books.plugIn interface) reports := by
  unfold RuntimeBooks.plugIn RuntimeBooks.slotFor
  cases found : SlotTable.slotIndex? UsbHidInterfaceRuntimeState.interfaceId
      books.interfaces interface.interfaceId with
  | some index =>
      obtain ⟨old, here, looked⟩ := slot_of_found found
      refine tracks.interfaces rfl ?_ ?_
      · intro registered member id carries
        rcases mem_set_slot member with written | inside
        · obtain rfl := Option.some.inj written
          rw [blank] at carries
          cases carries
        · exact inside
      · rintro id ⟨carrier, member, carries⟩
        by_cases same : carrier = old
        · subst same
          obtain ⟨other, listed, carries⟩ := elsewhere carrier looked id carries
          rw [others_of_found found] at listed
          have again := @mem_set_other _ (books.interfaces.set index none)
            index none (some interface) (by
              rw [List.getElem?_set_self (List.getElem?_eq_some_iff.mp here).1])
            other listed (Option.some_ne_none other).symm
          rw [List.set_set] at again
          exact ⟨other, again, carries⟩
        · exact ⟨carrier, mem_set_other here member fun equal =>
            same (Option.some.inj equal).symm, carries⟩
  | none =>
      rw [Option.none_or]
      cases free : SlotTable.freeIndex? books.interfaces with
      | none => exact tracks
      | some index =>
          obtain ⟨before, after, split, rfl⟩ :=
            SlotTable.split_of_freeIndex? free
          have here : books.interfaces[before.length]? = some none := by
            rw [split]
            simp
          refine tracks.interfaces rfl ?_ ?_
          · intro registered member id carries
            rcases mem_set_slot member with written | inside
            · obtain rfl := Option.some.inj written
              rw [blank] at carries
              cases carries
            · exact inside
          · rintro id ⟨carrier, member, carries⟩
            exact ⟨carrier, mem_set_other here member
              (Option.some_ne_none _).symm, carries⟩

/-- While the device keeps another interface, the profile of the interface is
carried elsewhere. -/
def UnregisterKeeps (books : RuntimeBooks) (interfaceId : InterfaceId) :
    Prop :=
  (∃ removed, SlotTable.lookup UsbHidInterfaceRuntimeState.interfaceId
      books.interfaces interfaceId = some removed ∧
    ∃ left ∈ books.others interfaceId, left.deviceId = removed.deviceId) →
  CarriedElsewhere books interfaceId

theorem Tracks.disconnect {reduced : RuntimeBooks} {id : InputProfileId}
    (tracks : Tracks books reports)
    (profiles : reduced.profiles = books.profiles)
    (fewer : ∀ interface ∈ reduced.interfaces.reduceOption,
      interface ∈ books.interfaces.reduceOption)
    (carried : ∀ other, other ≠ id → books.Carries other →
      reduced.Carries other) :
    Tracks (reduced.disconnect id) reports := by
  unfold RuntimeBooks.disconnect
  by_cases still : reduced.carried id = true
  · rw [if_pos still]
    refine tracks.interfaces profiles
      (fun interface member _ _ => fewer interface member) ?_
    intro other carries
    by_cases same : other = id
    · exact same ▸ carried_iff.mp still
    · exact carried other same carries
  · rw [if_neg still]
    have gone : ¬ reduced.Carries id := fun carries =>
      still (carried_iff.mpr carries)
    have marks := mem_disconnectMark tracks.ids id
    have same : ∀ {α : Type} (field : ProfileMark → α),
        (∀ mark : ProfileMark, field mark.disconnected = field mark) →
        (disconnectMark books.profiles id).map field =
          books.profiles.map field := by
      intro α field kept
      unfold disconnectMark
      cases books.profiles.findIdx? (·.id = id) with
      | none => rfl
      | some index =>
          exact InputProfileRegistry.map_modify_same field kept _ _
    rw [profiles]
    refine ⟨?_, ?_, ?_, ?_⟩
    · dsimp only
      rw [same ProfileMark.id fun _ => rfl]
      exact tracks.ids
    · dsimp only
      rw [same ProfileMark.identity fun _ => rfl]
      exact tracks.identities
    · intro mark listed
      rcases (marks mark).mp listed with
        ⟨member, other⟩ | ⟨before, member, named, rfl⟩
      · rw [tracks.connected mark member]
        refine ⟨carried mark.id other, ?_⟩
        rintro ⟨interface, registered, carries⟩
        exact ⟨interface, fewer interface registered, carries⟩
      · refine ⟨fun impossible => absurd impossible Bool.false_ne_true, ?_⟩
        intro carries
        exact absurd (named ▸ carries) gone
    · intro interface registered other carries
      obtain ⟨mark, member, named, reported⟩ :=
        tracks.named interface (fewer interface registered) other carries
      refine ⟨mark, (marks mark).mpr (.inl ⟨member, ?_⟩), named, reported⟩
      rintro rfl
      exact gone ⟨interface, registered, named ▸ carries⟩

theorem Tracks.unplug (tracks : Tracks books reports)
    (keeps : UnregisterKeeps books interfaceId) :
    Tracks (books.unplug build interfaceId) reports := by
  unfold RuntimeBooks.unplug
  cases found : SlotTable.slotIndex? UsbHidInterfaceRuntimeState.interfaceId
      books.interfaces interfaceId with
  | none =>
      have missing : SlotTable.lookup UsbHidInterfaceRuntimeState.interfaceId
          books.interfaces interfaceId = none := by
        unfold SlotTable.lookup
        rw [found]
        rfl
      have unchanged : books.drop interfaceId = books := by
        unfold RuntimeBooks.drop
        rw [found]
      rw [missing]
      exact unchanged.symm ▸ tracks
  | some index =>
      obtain ⟨removed, here, looked⟩ := slot_of_found found
      rw [looked]
      have dropped : books.drop interfaceId = { books with
          interfaces := books.interfaces.set index none } := by
        unfold RuntimeBooks.drop
        rw [found]
      have fewer : ∀ interface ∈ (books.drop interfaceId).interfaces.reduceOption,
          interface ∈ books.interfaces.reduceOption := by
        intro interface member
        rw [dropped] at member
        rcases mem_set_slot member with impossible | inside
        · cases impossible
        · exact inside
      have left : ∀ interface ∈ books.interfaces.reduceOption,
          interface ≠ removed →
            interface ∈ (books.drop interfaceId).interfaces.reduceOption := by
        intro interface member other
        rw [dropped]
        exact mem_set_other here member fun equal =>
          other (Option.some.inj equal).symm
      have carried : ∀ id, (∀ own, removed.inputProfileId = some own →
          id ≠ own) → books.Carries id →
            (books.drop interfaceId).Carries id := by
        rintro id other ⟨interface, member, carries⟩
        refine ⟨interface, left interface member ?_, carries⟩
        rintro rfl
        exact other id carries rfl
      dsimp only
      unfold RuntimeBooks.finishRemoval
      have forgotten : ∀ reduced : RuntimeBooks, Tracks reduced reports →
          Tracks (reduced.forgetSource build removed.deviceId) reports := by
        intro reduced tracked
        cases build <;> exact tracked.same rfl rfl
      have profiles : (books.drop interfaceId).profiles = books.profiles := by
        rw [dropped]
      split
      · cases own : removed.inputProfileId with
        | none =>
            apply forgotten
            refine tracks.interfaces profiles
              (fun interface member _ _ => fewer interface member)
              fun id carries => carried id ?_ carries
            intro other is
            rw [own] at is
            cases is
        | some id =>
            apply forgotten
            refine tracks.disconnect profiles fewer
              fun other different carries => carried other ?_ carries
            intro same is
            rw [own] at is
            exact Option.some.inj is ▸ different
      · rename_i occupied
        refine tracks.interfaces profiles
          (fun interface member _ _ => fewer interface member)
          fun id carries => ?_
        by_cases own : removed.inputProfileId = some id
        · obtain ⟨still, member, ofDevice⟩ : ∃ still ∈
              (books.drop interfaceId).interfaces.reduceOption,
              still.deviceId = removed.deviceId := by
            rw [List.isEmpty_iff] at occupied
            obtain ⟨still, member⟩ := List.exists_mem_of_ne_nil _ occupied
            obtain ⟨inside, ofDevice⟩ := List.mem_filter.mp member
            exact ⟨still, inside, of_decide_eq_true ofDevice⟩
          exact keeps ⟨removed, looked, still, member, ofDevice⟩ removed
            looked id own
        · exact carried id (fun other is same =>
            own (same ▸ is)) carries

/-- An interface of the device is there to carry the profile, or one of
another device carries it already, and the interfaces of the device are not
the only ones that carry another profile. -/
structure DescribeKeeps (books : RuntimeBooks) (deviceId : DeviceId)
    (identity : InputIdentity) : Prop where
  carrier : (∃ interface ∈ books.interfaces.reduceOption,
      interface.deviceId = deviceId) ∨
    ∃ mark ∈ books.profiles, mark.identity = identity ∧ books.Carries mark.id
  elsewhere : ∀ interface ∈ books.interfaces.reduceOption,
    interface.deviceId = deviceId → ∀ mark ∈ books.profiles,
      interface.inputProfileId = some mark.id → mark.identity ≠ identity →
        ∃ other ∈ books.interfaces.reduceOption,
          other.deviceId ≠ deviceId ∧ other.inputProfileId = some mark.id

theorem Tracks.carried_stays (tracks : Tracks books reports)
    {id : InputProfileId} {marks : List ProfileMark}
    (observed : Observed books.profiles identity id marks)
    (listed : mark ∈ books.profiles) (carries : books.Carries mark.id) :
    mark ∈ marks := by
  refine (observed.mem_iff mark).mpr ?_
  have connected := (tracks.connected mark listed).mpr carries
  by_cases same : mark.id = id
  · rcases observed.replaced mark listed same with identical | unconnected
    · left
      rw [← same, ← identical, ← connected]
    · rw [connected] at unconnected
      cases unconnected
  · exact .inr ⟨listed, same⟩

section

variable {deviceId : DeviceId} {identity : InputIdentity} {name : FixedName}
  {flags : UInt8} {id : InputProfileId}

variable {interface : UsbHidInterfaceRuntimeState}

theorem mem_described {slots : List (Option UsbHidInterfaceRuntimeState)} :
    interface ∈ (slots.map
      (·.map (.describe deviceId identity name flags id))).reduceOption ↔
      ∃ before ∈ slots.reduceOption,
        before.describe deviceId identity name flags id = interface := by
  rw [List.reduceOption_map]
  exact List.mem_map

theorem describe_of (own : interface.deviceId = deviceId) :
    (interface.describe deviceId identity name flags id).inputProfileId =
        some id ∧
      (interface.describe deviceId identity name flags id).deviceId =
        deviceId := by
  unfold UsbHidInterfaceRuntimeState.describe
  rw [if_pos own]
  exact ⟨rfl, own⟩

theorem describe_other (other : interface.deviceId ≠ deviceId) :
    interface.describe deviceId identity name flags id = interface := by
  unfold UsbHidInterfaceRuntimeState.describe
  rw [if_neg other]

theorem Tracks.describe (tracks : Tracks books reports)
    {marks : List ProfileMark}
    (observed : Observed books.profiles identity id marks)
    (ids : (marks.map (·.id)).Nodup)
    (identities : (marks.map (·.identity)).Nodup)
    (keeps : DescribeKeeps books deviceId identity) :
    Tracks { books with
      profiles := marks
      interfaces := books.interfaces.map
        (·.map (.describe deviceId identity name flags id)) }
      (Function.update reports deviceId (some identity)) := by
  refine ⟨ids, identities, ?_, ?_⟩
  · intro mark listed
    rcases (observed.mem_iff mark).mp listed with rfl | ⟨before, other⟩
    · refine iff_of_true rfl ?_
      rcases keeps.carrier with ⟨interface, registered, own⟩ |
        ⟨known, listed, identical, interface, registered, carries⟩
      · exact ⟨_, mem_described.mpr ⟨interface, registered, rfl⟩,
          (describe_of own).1⟩
      · refine ⟨_, mem_described.mpr ⟨interface, registered, rfl⟩, ?_⟩
        by_cases own : interface.deviceId = deviceId
        · exact (describe_of own).1
        · rw [describe_other own, carries,
            observed.known known listed identical]
    · rw [tracks.connected mark before]
      constructor
      · rintro ⟨interface, registered, carries⟩
        by_cases own : interface.deviceId = deviceId
        · have different : mark.identity ≠ identity := fun same =>
            other (observed.known mark before same)
          obtain ⟨carrier, listed, apart, carries⟩ := keeps.elsewhere interface
            registered own mark before carries different
          refine ⟨carrier, mem_described.mpr ⟨carrier, listed, ?_⟩, carries⟩
          exact describe_other apart
        · exact ⟨interface, mem_described.mpr ⟨interface, registered,
            describe_other own⟩, carries⟩
      · rintro ⟨interface, registered, carries⟩
        obtain ⟨carrier, listed, rfl⟩ := mem_described.mp registered
        by_cases own : carrier.deviceId = deviceId
        · rw [(describe_of own).1] at carries
          exact absurd (Option.some.inj carries).symm other
        · rw [describe_other own] at carries
          exact ⟨carrier, listed, carries⟩
  · intro interface registered carried carries
    obtain ⟨carrier, listed, rfl⟩ := mem_described.mp registered
    by_cases own : carrier.deviceId = deviceId
    · obtain ⟨label, device⟩ := @describe_of deviceId identity name flags id
        carrier own
      rw [label] at carries
      rw [device, Function.update_self]
      exact ⟨_, (observed.mem_iff _).mpr (.inl rfl),
        Option.some.inj carries, rfl⟩
    · rw [describe_other own] at carries ⊢
      rw [Function.update_of_ne own]
      obtain ⟨mark, before, named, reported⟩ :=
        tracks.named carrier listed carried carries
      exact ⟨mark, tracks.carried_stays observed before
        ⟨carrier, listed, named ▸ carries⟩, named, reported⟩

end

/-- The restored registry is one made by its own operations, and connects the
profiles that are connected now and no others. -/
structure RestoreKeeps (books : RuntimeBooks)
    (registry : InputProfileRegistry) : Prop where
  reached : registry.Reached
  connected : ∀ mark : ProfileMark, mark.connected = true →
    (mark ∈ registry.marks ↔ mark ∈ books.profiles)

theorem Tracks.restore (tracks : Tracks books reports)
    (keeps : RestoreKeeps books storage.inputProfiles) :
    Tracks (books.restore storage) reports := by
  have distinct := keeps.reached.distinct
  refine ⟨distinct.markIds, ?_, ?_, ?_⟩
  · show (List.map _ (List.map _ _)).Nodup
    rw [List.map_map]
    exact distinct.identities
  · intro mark listed
    constructor
    · intro connected
      exact (tracks.connected mark
        ((keeps.connected mark connected).mp listed)).mp connected
    · rintro ⟨interface, registered, carries⟩
      obtain ⟨known, member, named, -⟩ :=
        tracks.named interface registered mark.id carries
      have connected := (tracks.connected known member).mpr
        ⟨interface, registered, named.symm ▸ carries⟩
      have same : known = mark := List.inj_on_of_nodup_map distinct.markIds
        ((keeps.connected known connected).mpr member) listed named
      exact same ▸ connected
  · intro interface registered id carries
    obtain ⟨known, member, named, reported⟩ :=
      tracks.named interface registered id carries
    have connected := (tracks.connected known member).mpr
      ⟨interface, registered, named.symm ▸ carries⟩
    exact ⟨known, (keeps.connected known connected).mpr member, named, reported⟩

end

namespace RuntimeInput

/-- The identities reported so far, after an input that is not refused. -/
def reportsAfter (reports : Reports) : RuntimeInput build → Reports
  | .usbDeviceMetadataUpdated deviceId identity _ _ =>
      Function.update reports deviceId (some identity)
  | _ => reports

/-- The input leaves no profile connected without a carrier. -/
def KeepsTrack (books : RuntimeBooks) : RuntimeInput build → Prop
  | .usbHidInterfaceConnected interfaceId _ _ =>
      CarriedElsewhere books interfaceId
  | .usbHidInterfaceDisconnected interfaceId =>
      UnregisterKeeps books interfaceId
  | .usbDeviceMetadataUpdated deviceId identity _ _ =>
      DescribeKeeps books deviceId identity
  | .restoreStorage storage => RestoreKeeps books storage.inputProfiles
  | _ => True

end RuntimeInput

section

variable {runtime next : BridgeRuntime} {call : RuntimeCall build}
  {commands : List RuntimeCommand} {reports : Reports}

theorem described_observed (handled : call.Handled runtime)
    (describes : call.input =
      .usbDeviceMetadataUpdated deviceId identity name flags) :
    ∃ registry id,
      runtime.inputProfiles.observe identity = (registry, .ok id) := by
  have leads : Leads (· = startOf call.capacity runtime)
      (handleInputInPlace build call.actions call.events
        (.usbDeviceMetadataUpdated deviceId identity name flags))
      (fun _ => ∃ registry id,
        runtime.inputProfiles.observe identity = (registry, .ok id)) := by
    have core : Leads (· = startOf call.capacity runtime)
        (usbDeviceMetadataUpdated build deviceId identity name flags)
        (fun _ => ∃ registry id,
          runtime.inputProfiles.observe identity = (registry, .ok id)) := by
      refine leads_clearStart fun _ => leads_readStart ?_
      rcases runtime.inputProfiles.observe identity with ⟨registry, observed⟩
      have noted : Leads (· = startOf call.capacity runtime)
          (modifyRuntime fun runtime =>
            { runtime with inputProfiles := registry }) (fun _ => True) :=
        fun _ _ _ _ _ => trivial
      refine leads_bind noted fun _ => leads_lift_bind fun id ok => ?_
      subst ok
      exact fun _ _ _ _ _ => ⟨registry, id, rfl⟩
    exact leads_bind core fun _ _ _ _ observed _ => observed
  unfold RuntimeCall.Handled at handled
  cases done : runtime.handleInput build call.actions call.events call.capacity
      call.input with
  | error error =>
      rw [done] at handled
      cases handled
  | ok work =>
      have finished := handleInput_ok done
      rw [describes] at finished
      exact leads (startOf call.capacity runtime) () work rfl finished

theorem tracks_new (hosts usbInterfaces : Nat) (storageGeneration : UInt32) :
    Tracks (BridgeRuntime.new hosts usbInterfaces storageGeneration).books
      fun _ => none := by
  have empty : (BridgeRuntime.new hosts usbInterfaces
      storageGeneration).books.interfaces.reduceOption = [] := by
    show (List.replicate usbInterfaces none).reduceOption = []
    induction usbInterfaces with
    | zero => rfl
    | succ count ih => exact ih
  refine ⟨List.nodup_nil, List.nodup_nil, fun _ impossible =>
    absurd impossible List.not_mem_nil, ?_⟩
  rw [empty]
  exact fun _ impossible => absurd impossible List.not_mem_nil

theorem Tracks.registryDistinct (tracks : Tracks runtime.books reports) :
    runtime.inputProfiles.Distinct := by
  have ids : (List.map _ (List.map InputProfile.mark _)).Nodup := tracks.ids
  have identities : (List.map _ (List.map InputProfile.mark _)).Nodup :=
    tracks.identities
  rw [List.map_map] at ids identities
  exact ⟨ids, identities⟩

theorem tracks_performed (agrees : runtime.books.Agrees)
    (tracks : Tracks runtime.books reports)
    (performed : RuntimePerforms build runtime call commands next)
    (keeps : call.Handled runtime → call.input.KeepsTrack runtime.books) :
    (call.Handled runtime →
      Tracks next.books (call.input.reportsAfter reports)) ∧
    (¬ call.Handled runtime → Tracks next.books reports) := by
  rcases performed_books agrees performed with
    ⟨refused, rfl, -⟩ | ⟨handled, turned, -⟩
  · exact ⟨fun handled => absurd handled refused, fun _ => tracks⟩
  · refine ⟨fun _ => ?_, fun refused => absurd handled refused⟩
    have keeps := keeps handled
    rw [turned]
    cases about : call.input.aboutDevices with
    | false =>
        obtain ⟨interfaces, profiles⟩ :=
          (@onlyPairing_input build runtime call.input about).devices
        have reported : call.input.reportsAfter reports = reports := by
          cases is : call.input with
          | usbDeviceMetadataUpdated =>
              rw [is] at about
              cases about
          | _ => rfl
        rw [reported]
        exact tracks.same profiles interfaces
    | true =>
        cases is : call.input with
        | usbHidInterfaceConnected interfaceId deviceId ledOutput =>
            rw [is] at keeps
            exact tracks.plugIn rfl keeps
        | usbHidInterfaceDisconnected interfaceId =>
            rw [is] at keeps
            exact tracks.unplug keeps
        | usbDeviceMetadataUpdated deviceId identity name flags =>
            rw [is] at keeps
            obtain ⟨registry, id, observed⟩ := described_observed handled is
            have distinct := tracks.registryDistinct
            have marks := InputProfileRegistry.observe_marks distinct observed
            have after := distinct.observe identity
            rw [observed] at after
            have identities : (registry.marks.map (·.identity)).Nodup := by
              show (List.map _ (List.map _ _)).Nodup
              rw [List.map_map]
              exact after.identities
            show Tracks (runtime.describedBooks deviceId identity name flags) _
            unfold BridgeRuntime.describedBooks
            rw [observed]
            exact tracks.describe marks after.markIds identities keeps
        | deviceProfileResult result =>
            obtain ⟨interfaces, profiles⟩ := (@onlyMirrors_profileResult
              runtime.books result).devices
            exact tracks.same profiles interfaces
        | mirrorCandidateRegistered candidate stableId profileHash synthetic
            sourceDevice =>
            cases profileHash with
            | none => exact tracks.same rfl rfl
            | some profileHash =>
                obtain ⟨interfaces, profiles⟩ :=
                  (@onlyMirrors_registerCandidate runtime.books
                    ⟨candidate, stableId, profileHash, synthetic,
                      sourceDevice⟩).devices
                exact tracks.same profiles interfaces
        | mirrorSourceDisconnected deviceId => exact tracks.same rfl rfl
        | restoreStorage storage =>
            rw [is] at keeps
            exact tracks.restore keeps
        | _ =>
            rw [is] at about
            cases about

end

instance (call : RuntimeCall build) (runtime : BridgeRuntime) :
    Decidable (call.Handled runtime) :=
  inferInstanceAs (Decidable (_ = true))

abbrev RuntimeTaken (build : Build) :=
  Transition BridgeRuntime (RuntimeCall build) (List RuntimeCommand)

def reportsWith (reports : Reports) (taken : RuntimeTaken build) : Reports :=
  if taken.event.Handled taken.before then
    taken.event.input.reportsAfter reports
  else
    reports

def reportsOf (history : List (RuntimeTaken build)) : Reports :=
  history.foldl reportsWith fun _ => none

/-- A profile is connected exactly when a registered interface carries it, and
what an interface carries is the profile of what its device last reported. -/
structure ProfilesTracked (runtime : BridgeRuntime) (reports : Reports) :
    Prop where
  connected : ∀ profile ∈ runtime.inputProfiles.profiles.toList,
    profile.connected = true ↔
      ∃ interface ∈ runtime.usbInterfaces.reduceOption,
        interface.inputProfileId = some profile.id
  named : ∀ interface ∈ runtime.usbInterfaces.reduceOption, ∀ id,
    interface.inputProfileId = some id →
      ∃ profile ∈ runtime.inputProfiles.profiles.toList, profile.id = id ∧
        reports interface.deviceId = some profile.identity

theorem Tracks.profiles (tracks : Tracks runtime.books reports) :
    ProfilesTracked runtime reports := by
  refine ⟨fun profile listed => tracks.connected profile.mark
    (InputProfileRegistry.mem_marks.mpr ⟨profile, listed, rfl⟩), ?_⟩
  intro interface registered id carries
  obtain ⟨mark, listed, named, reported⟩ :=
    tracks.named interface registered id carries
  obtain ⟨profile, member, rfl⟩ := InputProfileRegistry.mem_marks.mp listed
  exact ⟨profile, member, named, reported⟩

section

variable {hosts usbInterfaces : Nat} {storageGeneration : UInt32}
  {finish : BridgeRuntime} {history : List (RuntimeTaken build)}

theorem tracks_run (run : RuntimeRun build
    (.new hosts usbInterfaces storageGeneration) history finish)
    (keeps : ∀ taken ∈ history, taken.event.Handled taken.before →
      taken.event.input.KeepsTrack taken.before.books) :
    Tracks finish.books (reportsOf history) := by
  refine (run.invariant_foldl reportsWith (fun _ => none)
    (fun runtime reports => runtime.books.Agrees ∧
      Tracks runtime.books reports) ⟨rfl, tracks_new _ _ _⟩ ?_).2
  rintro taken member reports performed ⟨agrees, tracks⟩
  obtain ⟨turned, same⟩ :=
    tracks_performed agrees tracks performed (keeps taken member)
  refine ⟨performed_agrees agrees performed, ?_⟩
  unfold reportsWith
  split
  · exact turned ‹_›
  · exact same ‹_›

/-- While no input leaves a connected profile without a carrier, the flags
follow the interfaces, and no observation evicts or reassigns the profile of
a device that is plugged in. -/
theorem profiles_tracked (run : RuntimeRun build
    (.new hosts usbInterfaces storageGeneration) history finish)
    (keeps : ∀ taken ∈ history, taken.event.Handled taken.before →
      taken.event.input.KeepsTrack taken.before.books) :
    ProfilesTracked finish (reportsOf history) ∧
    ∀ taken ∈ history, ∀ deviceId identity name flags,
      taken.event.input =
        .usbDeviceMetadataUpdated deviceId identity name flags →
      ∀ profile ∈ taken.before.inputProfiles.profiles.toList,
        (∃ interface ∈ taken.before.usbInterfaces.reduceOption,
          interface.inputProfileId = some profile.id) →
        ∃ kept ∈ taken.after.inputProfiles.profiles.toList,
          kept.id = profile.id ∧ kept.identity = profile.identity ∧
            kept.connected = true := by
  refine ⟨(tracks_run run keeps).profiles, ?_⟩
  intro taken member deviceId identity name flags describes profile listed
    carried
  obtain ⟨earlier, later, rfl⟩ := List.append_of_mem member
  obtain ⟨reached, performed, -⟩ := run.split_at
  have tracks := tracks_run reached fun before inside =>
    keeps before (List.mem_append_left _ inside)
  have marked : profile.mark ∈ taken.before.books.profiles :=
    InputProfileRegistry.mem_marks.mpr ⟨profile, listed, rfl⟩
  have connected : profile.connected = true :=
    (tracks.connected profile.mark marked).mpr carried
  rcases performed_books (run_agrees reached) performed with
    ⟨-, same, -⟩ | ⟨handled, turned, -⟩
  · rw [same]
    exact ⟨profile, listed, rfl, rfl, connected⟩
  · obtain ⟨registry, id, observed⟩ := described_observed handled describes
    have distinct : taken.before.inputProfiles.Distinct :=
      tracks.registryDistinct
    have marks := InputProfileRegistry.observe_marks distinct observed
    have stays := tracks.carried_stays marks marked carried
    have after : taken.after.inputProfiles.marks = registry.marks := by
      have books : taken.after.books.profiles =
          (taken.before.describedBooks deviceId identity name
            flags).profiles := by
        rw [turned, describes]
        rfl
      unfold BridgeRuntime.describedBooks at books
      rw [observed] at books
      exact books
    rw [← after] at stays
    obtain ⟨kept, inside, same⟩ := InputProfileRegistry.mem_marks.mp stays
    exact ⟨kept, inside, congrArg ProfileMark.id same,
      congrArg ProfileMark.identity same,
      (congrArg ProfileMark.connected same).trans connected⟩

end

namespace RuntimeScenario

def keyboard : InputIdentity := ⟨1, 1, 1⟩

/-- A device registers one interface, describes itself, registers a second
one and loses both. -/
def unplugged : List (RuntimeInput .single) :=
  [.usbHidInterfaceConnected ⟨1⟩ ⟨1⟩ none,
    .usbDeviceMetadataUpdated ⟨1⟩ keyboard .empty 0,
    .usbHidInterfaceConnected ⟨2⟩ ⟨1⟩ none,
    .usbHidInterfaceDisconnected ⟨1⟩,
    .usbHidInterfaceDisconnected ⟨2⟩]

def described : List (RuntimeInput .single) :=
  [.usbHidInterfaceConnected ⟨1⟩ ⟨1⟩ none,
    .usbDeviceMetadataUpdated ⟨1⟩ keyboard .empty 0]

def happened (inputs : List (RuntimeInput build)) :
    List (RuntimeTaken build) :=
  Run.trace BridgeRuntime.perform
    (.new storedHostsMax runtimeUsbInterfacesMax 0) (inputs.map call)

theorem happened_run (inputs : List (RuntimeInput build)) :
    RuntimeRun build (.new storedHostsMax runtimeUsbInterfacesMax 0)
      (happened inputs) (final inputs) :=
  Run.of_trace _ _ _

end RuntimeScenario

open RuntimeScenario in
theorem described_profile_tracked :
    ProfilesTracked (final described) (reportsOf (happened described)) := by
  have unregistered : SlotTable.lookup UsbHidInterfaceRuntimeState.interfaceId
      (final ([] : List (RuntimeInput .single))).books.interfaces ⟨1⟩ =
        none := by
    decide +kernel
  have registered : (final (described.take 1)).books.interfaces.reduceOption.any
      (·.deviceId = ⟨1⟩) = true := by
    decide +kernel
  have empty : (final (described.take 1)).books.profiles = [] := by
    decide +kernel
  refine (profiles_tracked (happened_run described) ?_).1
  intro taken member _
  rcases List.mem_cons.mp member with rfl | member
  · intro interface looked
    cases unregistered.symm.trans looked
  · obtain rfl := List.mem_singleton.mp member
    refine ⟨.inl ?_, ?_⟩
    · obtain ⟨interface, listed, own⟩ := List.any_eq_true.mp registered
      exact ⟨interface, listed, of_decide_eq_true own⟩
    · intro interface _ _ mark listed
      have none : mark ∈ ([] : List ProfileMark) := empty ▸ listed
      cases none

open RuntimeScenario in
/-- The profile of the device stays connected when its first interface leaves
before the second one, which carries no profile. -/
theorem unplugged_profile_connected :
    RuntimeRun .single (.new storedHostsMax runtimeUsbInterfacesMax 0)
      (happened unplugged) (final unplugged) ∧
    ¬ ProfilesTracked (final unplugged) (reportsOf (happened unplugged)) := by
  refine ⟨happened_run unplugged, fun tracked => ?_⟩
  have connected : (final unplugged).inputProfiles.profiles.toList.any
      (·.connected) = true := by
    decide +kernel
  have removed : (final unplugged).usbInterfaces.reduceOption = [] := by
    decide +kernel
  obtain ⟨profile, listed, flag⟩ := List.any_eq_true.mp connected
  obtain ⟨interface, registered, -⟩ :=
    (tracked.connected profile listed).mp flag
  rw [removed] at registered
  cases registered

end HidShift
