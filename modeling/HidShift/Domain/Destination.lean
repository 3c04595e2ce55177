import HidShift.Lib.BoundedVec
import HidShift.Lib.Run
import HidShift.Lib.SwapRemove

/-! The registered destinations and their sessions
(`domain/destination.rs`). -/

namespace HidShift

open Lib SwapRemove

def destinationCapacity : Nat := 8

def sessionCapacity : Nat := 4

structure DestinationId where
  val : UInt8
  inRange : 1 ≤ val ∧ val.toNat ≤ destinationCapacity
deriving DecidableEq

def DestinationId.new (value : UInt8) : Option DestinationId :=
  if inRange : 1 ≤ value ∧ value.toNat ≤ destinationCapacity then
    some ⟨value, inRange⟩
  else
    none

structure SessionId where
  get : UInt8

theorem SessionId.eq_of_toNat {left right : SessionId}
    (same : left.get.toNat = right.get.toNat) : left = right :=
  congrArg SessionId.mk (UInt8.toNat_inj.mp same)

structure Destination where
  id : DestinationId
  peerIdentity : Vector UInt8 16
  autoConnect : Bool
  connectedSession : Option SessionId
  lastSeen : UInt64

def Destination.connected (destination : Destination) : Bool :=
  destination.connectedSession.isSome

inductive DestinationError
  | registryFull
  | sessionCapacity
  | unknownDestination
  | autoConnectDisabled
  | alreadyConnected

structure DestinationRegistry where
  destinations : BoundedVec Destination destinationCapacity
  sessions : Vector (Option DestinationId) sessionCapacity

abbrev RegistryAnswer (α : Type) :=
  DestinationRegistry × Except DestinationError α

namespace DestinationRegistry

def new : DestinationRegistry := ⟨.empty, .replicate sessionCapacity none⟩

/-- The first destination that passes the test, with its place. -/
def find (registry : DestinationRegistry) (test : Destination → Bool) :
    Option (Nat × Destination) := do
  let index ← registry.destinations.toList.findIdx? test
  let destination ← registry.destinations.toList[index]?
  return (index, destination)

def write (registry : DestinationRegistry) (index : Nat)
    (destination : Destination) : DestinationRegistry :=
  { registry with
    destinations := registry.destinations.set index destination }

def freeId (registry : DestinationRegistry) : Option DestinationId :=
  ((List.range' 1 destinationCapacity).map UInt8.ofNat).findSome? fun value => do
    let id ← DestinationId.new value
    if registry.destinations.toList.any (·.id = id) then none else some id

def register (registry : DestinationRegistry) (peerIdentity : Vector UInt8 16)
    (now : UInt64) : RegistryAnswer DestinationId :=
  match registry.find (·.peerIdentity = peerIdentity) with
  | some (index, existing) =>
      (registry.write index { existing with lastSeen := now }, .ok existing.id)
  | none =>
      match registry.freeId with
      | none => (registry, .error .registryFull)
      | some id =>
          match registry.destinations.push?
            ⟨id, peerIdentity, true, none, now⟩ with
          | none => (registry, .error .registryFull)
          | some destinations =>
              ({ registry with destinations := destinations }, .ok id)

def disconnect (registry : DestinationRegistry) (id : DestinationId) :
    DestinationRegistry × Bool :=
  match registry.find (·.id = id) with
  | none => (registry, false)
  | some (index, destination) =>
      match destination.connectedSession with
      | none => (registry, false)
      | some session =>
          ({ registry.write index { destination with connectedSession := none }
              with sessions :=
                registry.sessions.setIfInBounds session.get.toNat none }, true)

def setAutoConnect (registry : DestinationRegistry) (id : DestinationId)
    (enabled : Bool) : RegistryAnswer Unit :=
  match registry.find (·.id = id) with
  | none => (registry, .error .unknownDestination)
  | some (index, destination) =>
      let registry := registry.write index
        { destination with autoConnect := enabled }
      (if enabled then registry else (registry.disconnect id).1, .ok ())

def connect (registry : DestinationRegistry) (id : DestinationId)
    (now : UInt64) : RegistryAnswer SessionId :=
  match registry.find (·.id = id) with
  | none => (registry, .error .unknownDestination)
  | some (_, destination) =>
      if !destination.autoConnect then
        (registry, .error .autoConnectDisabled)
      else if destination.connected then
        (registry, .error .alreadyConnected)
      else
        match registry.sessions.toList.findIdx? Option.isNone with
        | none => (registry, .error .sessionCapacity)
        | some index =>
            let session := ⟨UInt8.ofNat index⟩
            let registry := { registry with
              sessions := registry.sessions.setIfInBounds index (some id) }
            match registry.find (·.id = id) with
            | none => (registry, .error .unknownDestination)
            | some (place, destination) =>
                (registry.write place { destination with
                  connectedSession := some session, lastSeen := now },
                  .ok session)

/-- `swap_remove`: the last destination takes the place. -/
def removeAt (destinations : List Destination) (index : Nat) :
    List Destination :=
  destinations.take index ++ lastFirst (destinations.drop (index + 1))

theorem length_removeAt (destinations : List Destination) (index : Nat) :
    (removeAt destinations index).length ≤ destinations.length := by
  rw [removeAt, List.length_append, length_lastFirst, List.length_take,
    List.length_drop]
  omega

def forget (registry : DestinationRegistry) (id : DestinationId) :
    RegistryAnswer Destination :=
  match registry.find (·.id = id) with
  | none => (registry, .error .unknownDestination)
  | some (index, destination) =>
      let registry := (registry.disconnect id).1
      ({ registry with destinations :=
          ⟨removeAt registry.destinations.toList index,
            Nat.le_trans (length_removeAt _ _)
              registry.destinations.length_le⟩ },
        .ok (registry.destinations.toList.getD index destination))

end DestinationRegistry

inductive DestinationCall
  | register (peerIdentity : Vector UInt8 16) (now : UInt64)
  | setAutoConnect (id : DestinationId) (enabled : Bool)
  | connect (id : DestinationId) (now : UInt64)
  | disconnect (id : DestinationId)
  | forget (id : DestinationId)

def RegistryAnswer.succeeded {α : Type} (answer : RegistryAnswer α) :
    DestinationRegistry × Bool :=
  (answer.1, answer.2.isOk)

def DestinationRegistry.perform (registry : DestinationRegistry) :
    DestinationCall → DestinationRegistry × Bool
  | .register peerIdentity now =>
      (registry.register peerIdentity now).succeeded
  | .setAutoConnect id enabled =>
      (registry.setAutoConnect id enabled).succeeded
  | .connect id now => (registry.connect id now).succeeded
  | .disconnect id => registry.disconnect id
  | .forget id => (registry.forget id).succeeded

/-- Sessions and destinations point at each other, and nothing is there
twice. -/
structure DestinationRegistry.Consistent (registry : DestinationRegistry) :
    Prop where
  linked : ∀ (session : SessionId) (id : DestinationId),
    registry.sessions.toList[session.get.toNat]? = some (some id) ↔
      ∃ destination ∈ registry.destinations.toList,
        destination.id = id ∧ destination.connectedSession = some session
  ids : (registry.destinations.toList.map Destination.id).Nodup
  peers : (registry.destinations.toList.map Destination.peerIdentity).Nodup
  manual : ∀ destination ∈ registry.destinations.toList,
    destination.autoConnect = false → destination.connectedSession = none

namespace DestinationRegistry

variable {registry : DestinationRegistry} {before after : List Destination}
  {destination : Destination} {id : DestinationId} {index : Nat}
  {test : Destination → Bool}

theorem find_of_split
    (split : registry.destinations.toList = before ++ destination :: after)
    (earlier : ∀ other ∈ before, test other = false)
    (passes : test destination = true) :
    registry.find test = some (before.length, destination) := by
  have none : before.findIdx? test = none :=
    List.findIdx?_eq_none_iff.mpr earlier
  rw [find, split, List.findIdx?_append, none, List.findIdx?_cons, passes]
  simp

theorem split_of_find (found : registry.find test = some (index, destination)) :
    ∃ before after,
      registry.destinations.toList = before ++ destination :: after ∧
        before.length = index ∧ (∀ other ∈ before, test other = false) ∧
          test destination = true := by
  obtain ⟨place, first, rest⟩ := Option.bind_eq_some_iff.mp found
  obtain ⟨entry, listed, same⟩ := Option.bind_eq_some_iff.mp rest
  cases same
  obtain ⟨inside, passes, earlier⟩ :=
    List.findIdx?_eq_some_iff_getElem.mp first
  obtain ⟨_, rfl⟩ := List.getElem?_eq_some_iff.mp listed
  refine ⟨registry.destinations.toList.take index,
    registry.destinations.toList.drop (index + 1), ?_,
    List.length_take_of_le (Nat.le_of_lt inside), ?_, passes⟩
  · rw [List.getElem_cons_drop, List.take_append_drop]
  · intro other member
    obtain ⟨place, small, rfl⟩ := List.mem_iff_getElem.mp member
    rw [List.length_take] at small
    rw [List.getElem_take]
    exact eq_false_of_ne_true (earlier place (by omega))

theorem find_none (missing : registry.find test = none) :
    ∀ other ∈ registry.destinations.toList, test other = false := by
  cases first : registry.destinations.toList.findIdx? test with
  | none => exact List.findIdx?_eq_none_iff.mp first
  | some place =>
      obtain ⟨inside, -⟩ := List.findIdx?_eq_some_iff_getElem.mp first
      rw [find, first] at missing
      simp [inside] at missing

theorem toList_write (written : Destination)
    (split : registry.destinations.toList = before ++ destination :: after) :
    (registry.write before.length written).destinations.toList =
      before ++ written :: after := by
  rw [write, BoundedVec.toList_set, split,
    List.set_append_right _ _ (Nat.le_refl _), Nat.sub_self, List.set_cons_zero]

namespace Consistent

variable (consistent : registry.Consistent)
  (split : registry.destinations.toList = before ++ destination :: after)

include consistent

theorem eq_of_id (member : destination ∈ registry.destinations.toList)
    (listed : other ∈ registry.destinations.toList)
    (same : other.id = destination.id) : other = destination :=
  List.inj_on_of_nodup_map consistent.ids listed member same

theorem session_iff (member : destination ∈ registry.destinations.toList)
    (session : SessionId) :
    registry.sessions.toList[session.get.toNat]? = some (some destination.id) ↔
      destination.connectedSession = some session := by
  rw [consistent.linked]
  constructor
  · rintro ⟨other, listed, same, connected⟩
    rwa [← consistent.eq_of_id member listed same]
  · intro connected
    exact ⟨destination, member, rfl, connected⟩

include split

theorem mem_rest (other : Destination) :
    other ∈ before ++ after ↔
      other ∈ registry.destinations.toList ∧ other.id ≠ destination.id := by
  have distinct := consistent.ids
  rw [split, List.map_append, List.map_cons, List.nodup_middle,
    List.nodup_cons, ← List.map_append] at distinct
  rw [split, List.mem_append, List.mem_append, List.mem_cons]
  constructor
  · intro member
    refine ⟨by tauto, fun same => distinct.1 ?_⟩
    rw [← same]
    exact List.mem_map_of_mem (List.mem_append.mpr member)
  · rintro ⟨member | rfl | member, differs⟩
    · exact .inl member
    · exact absurd rfl differs
    · exact .inr member

theorem replace {sessions : Vector (Option DestinationId) sessionCapacity}
    (sameId : written.id = destination.id)
    (samePeer : written.peerIdentity = destination.peerIdentity)
    (own : ∀ session : SessionId,
      sessions.toList[session.get.toNat]? = some (some destination.id) ↔
        written.connectedSession = some session)
    (others : ∀ (session : SessionId) (id : DestinationId),
      id ≠ destination.id →
        (sessions.toList[session.get.toNat]? = some (some id) ↔
          registry.sessions.toList[session.get.toNat]? = some (some id)))
    (manual : written.autoConnect = false → written.connectedSession = none) :
    ({ registry.write before.length written with sessions := sessions } :
      DestinationRegistry).Consistent := by
  have member : ∀ other, other ∈ before ++ written :: after ↔
      other = written ∨
        (other ∈ registry.destinations.toList ∧ other.id ≠ destination.id) := by
    intro other
    rw [← consistent.mem_rest split, List.mem_append, List.mem_cons,
      List.mem_append]
    tauto
  have lists := toList_write written split
  refine ⟨fun session id => ?_, ?_, ?_, fun other listed => ?_⟩
  · change _ ↔ ∃ other ∈ (registry.write _ _).destinations.toList, _
    rw [lists]
    simp only [member]
    by_cases here : id = destination.id
    · rw [here, own]
      constructor
      · intro connected
        exact ⟨written, .inl rfl, sameId, connected⟩
      · rintro ⟨other, rfl | ⟨-, differs⟩, same, connected⟩
        · exact connected
        · exact absurd same differs
    · rw [others session id here, consistent.linked]
      constructor
      · rintro ⟨other, listed, rfl, connected⟩
        exact ⟨other, .inr ⟨listed, here⟩, rfl, connected⟩
      · rintro ⟨other, rfl | ⟨listed, -⟩, same, connected⟩
        · exact absurd (same.symm.trans sameId) here
        · exact ⟨other, listed, same, connected⟩
  · change ((registry.write _ _).destinations.toList.map _).Nodup
    have distinct := consistent.ids
    rw [split] at distinct
    rwa [lists, List.map_append, List.map_cons, sameId, ← List.map_cons,
      ← List.map_append]
  · change ((registry.write _ _).destinations.toList.map _).Nodup
    have distinct := consistent.peers
    rw [split] at distinct
    rwa [lists, List.map_append, List.map_cons, samePeer, ← List.map_cons,
      ← List.map_append]
  · change other ∈ (registry.write _ _).destinations.toList at listed
    rw [lists, member] at listed
    rcases listed with rfl | ⟨listed, -⟩
    · exact manual
    · exact consistent.manual other listed

theorem drop
    {destinations : BoundedVec Destination destinationCapacity}
    (moved : destinations.toList.Perm (before ++ after))
    (idle : destination.connectedSession = none) :
    ({ registry with destinations := destinations } :
      DestinationRegistry).Consistent := by
  have member := consistent.mem_rest split
  have part : (before ++ after).Sublist registry.destinations.toList := by
    rw [split]
    exact (List.sublist_cons_self ..).append_left before
  refine ⟨fun session id => ?_, ?_, ?_, fun other listed => ?_⟩
  · rw [consistent.linked]
    simp only [moved.mem_iff, member]
    constructor
    · rintro ⟨other, listed, same, connected⟩
      refine ⟨other, ⟨listed, fun here => ?_⟩, same, connected⟩
      rw [consistent.eq_of_id (by rw [split]; simp) listed here, idle]
        at connected
      cases connected
    · rintro ⟨other, ⟨listed, -⟩, found⟩
      exact ⟨other, listed, found⟩
  · rw [(moved.map _).nodup_iff]
    exact consistent.ids.sublist (part.map _)
  · rw [(moved.map _).nodup_iff]
    exact consistent.peers.sublist (part.map _)
  · exact consistent.manual other
      ((member other).mp (moved.mem_iff.mp listed)).1

end Consistent

/-- The sessions without the one that a destination holds. -/
def freed (sessions : Vector (Option DestinationId) sessionCapacity) :
    Option SessionId → Vector (Option DestinationId) sessionCapacity
  | none => sessions
  | some session => sessions.setIfInBounds session.get.toNat none

theorem getElem?_freed
    {sessions : Vector (Option DestinationId) sessionCapacity}
    {session : SessionId} :
    (freed sessions held).toList[session.get.toNat]? = some (some id) ↔
      held ≠ some session ∧
        sessions.toList[session.get.toNat]? = some (some id) := by
  cases held with
  | none => simp [freed]
  | some other =>
      rw [freed, Vector.toList_setIfInBounds, List.getElem?_set]
      by_cases here : other.get.toNat = session.get.toNat
      · have same := SessionId.eq_of_toNat here
        simp [same]
      · have apart : other ≠ session := fun same => here (same ▸ rfl)
        simp [here, apart]

/-- What `disconnect` leaves where it finds the destination. -/
def release (registry : DestinationRegistry) (index : Nat)
    (destination : Destination) : DestinationRegistry :=
  { registry.write index { destination with connectedSession := none } with
    sessions := freed registry.sessions destination.connectedSession }

theorem write_self
    (split : registry.destinations.toList = before ++ destination :: after) :
    registry.write before.length destination = registry := by
  have lists := toList_write destination split
  rw [← split] at lists
  cases registry
  exact congrArg (mk · _) (BoundedVec.ext lists)

theorem write_write (first second : Destination) :
    (registry.write index first).write index second =
      registry.write index second :=
  congrArg (mk · _) (BoundedVec.ext (List.set_set ..))

theorem disconnect_found
    (found : registry.find (·.id = id) = some (index, destination)) :
    (registry.disconnect id).1 = registry.release index destination := by
  obtain ⟨before, after, split, rfl, -⟩ := split_of_find found
  rw [disconnect, found]
  dsimp only
  cases connected : destination.connectedSession with
  | none =>
      have same : { destination with connectedSession := none } =
          destination := by
        rw [← connected]
      rw [release, connected, same, write_self split]
      rfl
  | some session =>
      rw [release, connected]
      rfl

theorem Consistent.release (consistent : registry.Consistent)
    (split : registry.destinations.toList = before ++ destination :: after)
    (sameId : written.id = destination.id)
    (samePeer : written.peerIdentity = destination.peerIdentity)
    (sameSession : written.connectedSession = destination.connectedSession) :
    ((registry.write before.length written).release before.length
      written).Consistent := by
  have member : destination ∈ registry.destinations.toList := by
    rw [split]
    simp
  rw [DestinationRegistry.release, write_write]
  refine consistent.replace split sameId samePeer (fun session => ?_)
    (fun session id differs => ?_) (fun _ => rfl)
  · rw [sameSession]
    refine getElem?_freed.trans ?_
    change _ ∧ registry.sessions.toList[session.get.toNat]? = _ ↔ _
    rw [consistent.session_iff member]
    simp
  · refine getElem?_freed.trans (and_iff_right_of_imp fun held same => ?_)
    rw [sameSession, ← consistent.session_iff member] at same
    exact differs (Option.some.inj (Option.some.inj (held.symm.trans same)))

/-- A call keeps the registry consistent and changes nothing if it fails. -/
def Settled (registry : DestinationRegistry)
    (answer : DestinationRegistry × Bool) : Prop :=
  answer.1.Consistent ∧ (answer.2 = false → answer.1 = registry)

theorem Consistent.refused (consistent : registry.Consistent) (done : Bool) :
    registry.Settled (registry, done) :=
  ⟨consistent, fun _ => rfl⟩

theorem Consistent.disconnect (consistent : registry.Consistent)
    (id : DestinationId) : (registry.disconnect id).1.Consistent := by
  cases found : registry.find (·.id = id) with
  | none =>
      rw [DestinationRegistry.disconnect, found]
      exact consistent
  | some entry =>
      obtain ⟨before, after, split, here, -⟩ := split_of_find found
      have left := consistent.release split rfl rfl rfl
      rwa [write_self split, here, ← disconnect_found found] at left

theorem disconnect_failed (failed : (registry.disconnect id).2 = false) :
    (registry.disconnect id).1 = registry := by
  rw [disconnect] at failed ⊢
  split at failed
  · rfl
  · split at failed
    · rfl
    · cases failed

theorem removeAt_split :
    removeAt (before ++ destination :: after) before.length =
      before ++ lastFirst after := by
  rw [removeAt, List.take_left, List.drop_append,
    List.drop_eq_nil_of_le (Nat.le_succ _), Nat.add_sub_cancel_left]
  rfl

section

variable (consistent : registry.Consistent)

include consistent

theorem Consistent.forget
    (id : DestinationId) : registry.Settled (registry.forget id).succeeded := by
  rw [DestinationRegistry.forget]
  cases found : registry.find (·.id = id) with
  | none => exact consistent.refused _
  | some entry =>
      obtain ⟨before, after, split, here, -⟩ := split_of_find found
      have lists : (registry.disconnect id).1.destinations.toList =
          before ++ { entry.2 with connectedSession := none } :: after := by
        rw [disconnect_found found, ← here]
        exact toList_write _ split
      refine ⟨(consistent.disconnect id).drop lists ?_ rfl,
        fun failed => by cases failed⟩
      change (removeAt (registry.disconnect id).1.destinations.toList _).Perm _
      rw [lists, ← here, removeAt_split]
      exact (lastFirst_perm after).append_left before

theorem Consistent.setAutoConnect (id : DestinationId) (enabled : Bool) :
    registry.Settled (registry.setAutoConnect id enabled).succeeded := by
  rw [DestinationRegistry.setAutoConnect]
  cases found : registry.find (·.id = id) with
  | none => exact consistent.refused _
  | some entry =>
      obtain ⟨before, after, split, here, earlier, passes⟩ :=
        split_of_find found
      have member : entry.2 ∈ registry.destinations.toList := by
        rw [split]
        simp
      refine ⟨?_, fun failed => by cases failed⟩
      rw [RegistryAnswer.succeeded]
      dsimp only
      rw [← here]
      cases enabled with
      | true =>
          refine consistent.replace split rfl rfl
            (consistent.session_iff member) (fun _ _ _ => Iff.rfl)
            (fun off => by cases off)
      | false =>
          have lists := toList_write { entry.2 with autoConnect := false } split
          change (DestinationRegistry.disconnect _ id).1.Consistent
          rw [disconnect_found (find_of_split lists earlier passes)]
          exact consistent.release split rfl rfl rfl

theorem Consistent.occupy
    (split : registry.destinations.toList = before ++ destination :: after)
    (automatic : destination.autoConnect = true)
    (idle : destination.connectedSession = none) {session : SessionId}
    (free : registry.sessions.toList[session.get.toNat]? = some none)
    (now : UInt64) :
    Consistent { registry.write before.length { destination with
        connectedSession := some session, lastSeen := now } with
      sessions := registry.sessions.setIfInBounds session.get.toNat
        (some destination.id) } := by
  have member : destination ∈ registry.destinations.toList := by
    rw [split]
    simp
  have inside := (List.getElem?_eq_some_iff.mp free).1
  refine consistent.replace split rfl rfl (fun other => ?_)
    (fun other id differs => ?_) (fun off => by cases automatic.symm.trans off)
  all_goals
    rw [Vector.toList_setIfInBounds, List.getElem?_set]
    by_cases here : session.get.toNat = other.get.toNat
  · rw [if_pos here, if_pos inside]
    have same := SessionId.eq_of_toNat here
    simp [same]
  · rw [if_neg here, consistent.session_iff member, idle]
    have apart : session ≠ other := fun same => here (same ▸ rfl)
    simp [apart]
  · rw [if_pos here, if_pos inside, ← here, free]
    simp [Ne.symm differs]
  · rw [if_neg here]

theorem Consistent.connect (id : DestinationId) (now : UInt64) :
    registry.Settled (registry.connect id now).succeeded := by
  rw [DestinationRegistry.connect]
  cases found : registry.find (·.id = id) with
  | none => exact consistent.refused _
  | some entry =>
      obtain ⟨before, after, split, here, -, passes⟩ := split_of_find found
      obtain rfl : entry.2.id = id := of_decide_eq_true passes
      dsimp only
      cases automatic : entry.2.autoConnect with
      | false => exact consistent.refused _
      | true =>
          obtain idle | ⟨session, busy⟩ :=
            Option.eq_none_or_eq_some entry.2.connectedSession
          · simp only [Destination.connected, idle]
            cases first : registry.sessions.toList.findIdx? Option.isNone with
            | none => exact consistent.refused _
            | some index =>
                obtain ⟨inside, isFree, -⟩ :=
                  List.findIdx?_eq_some_iff_getElem.mp first
                have free := List.getElem?_eq_getElem inside
                rw [Option.isNone_iff_eq_none.mp isFree] at free
                rw [Vector.length_toList] at inside
                have number : (UInt8.ofNat index).toNat = index :=
                  UInt8.toNat_ofNat_of_lt' (Nat.lt_trans inside (by decide))
                have again : find ⟨registry.destinations,
                    registry.sessions.setIfInBounds index (some entry.2.id)⟩
                      (·.id = entry.2.id) = some entry := found
                rw [← number] at free
                have kept := @occupy _ _ _ _ consistent split automatic idle
                  (SessionId.mk (UInt8.ofNat index)) free now
                dsimp only at kept
                rw [number, here, automatic] at kept
                simp only [again, automatic]
                exact ⟨kept, fun failed => by cases failed⟩
          · simp only [Destination.connected, busy]
            exact consistent.refused _

end

theorem new_consistent : new.Consistent where
  linked session id := by
    constructor
    · intro held
      obtain ⟨inside, same⟩ := List.getElem?_eq_some_iff.mp held
      cases (List.mem_replicate.mp (same ▸ List.getElem_mem inside)).2
    · rintro ⟨destination, listed, -⟩
      cases listed
  ids := .nil
  peers := .nil
  manual _ listed := by cases listed

theorem freeId_fresh (free : registry.freeId = some id) :
    id ∉ registry.destinations.toList.map Destination.id := by
  obtain ⟨value, -, tried⟩ := List.exists_of_findSome?_eq_some free
  obtain ⟨tested, -, rest⟩ := Option.bind_eq_some_iff.mp tried
  split at rest
  · cases rest
  · rename_i unused
    cases rest
    simpa using unused

theorem Consistent.register (consistent : registry.Consistent)
    (peerIdentity : Vector UInt8 16) (now : UInt64) :
    registry.Settled (registry.register peerIdentity now).succeeded := by
  rw [DestinationRegistry.register]
  cases found : registry.find (·.peerIdentity = peerIdentity) with
  | some entry =>
      obtain ⟨before, after, split, here, -⟩ := split_of_find found
      have member : entry.2 ∈ registry.destinations.toList := by
        rw [split]
        simp
      refine ⟨?_, fun failed => by cases failed⟩
      rw [RegistryAnswer.succeeded]
      dsimp only
      rw [← here]
      exact consistent.replace split rfl rfl (consistent.session_iff member)
        (fun _ _ _ => Iff.rfl) (consistent.manual entry.2 member)
  | none =>
      dsimp only
      cases free : registry.freeId with
      | none => exact consistent.refused _
      | some id =>
          dsimp only
          cases pushed : registry.destinations.push?
              ⟨id, peerIdentity, true, none, now⟩ with
          | none => exact consistent.refused _
          | some destinations =>
              have lists := BoundedVec.push?_eq_some.mp pushed
              have newId := freeId_fresh free
              have newPeer : peerIdentity ∉ registry.destinations.toList.map
                  Destination.peerIdentity := by
                simpa using find_none found
              refine ⟨⟨fun session other => ?_, ?_, ?_, ?_⟩,
                fun failed => by cases failed⟩
              all_goals
                dsimp only [RegistryAnswer.succeeded]
                rw [lists]
              · rw [consistent.linked]
                simp
              · rw [List.map_append, List.map_singleton,
                  ← List.concat_eq_append]
                exact consistent.ids.concat newId
              · rw [List.map_append, List.map_singleton,
                  ← List.concat_eq_append]
                exact consistent.peers.concat newPeer
              · intro other listed off
                rcases List.mem_append.mp listed with old | added
                · exact consistent.manual other old off
                · cases List.mem_singleton.mp added
                  rfl

theorem Consistent.perform (consistent : registry.Consistent)
    (call : DestinationCall) : registry.Settled (registry.perform call) := by
  cases call with
  | register peerIdentity now => exact consistent.register peerIdentity now
  | setAutoConnect id enabled => exact consistent.setAutoConnect id enabled
  | connect id now => exact consistent.connect id now
  | disconnect id => exact ⟨consistent.disconnect id, disconnect_failed⟩
  | forget id => exact consistent.forget id

theorem Consistent.countP_connected (consistent : registry.Consistent) :
    registry.destinations.toList.countP Destination.connected ≤
      sessionCapacity := by
  have distinct : (registry.destinations.toList.filterMap
      Destination.connectedSession).Nodup := by
    apply List.pairwise_filterMap.mpr
    apply (List.pairwise_map.mp consistent.ids).imp_of_mem
    intro first second listed also apart session held other held' same
    apply apart
    rw [same] at held
    have one := (consistent.session_iff listed other).mpr held
    have two := (consistent.session_iff also other).mpr held'
    exact Option.some.inj (Option.some.inj (one.symm.trans two))
  have inRange : (registry.destinations.toList.filterMap
      Destination.connectedSession).map (·.get.toNat) ⊆
        List.range sessionCapacity := by
    intro number member
    obtain ⟨session, held, rfl⟩ := List.mem_map.mp member
    obtain ⟨destination, listed, same⟩ := List.mem_filterMap.mp held
    have used := (consistent.session_iff listed session).mpr same
    have inside := (List.getElem?_eq_some_iff.mp used).1
    rw [Vector.length_toList] at inside
    exact List.mem_range.mpr inside
  have few := (List.subperm_of_subset
    (distinct.map fun _ _ => SessionId.eq_of_toNat) inRange).length_le
  rwa [List.length_map, List.length_filterMap_eq_countP, List.length_range]
    at few

theorem consistent_of_run (run : Run (fun before call output after =>
      before.perform call = (after, output)) new history finish) :
    finish.Consistent :=
  run.invariant Consistent new_consistent fun taken _ performed kept => by
    have settled := kept.perform taken.event
    rw [performed] at settled
    exact settled.1

/-- The registry is consistent after any calls, at most four destinations
are connected, and calls that fail change nothing. -/
theorem consistent_throughout (calls : List DestinationCall) :
    (Run.final perform new calls).Consistent ∧
      (Run.final perform new calls).destinations.toList.countP
        Destination.connected ≤ sessionCapacity ∧
      ∀ taken ∈ Run.trace perform new calls,
        taken.output = false → taken.after = taken.before := by
  have run := Run.of_trace perform new calls
  have consistent := consistent_of_run run
  refine ⟨consistent, consistent.countP_connected, fun taken member => ?_⟩
  obtain ⟨earlier, later, split⟩ := List.append_of_mem member
  rw [split] at run
  obtain ⟨first, performed, -⟩ := run.split_at
  have settled := (consistent_of_run first).perform taken.event
  rw [performed] at settled
  exact settled.2

end DestinationRegistry

end HidShift
