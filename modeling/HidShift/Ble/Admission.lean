import HidShift.Lib.Run
import HidShift.Ble.Command

/-! Which peers may connect (`ble_connection.rs` and the control state of
`firmware/src/platform/ble_hid_task.rs`).  A removed bond stays in the
restored storage until the BLE stack is rebuilt, so its peer is revoked
instead. -/

namespace HidShift

open Lib

structure BlePeerIdentity where
  peerAddress : Vector UInt8 6
  peerIrk : Option (Vector UInt8 16)
deriving DecidableEq

namespace BlePeerIdentity

/-- Both comparisons of the source: equal identity keys decide, otherwise the
addresses do. -/
def sameIdentity (irk otherIrk : Option (Vector UInt8 16))
    (address otherAddress : Vector UInt8 6) : Bool :=
  match irk, otherIrk with
  | some key, some otherKey => key = otherKey || address = otherAddress
  | _, _ => address = otherAddress

def matchesBond (peer : BlePeerIdentity) (bond : StoredBond) : Bool :=
  sameIdentity peer.peerIrk bond.peerIrk peer.peerAddress bond.peerAddress

def matchesPeer (peer other : BlePeerIdentity) : Bool :=
  sameIdentity peer.peerIrk other.peerIrk peer.peerAddress other.peerAddress

end BlePeerIdentity

structure BleBondRevocations (hosts : Nat) where
  bonds : Fin hosts → Option StoredBond

namespace BleBondRevocations

variable {hosts : Nat}

def new : BleBondRevocations hosts := ⟨fun _ => none⟩

def revoke (revocations : BleBondRevocations hosts) (hostId : HostId)
    (bond : Option StoredBond) : BleBondRevocations hosts :=
  match hostIndex hosts hostId with
  | some index => ⟨Function.update revocations.bonds index bond⟩
  | none => revocations

def blocks (revocations : BleBondRevocations hosts)
    (peer : BlePeerIdentity) : Bool :=
  (List.finRange hosts).any fun index =>
    (revocations.bonds index).any peer.matchesBond

def clearHost (revocations : BleBondRevocations hosts) (hostId : HostId) :
    BleBondRevocations hosts :=
  revocations.revoke hostId none

end BleBondRevocations

def blePairingBackoffStepsMs : Vector UInt64 4 :=
  #v[2000, 5000, 15000, 30000]

def backoffForFailureCount (failureCount : UInt8) : UInt64 :=
  blePairingBackoffStepsMs.toList.getD (min (failureCount.toNat - 1) 3) 0

structure BlePairingBackoffEntry where
  peer : BlePeerIdentity
  failureCount : UInt8
  blockedUntilMs : UInt64

structure BlePairingBackoff (capacity : Nat) where
  entries : Vector (Option BlePairingBackoffEntry) capacity

namespace BlePairingBackoff

variable {capacity : Nat}

def new : BlePairingBackoff capacity := ⟨Vector.replicate capacity none⟩

def blockedRemainingMs (backoff : BlePairingBackoff capacity)
    (peer : BlePeerIdentity) (nowMs : UInt64) : Option UInt64 :=
  backoff.entries.toList.reduceOption.findSome? fun entry =>
    if entry.peer.matchesPeer peer ∧ nowMs < entry.blockedUntilMs then
      some (entry.blockedUntilMs - nowMs)
    else
      none

/-- The slot a new failure takes: an empty one, else one whose wait is over,
else the one whose wait ends first. -/
def replacement (entries : List (Option BlePairingBackoffEntry))
    (nowMs : UInt64) : Option Nat :=
  let blockedUntil := fun entry : Option BlePairingBackoffEntry =>
    (entry.map BlePairingBackoffEntry.blockedUntilMs).getD
      (UInt64.ofNat (UInt64.size - 1))
  (entries.findIdx? Option.isNone).or <|
    (entries.findIdx? fun entry =>
      entry.any fun stored => stored.blockedUntilMs ≤ nowMs).or <|
        entries.findIdx? fun entry =>
          entries.all fun other => blockedUntil entry ≤ blockedUntil other

def recordFailure (backoff : BlePairingBackoff capacity)
    (peer : BlePeerIdentity) (nowMs : UInt64) :
    BlePairingBackoff capacity × UInt64 :=
  let entries := backoff.entries.toList
  let known := entries.findIdx? fun entry =>
    entry.any fun stored => stored.peer.matchesPeer peer
  match known, known.bind fun index => entries[index]?.join with
  | some index, some entry =>
      let failureCount :=
        if entry.failureCount = 255 then 255 else entry.failureCount + 1
      let backoffMs := backoffForFailureCount failureCount
      let next : BlePairingBackoffEntry :=
        { entry with
          failureCount := failureCount
          blockedUntilMs := saturatingAddMs nowMs backoffMs }
      (⟨backoff.entries.setIfInBounds index (some next)⟩, backoffMs)
  | _, _ =>
      match replacement entries nowMs with
      | none => (backoff, 0)
      | some index =>
          let backoffMs := backoffForFailureCount 1
          let next : BlePairingBackoffEntry :=
            ⟨peer, 1, saturatingAddMs nowMs backoffMs⟩
          (⟨backoff.entries.setIfInBounds index (some next)⟩, backoffMs)

def clearPeer (backoff : BlePairingBackoff capacity)
    (peer : BlePeerIdentity) : BlePairingBackoff capacity :=
  ⟨backoff.entries.map fun entry =>
    if entry.any fun stored => stored.peer.matchesPeer peer then none
    else entry⟩

end BlePairingBackoff

/-- The host a peer connects as: the first stored bond it matches, else the
host that is open for pairing. -/
def resolveHostId (storage : Option StorageState)
    (peerIdentity : BlePeerIdentity) (pairingHost : Option HostId) :
    Option HostId :=
  let stored := storage.bind fun state =>
    state.hosts.toList.find? fun host =>
      host.bond.any peerIdentity.matchesBond
  (stored.map StoredHostProfile.hostId).or pairingHost

structure BleConnectionEntry where
  hostId : HostId
  peerIdentity : BlePeerIdentity
deriving DecidableEq

def runtimeHostsMax : Nat := storedHostsMax

structure BleControlState where
  pairingAllowed : Fin runtimeHostsMax → Bool
  restoredBond : Fin runtimeHostsMax → Bool
  revokedBonds : BleBondRevocations runtimeHostsMax
  inputGate : BleInputGate runtimeHostsMax
  pairingBackoff : BlePairingBackoff runtimeHostsMax

inductive BleConnectionAdmission
  | accept (hostId : HostId) (peer : BlePeerIdentity)
  | rejectUnknown
  | rejectBackoff (remainingMs : UInt64)
deriving DecidableEq

namespace BleControlState

def setFlag (flags : Fin runtimeHostsMax → Bool) (hostId : HostId)
    (value : Bool) : Fin runtimeHostsMax → Bool :=
  match hostIndex runtimeHostsMax hostId with
  | some index => Function.update flags index value
  | none => flags

def setPairingAllowed (control : BleControlState) (hostId : HostId)
    (allowed : Bool) : BleControlState :=
  { control with
    pairingAllowed := setFlag control.pairingAllowed hostId allowed }

def setRestoredBond (control : BleControlState) (hostId : HostId)
    (restored : Bool) : BleControlState :=
  { control with
    restoredBond := setFlag control.restoredBond hostId restored }

def new (restoredState : Option StorageState) (pairableHost : Option HostId)
    (pairingBackoff : BlePairingBackoff runtimeHostsMax) : BleControlState :=
  let state : BleControlState :=
    ⟨fun _ => false, fun _ => false, .new, .new, pairingBackoff⟩
  let bonded := (restoredState.elim [] fun storage =>
    storage.hosts.toList).filter fun host => host.bond.isSome
  let state := bonded.foldl
    (fun state host => state.setRestoredBond host.hostId true) state
  pairableHost.elim state fun hostId => state.setPairingAllowed hostId true

def isPairingAllowed (control : BleControlState) (hostId : HostId) : Bool :=
  (hostIndex runtimeHostsMax hostId).any control.pairingAllowed

def pairingHost (control : BleControlState) : Option HostId :=
  ((List.finRange runtimeHostsMax).find? control.pairingAllowed).map
    fun index => ⟨UInt8.ofNat (index.val + 1)⟩

def applyCommand (control : BleControlState) :
    BleTaskCommand → BleControlState
  | .notify hostId _ .targetSwitchRelease
  | .notify hostId _ .safetyRelease =>
      { control with inputGate := control.inputGate.block hostId }
  | .notify _ _ _ | .managementResponse _ | .managementEvent _ => control
  | .activateInput hostId =>
      { control with inputGate := control.inputGate.activate hostId }
  | .allowPairing hostId =>
      { control.setPairingAllowed hostId true with pairingBackoff := .new }
  | .rejectPairing hostId =>
      let next := control.setPairingAllowed hostId false
      if next.pairingHost = none then { next with pairingBackoff := .new }
      else next
  | .clearBond hostId bond =>
      let next := (control.setPairingAllowed hostId false).setRestoredBond
        hostId false
      { next with revokedBonds := next.revokedBonds.revoke hostId bond }

def peerIsRevoked (control : BleControlState) (peer : BlePeerIdentity) : Bool :=
  control.revokedBonds.blocks peer

def confirmSecurity (control : BleControlState) (hostId : HostId) :
    BleControlState :=
  { control with revokedBonds := control.revokedBonds.clearHost hostId }

def recordPairingFailure (control : BleControlState)
    (peer : BlePeerIdentity) (nowMs : UInt64) : BleControlState :=
  { control with
    pairingBackoff := (control.pairingBackoff.recordFailure peer nowMs).1 }

def clearPairingFailure (control : BleControlState)
    (peer : BlePeerIdentity) : BleControlState :=
  { control with pairingBackoff := control.pairingBackoff.clearPeer peer }

end BleControlState

def admitBleConnection (peer : BlePeerIdentity)
    (restoredState : Option StorageState) (control : BleControlState)
    (nowMs : UInt64) : BleConnectionAdmission :=
  let peerIsRevoked := control.peerIsRevoked peer
  let peerMatchesStoredBond :=
    !peerIsRevoked && (resolveHostId restoredState peer none).isSome
  let waiting :=
    if control.pairingHost.isSome && !peerMatchesStoredBond then
      control.pairingBackoff.blockedRemainingMs peer nowMs
    else
      none
  match waiting with
  | some remainingMs => .rejectBackoff remainingMs
  | none =>
      let resolvedHost :=
        if peerIsRevoked then control.pairingHost
        else resolveHostId restoredState peer control.pairingHost
      match resolvedHost with
      | none => .rejectUnknown
      | some hostId =>
          let isPairing := control.isPairingAllowed hostId
          let reconnectEnabled := restoredState.elim true fun state =>
            state.globalSettings.autoReconnect
          if isPairing || reconnectEnabled then .accept hostId peer
          else .rejectUnknown

def isPairingCandidate (restoredState : Option StorageState)
    (control : BleControlState) (peer : BlePeerIdentity) : Bool :=
  control.pairingHost.isSome &&
    (control.peerIsRevoked peer ||
      (resolveHostId restoredState peer none).isNone)

inductive BleConnectionSlotError
  | invalidSlot
  | invalidHost
  | noFreeSlot
  | duplicateHost
  | duplicatePeer

structure BleConnectionSlot where
  index : Nat
  hostId : HostId

structure BleConnectionSlots (slots : Nat) where
  entries : Fin slots → Option BleConnectionEntry

namespace BleConnectionSlots

variable {slots : Nat}

def new : BleConnectionSlots slots := ⟨fun _ => none⟩

def entryForSlot (table : BleConnectionSlots slots) (slot : Nat) :
    Option BleConnectionEntry :=
  if inside : slot < slots then table.entries ⟨slot, inside⟩ else none

/-- What an entry of another slot has in common with a new one. -/
def conflict (hostId : HostId) (peerIdentity : BlePeerIdentity)
    (entry : BleConnectionEntry) : Option BleConnectionSlotError :=
  if entry.hostId = hostId then some .duplicateHost
  else if entry.peerIdentity.matchesPeer peerIdentity then
    some .duplicatePeer
  else none

def ensureUnique (table : BleConnectionSlots slots) (hostId : HostId)
    (peerIdentity : BlePeerIdentity) (replacingSlot : Option Nat) :
    Except BleConnectionSlotError Unit :=
  let found := (List.finRange slots).findSome? fun slot =>
    if replacingSlot = some slot.val then none
    else (table.entries slot).bind (conflict hostId peerIdentity)
  found.elim (.ok ()) .error

def setConnected (table : BleConnectionSlots slots) (slot : Nat)
    (hostId : HostId) (peerIdentity : BlePeerIdentity) :
    Except BleConnectionSlotError
      (BleConnectionSlots slots × BleConnectionSlot) :=
  if inside : slot < slots then
    match hostId.validated with
    | .error _ => .error .invalidHost
    | .ok _ =>
        match table.ensureUnique hostId peerIdentity (some slot) with
        | .error error => .error error
        | .ok () =>
            .ok (⟨Function.update table.entries ⟨slot, inside⟩
              (some ⟨hostId, peerIdentity⟩)⟩, ⟨slot, hostId⟩)
  else
    .error .invalidSlot

end BleConnectionSlots

/-- The slots after the call, and whether the connection may pair; an error of
the slots is only logged. -/
def initializeBleSlot {slots : Nat} (table : BleConnectionSlots slots)
    (slot : Nat) (conn : Option BlePeerIdentity)
    (restoredState : Option StorageState) (control : BleControlState) :
    BleConnectionSlots slots × Bool :=
  match conn with
  | none => (table, false)
  | some peerIdentity =>
      match resolveHostId restoredState peerIdentity control.pairingHost with
      | none => (table, false)
      | some hostId =>
          (match table.setConnected slot hostId peerIdentity with
            | .error _ => table
            | .ok (next, _) => next,
            isPairingCandidate restoredState control peerIdentity)

inductive BleControlEvent
  | command (command : BleTaskCommand)
  | connectionAttempt (peer : BlePeerIdentity) (nowMs : UInt64)
  | securityEstablished (entry : BleConnectionEntry)
  | pairingFailed (peer : BlePeerIdentity) (nowMs : UInt64)

def BleControlState.advance (restoredState : Option StorageState)
    (control : BleControlState) :
    BleControlEvent → BleControlState × Option BleConnectionAdmission
  | .command command => (control.applyCommand command, none)
  | .connectionAttempt peer nowMs =>
      (control, some (admitBleConnection peer restoredState control nowMs))
  | .securityEstablished entry =>
      ((control.clearPairingFailure entry.peerIdentity).confirmSecurity
        entry.hostId, none)
  | .pairingFailed peer nowMs =>
      (control.recordPairingFailure peer nowMs, none)

abbrev BleControlRun (restoredState : Option StorageState) :=
  Run fun before event output after =>
    BleControlState.advance restoredState before event = (after, output)

def BleControlEvent.CompletesPairing (peer : BlePeerIdentity) :
    BleControlEvent → Prop
  | .securityEstablished entry => entry.peerIdentity.matchesPeer peer = true
  | _ => False

instance (peer : BlePeerIdentity) :
    DecidablePred (BleControlEvent.CompletesPairing peer)
  | .securityEstablished _ => inferInstanceAs (Decidable (_ = true))
  | .command _ | .connectionAttempt _ _ | .pairingFailed _ _ => .isFalse id

/-- Every revocation that blocks the peer sits in the slot of the host. -/
def BleBondRevocations.OnlyBlocker {hosts : Nat}
    (revocations : BleBondRevocations hosts) (hostId : HostId)
    (peer : BlePeerIdentity) : Prop :=
  ∀ index, (revocations.bonds index).any peer.matchesBond = true →
    hostIndex hosts hostId = some index

/-- The event leaves the block of the peer alone: a bond it matches is
cleared under a host number that has a slot, and the slot of its last block
is neither given another bond nor confirmed for another peer. -/
def BleControlEvent.KeepsBlock (control : BleControlState)
    (peer : BlePeerIdentity) : BleControlEvent → Prop
  | .command (.clearBond hostId bond) =>
      if bond.any peer.matchesBond then
        ∃ index, hostIndex runtimeHostsMax hostId = some index
      else
        ¬ control.revokedBonds.OnlyBlocker hostId peer
  | .securityEstablished entry =>
      entry.peerIdentity.matchesPeer peer = true ∨
        ¬ control.revokedBonds.OnlyBlocker entry.hostId peer
  | _ => True

def BlePeerIdentity.IsStored (peer : BlePeerIdentity)
    (restoredState : Option StorageState) : Prop :=
  ∃ state, restoredState = some state ∧
    ∃ host ∈ state.hosts.toList, host.bond.any peer.matchesBond = true

/-- The peer is rejected, or admitted as the host that is open for pairing. -/
def BleControlState.LocksOut (restoredState : Option StorageState)
    (control : BleControlState) (peer : BlePeerIdentity) : Prop :=
  ∀ nowMs,
    (∃ hostId, control.pairingHost = some hostId ∧
      admitBleConnection peer restoredState control nowMs =
        .accept hostId peer) ∨
    admitBleConnection peer restoredState control nowMs = .rejectUnknown ∨
    ∃ remainingMs, admitBleConnection peer restoredState control nowMs =
      .rejectBackoff remainingMs

namespace BleBondRevocations

variable {hosts : Nat} {revocations : BleBondRevocations hosts}

variable {peer : BlePeerIdentity}

theorem blocks_iff :
    revocations.blocks peer = true ↔
      ∃ index, (revocations.bonds index).any peer.matchesBond = true := by
  rw [blocks, List.any_eq_true]
  constructor
  · rintro ⟨index, -, matched⟩
    exact ⟨index, matched⟩
  · rintro ⟨index, matched⟩
    exact ⟨index, List.mem_finRange index, matched⟩

theorem blocks_revoke_of_matched (slot : hostIndex hosts hostId = some index)
    (matched : bond.any peer.matchesBond = true) :
    (revocations.revoke hostId bond).blocks peer = true := by
  refine blocks_iff.mpr ⟨index, ?_⟩
  simp only [revoke, slot, Function.update_self]
  exact matched

theorem blocks_revoke_of_other (bond : Option StoredBond)
    (other : ¬ revocations.OnlyBlocker hostId peer) :
    (revocations.revoke hostId bond).blocks peer = true := by
  simp only [OnlyBlocker, not_forall] at other
  obtain ⟨index, matched, elsewhere⟩ := other
  refine blocks_iff.mpr ⟨index, ?_⟩
  rw [revoke]
  split
  · rename_i written slot
    have apart : index ≠ written := by
      rintro rfl
      exact elsewhere slot
    simp only [Function.update_of_ne apart]
    exact matched
  · exact matched

end BleBondRevocations

namespace BleControlState

theorem applyCommand_revokedBonds (control : BleControlState)
    (keeps : ∀ hostId bond, command ≠ .clearBond hostId bond) :
    (control.applyCommand command).revokedBonds = control.revokedBonds := by
  cases command with
  | notify hostId report reason => cases reason <;> rfl
  | rejectPairing hostId =>
      simp only [applyCommand]
      split <;> rfl
  | clearBond hostId bond => exact absurd rfl (keeps hostId bond)
  | allowPairing hostId => rfl
  | activateInput hostId => rfl
  | managementResponse hostId => rfl
  | managementEvent hostId => rfl

variable {restoredState : Option StorageState} {control : BleControlState}
  {peer : BlePeerIdentity} {event : BleControlEvent}

theorem applyCommand_keeps_block
    (kept : (BleControlEvent.command command).KeepsBlock control peer)
    (revoked : control.peerIsRevoked peer = true) :
    (control.applyCommand command).peerIsRevoked peer = true := by
  by_cases clears : ∃ hostId bond, command = .clearBond hostId bond
  · obtain ⟨hostId, bond, rfl⟩ := clears
    simp only [BleControlEvent.KeepsBlock] at kept
    split at kept
    · rename_i matched
      obtain ⟨index, slot⟩ := kept
      exact BleBondRevocations.blocks_revoke_of_matched slot matched
    · exact BleBondRevocations.blocks_revoke_of_other bond kept
  · have same : (control.applyCommand command).revokedBonds =
        control.revokedBonds :=
      control.applyCommand_revokedBonds fun hostId bond written =>
        clears ⟨hostId, bond, written⟩
    rw [peerIsRevoked, same]
    exact revoked

theorem advance_keeps_block (kept : event.KeepsBlock control peer)
    (unpaired : ¬ event.CompletesPairing peer)
    (revoked : control.peerIsRevoked peer = true) :
    (control.advance restoredState event).1.peerIsRevoked peer = true := by
  cases event with
  | command command => exact applyCommand_keeps_block kept revoked
  | connectionAttempt other nowMs => exact revoked
  | securityEstablished entry =>
      rcases kept with itself | elsewhere
      · exact absurd itself unpaired
      · exact BleBondRevocations.blocks_revoke_of_other none elsewhere
  | pairingFailed other nowMs => exact revoked

theorem advance_clearBond_blocks (kept : (BleControlEvent.command
      (.clearBond hostId (some bond))).KeepsBlock control peer)
    (matched : peer.matchesBond bond = true) :
    (control.advance restoredState
      (.command (.clearBond hostId (some bond)))).1.peerIsRevoked peer =
        true := by
  have given : (some bond).any peer.matchesBond = true := matched
  simp only [BleControlEvent.KeepsBlock, given, if_true] at kept
  obtain ⟨index, slot⟩ := kept
  exact BleBondRevocations.blocks_revoke_of_matched slot given

end BleControlState

theorem resolveHostId_of_unstored (unstored : ¬ peer.IsStored restoredState)
    (pairingHost : Option HostId) :
    resolveHostId restoredState peer pairingHost = pairingHost := by
  cases restoredState with
  | none => rfl
  | some state =>
      have missing : (state.hosts.toList.find? fun host =>
          host.bond.any peer.matchesBond) = none := by
        rw [List.find?_eq_none]
        intro host member matched
        exact unstored ⟨state, rfl, host, member, matched⟩
      simp only [resolveHostId, Option.bind_some, missing, Option.map_none,
        Option.none_or]

theorem admitBleConnection_accept {control : BleControlState}
    (admitted : admitBleConnection peer restoredState control nowMs =
      .accept hostId accepted) :
    (if control.peerIsRevoked peer then control.pairingHost
      else resolveHostId restoredState peer control.pairingHost) =
        some hostId ∧ accepted = peer := by
  simp only [admitBleConnection] at admitted
  split at admitted
  · cases admitted
  · split at admitted
    · cases admitted
    · rename_i candidate resolved
      split at admitted
      · cases admitted
        exact ⟨resolved, rfl⟩
      · cases admitted

theorem admitBleConnection_pairing {control : BleControlState}
    (locked : peer.IsStored restoredState → control.peerIsRevoked peer = true)
    (admitted : admitBleConnection peer restoredState control nowMs =
      .accept hostId accepted) :
    control.pairingHost = some hostId ∧ accepted = peer := by
  obtain ⟨resolved, same⟩ := admitBleConnection_accept admitted
  refine ⟨?_, same⟩
  split at resolved
  · exact resolved
  · rename_i unrevoked
    rwa [resolveHostId_of_unstored fun stored => unrevoked (locked stored)]
      at resolved

/-- After its bond is cleared a peer is admitted as the pairing candidate
only, as long as no event lifts its block. -/
theorem revoked_peer_locked_out {restoredState : Option StorageState}
    {pairableHost : Option HostId}
    {pairingBackoff : BlePairingBackoff runtimeHostsMax}
    {earlier later : List (Transition BleControlState BleControlEvent
      (Option BleConnectionAdmission))}
    {cleared : Transition BleControlState BleControlEvent
      (Option BleConnectionAdmission)}
    {finish : BleControlState} {hostId : HostId} {bond : StoredBond}
    {peer : BlePeerIdentity}
    (run : BleControlRun restoredState
      (.new restoredState pairableHost pairingBackoff)
      (earlier ++ cleared :: later) finish)
    (clears : cleared.event = .command (.clearBond hostId (some bond)))
    (matched : peer.matchesBond bond = true)
    (unpaired : ∀ taken ∈ later, ¬ taken.event.CompletesPairing peer)
    (kept : peer.IsStored restoredState → ∀ taken ∈ cleared :: later,
      taken.event.KeepsBlock taken.before peer) :
    finish.LocksOut restoredState peer := by
  obtain ⟨-, clearing, laterRun⟩ := run.split_at
  have locked : peer.IsStored restoredState →
      finish.peerIsRevoked peer = true := by
    intro stored
    refine laterRun.invariant
      (fun control => control.peerIsRevoked peer = true) ?_ ?_
    · have keptFirst := kept stored cleared List.mem_cons_self
      rw [clears] at keptFirst clearing
      have blocked : (cleared.before.advance restoredState
          (.command (.clearBond hostId (some bond)))).1.peerIsRevoked peer =
            true :=
        BleControlState.advance_clearBond_blocks keptFirst matched
      rw [clearing] at blocked
      exact blocked
    · intro taken member advanced revoked
      have blocked : (taken.before.advance restoredState
          taken.event).1.peerIsRevoked peer = true :=
        BleControlState.advance_keeps_block
          (kept stored taken (List.mem_cons_of_mem _ member))
          (unpaired taken member) revoked
      rw [advanced] at blocked
      exact blocked
  intro nowMs
  cases admission : admitBleConnection peer restoredState finish nowMs with
  | accept host accepted =>
      obtain ⟨isOpen, rfl⟩ := admitBleConnection_pairing locked admission
      exact .inl ⟨host, isOpen, rfl⟩
  | rejectUnknown => exact .inr (.inl rfl)
  | rejectBackoff remainingMs => exact .inr (.inr ⟨remainingMs, rfl⟩)

namespace Scenario

def blePeer (index : UInt8) : BlePeerIdentity :=
  ⟨#v[index, 2, 3, 4, 5, 6], some (Vector.replicate 16 index)⟩

def bondOf (peer : BlePeerIdentity) : StoredBond where
  peerAddress := peer.peerAddress
  peerAddressKind := .randomAddress
  peerIrk := peer.peerIrk
  ltk := Vector.replicate 16 7
  isBonded := true
  securityLevel := .encrypted

def bondedHost (hostId : HostId) (peer : BlePeerIdentity) :
    StoredHostProfile where
  hostId := hostId
  bonded := true
  keyboardCccdEnabled := true
  mouseCccdEnabled := true
  consumerCccdEnabled := true
  keyboardOutputCccdEnabled := true
  name := .empty
  bond := some (bondOf peer)

def bondedSnapshot : Option StorageState :=
  some { StorageState.new 1 with
    hosts := ⟨[bondedHost ⟨1⟩ (blePeer 1), bondedHost ⟨2⟩ (blePeer 2)],
      by decide⟩ }

def clearBond (hostId : HostId) (peer : BlePeerIdentity) :
    BleControlEvent :=
  .command (.clearBond hostId (some (bondOf peer)))

def clearedBoth : List BleControlEvent :=
  [clearBond ⟨1⟩ (blePeer 1), clearBond ⟨2⟩ (blePeer 2),
    .command (.allowPairing ⟨1⟩), .connectionAttempt (blePeer 1) 5]

def pairedAnew : List BleControlEvent :=
  [clearBond ⟨1⟩ (blePeer 1), .command (.allowPairing ⟨1⟩),
    .connectionAttempt (blePeer 3) 5,
    .securityEstablished ⟨⟨1⟩, blePeer 3⟩, .command (.rejectPairing ⟨1⟩)]

def controlStart : BleControlState := .new bondedSnapshot none .new

def controlFinal (events : List BleControlEvent) : BleControlState :=
  Run.final (BleControlState.advance bondedSnapshot) controlStart events

theorem controlRun (first : BleControlEvent) (rest : List BleControlEvent) :
    BleControlRun bondedSnapshot (.new bondedSnapshot none .new)
      ([] ++ ⟨controlStart, first,
        (controlStart.advance bondedSnapshot first).2,
        (controlStart.advance bondedSnapshot first).1⟩ ::
        Run.trace (BleControlState.advance bondedSnapshot)
          (controlStart.advance bondedSnapshot first).1 rest)
      (controlFinal (first :: rest)) :=
  Run.of_trace _ controlStart (first :: rest)

theorem unpaired (others : ∀ event ∈ events, ¬ event.CompletesPairing peer) :
    ∀ taken ∈ Run.trace (BleControlState.advance bondedSnapshot) start events,
      ¬ taken.event.CompletesPairing peer :=
  fun _ member => others _ (Run.event_mem_of_mem_trace _ member)

end Scenario

theorem revoked_peer_locked_out_clearedBoth :
    (Scenario.controlFinal Scenario.clearedBoth).LocksOut
      Scenario.bondedSnapshot (Scenario.blePeer 1) := by
  refine revoked_peer_locked_out (Scenario.controlRun _ _) rfl ?_ ?_ ?_
  · decide +kernel
  · exact Scenario.unpaired (by decide)
  · rintro - taken member
    simp only [Run.trace, List.mem_cons, List.not_mem_nil, or_false] at member
    rcases member with rfl | rfl | rfl | rfl
    · exact ⟨⟨0, by decide⟩, rfl⟩
    · intro only
      have moved := only ⟨0, by decide⟩ (by decide +kernel)
      exact absurd moved (by decide)
    · exact trivial
    · exact trivial

/-- The slot of a host holds one revocation: pairing another peer under the
cleared host lifts it, while the snapshot still has the old bond. -/
theorem revoked_peer_readmitted :
    ¬ ∀ (restoredState : Option StorageState) (pairableHost : Option HostId)
      (pairingBackoff : BlePairingBackoff runtimeHostsMax)
      (earlier later : List (Transition BleControlState BleControlEvent
        (Option BleConnectionAdmission)))
      (cleared : Transition BleControlState BleControlEvent
        (Option BleConnectionAdmission))
      (finish : BleControlState) (hostId : HostId) (bond : StoredBond)
      (peer : BlePeerIdentity),
      BleControlRun restoredState
        (.new restoredState pairableHost pairingBackoff)
        (earlier ++ cleared :: later) finish →
      cleared.event = .command (.clearBond hostId (some bond)) →
      peer.matchesBond bond = true →
      (∀ taken ∈ later, ¬ taken.event.CompletesPairing peer) →
        finish.LocksOut restoredState peer := by
  intro claimed
  have admitted : admitBleConnection (Scenario.blePeer 1)
      Scenario.bondedSnapshot (Scenario.controlFinal Scenario.pairedAnew) 9 =
        .accept ⟨1⟩ (Scenario.blePeer 1) := by decide +kernel
  have shut : (Scenario.controlFinal Scenario.pairedAnew).pairingHost =
      none := by decide +kernel
  have locked : (Scenario.controlFinal Scenario.pairedAnew).LocksOut
      Scenario.bondedSnapshot (Scenario.blePeer 1) := by
    refine claimed _ _ _ _ _ _ _ _ _ _ (Scenario.controlRun _ _) rfl ?_ ?_
    · decide +kernel
    · exact Scenario.unpaired (by decide)
  rcases locked 9 with ⟨hostId, isOpen, -⟩ | rejected | ⟨_, rejected⟩
  · rw [shut] at isOpen
    cases isOpen
  · rw [admitted] at rejected
    cases rejected
  · rw [admitted] at rejected
    cases rejected

namespace BleConnectionSlots

variable {slots : Nat} {table : BleConnectionSlots slots} {slot : Nat}
  {hostId : HostId} {peer : BlePeerIdentity}

/-- The slot exists, the host number is valid, and no other slot has the host
or the peer. -/
def Takes (table : BleConnectionSlots slots) (slot : Nat) (hostId : HostId)
    (peer : BlePeerIdentity) : Prop :=
  slot < slots ∧ (hostSlotMin ≤ hostId.val ∧ hostId.val ≤ hostSlotMax) ∧
    ∀ other, other.val ≠ slot → ∀ entry, table.entries other = some entry →
      entry.hostId ≠ hostId ∧ entry.peerIdentity.matchesPeer peer = false

theorem ensureUnique_ok :
    table.ensureUnique hostId peer (some slot) = .ok () ↔
      ∀ other, other.val ≠ slot → ∀ entry, table.entries other = some entry →
        entry.hostId ≠ hostId ∧
          entry.peerIdentity.matchesPeer peer = false := by
  have none_iff (entry : BleConnectionEntry) :
      conflict hostId peer entry = none ↔ entry.hostId ≠ hostId ∧
        entry.peerIdentity.matchesPeer peer = false := by
    rw [conflict]
    split_ifs with sameHost samePeer <;> simp [*]
  have found : table.ensureUnique hostId peer (some slot) = .ok () ↔
      ((List.finRange slots).findSome? fun other =>
        if some slot = some other.val then none
        else (table.entries other).bind (conflict hostId peer)) = none := by
    rw [ensureUnique]
    cases List.findSome? _ _ <;> simp
  rw [found, List.findSome?_eq_none_iff]
  constructor
  · intro clear other apart entry held
    have here := clear other (List.mem_finRange other)
    rwa [if_neg (by simpa using Ne.symm apart), held, Option.bind_some, none_iff]
      at here
  · intro clear other _
    split_ifs with same
    · rfl
    · rw [Option.bind_eq_none_iff]
      intro entry held
      exact (none_iff entry).mpr
        (clear other (fun here => same (by rw [here])) entry held)

theorem setConnected_takes (takes : table.Takes slot hostId peer) :
    ∃ next, table.setConnected slot hostId peer = .ok next ∧
      next.1.entryForSlot slot = some ⟨hostId, peer⟩ := by
  obtain ⟨inside, valid, apart⟩ := takes
  have accepted : hostId.validated = .ok ⟨hostId.val, valid⟩ := dif_pos valid
  rw [setConnected, dif_pos inside, accepted, ensureUnique_ok.mpr apart]
  refine ⟨_, rfl, ?_⟩
  rw [entryForSlot, dif_pos inside]
  exact Function.update_self ..

theorem setConnected_refuses (refuses : ¬ table.Takes slot hostId peer) :
    ∃ error, table.setConnected slot hostId peer = .error error := by
  rw [setConnected]
  split
  · rename_i inside
    split
    · exact ⟨_, rfl⟩
    · rename_i accepted
      split
      · exact ⟨_, rfl⟩
      · rename_i unique
        rw [HostId.validated, HostSlot.tryFrom] at accepted
        split at accepted
        · rename_i valid
          exact absurd ⟨inside, valid, ensureUnique_ok.mp unique⟩ refuses
        · cases accepted
  · exact ⟨_, rfl⟩

end BleConnectionSlots

/-- An admitted peer is recorded under the host it was admitted as exactly
when the slot can take it and, if it is revoked, no stored bond of it belongs
to another host. -/
theorem slot_agrees_iff {slots : Nat} {table : BleConnectionSlots slots}
    {slot : Nat} {peer : BlePeerIdentity}
    {restoredState : Option StorageState} {control : BleControlState}
    {nowMs : UInt64} {hostId : HostId}
    (admitted : admitBleConnection peer restoredState control nowMs =
      .accept hostId peer)
    (free : table.entryForSlot slot = none) :
    (initializeBleSlot table slot (some peer) restoredState
        control).1.entryForSlot slot = some ⟨hostId, peer⟩ ↔
      table.Takes slot hostId peer ∧
        (control.peerIsRevoked peer = true → ∀ stored,
          resolveHostId restoredState peer none = some stored →
            stored = hostId) := by
  have again : ∃ host,
      resolveHostId restoredState peer control.pairingHost = some host ∧
        (host = hostId ↔ (control.peerIsRevoked peer = true → ∀ stored,
          resolveHostId restoredState peer none = some stored →
            stored = hostId)) := by
    have resolved := (admitBleConnection_accept admitted).1
    split at resolved
    · rename_i revoked
      rw [resolved, resolveHostId, resolveHostId, Option.or_none]
      cases Option.map _ _ with
      | none => simp
      | some stored => simp [revoked]
    · rename_i unrevoked
      exact ⟨hostId, resolved, by simp [unrevoked]⟩
  obtain ⟨host, resolved, agrees⟩ := again
  rw [← agrees, initializeBleSlot]
  simp only [resolved]
  by_cases takes : table.Takes slot host peer
  · obtain ⟨next, set, held⟩ := BleConnectionSlots.setConnected_takes takes
    simp only [set, held]
    constructor
    · intro same
      cases same
      exact ⟨takes, rfl⟩
    · rintro ⟨-, rfl⟩
      rfl
  · obtain ⟨error, set⟩ := BleConnectionSlots.setConnected_refuses takes
    simp only [set, free]
    constructor
    · intro same
      cases same
    · rintro ⟨taken, rfl⟩
      exact absurd taken takes

namespace Scenario

/-- The bond of host 1 is cleared, and host 3 may pair. -/
def pairsElsewhere : BleControlState :=
  controlFinal [clearBond ⟨1⟩ (blePeer 1), .command (.allowPairing ⟨3⟩)]

end Scenario

theorem slot_agrees_newPeer :
    (initializeBleSlot (.new : BleConnectionSlots runtimeHostsMax) 0
        (some (Scenario.blePeer 3)) Scenario.bondedSnapshot
        Scenario.pairsElsewhere).1.entryForSlot 0 =
      some ⟨⟨3⟩, Scenario.blePeer 3⟩ := by
  have admitted : admitBleConnection (Scenario.blePeer 3)
      Scenario.bondedSnapshot Scenario.pairsElsewhere 5 =
        .accept ⟨3⟩ (Scenario.blePeer 3) := by decide +kernel
  refine (slot_agrees_iff admitted rfl).mpr ⟨⟨by decide, by decide, ?_⟩, ?_⟩
  · intro _ _ _ held
    cases held
  · intro revoked
    exact absurd revoked (by decide +kernel)

/-- The forgotten peer of host 1 is admitted as host 3 and recorded as
host 1. -/
theorem slot_disagrees :
    ¬ ∀ (restoredState : Option StorageState) (control : BleControlState)
      (peer : BlePeerIdentity) (nowMs : UInt64) (hostId : HostId),
      admitBleConnection peer restoredState control nowMs =
        .accept hostId peer →
      (initializeBleSlot (.new : BleConnectionSlots runtimeHostsMax) 0
          (some peer) restoredState control).1.entryForSlot 0 =
        some ⟨hostId, peer⟩ := by
  intro agrees
  have recorded := agrees Scenario.bondedSnapshot Scenario.pairsElsewhere
    (Scenario.blePeer 1) 5 ⟨3⟩ (by decide +kernel)
  revert recorded
  decide +kernel

end HidShift
