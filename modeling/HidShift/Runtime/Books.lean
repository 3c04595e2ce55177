import HidShift.Bridge.PairableHost
import HidShift.Input.ProfileRegistry
import HidShift.Runtime.Reachable

namespace HidShift

open Lib InPlace

structure ProfileMark where
  id : InputProfileId
  identity : InputIdentity
  connected : Bool

def InputProfile.mark (profile : InputProfile) : ProfileMark :=
  ⟨profile.id, profile.identity, profile.connected⟩

def ProfileMark.disconnected (mark : ProfileMark) : ProfileMark :=
  { mark with connected := false }

def disconnectMark (marks : List ProfileMark) (id : InputProfileId) :
    List ProfileMark :=
  match marks.findIdx? (·.id = id) with
  | none => marks
  | some index => marks.modify index .disconnected

namespace InputProfileRegistry

variable {registry : InputProfileRegistry}

def marks (registry : InputProfileRegistry) : List ProfileMark :=
  registry.profiles.toList.map InputProfile.mark

theorem map_modify {α β : Type} {field : α → β} {change : α → α}
    {changed : β → β} (follows : ∀ item, field (change item) =
      changed (field item)) (items : List α) (index : Nat) :
    (items.modify index change).map field =
      (items.map field).modify index changed := by
  refine List.ext_getElem? fun position => ?_
  simp only [List.getElem?_map, List.getElem?_modify]
  cases items[position]? with
  | none => rfl
  | some item =>
      by_cases here : index = position
      · simp [here, follows]
      · simp [here]

theorem findIdx?_marks (id : InputProfileId) :
    registry.marks.findIdx? (·.id = id) =
      registry.profiles.toList.findIdx? (·.id = id) :=
  List.findIdx?_map ..

theorem marks_update (id : InputProfileId)
    (same : ∀ profile, (change profile).mark = profile.mark) :
    (registry.update id change).marks = registry.marks := by
  unfold InputProfileRegistry.update InputProfileRegistry.updateFirst
  split
  · rfl
  · exact map_modify_same InputProfile.mark same _ _

theorem marks_writeBack {id : InputProfileId}
    (found : registry.get? id = some profile)
    (same : stored.mark = profile.mark) :
    (registry.update id fun _ => stored).marks = registry.marks := by
  unfold InputProfileRegistry.get? at found
  rw [List.find?_eq_bind_findIdx?_getElem?] at found
  obtain ⟨index, position, here⟩ := Option.bind_eq_some_iff.mp found
  have updated : (registry.update id fun _ => stored).marks =
      (registry.profiles.toList.modify index fun _ => stored).map
        InputProfile.mark := by
    unfold InputProfileRegistry.update InputProfileRegistry.updateFirst
    rw [position]
    rfl
  rw [updated, marks]
  refine List.ext_getElem? fun other => ?_
  simp only [List.getElem?_map, List.getElem?_modify]
  by_cases written : index = other
  · subst written
    simp [here, same]
  · simp [written]

theorem marks_disconnect (registry : InputProfileRegistry)
    (id : InputProfileId) :
    (registry.disconnect id).marks = disconnectMark registry.marks id := by
  unfold disconnectMark
  rw [findIdx?_marks]
  unfold InputProfileRegistry.disconnect InputProfileRegistry.update
    InputProfileRegistry.updateFirst InputProfileRegistry.takeSequence
  dsimp only
  cases registry.profiles.toList.findIdx? (·.id = id) with
  | none => rfl
  | some index =>
      exact @map_modify _ _ InputProfile.mark _ ProfileMark.disconnected
        (fun _ => rfl) _ index

end InputProfileRegistry

structure RuntimeBooks where
  pairing : Option PairingModeState
  pairable : Option HostId
  interfaces : List (Option UsbHidInterfaceRuntimeState)
  profiles : List ProfileMark
  mirrorCandidates : MirrorCandidateRegistry
  pendingMirrorCandidate : Option MirrorCandidateMetadata
  lastProfileResult : Option ProfileResult
  nowMs : UInt64

def BridgeRuntime.books (runtime : BridgeRuntime) : RuntimeBooks where
  pairing := runtime.pairingMode
  pairable := runtime.bridge.pairableHost
  interfaces := runtime.usbInterfaces
  profiles := runtime.inputProfiles.marks
  mirrorCandidates := runtime.mirrorCandidates
  pendingMirrorCandidate := runtime.pendingMirrorCandidate
  lastProfileResult := runtime.lastProfileResult
  nowMs := runtime.nowMs

def BridgeEvent.pairingAfter {build : Build}
    (pairing : Option PairingModeState) :
    BridgeEvent build → Option PairingModeState
  | .enterPairingMode hostId =>
      if pairing.map (·.hostId) = some hostId then pairing
      else some ⟨hostId, (pairing.map (·.deadlineMs)).getD pairingModeTimeoutMs⟩
  | .pairingModeExpired hostId | .clearHost hostId
  | .hostSecurityChanged hostId _ true _ =>
      if pairing.map (·.hostId) = some hostId then none else pairing
  | _ => pairing

namespace RuntimeBooks

def Agrees (books : RuntimeBooks) : Prop :=
  books.pairing.map (·.hostId) = books.pairable

def observe {build : Build} (books : RuntimeBooks)
    (event : BridgeEvent build) : RuntimeBooks :=
  { books with
    pairing := event.pairingAfter books.pairing
    pairable := event.pairableAfter books.pairable }

def enter (books : RuntimeBooks) (hostId : HostId) (nowMs : UInt64) :
    RuntimeBooks :=
  { books with
    pairing := some ⟨hostId, saturatingAddMs nowMs pairingModeTimeoutMs⟩
    pairable := some hostId }

variable {build : Build} {books : RuntimeBooks}

theorem Agrees.leave (agrees : books.Agrees) :
    (if books.pairing.map (·.hostId) = some hostId then none
      else books.pairing).map (·.hostId) =
      if books.pairable = some hostId then none else books.pairable := by
  rw [← show _ = books.pairable from agrees]
  split <;> rfl

theorem Agrees.observe (agrees : books.Agrees) (event : BridgeEvent build) :
    (books.observe event).Agrees := by
  cases event with
  | enterPairingMode hostId =>
      show (if books.pairing.map (·.hostId) = some hostId then books.pairing
        else _).map (·.hostId) = some hostId
      split
      · assumption
      · rfl
  | pairingModeExpired hostId => exact agrees.leave
  | clearHost hostId => exact agrees.leave
  | hostSecurityChanged hostId encrypted bonded bond =>
      cases bonded with
      | true => exact agrees.leave
      | false => exact agrees
  | _ => exact agrees

end RuntimeBooks

variable {capacity : Nat}

/-- The commands tell the radio of every change of the permission. -/
structure TellsRadio (before now : Option HostId)
    (commands : List RuntimeCommand) : Prop where
  rejected : ∀ hostId, before = some hostId → now ≠ some hostId →
    .bleCommand (.rejectPairing hostId) ∈ commands
  allowed : ∀ hostId, now = some hostId → before ≠ some hostId →
    .bleCommand (.allowPairing hostId) ∈ commands

namespace TellsRadio

variable {before now next : Option HostId}
  {commands more : List RuntimeCommand}

theorem same : TellsRadio now now commands :=
  ⟨fun _ was other => absurd was other, fun _ is other => absurd is other⟩

theorem mono (told : TellsRadio before now commands)
    (listed : ∀ command ∈ commands, command ∈ more) :
    TellsRadio before now more :=
  ⟨fun hostId was other => listed _ (told.rejected hostId was other),
    fun hostId is other => listed _ (told.allowed hostId is other)⟩

theorem trans (told : TellsRadio before now commands)
    (later : TellsRadio now next commands) :
    TellsRadio before next commands := by
  refine ⟨fun hostId was gone => ?_, fun hostId is new => ?_⟩
  · by_cases still : now = some hostId
    · exact later.rejected hostId still gone
    · exact told.rejected hostId was still
  · by_cases already : now = some hostId
    · exact told.allowed hostId already new
    · exact later.allowed hostId is already

end TellsRadio

structure Demand where
  met : List RuntimeCommand → Prop
  mono : ∀ {commands more : List RuntimeCommand}, met commands →
    (∀ command ∈ commands, command ∈ more) → met more

def Demand.radio (before now : Option HostId) : Demand where
  met := TellsRadio before now
  mono := TellsRadio.mono

def Demand.listed (required : List RuntimeCommand) : Demand where
  met commands := ∀ command ∈ required, command ∈ commands
  mono met listed := fun command member => listed command (met command member)

structure Keeping (demand : Demand) (books : RuntimeBooks)
    (work : RuntimeWork capacity) : Prop where
  kept : work.runtime.books = books
  met : demand.met work.commands.toList

abbrev KeepsBooks {α : Type} (demand : Demand) (books : RuntimeBooks)
    (program : RuntimeM capacity α) : Prop :=
  Leads (Keeping demand books) program (Keeping demand books)

section

variable {demand : Demand} {books next : RuntimeBooks} {α : Type}
  {post : RuntimeWork capacity → Prop}

theorem keeping_read (read : ∀ runtime : BridgeRuntime, runtime.books = books →
      Leads (Keeping demand books) (second runtime) post) :
    Leads (Keeping demand books) (readRuntime >>= second) post :=
  leads_readRuntime fun work keeping =>
    leads_weaken (read work.runtime keeping.kept) fun _ same => same ▸ keeping

theorem keeping_update
    (becomes : ∀ runtime : BridgeRuntime, runtime.books = books →
      (update runtime).books = next) :
    Leads (Keeping demand books)
      (@modifyRuntime capacity update) (Keeping demand next) :=
  leads_modify fun work keeping =>
    ⟨becomes work.runtime keeping.kept, keeping.met⟩

theorem keeping_modify
    (same : ∀ runtime, (update runtime).books = runtime.books) :
    KeepsBooks demand books (@modifyRuntime capacity update) :=
  keeping_update fun runtime is => (same runtime).trans is

theorem keeping_pure (value : α) :
    KeepsBooks demand books (pure value : RuntimeM capacity α) :=
  leads_pure fun _ keeping => keeping

theorem keeping_clear (free : demand.met []) :
    KeepsBooks demand books (@clearCommands capacity) :=
  leads_modify fun _ keeping => ⟨keeping.kept, free⟩

theorem keeping_pushed (more : ∀ commands, demand.met commands →
      demanded.met (commands ++ [command])) :
    Leads (Keeping demand books) (@pushCommand capacity command)
      (Keeping demanded books) := by
  intro before done after keeping pushed
  obtain ⟨runtime, -, commands⟩ := succeeds_pushCommand.mp pushed
  refine ⟨runtime ▸ keeping.kept, ?_⟩
  rw [commands]
  exact more _ keeping.met

theorem keeping_push (command : RuntimeCommand) :
    KeepsBooks demand books (@pushCommand capacity command) :=
  keeping_pushed fun _ met =>
    demand.mono met fun _ member => List.mem_append_left _ member

theorem keeping_snapshot (build : Build) (priority : StoragePersistPriority) :
    KeepsBooks demand books (@pushStorageSnapshot capacity build priority) := by
  refine keeping_read fun _ _ => leads_ite ?_ leads_throw
  refine leads_bind (keeping_modify fun _ => rfl) fun _ =>
    keeping_read fun _ _ => leads_bind (leads_lift _ _) fun _ => ?_
  exact keeping_push _

end

def BridgeAction.radioCommand? : BridgeAction → Option RuntimeCommand
  | .allowPairing hostId => some (.bleCommand (.allowPairing hostId))
  | .rejectPairing hostId => some (.bleCommand (.rejectPairing hostId))
  | _ => none

variable {build : Build} {books : RuntimeBooks}

theorem holdWiredPresentationTransition_pairable (bridge : BridgeState) :
    bridge.holdWiredPresentationTransition.pairableHost =
      bridge.pairableHost := by
  unfold BridgeState.holdWiredPresentationTransition
  split <;> rfl

theorem keeping_holdWired (target : Option MirrorCandidateId) :
    KeepsBooks demand books
      (@modifyRuntime capacity fun runtime => { runtime with
      presentationTransitionPending := true
      transitionMirrorTarget := target
      bridge := runtime.bridge.holdWiredPresentationTransition }) := by
  apply keeping_modify
  intro runtime
  unfold BridgeRuntime.books
  rw [holdWiredPresentationTransition_pairable]

theorem keeping_status (agrees : books.Agrees)
    (names : status.pairableHost = books.pairable) :
    KeepsBooks demand books (@dispatchStatus capacity status) := by
  have withdrawn : KeepsBooks demand books
      (InPlace.when (status.pairableHost = none) (modifyRuntime fun runtime =>
        { runtime with pairingMode := none }) : RuntimeM capacity Unit) := by
    refine leads_when (fun nobody => keeping_update ?_) fun _ _ keeping =>
      keeping
    rintro runtime rfl
    have empty : runtime.pairingMode = none := by
      have unpaired : runtime.books.pairable = none := names.symm.trans nobody
      have mapped : runtime.books.pairing.map (·.hostId) = none :=
        Eq.trans agrees unpaired
      exact Option.map_eq_none_iff.mp mapped
    unfold BridgeRuntime.books
    rw [empty]
  refine leads_bind withdrawn fun _ => leads_bind ?_ fun _ => keeping_push _
  exact leads_bind (keeping_modify fun _ => rfl) fun _ =>
    keeping_read fun _ _ => keeping_pure _

theorem keeping_dispatchOne (agrees : books.Agrees)
    (priority : Option StoragePersistPriority) {action : BridgeAction}
    (names : ∀ status, action = .statusChanged status →
      status.pairableHost = books.pairable)
    (required : List RuntimeCommand) :
    Leads (Keeping (.listed required) books)
      (@dispatchBridgeAction capacity build priority action)
      (Keeping (.listed (required ++ action.radioCommand?.toList)) books) := by
  have told : ∀ {command : RuntimeCommand},
      Leads (Keeping (.listed required) books) (@pushCommand capacity command)
        (Keeping (.listed (required ++ [command])) books) := by
    intro command
    refine keeping_pushed fun commands met listed member => ?_
    rcases List.mem_append.mp member with old | new
    · exact List.mem_append_left _ (met listed old)
    · exact List.mem_append_right _ new
  have quiet : ∀ {program : RuntimeM capacity Unit},
      KeepsBooks (.listed required) books program →
        Leads (Keeping (.listed required) books) program
          (Keeping (.listed (required ++ [])) books) := by
    intro program keeps
    rw [List.append_nil]
    exact keeps
  cases action with
  | allowPairing hostId => exact told
  | rejectPairing hostId => exact told
  | notify target report reason =>
      cases target with
      | ble hostId => exact quiet (keeping_push _)
      | wired =>
          cases build with
          | single => exact leads_throw
          | dual => exact quiet (keeping_read fun _ _ =>
              leads_ite (keeping_pure ()) (keeping_push _))
  | usbSetKeyboardLeds interfaceId deviceId leds =>
      refine quiet (keeping_read fun runtime _ => ?_)
      dsimp only
      split
      · exact leads_throw
      · exact leads_bind (leads_lift _ _) fun _ => keeping_push _
  | clearBond hostId bond => exact quiet (keeping_push _)
  | activateInput hostId => exact quiet (keeping_push _)
  | activateWired operationId =>
      exact quiet (keeping_read fun _ _ =>
        leads_bind (keeping_holdWired _) fun _ => keeping_push _)
  | ensureFallback operationId =>
      exact quiet (leads_bind (keeping_modify fun _ => rfl) fun _ =>
        keeping_push _)
  | persistProfiles => exact quiet (keeping_snapshot build _)
  | statusChanged status => exact quiet (keeping_status agrees (names _ rfl))

theorem keeping_dispatch (agrees : books.Agrees)
    (priority : Option StoragePersistPriority)
    (names : ∀ status, .statusChanged status ∈ list →
      status.pairableHost = books.pairable) (required : List RuntimeCommand) :
    Leads (Keeping (.listed required) books)
      (@dispatchBridgeActions capacity build priority list)
      (Keeping (.listed (required ++ list.filterMap (·.radioCommand?)))
        books) := by
  induction list generalizing required with
  | nil =>
      rw [List.filterMap_nil, List.append_nil]
      exact keeping_pure ()
  | cons head tail ih =>
      have first := @keeping_dispatchOne capacity build books agrees priority
        head (fun status is => names status (is ▸ List.mem_cons_self)) required
      have split : required ++ (head :: tail).filterMap (·.radioCommand?) =
          (required ++ head.radioCommand?.toList) ++
            tail.filterMap (·.radioCommand?) := by
        rw [List.append_assoc]
        cases told : head.radioCommand? with
        | none => rw [List.filterMap_cons_none told]; rfl
        | some command => rw [List.filterMap_cons_some told]; rfl
      rw [split]
      exact leads_bind first fun _ => ih (fun status member =>
        names status (List.mem_cons_of_mem _ member)) _

theorem observePairing_leave (runtime : BridgeRuntime) (hostId : HostId) :
    (if runtime.pairingFor hostId then { runtime with pairingMode := none }
      else runtime).books =
      { runtime.books with
        pairing := if runtime.pairingMode.map (·.hostId) = some hostId then
            none
          else
            runtime.pairingMode } := by
  unfold BridgeRuntime.pairingFor
  by_cases paired : runtime.pairingMode.map (·.hostId) = some hostId
  · rw [if_pos (decide_eq_true paired), if_pos paired]
    rfl
  · rw [if_neg (fun held => paired (of_decide_eq_true held)), if_neg paired]
    rfl

theorem observePairing_books (runtime : BridgeRuntime)
    (event : BridgeEvent build) :
    (runtime.observePairing event).books =
      { runtime.books with
        pairing := event.pairingAfter runtime.pairingMode } := by
  cases event with
  | enterPairingMode hostId =>
      unfold BridgeRuntime.observePairing BridgeEvent.pairingAfter
        BridgeRuntime.pairingFor
      by_cases paired : runtime.pairingMode.map (·.hostId) = some hostId
      · simp only [if_pos paired, if_pos (decide_eq_true paired)]
        rfl
      · simp only [if_neg paired,
          if_neg (fun held => paired (of_decide_eq_true held))]
        rfl
  | pairingModeExpired hostId => exact observePairing_leave runtime hostId
  | clearHost hostId => exact observePairing_leave runtime hostId
  | hostSecurityChanged hostId encrypted bonded bond =>
      cases bonded with
      | true => exact observePairing_leave runtime hostId
      | false => rfl
  | _ => rfl

theorem observeBridgeEvent_books (runtime : BridgeRuntime)
    (event : BridgeEvent build) :
    (runtime.observeBridgeEvent event).books =
      { runtime.books with
        pairing := event.pairingAfter runtime.pairingMode } := by
  have history : (runtime.observeHistory event).books = runtime.books := by
    cases event <;> rfl
  have mode : (runtime.observeHistory event).pairingMode =
      runtime.pairingMode := congrArg RuntimeBooks.pairing history
  show ((runtime.observeHistory event).observePairing event).books = _
  rw [observePairing_books, history, mode]

theorem Tells.radio (tells : Tells before now list)
    (listed : ∀ command ∈ list.filterMap (·.radioCommand?),
      command ∈ commands) : TellsRadio before now commands := by
  refine ⟨fun hostId was gone => listed _ ?_, fun hostId is new =>
    listed _ ?_⟩
  · exact List.mem_filterMap.mpr ⟨_, tells.rejected hostId was gone, rfl⟩
  · exact List.mem_filterMap.mpr ⟨_, tells.allowed hostId is new, rfl⟩

variable {actions : Nat} {start : Option HostId}

theorem keeping_append (agrees : (books.observe event).Agrees) :
    Leads (Keeping (.radio start books.pairable) books)
      (@handleBridgeEventAppend capacity build actions event)
      (Keeping (.radio start (books.observe event).pairable)
        (books.observe event)) := by
  intro before done after keeping finished
  simp only [handleBridgeEventAppend, succeeds_bind] at finished
  obtain ⟨_, noted, noting, list, called, calling, dispatching⟩ := finished
  obtain rfl := succeeds_modify.mp noting
  obtain ⟨⟨left, ran, rfl, runtime⟩, -, commands⟩ := callBridge_logs calling
  have bridge : (before.runtime.observeBridgeEvent event).bridge =
      before.runtime.bridge := observeBridgeEvent_bridge _ event
  have paired := handleEventInPlace_paired event books.pairable
    ⟨(before.runtime.observeBridgeEvent event).bridge, .empty⟩ () left
    ⟨by rw [bridge]; exact congrArg RuntimeBooks.pairable keeping.kept,
      fun _ member => absurd member List.not_mem_nil, .same⟩ ran
  have reached : called.runtime.books = books.observe event := by
    rw [runtime]
    show { (before.runtime.observeBridgeEvent event).books with
      pairable := left.bridge.pairableHost } = _
    rw [observeBridgeEvent_books, paired.pairable, keeping.kept,
      show before.runtime.pairingMode = books.pairing from
        congrArg RuntimeBooks.pairing keeping.kept]
    rfl
  have dispatched := keeping_dispatch agrees _ paired.statuses
    called.commands.toList called done after
    ⟨reached, fun _ member => member⟩ dispatching
  refine ⟨dispatched.kept, .trans (keeping.met.mono fun command member =>
    dispatched.met command ?_) (paired.told.radio fun command member =>
      dispatched.met command (List.mem_append_right _ member))⟩
  rw [commands]
  exact List.mem_append_left _ member

end HidShift
