import HidShift.Runtime.BooksAfter

namespace HidShift

open Lib InPlace

variable {capacity : Nat}

namespace RuntimeBooks

def slotFor (books : RuntimeBooks) (interfaceId : InterfaceId) : Option Nat :=
  (SlotTable.slotIndex? UsbHidInterfaceRuntimeState.interfaceId
    books.interfaces interfaceId).or (SlotTable.freeIndex? books.interfaces)

def plugIn (books : RuntimeBooks) (interface : UsbHidInterfaceRuntimeState) :
    RuntimeBooks :=
  match books.slotFor interface.interfaceId with
  | some index =>
      { books with interfaces := books.interfaces.set index (some interface) }
  | none => books

def drop (books : RuntimeBooks) (interfaceId : InterfaceId) : RuntimeBooks :=
  match SlotTable.slotIndex? UsbHidInterfaceRuntimeState.interfaceId
      books.interfaces interfaceId with
  | some index =>
      { books with interfaces := books.interfaces.set index none }
  | none => books

def carried (books : RuntimeBooks) (profileId : InputProfileId) : Bool :=
  books.interfaces.reduceOption.any (·.inputProfileId = some profileId)

def disconnect (books : RuntimeBooks) (profileId : InputProfileId) :
    RuntimeBooks :=
  if books.carried profileId then
    books
  else
    { books with profiles := disconnectMark books.profiles profileId }

def forgetSource (build : Build) (books : RuntimeBooks) (deviceId : DeviceId) :
    RuntimeBooks :=
  match build with
  | .single => books
  | .dual => { books with
      mirrorCandidates := books.mirrorCandidates.clearSource deviceId }

def finishRemoval (build : Build) (books : RuntimeBooks)
    (removed : UsbHidInterfaceRuntimeState) : RuntimeBooks :=
  if (books.interfaces.reduceOption.filter
      (·.deviceId = removed.deviceId)).isEmpty then
    (match removed.inputProfileId with
      | some profileId => books.disconnect profileId
      | none => books).forgetSource build removed.deviceId
  else
    books

def unplug (build : Build) (books : RuntimeBooks) (interfaceId : InterfaceId) :
    RuntimeBooks :=
  match SlotTable.lookup UsbHidInterfaceRuntimeState.interfaceId
      books.interfaces interfaceId with
  | some removed => (books.drop interfaceId).finishRemoval build removed
  | none => books.drop interfaceId

def list (books : RuntimeBooks) (metadata : MirrorCandidateMetadata) :
    RuntimeBooks :=
  { books with mirrorCandidates :=
      (books.mirrorCandidates.register metadata).getD books.mirrorCandidates }

def profileResult (books : RuntimeBooks) (result : ProfileResult) :
    RuntimeBooks :=
  let noted := { books with lastProfileResult := some result }
  match books.pendingMirrorCandidate with
  | some metadata =>
      if metadata.profileHash = result.profileHash then
        let settled := { noted with pendingMirrorCandidate := none }
        if result.status.isStored then settled.list metadata else settled
      else
        noted
  | none => noted

def profileStored (books : RuntimeBooks) (profileHash : UInt32) : Bool :=
  books.lastProfileResult.any fun result =>
    result.profileHash = profileHash ∧ result.status.isStored

def registerCandidate (books : RuntimeBooks)
    (metadata : MirrorCandidateMetadata) : RuntimeBooks :=
  if books.profileStored metadata.profileHash then
    match books.mirrorCandidates.register metadata with
    | none => books
    | some mirrorCandidates => { books with
        mirrorCandidates := mirrorCandidates
        pendingMirrorCandidate := none }
  else
    { books with pendingMirrorCandidate := some metadata }

def clearCandidate (books : RuntimeBooks) (candidate : MirrorCandidateId) :
    RuntimeBooks :=
  { books with
    mirrorCandidates := (books.mirrorCandidates.clear candidate).getD
      books.mirrorCandidates
    pendingMirrorCandidate := none }

def sourceGone (books : RuntimeBooks) (deviceId : DeviceId) : RuntimeBooks :=
  { books with
    mirrorCandidates := books.mirrorCandidates.clearSource deviceId
    pendingMirrorCandidate := books.pendingMirrorCandidate.filter
      (·.sourceDevice ≠ some deviceId) }

def restore (books : RuntimeBooks) (storage : StorageState) : RuntimeBooks :=
  { books with
    pairing := none
    pairable := none
    profiles := storage.inputProfiles.marks }

variable {books : RuntimeBooks} {result : ProfileResult}
  {metadata : MirrorCandidateMetadata}

theorem profileResult_noted (other : books.pendingMirrorCandidate.any
      (·.profileHash = result.profileHash) = false) :
    books.profileResult result =
      { books with lastProfileResult := some result } := by
  unfold profileResult
  cases waiting : books.pendingMirrorCandidate with
  | none => simp only [← waiting]
  | some metadata =>
      rw [waiting] at other
      have different := of_decide_eq_false other
      simp only [if_neg different, ← waiting]

theorem profileResult_settled
    (waiting : books.pendingMirrorCandidate = some metadata)
    (same : metadata.profileHash = result.profileHash) :
    books.profileResult result =
      if result.status.isStored then
        RuntimeBooks.list { books with
          lastProfileResult := some result
          pendingMirrorCandidate := none } metadata
      else
        { books with
          lastProfileResult := some result
          pendingMirrorCandidate := none } := by
  unfold profileResult
  simp only [waiting, if_pos same]

theorem registerCandidate_waits
    (unknown : books.profileStored metadata.profileHash = false) :
    books.registerCandidate metadata =
      { books with pendingMirrorCandidate := some metadata } := by
  unfold registerCandidate
  rw [if_neg (Bool.eq_false_iff.mp unknown)]

theorem registerCandidate_outside
    (stored : books.profileStored metadata.profileHash = true)
    (outside : books.mirrorCandidates.register metadata = none) :
    books.registerCandidate metadata = books := by
  unfold registerCandidate
  simp only [if_pos stored, outside]

theorem registerCandidate_listed {listed : MirrorCandidateRegistry}
    (stored : books.profileStored metadata.profileHash = true)
    (inside : books.mirrorCandidates.register metadata = some listed) :
    books.registerCandidate metadata =
      { books with
        mirrorCandidates := listed
        pendingMirrorCandidate := none } := by
  unfold registerCandidate
  simp only [if_pos stored, inside]

end RuntimeBooks

def UsbHidInterfaceRuntimeState.describe (deviceId : DeviceId)
    (identity : InputIdentity) (name : FixedName) (flags : UInt8)
    (profileId : InputProfileId) (interface : UsbHidInterfaceRuntimeState) :
    UsbHidInterfaceRuntimeState :=
  if interface.deviceId = deviceId then
    { interface with
      vendorId := identity.vendorId
      productId := identity.productId
      name := name
      flags := interface.flags ||| flags
      inputProfileId := some profileId }
  else
    interface

namespace BridgeRuntime

/-- A device is described: its profile is connected and its interfaces carry
it. -/
def describedBooks (runtime : BridgeRuntime) (deviceId : DeviceId)
    (identity : InputIdentity) (name : FixedName) (flags : UInt8) :
    RuntimeBooks :=
  match runtime.inputProfiles.observe identity with
  | (registry, .ok profileId) => { runtime.books with
      profiles := registry.marks
      interfaces := runtime.usbInterfaces.map
        (·.map (.describe deviceId identity name flags profileId)) }
  | (_, .error _) => runtime.books

def booksAfter {build : Build} (runtime : BridgeRuntime) :
    RuntimeInput build → RuntimeBooks
  | .bridgeEvent event => runtime.books.observe event
  | .buttonIntent intent nowMs => runtime.buttonBooks build intent nowMs
  | .managementRequest _ request nowMs =>
      runtime.managementBooks nowMs request.command
  | .tick nowMs => ({ runtime.books with nowMs := nowMs } :
      RuntimeBooks).expire nowMs
  | .bleHostEvent hostId event => runtime.books.bleHostEvent build hostId event
  | .usbHidInterfaceConnected interfaceId deviceId ledOutput =>
      runtime.books.plugIn (freshInterface interfaceId deviceId ledOutput)
  | .usbHidInterfaceDisconnected interfaceId =>
      runtime.books.unplug build interfaceId
  | .usbDeviceMetadataUpdated deviceId identity name flags =>
      runtime.describedBooks deviceId identity name flags
  | .deviceProfileResult result => runtime.books.profileResult result
  | .mirrorCandidateRegistered candidate stableId (some profileHash) synthetic
      sourceDevice => runtime.books.registerCandidate
        ⟨candidate, stableId, profileHash, synthetic, sourceDevice⟩
  | .mirrorCandidateRegistered candidate _ none _ _ =>
      runtime.books.clearCandidate candidate
  | .mirrorSourceDisconnected deviceId => runtime.books.sourceGone deviceId
  | .restoreStorage storage => runtime.books.restore storage
  | _ => runtime.books

end BridgeRuntime

section

variable {build : Build} {actions : Nat} {runtime : BridgeRuntime}
  {start : Option HostId} {books : RuntimeBooks} {demand : Demand}

theorem upsertUsbHidInterface_books
    (taken : runtime.upsertUsbHidInterface interface = .ok next) :
    next.books = runtime.books.plugIn interface := by
  unfold BridgeRuntime.upsertUsbHidInterface at taken
  unfold RuntimeBooks.plugIn RuntimeBooks.slotFor
  cases found : (SlotTable.slotIndex? UsbHidInterfaceRuntimeState.interfaceId
      runtime.usbInterfaces interface.interfaceId).or
        (SlotTable.freeIndex? runtime.usbInterfaces) with
  | none =>
      rw [found] at taken
      cases taken
  | some index =>
      rw [found] at taken
      cases taken
      simp only [show runtime.books.interfaces = runtime.usbInterfaces from rfl,
        found]
      rfl

theorem dropUsbHidInterface_books (interfaceId : InterfaceId) :
    (runtime.dropUsbHidInterface interfaceId).books =
      runtime.books.drop interfaceId := by
  unfold BridgeRuntime.dropUsbHidInterface RuntimeBooks.drop
  simp only [show runtime.books.interfaces = runtime.usbInterfaces from rfl]
  cases SlotTable.slotIndex? UsbHidInterfaceRuntimeState.interfaceId
      runtime.usbInterfaces interfaceId <;> rfl

theorem agrees_plugIn (agrees : books.Agrees)
    (interface : UsbHidInterfaceRuntimeState) :
    (books.plugIn interface).Agrees ∧
      (books.plugIn interface).pairable = books.pairable := by
  unfold RuntimeBooks.plugIn
  cases books.slotFor interface.interfaceId with
  | none => exact ⟨agrees, rfl⟩
  | some index => exact ⟨agrees, rfl⟩

theorem agrees_drop (agrees : books.Agrees) (interfaceId : InterfaceId) :
    (books.drop interfaceId).Agrees ∧
      (books.drop interfaceId).pairable = books.pairable := by
  unfold RuntimeBooks.drop
  cases SlotTable.slotIndex? UsbHidInterfaceRuntimeState.interfaceId
      books.interfaces interfaceId with
  | none => exact ⟨agrees, rfl⟩
  | some index => exact ⟨agrees, rfl⟩

theorem books_register (agrees : runtime.books.Agrees)
    (interfaceId : InterfaceId) (deviceId : DeviceId)
    (ledOutput : Option KeyboardLedOutputReport) :
    Leads (· = startOf capacity runtime)
      (registerUsbHidInterface build actions interfaceId deviceId ledOutput)
      (Kept runtime.bridge.pairableHost
        (runtime.books.plugIn (BridgeRuntime.freshInterface interfaceId
          deviceId ledOutput))) := by
  apply leads_readStart
  refine leads_lift_bind fun next taken => ?_
  have plugged := upsertUsbHidInterface_books taken
  obtain ⟨agreed, pairable⟩ := agrees_plugIn agrees
    (BridgeRuntime.freshInterface interfaceId deviceId ledOutput)
  have stored : Leads (· = startOf capacity runtime) (modifyRuntime fun _ => next)
      (Kept runtime.bridge.pairableHost (runtime.books.plugIn
        (BridgeRuntime.freshInterface interfaceId deviceId ledOutput))) := by
    apply leads_modify
    rintro _ rfl
    refine ⟨plugged, ?_⟩
    rw [pairable]
    exact .same
  refine leads_bind stored fun _ => leads_bind
    (leads_tryCatch (keeping_handleTo pairable rfl agreed) fun error => ?_)
      fun _ => leads_bind ?_ fun _ => leads_whenever keeping_reconcile
  · exact leads_bind (leads_of_keeps fun _ _ => trivial) fun _ => leads_throw
  · exact leads_whenever (keeping_modify fun _ => rfl)

theorem keeping_lazySnapshot : KeepsBooks demand books (do
    InPlace.when (← readRuntime).storageHealth.allowsPersistentMutation
      (pushStorageSnapshot build .lazy) : RuntimeM capacity Unit) :=
  keeping_read fun _ _ => leads_whenever (keeping_snapshot build _)

theorem keeping_disconnectProfile (profileId : InputProfileId) :
    Leads (Keeping demand books) (@disconnectProfile capacity build profileId)
      (Keeping demand (books.disconnect profileId)) := by
  refine keeping_read fun runtime is => ?_
  have evidence : runtime.usbInterfaces.reduceOption.all
      (·.inputProfileId ≠ some profileId) = !books.carried profileId := by
    rw [← is]
    unfold RuntimeBooks.carried
    rw [List.not_any_eq_all_not]
    refine congrArg _ (funext fun interface => ?_)
    exact decide_not
  unfold RuntimeBooks.disconnect
  rw [evidence]
  cases books.carried profileId with
  | true => exact keeping_pure ()
  | false =>
      have disconnected : Leads (Keeping demand books)
          (@modifyRuntime capacity fun runtime => { runtime with
            inputProfiles := runtime.inputProfiles.disconnect profileId })
          (Keeping demand { books with
            profiles := disconnectMark books.profiles profileId }) := by
        apply keeping_update
        rintro runtime rfl
        unfold BridgeRuntime.books
        dsimp only
        rw [InputProfileRegistry.marks_disconnect]
      exact leads_bind disconnected fun _ => keeping_lazySnapshot

theorem keeping_forgetSource (deviceId : DeviceId) :
    Leads (Keeping demand books) (@forgetSource capacity build deviceId)
      (Keeping demand (books.forgetSource build deviceId)) := by
  cases build with
  | single => exact keeping_pure ()
  | dual =>
      unfold HidShift.forgetSource
      apply keeping_update
      rintro runtime rfl
      rfl

theorem keeping_finishRemoval (removed : UsbHidInterfaceRuntimeState) :
    Leads (Keeping demand books) (@finishDeviceRemoval capacity build removed)
      (Keeping demand (books.finishRemoval build removed)) := by
  refine keeping_read fun runtime is => ?_
  have evidence : runtime.interfacesOf removed.deviceId =
      books.interfaces.reduceOption.filter (·.deviceId = removed.deviceId) := by
    rw [← is]
    rfl
  unfold RuntimeBooks.finishRemoval
  rw [evidence]
  refine leads_when (fun gone => ?_) fun left _ keeping => ?_
  · rw [if_pos gone]
    have rest : ∀ {next : RuntimeBooks}, Leads (Keeping demand next) (do
        modifyRuntime (·.recordHistory 4 removed.deviceId.val 0 0 0)
        HidShift.forgetSource build removed.deviceId
        reconcilePresentation build : RuntimeM capacity Unit)
        (Keeping demand (next.forgetSource build removed.deviceId)) :=
      leads_bind (keeping_modify fun _ => rfl) fun _ =>
        leads_bind (keeping_forgetSource _) fun _ => keeping_reconcile
    cases removed.inputProfileId with
    | none => exact rest
    | some profileId =>
        exact leads_bind (keeping_disconnectProfile profileId) fun _ => rest
  · rw [if_neg left]
    exact keeping

theorem finishRemoval_pairable (removed : UsbHidInterfaceRuntimeState) :
    (books.finishRemoval build removed).pairing = books.pairing ∧
      (books.finishRemoval build removed).pairable = books.pairable := by
  have forgotten : ∀ next : RuntimeBooks,
      (next.forgetSource build removed.deviceId).pairing = next.pairing ∧
        (next.forgetSource build removed.deviceId).pairable =
          next.pairable := by
    intro next
    cases build <;> exact ⟨rfl, rfl⟩
  unfold RuntimeBooks.finishRemoval
  split
  · rw [(forgotten _).1, (forgotten _).2]
    cases removed.inputProfileId with
    | none => exact ⟨rfl, rfl⟩
    | some profileId =>
        dsimp only
        unfold RuntimeBooks.disconnect
        split <;> exact ⟨rfl, rfl⟩
  · exact ⟨rfl, rfl⟩

theorem books_unregister (agrees : runtime.books.Agrees)
    (interfaceId : InterfaceId) :
    Leads (· = startOf capacity runtime)
      (unregisterUsbDevice build actions interfaceId)
      (Kept runtime.bridge.pairableHost
        (runtime.books.unplug build interfaceId)) := by
  apply leads_readStart
  obtain ⟨agreed, pairable⟩ := agrees_drop agrees interfaceId
  have dropped : Leads (· = startOf capacity runtime)
      (modifyRuntime (·.dropUsbHidInterface interfaceId))
      (Kept runtime.bridge.pairableHost (runtime.books.drop interfaceId)) := by
    apply leads_modify
    rintro _ rfl
    refine ⟨dropUsbHidInterface_books interfaceId, ?_⟩
    rw [pairable]
    exact .same
  refine leads_bind dropped fun _ => leads_bind
    (keeping_handleTo pairable rfl agreed) fun _ => ?_
  unfold RuntimeBooks.unplug
  rw [show SlotTable.lookup UsbHidInterfaceRuntimeState.interfaceId
    runtime.books.interfaces interfaceId =
      runtime.usbHidInterface interfaceId from rfl]
  cases runtime.usbHidInterface interfaceId with
  | none => exact keeping_pure ()
  | some removed =>
      have finished := @keeping_finishRemoval capacity build
        (runtime.books.drop interfaceId) (.radio runtime.bridge.pairableHost
          (runtime.books.drop interfaceId).pairable) removed
      dsimp only
      unfold Kept
      rw [(finishRemoval_pairable removed).2]
      exact finished

theorem describeDevice_books (deviceId : DeviceId) (identity : InputIdentity)
    (name : FixedName) (flags : UInt8) (profileId : InputProfileId) :
    (runtime.describeDevice deviceId identity name flags profileId).books =
      { runtime.books with
        interfaces := runtime.usbInterfaces.map
          (·.map (.describe deviceId identity name flags profileId)) } := rfl

theorem books_describe (deviceId : DeviceId) (identity : InputIdentity)
    (name : FixedName) (flags : UInt8) :
    Leads (· = startOf capacity runtime)
      (usbDeviceMetadataUpdated build deviceId identity name flags)
      (Kept runtime.bridge.pairableHost
        (runtime.describedBooks deviceId identity name flags)) := by
  refine leads_clearStart fun _ => leads_readStart ?_
  unfold BridgeRuntime.describedBooks
  rcases runtime.inputProfiles.observe identity with ⟨registry, observed⟩
  have noted : Leads (· = startOf capacity runtime)
      (modifyRuntime fun runtime =>
        { runtime with inputProfiles := registry })
      (Kept runtime.bridge.pairableHost
        { runtime.books with profiles := registry.marks }) := by
    apply leads_modify
    rintro _ rfl
    exact ⟨rfl, .same⟩
  refine leads_bind noted fun _ => leads_lift_bind fun profileId ok => ?_
  subst ok
  have described : Leads (Kept runtime.bridge.pairableHost
      { runtime.books with profiles := registry.marks })
      (@modifyRuntime capacity
        (·.describeDevice deviceId identity name flags profileId))
      (Kept runtime.bridge.pairableHost { runtime.books with
        profiles := registry.marks
        interfaces := runtime.usbInterfaces.map
          (·.map (.describe deviceId identity name flags profileId)) }) := by
    apply keeping_update
    intro noted is
    rw [describeDevice_books, is, show noted.usbInterfaces =
      runtime.usbInterfaces from congrArg RuntimeBooks.interfaces is]
  exact leads_bind described fun _ =>
    keeping_read fun _ _ => leads_whenever (keeping_snapshot build _)

end

section

variable {actions : Nat} {runtime : BridgeRuntime} {start : Option HostId}
  {books : RuntimeBooks} {demand : Demand}

theorem keeping_presentRegistered (candidate : MirrorCandidateId)
    (replaced : Bool) : KeepsBooks demand books
      (@presentRegistered capacity candidate replaced) := by
  have activated : KeepsBooks demand books
      (@activateSelectedMirrorCandidate capacity candidate) :=
    keeping_read fun _ _ => leads_whenever (keeping_beginPresentation _)
  exact leads_bind activated fun _ => keeping_read fun _ _ =>
    leads_whenever (keeping_beginPresentation none)

theorem books_profileResult (result : ProfileResult) :
    Leads (· = startOf capacity runtime) (deviceProfileResult result)
      (Kept runtime.bridge.pairableHost
        (runtime.books.profileResult result)) := by
  have noted : Leads (Kept runtime.bridge.pairableHost runtime.books)
      (@modifyRuntime capacity fun runtime =>
        { runtime with lastProfileResult := some result })
      (Kept runtime.bridge.pairableHost
        { runtime.books with lastProfileResult := some result }) := by
    apply keeping_update
    rintro runtime is
    rw [← is]
    rfl
  refine leads_startOf (leads_bind (keeping_fresh (by rfl)) fun _ =>
    leads_bind noted fun _ => keeping_read fun current is => ?_)
  have pending : current.pendingMirrorCandidate =
      runtime.pendingMirrorCandidate :=
    congrArg RuntimeBooks.pendingMirrorCandidate is
  have matched : current.pendingMatches result =
      runtime.pendingMatches result := by
    unfold BridgeRuntime.pendingMatches
    rw [pending]
  rw [pending, matched]
  refine leads_when (fun matching => ?_) fun other _ keeping => ?_
  · obtain ⟨metadata, waiting, same⟩ := (Option.any_eq_true _ _).mp matching
    have settles := @RuntimeBooks.profileResult_settled runtime.books result
      metadata waiting (of_decide_eq_true same)
    rw [settles]
    have settled : Leads (Kept runtime.bridge.pairableHost
        { runtime.books with lastProfileResult := some result })
        (@modifyRuntime capacity fun runtime =>
          { runtime with pendingMirrorCandidate := none })
        (Kept runtime.bridge.pairableHost { runtime.books with
          lastProfileResult := some result
          pendingMirrorCandidate := none }) := by
      apply keeping_update
      intro current is
      show { current.books with pendingMirrorCandidate := none } = _
      rw [is]
    rw [waiting]
    refine leads_bind settled fun _ => ?_
    cases result.status.isStored with
    | false => exact keeping_pure ()
    | true =>
        have listed : Leads (Kept runtime.bridge.pairableHost
            { runtime.books with
              lastProfileResult := some result
              pendingMirrorCandidate := none })
            (@modifyRuntime capacity fun runtime => { runtime with
              mirrorCandidates := (runtime.mirrorCandidates.register
                metadata).getD runtime.mirrorCandidates })
            (Kept runtime.bridge.pairableHost
              (RuntimeBooks.list { runtime.books with
                lastProfileResult := some result
                pendingMirrorCandidate := none } metadata)) := by
          apply keeping_update
          intro current is
          show current.books.list metadata = _
          rw [is]
        exact leads_bind listed fun _ => keeping_presentRegistered _ _
  · have notes := @RuntimeBooks.profileResult_noted runtime.books result
      (Bool.eq_false_iff.mpr other)
    rw [notes]
    exact keeping

theorem books_registerCandidate (metadata : MirrorCandidateMetadata) :
    Leads (· = startOf capacity runtime) (registerMirrorCandidate metadata)
      (Kept runtime.bridge.pairableHost
        (runtime.books.registerCandidate metadata)) := by
  apply leads_readStart
  have update : ∀ change : BridgeRuntime → BridgeRuntime,
      ∀ next : RuntimeBooks, (∀ current, current.books = runtime.books →
        (change current).books = next) → next.pairable =
          runtime.books.pairable →
      Leads (Kept runtime.bridge.pairableHost runtime.books)
        (@modifyRuntime capacity change)
        (Kept runtime.bridge.pairableHost next) := by
    intro change next becomes pairable
    unfold Kept
    rw [pairable]
    exact keeping_update becomes
  have known : runtime.books.profileStored metadata.profileHash =
      runtime.profileStored metadata.profileHash := rfl
  cases stored : runtime.profileStored metadata.profileHash with
  | false =>
      rw [RuntimeBooks.registerCandidate_waits (known.trans stored),
        if_neg Bool.false_ne_true]
      apply leads_startOf
      apply update
      · intro current is
        rw [← is]
        rfl
      · rfl
  | true =>
      rw [if_pos rfl]
      cases listed : runtime.mirrorCandidates.register metadata with
      | none =>
          have same := @RuntimeBooks.registerCandidate_outside runtime.books
            metadata (known.trans stored) listed
          rw [same]
          exact leads_startOf (keeping_pure ())
      | some mirrorCandidates =>
          have lists := @RuntimeBooks.registerCandidate_listed runtime.books
            metadata mirrorCandidates (known.trans stored) listed
          rw [lists]
          refine leads_startOf (leads_bind (update _ _ ?_ ?_) fun _ =>
            keeping_presentRegistered _ _)
          · intro current is
            rw [← is]
            rfl
          · rfl

theorem books_clearCandidate (candidate : MirrorCandidateId) :
    Leads (· = startOf capacity runtime) (clearMirrorCandidate candidate)
      (Kept runtime.bridge.pairableHost
        (runtime.books.clearCandidate candidate)) := by
  apply leads_readStart
  have cleared : Leads (Kept runtime.bridge.pairableHost runtime.books)
      (@modifyRuntime capacity fun runtime => { runtime with
        mirrorCandidates := (runtime.mirrorCandidates.clear candidate).getD
          runtime.mirrorCandidates
        pendingMirrorCandidate := none })
      (Kept runtime.bridge.pairableHost
        (runtime.books.clearCandidate candidate)) := by
    apply keeping_update
    intro current is
    rw [← is]
    rfl
  exact leads_startOf (leads_bind cleared fun _ =>
    leads_whenever (keeping_beginPresentation none))

theorem books_sourceGone (deviceId : DeviceId) :
    Leads (· = startOf capacity runtime) (mirrorSourceDisconnected deviceId)
      (Kept runtime.bridge.pairableHost
        (runtime.books.sourceGone deviceId)) := by
  have gone : Leads (Kept runtime.bridge.pairableHost runtime.books)
      (@modifyRuntime capacity fun runtime => { runtime with
        mirrorCandidates := runtime.mirrorCandidates.clearSource deviceId
        pendingMirrorCandidate := runtime.pendingMirrorCandidate.filter
          (·.sourceDevice ≠ some deviceId) })
      (Kept runtime.bridge.pairableHost
        (runtime.books.sourceGone deviceId)) := by
    apply keeping_update
    intro current is
    rw [← is]
    rfl
  exact leads_startOf (leads_bind (keeping_fresh (by rfl)) fun _ =>
    leads_bind gone fun _ => keeping_reconcileWired)

theorem keeping_mirrorOut (unchanged : books.pairable = start)
    (report : RawEndpointReport) :
    KeepsBooks (.radio start books.pairable) books
      (@mirrorEndpointOut capacity report) := by
  refine leads_bind (keeping_fresh unchanged) fun _ =>
    leads_bind (keeping_modify fun _ => rfl) fun _ =>
      keeping_read fun runtime _ => ?_
  cases runtime.activePhysicalMirrorSource with
  | none => exact keeping_pure ()
  | some deviceId => exact keeping_push _

theorem keeping_mirrorControl (unchanged : books.pairable = start)
    (request : MirrorControlRequest) :
    KeepsBooks (.radio start books.pairable) books
      (@mirrorControlRequest capacity request) := by
  refine leads_bind (keeping_fresh unchanged) fun _ =>
    leads_bind (keeping_modify fun _ => rfl) fun _ =>
      keeping_read fun runtime _ => ?_
  cases runtime.activePhysicalMirrorSource with
  | none => exact keeping_pure ()
  | some deviceId => exact keeping_push _

theorem keeping_usbEndpointIn (agrees : books.Agrees)
    (unchanged : books.pairable = start) (deviceId : DeviceId)
    (report : RawEndpointReport) (standard : Option InputFrame) :
    KeepsBooks (.radio start books.pairable) books
      (@usbEndpointIn capacity actions deviceId report standard) := by
  refine leads_bind (keeping_fresh unchanged) fun _ =>
    keeping_read fun runtime _ => leads_ite (keeping_push _) ?_
  cases standard with
  | none => exact keeping_pure ()
  | some frame =>
      exact keeping_bridgeEvent agrees unchanged (.inputFrame frame)

theorem keeping_deviceUsbState (agrees : books.Agrees)
    (unchanged : books.pairable = start) (state : UsbState) :
    KeepsBooks (.radio start books.pairable) books
      (@deviceUsbState capacity actions state) := by
  refine leads_bind (keeping_fresh unchanged) fun _ => leads_ite ?_
    (keeping_read fun _ _ => leads_ite ?_ ?_)
  · exact leads_bind (keeping_modify fun _ => rfl) fun _ =>
      keeping_appendTo rfl agrees
  · exact leads_bind (keeping_modify fun _ => rfl) fun _ =>
      keeping_appendTo rfl agrees
  · refine keeping_read fun _ _ => leads_bind (keeping_modify fun _ => rfl)
      fun _ => leads_bind (keeping_appendTo rfl agrees) fun _ => ?_
    exact keeping_read fun _ _ => keeping_push _

end

variable {build : Build} {actions events : Nat} {runtime : BridgeRuntime}
  {start : Option HostId} {books : RuntimeBooks} {demand : Demand}

section

variable (unchanged : books.pairable = start)

include unchanged

theorem keeping_quietly
    (same : ∀ runtime, (update runtime).books = runtime.books) :
    KeepsBooks (.radio start books.pairable) books
      (@updateQuietly capacity update) :=
  leads_bind (keeping_fresh unchanged) fun _ => keeping_modify same

theorem keeping_answer (command : RuntimeCommand) :
    KeepsBooks (.radio start books.pairable) books
      (@answerWith capacity command) :=
  leads_bind (keeping_fresh unchanged) fun _ => keeping_push command

theorem keeping_hostName (hostId : HostId) (name : FixedName) :
    KeepsBooks (.radio start books.pairable) books
      (@hostNameDiscovered capacity hostId name) :=
  leads_bind (keeping_fresh unchanged) fun _ => keeping_read fun _ _ =>
    leads_bind (leads_lift _ _) fun _ => keeping_modify fun _ => rfl

end

theorem applyDiagnosticsEvent_books (runtime : BridgeRuntime)
    (event : RuntimeDiagnosticsEvent) :
    (runtime.applyDiagnosticsEvent event).books = runtime.books := by
  cases event with
  | bleNotifyTimedOut criticalRelease => cases criticalRelease <;> rfl
  | flashWrite succeeded => cases succeeded <;> rfl
  | bleDisconnected hostId reason =>
      unfold BridgeRuntime.applyDiagnosticsEvent
        BridgeRuntime.recordDisconnectReason
      dsimp only
      split <;> rfl
  | _ => rfl

theorem books_input (agrees : runtime.books.Agrees) (input : RuntimeInput build)
    (kept : ∀ storage, input ≠ .restoreStorage storage) :
    Leads (· = startOf capacity runtime)
      (handleInputInPlace build actions events input)
      (Kept runtime.bridge.pairableHost (runtime.booksAfter input)) := by
  have core : Leads (· = startOf capacity runtime)
      (handleInputCoreInPlace build actions events input)
      (Kept runtime.bridge.pairableHost (runtime.booksAfter input)) := by
    cases input with
    | bridgeEvent event =>
        exact leads_startOf (keeping_bridgeEvent agrees (by rfl) event)
    | buttonIntent intent nowMs => exact books_button agrees intent nowMs
    | managementRequest destination request nowMs =>
        exact books_management agrees destination request nowMs
    | tick nowMs => exact leads_startOf (keeping_tick agrees (by rfl) nowMs)
    | bleHostEvent hostId event =>
        exact leads_startOf
          (keeping_bleHost agrees (by rfl) events hostId event)
    | usbHidInterfaceConnected interfaceId deviceId ledOutput =>
        exact books_register agrees interfaceId deviceId ledOutput
    | usbHidInterfaceDisconnected interfaceId =>
        exact books_unregister agrees interfaceId
    | usbDeviceMetadataUpdated deviceId identity name flags =>
        exact books_describe deviceId identity name flags
    | hostNameDiscovered hostId name =>
        cases build <;>
          exact leads_startOf (keeping_hostName (by rfl) hostId name)
    | diagnosticsEvent event =>
        cases build <;> exact leads_startOf (keeping_quietly (by rfl) fun _ =>
          applyDiagnosticsEvent_books _ event)
    | storageHealthChanged health =>
        cases build <;>
          exact leads_startOf (keeping_quietly (by rfl) fun _ => rfl)
    | deviceCommandRequested command =>
        exact leads_startOf (keeping_answer (by rfl) _)
    | deviceProfileResult result => exact books_profileResult result
    | mirrorEndpointOut report =>
        exact leads_startOf (keeping_mirrorOut (by rfl) report)
    | usbEndpointIn deviceId report standard =>
        exact leads_startOf
          (keeping_usbEndpointIn agrees (by rfl) deviceId report standard)
    | mirrorControlRequest request =>
        exact leads_startOf (keeping_mirrorControl (by rfl) request)
    | mirrorControlCompleted response =>
        exact leads_startOf (keeping_answer (by rfl) _)
    | deviceUsbState state =>
        exact leads_startOf (keeping_deviceUsbState agrees (by rfl) state)
    | mirrorCandidateRegistered candidate stableId profileHash synthetic
        sourceDevice =>
        apply leads_clearStart
        intro
        cases profileHash with
        | none => exact books_clearCandidate candidate
        | some profileHash => exact books_registerCandidate _
    | mirrorSourceDisconnected deviceId => exact books_sourceGone deviceId
    | restoreStorage storage => exact absurd rfl (kept storage)
  exact leads_bind core fun _ => keeping_power

theorem restoreStorageState_pairable {bridge next : BridgeState}
    (restored : bridge.restoreStorageState build storage = .ok next) :
    next.pairableHost = none := by
  unfold BridgeState.restoreStorageState at restored
  cases hosts : bridge.hosts.restore storage with
  | error error =>
      rw [hosts] at restored
      cases restored
  | ok hosts =>
      rw [hosts] at restored
      cases build <;> cases restored <;> rfl

theorem books_restore (storage : StorageState) :
    Leads (· = startOf capacity runtime)
      (handleInputInPlace build actions events (.restoreStorage storage))
      (fun work => work.runtime.books = runtime.books.restore storage) := by
  have restored : Leads (Keeping (.listed []) runtime.books)
      (@restoreBridge capacity build
        { storage with lastActiveHost := storage.bootHost })
      (Keeping (.listed []) { runtime.books with pairable := none }) := by
    refine keeping_read fun current is => ?_
    dsimp only
    cases restoring : current.bridge.restoreStorageState build
        { storage with lastActiveHost := storage.bootHost } with
    | error error =>
        have failed : KeepsBooks (.listed []) runtime.books
            (@modifyRuntime capacity fun runtime => { runtime with
              bridge := { current.bridge with
                hosts := current.bridge.hosts.partlyRestored
                  { storage with lastActiveHost := storage.bootHost } } }) := by
          apply keeping_update
          intro stored same
          show { stored.books with pairable := current.books.pairable } = _
          rw [same, is]
        exact leads_bind failed fun _ => leads_throw
    | ok bridge =>
        apply keeping_update
        intro stored is
        show { stored.books with pairable := bridge.pairableHost } = _
        rw [is, restoreStorageState_pairable restoring]
  have noted : Leads (Keeping (.listed [])
      { runtime.books with pairable := none })
      (@modifyRuntime capacity fun runtime =>
        { runtime.restoreMirrorTarget build storage with
          storageGeneration := storage.generation
          globalSettings := storage.globalSettings
          inputProfiles := storage.inputProfiles
          pairingMode := none })
      (Keeping (.listed []) (runtime.books.restore storage)) := by
    apply keeping_update
    intro stored is
    have target : (stored.restoreMirrorTarget build storage).books =
        stored.books := by
      cases build <;> rfl
    show { (stored.restoreMirrorTarget build storage).books with
      pairing := none
      profiles := storage.inputProfiles.marks } = _
    rw [target, is]
    rfl
  have core : Leads (· = startOf capacity runtime)
      (handleInputCoreInPlace build actions events (.restoreStorage storage))
      (Keeping (.listed []) (runtime.books.restore storage)) := by
    have handled : Leads (Keeping (.listed []) runtime.books)
        (@restoreStorageState capacity build storage)
        (Keeping (.listed []) (runtime.books.restore storage)) :=
      leads_bind (keeping_clear fun _ impossible =>
        absurd impossible List.not_mem_nil) fun _ =>
          leads_bind restored fun _ => leads_bind noted fun _ => keeping_push _
    have started : Leads (· = startOf capacity runtime)
        (@restoreStorageState capacity build storage)
        (Keeping (.listed []) (runtime.books.restore storage)) := by
      refine leads_weaken handled ?_
      rintro _ rfl
      exact ⟨rfl, fun _ impossible => absurd impossible List.not_mem_nil⟩
    cases build <;> exact started
  intro before done after same finished
  exact (leads_bind core (fun _ => keeping_power) before done after same
    finished).kept

theorem handleInput_books (agrees : runtime.books.Agrees)
    (handled : runtime.handleInput build actions events capacity input =
      .ok work) : work.runtime.books = runtime.booksAfter input := by
  have finished := handleInput_ok handled
  by_cases restores : ∃ storage, input = .restoreStorage storage
  · obtain ⟨storage, rfl⟩ := restores
    exact books_restore storage (startOf capacity runtime) () work rfl finished
  · exact (books_input agrees input (fun storage is =>
      restores ⟨storage, is⟩) (startOf capacity runtime) () work rfl
        finished).kept

theorem handleInput_tellsRadio (agrees : runtime.books.Agrees)
    (kept : ∀ storage, input ≠ .restoreStorage storage)
    (handled : runtime.handleInput build actions events capacity input =
      .ok work) :
    TellsRadio runtime.bridge.pairableHost work.runtime.bridge.pairableHost
      work.commands.toList := by
  have ended := books_input agrees input kept (startOf capacity runtime) () work
    rfl (handleInput_ok handled)
  have now : work.runtime.bridge.pairableHost =
      (runtime.booksAfter input).pairable :=
    congrArg RuntimeBooks.pairable ended.kept
  rw [now]
  exact ended.met

end HidShift
