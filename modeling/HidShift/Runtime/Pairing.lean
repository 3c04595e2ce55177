import HidShift.Runtime.BooksHandled

namespace HidShift

open Lib InPlace

variable {capacity : Nat} {build : Build}

def RuntimeCall.Handled (call : RuntimeCall build) (runtime : BridgeRuntime) :
    Prop :=
  (runtime.handleInput build call.actions call.events call.capacity
    call.input).isOk = true

theorem performed_books {call : RuntimeCall build}
    (agrees : runtime.books.Agrees)
    (performed : RuntimePerforms build runtime call commands next) :
    (¬ call.Handled runtime ∧ next = runtime ∧ commands = []) ∨
      (call.Handled runtime ∧ next.books = runtime.booksAfter call.input ∧
        ((∀ storage, call.input ≠ .restoreStorage storage) →
          TellsRadio runtime.bridge.pairableHost next.bridge.pairableHost
            commands)) := by
  unfold RuntimePerforms BridgeRuntime.perform at performed
  unfold RuntimeCall.Handled
  cases handled : runtime.handleInput build call.actions call.events
      call.capacity call.input with
  | error error =>
      simp only [handled, Prod.mk.injEq] at performed
      exact .inl ⟨Bool.false_ne_true, performed.1.symm, performed.2.symm⟩
  | ok work =>
      simp only [handled, Prod.mk.injEq] at performed
      obtain ⟨rfl, rfl⟩ := performed
      exact .inr ⟨rfl, handleInput_books agrees handled,
        fun kept => handleInput_tellsRadio agrees kept handled⟩

section

variable {books : RuntimeBooks}

theorem agrees_expire (agrees : books.Agrees) (nowMs : UInt64) :
    (books.expire nowMs).Agrees := by
  unfold RuntimeBooks.expire
  cases books.pairing with
  | none => exact agrees
  | some pairing =>
      dsimp only
      split
      · rfl
      · exact agrees

theorem agrees_execute {runtime : BridgeRuntime} (agrees : runtime.books.Agrees)
    (nowMs : UInt64) (command : ManagementCommand build) :
    (runtime.executeBooks nowMs command).Agrees := by
  unfold BridgeRuntime.executeBooks
  cases command with
  | startPairing hostId =>
      dsimp only
      split
      · exact agrees
      · split
        · exact agrees
        · rfl
  | forgetHost hostId =>
      dsimp only
      split
      · exact agrees
      · split
        · exact agrees
        · exact agrees.observe _
  | cancelPairing => rfl
  | _ => exact agrees

theorem agrees_button {runtime : BridgeRuntime} (agrees : runtime.books.Agrees)
    (intent : ButtonIntent) (nowMs : UInt64) :
    (runtime.buttonBooks build intent nowMs).Agrees := by
  unfold BridgeRuntime.buttonBooks
  generalize (runtime.configuredAction intent).toNat = action
  rcases action with _ | _ | _ | _ | _
  · exact agrees
  · exact agrees
  · cases runtime.bridge.hosts.pairingCandidate with
    | none => exact agrees
    | some hostId => rfl
  · cases runtime.bridge.hosts.activeTarget with
    | none => exact agrees
    | some hostId => exact agrees.observe _
  · exact agrees

def OnlyPairing (before after : RuntimeBooks) : Prop :=
  after = { before with
    pairing := after.pairing
    pairable := after.pairable
    nowMs := after.nowMs }

theorem OnlyPairing.devices (only : OnlyPairing before after) :
    after.interfaces = before.interfaces ∧
      after.profiles = before.profiles := by
  unfold OnlyPairing at only
  rw [only]
  exact ⟨rfl, rfl⟩

theorem OnlyPairing.mirrors (only : OnlyPairing before after) :
    after.mirrorCandidates = before.mirrorCandidates ∧
      after.pendingMirrorCandidate = before.pendingMirrorCandidate := by
  unfold OnlyPairing at only
  rw [only]
  exact ⟨rfl, rfl⟩

def RuntimeInput.aboutDevices : RuntimeInput build → Bool
  | .usbHidInterfaceConnected _ _ _ | .usbHidInterfaceDisconnected _
  | .usbDeviceMetadataUpdated _ _ _ _ | .deviceProfileResult _
  | .mirrorCandidateRegistered _ _ _ _ _ | .mirrorSourceDisconnected _
  | .restoreStorage _ => true
  | _ => false

theorem onlyPairing_execute {runtime : BridgeRuntime} (nowMs : UInt64)
    (command : ManagementCommand build) :
    OnlyPairing runtime.books (runtime.executeBooks nowMs command) := by
  unfold BridgeRuntime.executeBooks
  cases command with
  | startPairing hostId =>
      dsimp only
      split
      · rfl
      · split <;> rfl
  | forgetHost hostId =>
      dsimp only
      split
      · rfl
      · split <;> rfl
  | _ => rfl

theorem onlyPairing_button {runtime : BridgeRuntime} (intent : ButtonIntent)
    (nowMs : UInt64) :
    OnlyPairing runtime.books (runtime.buttonBooks build intent nowMs) := by
  unfold BridgeRuntime.buttonBooks
  split
  · cases runtime.bridge.hosts.pairingCandidate <;> rfl
  · cases runtime.bridge.hosts.activeTarget <;> rfl
  · rfl

theorem onlyPairing_input {runtime : BridgeRuntime} {input : RuntimeInput build}
    (other : input.aboutDevices = false) :
    OnlyPairing runtime.books (runtime.booksAfter input) := by
  cases input with
  | buttonIntent intent nowMs => exact onlyPairing_button intent nowMs
  | managementRequest destination request nowMs =>
      show OnlyPairing _ (runtime.managementBooks nowMs request.command)
      unfold BridgeRuntime.managementBooks
      split
      · rfl
      · exact onlyPairing_execute nowMs request.command
  | tick nowMs =>
      show OnlyPairing runtime.books (RuntimeBooks.expire _ nowMs)
      unfold RuntimeBooks.expire
      split
      · split <;> rfl
      · rfl
  | bleHostEvent hostId event => cases event <;> rfl
  | usbHidInterfaceConnected => cases other
  | usbHidInterfaceDisconnected => cases other
  | usbDeviceMetadataUpdated => cases other
  | deviceProfileResult => cases other
  | mirrorCandidateRegistered => cases other
  | mirrorSourceDisconnected => cases other
  | restoreStorage => cases other
  | _ => rfl

def SamePairing (before after : RuntimeBooks) : Prop :=
  after.pairing = before.pairing ∧ after.pairable = before.pairable

variable {after : RuntimeBooks}

theorem SamePairing.agrees (same : SamePairing books after)
    (agrees : books.Agrees) : after.Agrees := by
  obtain ⟨pairing, pairable⟩ := same
  show after.pairing.map (·.hostId) = after.pairable
  rw [pairing, pairable]
  exact agrees

theorem samePairing_plugIn (interface : UsbHidInterfaceRuntimeState) :
    SamePairing books (books.plugIn interface) := by
  unfold RuntimeBooks.plugIn
  cases books.slotFor interface.interfaceId <;> exact ⟨rfl, rfl⟩

theorem samePairing_unplug (interfaceId : InterfaceId) :
    SamePairing books (books.unplug build interfaceId) := by
  have dropped : SamePairing books (books.drop interfaceId) := by
    unfold RuntimeBooks.drop
    cases SlotTable.slotIndex? UsbHidInterfaceRuntimeState.interfaceId
        books.interfaces interfaceId <;> exact ⟨rfl, rfl⟩
  unfold RuntimeBooks.unplug
  cases SlotTable.lookup UsbHidInterfaceRuntimeState.interfaceId
      books.interfaces interfaceId with
  | none => exact dropped
  | some removed =>
      obtain ⟨pairing, pairable⟩ := @finishRemoval_pairable build
        (books.drop interfaceId) removed
      exact ⟨pairing.trans dropped.1, pairable.trans dropped.2⟩

def OnlyMirrors (before after : RuntimeBooks) : Prop :=
  after = { before with
    mirrorCandidates := after.mirrorCandidates
    pendingMirrorCandidate := after.pendingMirrorCandidate
    lastProfileResult := after.lastProfileResult }

theorem OnlyMirrors.samePairing (only : OnlyMirrors books after) :
    SamePairing books after := by
  unfold OnlyMirrors at only
  rw [only]
  exact ⟨rfl, rfl⟩

theorem OnlyMirrors.devices (only : OnlyMirrors books after) :
    after.interfaces = books.interfaces ∧
      after.profiles = books.profiles := by
  unfold OnlyMirrors at only
  rw [only]
  exact ⟨rfl, rfl⟩

theorem onlyMirrors_profileResult (result : ProfileResult) :
    OnlyMirrors books (books.profileResult result) := by
  unfold RuntimeBooks.profileResult
  cases books.pendingMirrorCandidate with
  | none => rfl
  | some metadata =>
      dsimp only
      split
      · split <;> rfl
      · rfl

theorem onlyMirrors_registerCandidate (metadata : MirrorCandidateMetadata) :
    OnlyMirrors books (books.registerCandidate metadata) := by
  unfold RuntimeBooks.registerCandidate
  split
  · cases books.mirrorCandidates.register metadata <;> rfl
  · rfl

theorem samePairing_described {runtime : BridgeRuntime} (deviceId : DeviceId)
    (identity : InputIdentity) (name : FixedName) (flags : UInt8) :
    SamePairing runtime.books
      (runtime.describedBooks deviceId identity name flags) := by
  unfold BridgeRuntime.describedBooks
  rcases runtime.inputProfiles.observe identity with ⟨registry, _ | _⟩ <;>
    exact ⟨rfl, rfl⟩

theorem booksAfter_agrees {runtime : BridgeRuntime}
    (agrees : runtime.books.Agrees) (input : RuntimeInput build) :
    (runtime.booksAfter input).Agrees := by
  cases input with
  | bridgeEvent event => exact agrees.observe event
  | buttonIntent intent nowMs => exact agrees_button agrees intent nowMs
  | managementRequest destination request nowMs =>
      show (runtime.managementBooks nowMs request.command).Agrees
      unfold BridgeRuntime.managementBooks
      split
      · exact agrees
      · exact agrees_execute agrees nowMs request.command
  | tick nowMs =>
      exact @agrees_expire { runtime.books with nowMs := nowMs } agrees nowMs
  | bleHostEvent hostId event =>
      cases event with
      | securityChanged encrypted bonded bond => exact agrees.observe _
      | _ => exact agrees
  | usbHidInterfaceConnected interfaceId deviceId ledOutput =>
      exact (samePairing_plugIn _).agrees agrees
  | usbHidInterfaceDisconnected interfaceId =>
      exact (samePairing_unplug interfaceId).agrees agrees
  | usbDeviceMetadataUpdated deviceId identity name flags =>
      exact (samePairing_described deviceId identity name flags).agrees agrees
  | deviceProfileResult result =>
      exact (onlyMirrors_profileResult result).samePairing.agrees agrees
  | mirrorCandidateRegistered candidate stableId profileHash synthetic
      sourceDevice =>
      cases profileHash with
      | none => exact agrees
      | some profileHash =>
          exact (onlyMirrors_registerCandidate _).samePairing.agrees agrees
  | mirrorSourceDisconnected deviceId => exact agrees
  | restoreStorage storage => rfl
  | _ => exact agrees

theorem performed_agrees {call : RuntimeCall build}
    (agrees : runtime.books.Agrees)
    (performed : RuntimePerforms build runtime call commands next) :
    next.books.Agrees := by
  rcases performed_books agrees performed with
    ⟨-, rfl, -⟩ | ⟨-, turned, -⟩
  · exact agrees
  · rw [turned]
    exact booksAfter_agrees agrees call.input

end

section

variable {hosts usbInterfaces : Nat} {storageGeneration : UInt32}
  {finish : BridgeRuntime}
  {history : List (Transition BridgeRuntime (RuntimeCall build)
    (List RuntimeCommand))}

theorem run_agrees (run : RuntimeRun build
    (.new hosts usbInterfaces storageGeneration) history finish) :
    finish.books.Agrees :=
  run.invariant (·.books.Agrees) rfl fun _ _ performed agrees =>
    performed_agrees agrees performed

/-- In every reachable state the runtime and the bridge let the same host
pair, and every change of it but a restore is told to the radio. -/
theorem pairing_copies_agree (run : RuntimeRun build
    (.new hosts usbInterfaces storageGeneration) history finish) :
    (∀ hostId, finish.pairingMode.map (·.hostId) = some hostId ↔
      finish.bridge.pairableHost = some hostId) ∧
    ∀ taken ∈ history,
      (∀ storage, taken.event.input ≠ .restoreStorage storage) →
      TellsRadio taken.before.bridge.pairableHost
        taken.after.bridge.pairableHost taken.output := by
  constructor
  · intro hostId
    have agrees : finish.pairingMode.map (·.hostId) =
        finish.bridge.pairableHost := run_agrees run
    rw [agrees]
  · intro taken member kept
    obtain ⟨earlier, later, rfl⟩ := List.append_of_mem member
    obtain ⟨reached, performed, -⟩ := run.split_at
    rcases performed_books (run_agrees reached) performed with
      ⟨-, unchanged, -⟩ | ⟨-, -, told⟩
    · rw [unchanged]
      exact .same
    · exact told kept

end

namespace RuntimeScenario

def handedOver : List (RuntimeInput .single) :=
  [.buttonIntent .enterPairingMode 5, .bridgeEvent (.enterPairingMode ⟨2⟩)]

end RuntimeScenario

open RuntimeScenario in
theorem handedOver_pairing_agrees :
    (final handedOver).pairingMode.map (·.hostId) = some ⟨2⟩ ∧
      (final handedOver).bridge.pairableHost = some ⟨2⟩ := by
  have agrees := pairing_copies_agree
    (Run.of_trace BridgeRuntime.perform
      (.new storedHostsMax runtimeUsbInterfacesMax 0) (handedOver.map call))
  have paired : (final handedOver).pairingMode.map (·.hostId) = some ⟨2⟩ := by
    decide +kernel
  exact ⟨paired, (agrees.1 ⟨2⟩).mp paired⟩

end HidShift
