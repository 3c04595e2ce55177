import HidShift.Runtime.Books

namespace HidShift

open Lib InPlace

variable {capacity : Nat}

abbrev Kept (start : Option HostId) (books : RuntimeBooks)
    (work : RuntimeWork capacity) : Prop :=
  Keeping (.radio start books.pairable) books work

section

variable {build : Build} {actions : Nat} {start : Option HostId}
  {books next : RuntimeBooks} {demand : Demand}

theorem keeping_fresh (unchanged : books.pairable = start) :
    Leads (Kept start books) (@clearCommands capacity) (Kept start books) := by
  apply keeping_clear
  rw [unchanged]
  exact .same

theorem keeping_appendTo {event : BridgeEvent build}
    (reaches : books.observe event = next) (agrees : next.Agrees) :
    Leads (Kept start books)
      (@handleBridgeEventAppend capacity build actions event)
      (Kept start next) := by
  subst reaches
  exact keeping_append agrees

theorem keeping_handleTo {event : BridgeEvent build}
    (unchanged : books.pairable = start)
    (reaches : books.observe event = next) (agrees : next.Agrees) :
    Leads (Kept start books) (@handleBridgeEvent capacity build actions event)
      (Kept start next) :=
  leads_bind (keeping_fresh unchanged) fun _ =>
    keeping_appendTo reaches agrees

theorem keeping_pairing (pairing : Option PairingModeState) :
    Leads (Keeping demand books)
      (@modifyRuntime capacity fun runtime =>
        { runtime with pairingMode := pairing })
      (Keeping demand { books with pairing := pairing }) := by
  apply keeping_update
  rintro runtime rfl
  rfl

def RuntimeBooks.observeAll (books : RuntimeBooks)
    (list : List (BridgeEvent build)) : RuntimeBooks :=
  list.foldl .observe books

theorem keeping_events {list : List (BridgeEvent build)}
    (agrees : books.Agrees) :
    Leads (Kept start books)
      (@handleBridgeEventsAppend capacity build actions list)
      (Kept start (books.observeAll list)) := by
  induction list generalizing books with
  | nil => exact keeping_pure ()
  | cons head tail ih =>
      exact leads_bind (keeping_appendTo rfl (agrees.observe head)) fun _ =>
        ih (agrees.observe head)

theorem beginWiredPresentationTransition_pairable {bridge next : BridgeState}
    (begun : bridge.beginWiredPresentationTransition =
      .ok (next, operationId)) : next.pairableHost = bridge.pairableHost := by
  obtain ⟨captured, capturing, rest⟩ := bind_eq_ok.mp begun
  rw [captureSuppression_eq] at capturing
  cases capturing
  cases rest
  rfl

theorem keeping_beginWired : KeepsBooks demand books
    (beginWiredPresentationTransition : RuntimeM capacity UInt32) := by
  intro before value after keeping finished
  simp only [beginWiredPresentationTransition, succeeds_bind,
    succeeds_readRuntime, succeeds_lift, succeeds_pure] at finished
  obtain ⟨_, _, ⟨rfl, rfl⟩, ⟨bridge, operationId⟩, _, ⟨begun, rfl⟩, _, stored,
    storing, rfl, rfl⟩ := finished
  obtain rfl := succeeds_modify.mp storing
  refine ⟨?_, keeping.met⟩
  rw [← keeping.kept]
  unfold BridgeRuntime.books
  rw [beginWiredPresentationTransition_pairable begun]

theorem keeping_beginPresentation (target : Option MirrorCandidateId) :
    KeepsBooks demand books (@beginPresentationTransition capacity target) := by
  refine leads_bind keeping_beginWired fun operationId =>
    leads_bind (keeping_modify fun _ => rfl) fun _ =>
      leads_bind (keeping_push _) fun _ => ?_
  cases target with
  | none => exact keeping_push _
  | some candidate =>
      refine keeping_read fun runtime _ => ?_
      cases runtime.mirrorProfileHash candidate with
      | none => exact leads_throw
      | some profileHash => exact keeping_push _

theorem keeping_reconcileWired : KeepsBooks demand books
    (@reconcileWiredPresentation capacity) :=
  keeping_read fun _ _ => leads_whenever (keeping_beginPresentation _)

theorem keeping_reconcile : KeepsBooks demand books
    (@reconcilePresentation capacity build) := by
  cases build with
  | single => exact keeping_pure ()
  | dual => exact keeping_reconcileWired

theorem keeping_power : KeepsBooks demand books
    (@reconcileUsbHostPower capacity build) := by
  refine keeping_read fun runtime _ => ?_
  dsimp only
  refine leads_bind (keeping_modify fun _ => rfl) fun _ => ?_
  split
  · exact keeping_push _
  · exact keeping_pure ()

theorem keeping_requestSwitch (agrees : books.Agrees) (target : HostId)
    (nowMs : UInt64) :
    Leads (Kept start books)
      (@requestTargetSwitchAppend capacity build actions target
      nowMs) (Kept start books) :=
  keeping_read fun _ _ => leads_ite
    (leads_bind (keeping_modify fun _ => rfl) fun _ =>
      keeping_appendTo rfl agrees)
    (keeping_modify fun _ => rfl)

theorem keeping_selectTarget (agrees : books.Agrees) (target : OutputTarget) :
    Leads (Kept start books) (@selectTargetAppend capacity actions target)
      (Kept start books) :=
  leads_bind (keeping_modify fun _ => rfl) fun _ =>
    keeping_appendTo rfl agrees

section

variable (agrees : books.Agrees) (unchanged : books.pairable = start)

include agrees unchanged

theorem keeping_requestSingle (target : HostId) (nowMs : UInt64) :
    Leads (Kept start books)
      (@requestTargetSwitch capacity actions target nowMs)
      (Kept start books) :=
  leads_bind (keeping_fresh unchanged) fun _ =>
    keeping_requestSwitch agrees target nowMs

theorem keeping_shortcut (nowMs : UInt64) :
    Leads (Kept start books)
      (@handleShortcutTargetSwitch capacity build actions nowMs)
      (Kept start books) := by
  refine keeping_read fun runtime _ => ?_
  dsimp only
  split
  · exact keeping_selectTarget agrees _
  · exact keeping_requestSingle agrees unchanged _ nowMs
  · exact keeping_pure ()

theorem keeping_nextTarget (nowMs : UInt64) :
    Leads (Kept start books) (@nextTargetIntent capacity build actions nowMs)
      (Kept start books) := by
  refine keeping_read fun runtime _ => ?_
  dsimp only
  split
  · exact leads_bind (keeping_fresh unchanged) fun _ =>
      keeping_selectTarget agrees _
  · exact keeping_requestSingle agrees unchanged _ nowMs
  · exact keeping_fresh unchanged

end

end

namespace RuntimeBooks

def close (books : RuntimeBooks) : RuntimeBooks :=
  { books with pairing := none, pairable := none }

def expire (books : RuntimeBooks) (nowMs : UInt64) : RuntimeBooks :=
  match books.pairing with
  | some pairing => if pairing.deadlineMs ≤ nowMs then books.close else books
  | none => books

variable {books : RuntimeBooks} {build : Build}

theorem observe_entered (books : RuntimeBooks) (hostId : HostId)
    (deadlineMs : UInt64) :
    ({ books with pairing := some ⟨hostId, deadlineMs⟩ } :
      RuntimeBooks).observe (.enterPairingMode hostId : BridgeEvent build) =
      { books with
        pairing := some ⟨hostId, deadlineMs⟩
        pairable := some hostId } := by
  unfold observe BridgeEvent.pairingAfter
  simp only [Option.map_some, if_true]
  rfl

theorem observe_expired (agrees : books.Agrees) {pairing : PairingModeState}
    (paired : books.pairing = some pairing) :
    ({ books with pairing := none } : RuntimeBooks).observe
      (.pairingModeExpired pairing.hostId : BridgeEvent build) =
      books.close := by
  have pairable : books.pairable = some pairing.hostId := by
    rw [← show _ = books.pairable from agrees, paired]
    rfl
  unfold observe BridgeEvent.pairingAfter BridgeEvent.pairableAfter close
  rw [pairable]
  simp

theorem observe_cleared {hostId : HostId}
    (paired : books.pairing.map (·.hostId) = some hostId) :
    ({ books with pairing := none } : RuntimeBooks).observe
      (.clearHost hostId : BridgeEvent build) =
      books.observe (.clearHost hostId : BridgeEvent build) := by
  unfold observe BridgeEvent.pairingAfter
  simp only [if_pos paired]
  rfl

end RuntimeBooks

namespace BridgeRuntime

variable (build : Build) (runtime : BridgeRuntime)

def buttonBooks (intent : ButtonIntent) (nowMs : UInt64) : RuntimeBooks :=
  match (runtime.configuredAction intent).toNat with
  | 2 =>
      match runtime.bridge.hosts.pairingCandidate with
      | some hostId => runtime.books.enter hostId nowMs
      | none => runtime.books
  | 3 =>
      match runtime.bridge.hosts.activeTarget with
      | some hostId =>
          runtime.books.observe (.clearHost hostId : BridgeEvent build)
      | none => runtime.books
  | _ => runtime.books

end BridgeRuntime

def startOf (capacity : Nat) (runtime : BridgeRuntime) : RuntimeWork capacity :=
  ⟨runtime, .empty, []⟩

section

variable {build : Build} {actions : Nat} {runtime : BridgeRuntime}
  {start : Option HostId} {books : RuntimeBooks}

theorem kept_startOf (runtime : BridgeRuntime) :
    Kept runtime.bridge.pairableHost runtime.books (startOf capacity runtime) :=
  ⟨rfl, .same⟩

variable {post : RuntimeWork capacity → Prop}

theorem leads_startOf {α : Type} {program : RuntimeM capacity α}
    (leads : Leads (Kept runtime.bridge.pairableHost runtime.books) program
      post) : Leads (· = startOf capacity runtime) program post :=
  leads_weaken leads fun _ same => same ▸ kept_startOf runtime

theorem leads_readStart {α : Type}
    {second : BridgeRuntime → RuntimeM capacity α}
    (rest : Leads (· = startOf capacity runtime) (second runtime) post) :
    Leads (· = startOf capacity runtime) (readRuntime >>= second) post := by
  apply leads_readRuntime
  rintro _ rfl
  exact rest

theorem leads_clearStart {α : Type} {second : Unit → RuntimeM capacity α}
    (rest : ∀ done, Leads (· = startOf capacity runtime) (second done) post) :
    Leads (· = startOf capacity runtime) (clearCommands >>= second) post := by
  refine leads_bind (leads_modify ?_) rest
  rintro _ rfl
  rfl

theorem books_enterPairing (nowMs : UInt64) :
    Leads (· = startOf capacity runtime)
      (enterPairingIntent build actions nowMs)
      (Kept runtime.bridge.pairableHost
        (match runtime.bridge.hosts.pairingCandidate with
          | some hostId => runtime.books.enter hostId nowMs
          | none => runtime.books)) := by
  apply leads_readStart
  cases runtime.bridge.hosts.pairingCandidate with
  | none => exact leads_startOf (keeping_fresh rfl)
  | some hostId =>
      have entered := @RuntimeBooks.observe_entered build runtime.books hostId
        (saturatingAddMs nowMs pairingModeTimeoutMs)
      exact leads_startOf (leads_bind (keeping_pairing _) fun _ =>
        keeping_handleTo (by rfl) entered (by rfl))

theorem books_clearActive (agrees : runtime.books.Agrees) :
    Leads (· = startOf capacity runtime) (clearActiveHostIntent build actions)
      (Kept runtime.bridge.pairableHost
        (match runtime.bridge.hosts.activeTarget with
          | some hostId =>
              runtime.books.observe (.clearHost hostId : BridgeEvent build)
          | none => runtime.books)) := by
  apply leads_readStart
  cases runtime.bridge.hosts.activeTarget with
  | none => exact leads_startOf (keeping_fresh rfl)
  | some hostId =>
      apply leads_readStart
      have cleared : (runtime.books.observe
          (.clearHost hostId : BridgeEvent build)).Agrees := agrees.observe _
      by_cases paired : runtime.pairingFor hostId = true
      · unfold InPlace.when
        rw [if_pos paired]
        have observed := @RuntimeBooks.observe_cleared runtime.books build
          hostId (of_decide_eq_true paired)
        exact leads_startOf (leads_bind (keeping_pairing none) fun _ =>
          keeping_handleTo (by rfl) observed cleared)
      · unfold InPlace.when
        rw [if_neg paired]
        exact leads_startOf (leads_bind (keeping_pure ()) fun _ =>
          keeping_handleTo rfl rfl cleared)

theorem books_button (agrees : runtime.books.Agrees) (intent : ButtonIntent)
    (nowMs : UInt64) :
    Leads (· = startOf capacity runtime)
      (handleButtonIntent build actions intent nowMs)
      (Kept runtime.bridge.pairableHost
        (runtime.buttonBooks build intent nowMs)) := by
  apply leads_readStart
  unfold BridgeRuntime.buttonBooks
  generalize (runtime.configuredAction intent).toNat = action
  rcases action with _ | _ | _ | _ | _
  · exact leads_startOf (keeping_fresh (by rfl))
  · exact leads_startOf (keeping_nextTarget agrees (by rfl) nowMs)
  · exact books_enterPairing nowMs
  · exact books_clearActive agrees
  · exact leads_startOf (keeping_fresh (by rfl))

theorem keeping_tickSwitch (agrees : books.Agrees) (nowMs : UInt64) :
    Leads (Kept start books) (@tickTargetSwitch capacity build actions nowMs)
      (Kept start books) := by
  refine keeping_read fun runtime _ => ?_
  cases runtime.pendingTargetSwitch with
  | none => exact keeping_pure ()
  | some pending =>
      exact leads_whenever (leads_bind (keeping_modify fun _ => rfl) fun _ =>
        keeping_appendTo rfl agrees)

theorem keeping_tickPairing (agrees : books.Agrees) (nowMs : UInt64) :
    Leads (Kept start books) (@tickPairingMode capacity build actions nowMs)
      (Kept start (books.expire nowMs)) := by
  refine keeping_read fun runtime is => ?_
  have mode : runtime.pairingMode = books.pairing :=
    congrArg RuntimeBooks.pairing is
  rw [mode]
  unfold RuntimeBooks.expire
  cases paired : books.pairing with
  | none => exact keeping_pure ()
  | some pairing =>
      dsimp only
      refine leads_when (fun due => ?_) fun early _ keeping => ?_
      · rw [if_pos due]
        exact leads_bind (keeping_pairing none) fun _ => keeping_appendTo
          (RuntimeBooks.observe_expired agrees paired) rfl
      · rw [if_neg early]
        exact keeping

theorem keeping_tick (agrees : books.Agrees) (unchanged : books.pairable = start)
    (nowMs : UInt64) :
    Leads (Kept start books) (@tick capacity build actions nowMs)
      (Kept start (({ books with nowMs := nowMs } :
        RuntimeBooks).expire nowMs)) := by
  have ticked : Leads (Kept start books)
      (@modifyRuntime capacity (·.observeTick nowMs))
      (Kept start { books with nowMs := nowMs }) := by
    apply keeping_update
    rintro runtime rfl
    rfl
  refine leads_bind ticked fun _ => leads_bind (keeping_fresh unchanged)
    fun _ => ?_
  have agreed : ({ books with nowMs := nowMs } : RuntimeBooks).Agrees := agrees
  exact leads_bind (keeping_tickSwitch agreed nowMs) fun _ =>
    keeping_tickPairing agreed nowMs

end

theorem captureTargetSwitchShortcut_mark (profile : InputProfile)
    (frame : StandardInputFrame) :
    (profile.captureTargetSwitchShortcut frame).1.mark = profile.mark := by
  unfold InputProfile.captureTargetSwitchShortcut
  dsimp only
  split
  · rfl
  · split <;> rfl

theorem transformInputFrame_books (runtime : BridgeRuntime)
    (frame : InputFrame) :
    (runtime.transformInputFrame frame).1.books = runtime.books := by
  cases frame with
  | vendor => rfl
  | standard frame =>
      unfold BridgeRuntime.transformInputFrame
      dsimp only
      split
      · rfl
      · rename_i profile found
        obtain ⟨id, -, looked⟩ := Option.bind_eq_some_iff.mp found
        have named := List.find?_some looked
        rw [← of_decide_eq_true named] at looked
        unfold BridgeRuntime.books
        dsimp only
        rw [InputProfileRegistry.marks_writeBack looked]
        exact captureTargetSwitchShortcut_mark profile frame

section

variable {build : Build} {actions : Nat} {start : Option HostId}
  {books : RuntimeBooks}

theorem observe_gated (pending : Bool) (event : BridgeEvent build) :
    books.observe (gateWiredReady pending event) = books.observe event := by
  cases event with
  | wiredAvailabilityChanged availability => cases availability <;> rfl
  | _ => rfl

theorem keeping_gated (agrees : books.Agrees)
    (unchanged : books.pairable = start) (event : BridgeEvent build)
    (triggered : Bool)
    (quiet : triggered = true → books.observe event = books) :
    Leads (Kept start books) (do
      handleBridgeEvent build actions
        (gateWiredReady (← readRuntime).presentationTransitionPending event)
      InPlace.when triggered do
        handleShortcutTargetSwitch build actions (← readRuntime).nowMs :
          RuntimeM capacity Unit) (Kept start (books.observe event)) := by
  refine keeping_read fun runtime _ => leads_bind (keeping_handleTo unchanged
    (observe_gated _ event) (agrees.observe event)) fun _ => ?_
  refine leads_when (fun switched => ?_) fun _ _ keeping => keeping
  rw [quiet switched]
  exact keeping_read fun _ _ => keeping_shortcut agrees unchanged _

theorem keeping_bridgeEvent (agrees : books.Agrees)
    (unchanged : books.pairable = start) (event : BridgeEvent build) :
    Leads (Kept start books)
      (@handleBridgeEventInput capacity build actions event)
      (Kept start (books.observe event)) := by
  cases event with
  | inputFrame frame =>
      intro work done after keeping finished
      have transformed : Leads (· = work) (@modifyRuntime capacity fun _ =>
          (work.runtime.transformInputFrame frame).1)
          (Kept start books) := by
        apply leads_modify
        rintro _ rfl
        exact ⟨(transformInputFrame_books _ frame).trans keeping.kept,
          keeping.met⟩
      have ended := leads_bind transformed fun _ =>
        @keeping_gated capacity build actions start books agrees unchanged
          (.inputFrame (work.runtime.transformInputFrame frame).2.1)
          (work.runtime.transformInputFrame frame).2.2 fun _ => rfl
      exact ended work done after rfl finished
  | _ => exact keeping_gated agrees unchanged _ false Bool.noConfusion

end

namespace RuntimeBooks

def bleHostEvent (build : Build) (books : RuntimeBooks) (hostId : HostId) :
    BleHostAdapterEvent → RuntimeBooks
  | .securityChanged encrypted bonded bond => books.observe
      (.hostSecurityChanged hostId encrypted bonded bond : BridgeEvent build)
  | _ => books

variable {build : Build} {books : RuntimeBooks} {hostId : HostId}

theorem observeAll_cccd {report : ReportKind} {list : List (BridgeEvent build)}
    (converted : cccdEvent hostId report data = .ok list) :
    books.observeAll list = books := by
  obtain ⟨enabled, -, rfl⟩ := map_eq_ok.mp converted
  rfl

theorem observeAll_keyboardLed {list : List (BridgeEvent build)}
    (converted : keyboardLedEvent hostId bytes = .ok list) :
    books.observeAll list = books := by
  obtain ⟨leds, -, rfl⟩ := map_eq_ok.mp converted
  rfl

theorem observeAll_bridgeEvents {list : List (BridgeEvent build)}
    (converted : bridgeEvents hostId event = .ok list) :
    books.observeAll list = books.bleHostEvent build hostId event := by
  cases event with
  | connected => cases converted; rfl
  | disconnected => cases converted; rfl
  | securityChanged encrypted bonded bond => cases converted; rfl
  | gattWrite encrypted hidAttribute data =>
      cases encrypted with
      | false => cases converted
      | true =>
          cases hidAttribute with
          | keyboardOutputReport =>
              obtain ⟨payload, -, rest⟩ := bind_eq_ok.mp converted
              exact observeAll_keyboardLed rest
          | bootKeyboardOutputReport => exact observeAll_keyboardLed converted
          | unknown => cases converted; rfl
          | _ => exact observeAll_cccd converted

end RuntimeBooks

section

variable {build : Build} {actions : Nat} {start : Option HostId}
  {books : RuntimeBooks}

theorem keeping_bleHost (agrees : books.Agrees)
    (unchanged : books.pairable = start) (events : Nat) (hostId : HostId)
    (event : BleHostAdapterEvent) :
    Leads (Kept start books)
      (@handleBleHostEvent capacity build actions events hostId
      event)
      (Kept start (books.bleHostEvent build hostId event)) := by
  refine leads_bind (keeping_fresh unchanged) fun _ => ?_
  cases converted : (bridgeEventsFromBleHostEvent events hostId event :
      Except BleHostAdapterError (List (BridgeEvent build))) with
  | error error => exact leads_throw
  | ok list =>
      obtain ⟨original, produced, rest⟩ := bind_eq_ok.mp converted
      split at rest
      · cases rest
        rw [← RuntimeBooks.observeAll_bridgeEvents produced]
        exact keeping_events agrees
      · cases rest

end

namespace BridgeRuntime

variable {build : Build} (runtime : BridgeRuntime)

def executeBooks (nowMs : UInt64) (command : ManagementCommand build) :
    RuntimeBooks :=
  match command with
  | .startPairing hostId =>
      if !validManagementHost runtime.bridge.hosts.hosts.length hostId then
        runtime.books
      else if (runtime.bridge.hosts.host hostId).any
          BleHostStateMachine.hasBond then
        runtime.books
      else
        runtime.books.enter hostId nowMs
  | .forgetHost hostId =>
      if !validManagementHost runtime.bridge.hosts.hosts.length hostId then
        runtime.books
      else if (runtime.bridge.hosts.host hostId).isNone then
        runtime.books
      else
        runtime.books.observe (.clearHost hostId : BridgeEvent build)
  | .cancelPairing => runtime.books.close
  | _ => runtime.books

def managementBooks (nowMs : UInt64) (command : ManagementCommand build) :
    RuntimeBooks :=
  if managementCommandRequiresStorage command &&
      !runtime.storageHealth.allowsPersistentMutation then
    runtime.books
  else
    runtime.executeBooks nowMs command

end BridgeRuntime

variable {build : Build} {actions : Nat} {runtime : BridgeRuntime}
  {start : Option HostId} {books : RuntimeBooks} {demand : Demand}

theorem books_startPairing (hostId : HostId) (nowMs : UInt64) :
    Leads (· = startOf capacity runtime)
      (startPairing build actions hostId nowMs)
      (Kept runtime.bridge.pairableHost
        (runtime.executeBooks nowMs
          (.startPairing hostId : ManagementCommand build))) := by
  apply leads_readStart
  unfold BridgeRuntime.executeBooks
  dsimp only
  split
  · exact leads_startOf (keeping_pure _)
  · split
    · exact leads_startOf (keeping_pure _)
    · have entered := @RuntimeBooks.observe_entered build runtime.books hostId
        (saturatingAddMs nowMs pairingModeTimeoutMs)
      exact leads_startOf (leads_bind (keeping_pairing _) fun _ =>
        leads_bind (keeping_appendTo entered (by rfl)) fun _ =>
          keeping_pure _)

theorem keeping_knownHost (hostId : HostId)
    {program : RuntimeM capacity ManagementResult}
    (keeps : KeepsBooks demand books program) :
    KeepsBooks demand books (withKnownHost hostId program) :=
  keeping_read fun _ _ =>
    leads_ite (keeping_pure _) (leads_ite (keeping_pure _) keeps)

theorem books_forgetHost (agrees : runtime.books.Agrees) (nowMs : UInt64)
    (hostId : HostId) :
    Leads (· = startOf capacity runtime)
      (withKnownHost hostId do
        handleBridgeEventAppend build actions (.clearHost hostId)
        return .ok)
      (Kept runtime.bridge.pairableHost
        (runtime.executeBooks nowMs
          (.forgetHost hostId : ManagementCommand build))) := by
  apply leads_readStart
  unfold BridgeRuntime.executeBooks
  dsimp only
  split
  · exact leads_startOf (keeping_pure _)
  · split
    · exact leads_startOf (keeping_pure _)
    · exact leads_startOf (leads_bind (keeping_appendTo rfl
        (agrees.observe _)) fun _ => keeping_pure _)

theorem books_cancelPairing (agrees : runtime.books.Agrees) :
    Leads (· = startOf capacity runtime) (cancelPairing build actions)
      (Kept runtime.bridge.pairableHost runtime.books.close) := by
  apply leads_readStart
  cases paired : runtime.pairingMode with
  | none =>
      have closed : runtime.books.close = runtime.books := by
        have nobody : runtime.books.pairable = none := by
          rw [← show _ = runtime.books.pairable from agrees]
          exact congrArg (Option.map (·.hostId)) paired
        unfold RuntimeBooks.close
        rw [← nobody, ← paired]
        rfl
      rw [closed]
      exact leads_startOf (keeping_pure _)
  | some pairing =>
      have expired := @RuntimeBooks.observe_expired runtime.books build agrees
        pairing paired
      exact leads_startOf (leads_bind (keeping_pairing none) fun _ =>
        leads_bind (keeping_appendTo expired (by rfl)) fun _ =>
          keeping_pure _)

theorem setSetting_books {id : SettingId}
    (changed : runtime.setSetting id target value = some next) :
    next.books = runtime.books := by
  unfold BridgeRuntime.setSetting at changed
  split at changed
  · cases changed
  · split at changed
    · obtain ⟨settings, -, rfl⟩ := Option.map_eq_some_iff.mp changed
      rfl
    · obtain ⟨settings, -, rfl⟩ := Option.map_eq_some_iff.mp changed
      unfold BridgeRuntime.books
      dsimp only
      rw [InputProfileRegistry.marks_update]
      exact fun _ => rfl

theorem observeAll_resets (devices : List DeviceId) :
    books.observeAll (devices.map .resetInputDevice :
      List (BridgeEvent build)) = books := by
  induction devices with
  | nil => rfl
  | cons head tail ih => exact ih

section

variable (agrees : books.Agrees)

include agrees

theorem keeping_resetProfile (profileId : InputProfileId) :
    KeepsBooks (.radio start books.pairable) books
      (@resetProfileInputs capacity build actions profileId) := by
  have reset : KeepsBooks (.radio start books.pairable) books
      (@modifyRuntime capacity fun runtime => { runtime with
        inputProfiles := runtime.inputProfiles.update profileId
          .resetTransformState }) := by
    apply keeping_modify
    intro runtime
    unfold BridgeRuntime.books
    dsimp only
    rw [InputProfileRegistry.marks_update]
    exact fun _ => rfl
  refine leads_bind reset fun _ => keeping_read fun runtime _ => ?_
  have passed := @keeping_events capacity build actions start books
    ((((runtime.usbInterfaces.reduceOption.filter
      (·.inputProfileId = some profileId)).map
        (·.deviceId)).eraseDups).map .resetInputDevice) agrees
  rw [observeAll_resets] at passed
  exact passed

theorem keeping_setSetting (setting : SettingId)
    (target : SettingTarget) (value : Int32) :
    KeepsBooks (.radio start books.pairable) books
      (setSettingCommand build actions setting target value :
        RuntimeM capacity ManagementResult) := by
  refine keeping_read fun runtime is => ?_
  dsimp only
  cases found : runtime.setSetting setting target value with
  | none => exact keeping_pure _
  | some next =>
      have stored : KeepsBooks (.radio start books.pairable) books
          (@modifyRuntime capacity fun _ => next) :=
        keeping_update fun _ _ => (setSetting_books found).trans is
      refine leads_bind stored fun _ => ?_
      have finish : ∀ (condition : Prop) [Decidable condition],
          KeepsBooks (.radio start books.pairable) books (do
            pushStorageSnapshot build .critical
            InPlace.when condition (pushCommand
              (.applyEffect (.setLogLevel value.toUInt32.toUInt8)))
            return ManagementResult.ok :
              RuntimeM capacity ManagementResult) := by
        intro condition _
        exact leads_bind (keeping_snapshot build _) fun _ =>
          leads_bind (leads_whenever (keeping_push _)) fun _ => keeping_pure _
      split
      · exact leads_bind (keeping_resetProfile agrees _) fun _ => finish _
      · exact finish _

theorem keeping_setHostName (hostId : HostId)
    (name : ManagementHostName) :
    KeepsBooks (.radio start books.pairable) books
      (setHostNameCommand build actions hostId name :
        RuntimeM capacity ManagementResult) := by
  apply keeping_knownHost
  cases FixedName.fromAscii name.asBytes with
  | none => exact keeping_pure _
  | some name =>
      exact leads_bind (keeping_appendTo rfl agrees) fun _ => keeping_pure _

theorem keeping_executeDual (command : ManagementCommand .dual) :
    KeepsBooks (.radio start books.pairable) books
      (executeDualCommand actions command :
        RuntimeM capacity ManagementResult) := by
  have presented : ∀ (condition : Prop) [Decidable condition]
      (target : Option MirrorCandidateId),
      KeepsBooks (.radio start books.pairable) books (do
        InPlace.when condition (beginPresentationTransition target)
        return ManagementResult.ok : RuntimeM capacity ManagementResult) := by
    intro condition _ target
    exact leads_bind (leads_whenever (keeping_beginPresentation target))
      fun _ => keeping_pure _
  cases command with
  | selectOutputTarget target =>
      refine keeping_read fun runtime _ => ?_
      dsimp only
      split
      · refine leads_bind (keeping_modify fun _ => rfl) fun _ => ?_
        exact leads_bind (keeping_appendTo rfl agrees) fun _ => keeping_pure _
      · exact keeping_pure _
  | getMirrorCandidate candidate =>
      exact keeping_read fun _ _ =>
        leads_ite (keeping_pure _) (keeping_pure _)
  | setMirrorTarget candidate =>
      refine keeping_read fun runtime _ => ?_
      cases runtime.mirrorStableId candidate with
      | none => exact keeping_pure _
      | some stableId =>
          refine leads_bind (keeping_modify fun _ => rfl) fun _ =>
            leads_bind (keeping_snapshot .dual _) fun _ => ?_
          exact keeping_read fun _ _ => presented _ _
  | clearMirrorTarget =>
      refine leads_bind (keeping_modify fun _ => rfl) fun _ =>
        leads_bind (keeping_snapshot .dual _) fun _ => ?_
      exact keeping_read fun _ _ => presented _ _
  | setWiredHostLink bleHost =>
      refine keeping_read fun runtime _ => ?_
      dsimp only
      split
      · exact keeping_pure _
      · refine leads_bind (leads_whenever ?_) fun _ => keeping_pure _
        exact leads_bind (keeping_modify fun _ => rfl) fun _ =>
          keeping_snapshot .dual _
  | _ => exact keeping_pure _

end

theorem books_execute (agrees : runtime.books.Agrees) (nowMs : UInt64)
    (command : ManagementCommand build) :
    Leads (· = startOf capacity runtime)
      (executeCommand build actions nowMs command)
      (Kept runtime.bridge.pairableHost
        (runtime.executeBooks nowMs command)) := by
  cases command with
  | selectHost hostId =>
      exact leads_startOf (keeping_knownHost hostId (leads_bind
        (keeping_requestSwitch agrees hostId nowMs) fun _ => keeping_pure _))
  | startPairing hostId => exact books_startPairing hostId nowMs
  | forgetHost hostId => exact books_forgetHost agrees nowMs hostId
  | getHostInfo hostId =>
      exact leads_startOf (keeping_knownHost hostId (keeping_pure _))
  | setHostName hostId name =>
      exact leads_startOf (keeping_setHostName agrees hostId name)
  | cancelPairing => exact books_cancelPairing agrees
  | getUsbDevice index nameOffset =>
      exact leads_startOf (keeping_read fun _ _ =>
        leads_ite (keeping_pure _) (keeping_pure _))
  | getHostTiming hostId =>
      exact leads_startOf (keeping_read fun _ _ =>
        leads_ite (keeping_pure _) (keeping_pure _))
  | getSetting setting target =>
      exact leads_startOf (keeping_read fun _ _ =>
        leads_ite (keeping_pure _) (keeping_pure _))
  | setSetting setting target value =>
      exact leads_startOf (keeping_setSetting agrees setting target value)
  | selectOutputTarget target =>
      exact leads_startOf (@keeping_executeDual _ actions _ _ agrees
        (.selectOutputTarget target))
  | getOutputTargetStatus =>
      exact leads_startOf (keeping_pure _)
  | getMirrorCandidate candidate =>
      exact leads_startOf (@keeping_executeDual _ actions _ _ agrees
        (.getMirrorCandidate candidate))
  | setMirrorTarget candidate =>
      exact leads_startOf (@keeping_executeDual _ actions _ _ agrees
        (.setMirrorTarget candidate))
  | clearMirrorTarget =>
      exact leads_startOf
        (@keeping_executeDual _ actions _ _ agrees .clearMirrorTarget)
  | setWiredHostLink bleHost =>
      exact leads_startOf (@keeping_executeDual _ actions _ _ agrees
        (.setWiredHostLink bleHost))
  | _ => cases build <;> exact leads_startOf (keeping_pure _)

theorem books_management (agrees : runtime.books.Agrees)
    (destination : ManagementDestination) (request : ManagementRequest build)
    (nowMs : UInt64) :
    Leads (· = startOf capacity runtime)
      (handleManagementRequest build actions destination request nowMs)
      (Kept runtime.bridge.pairableHost
        (runtime.managementBooks nowMs request.command)) := by
  have answered : Leads (· = startOf capacity runtime)
      (executeManagementCommand build actions nowMs request.command)
      (Kept runtime.bridge.pairableHost
        (runtime.managementBooks nowMs request.command)) := by
    apply leads_readStart
    unfold BridgeRuntime.managementBooks
    split
    · exact leads_startOf (keeping_pure _)
    · exact books_execute agrees nowMs request.command
  exact leads_clearStart fun _ => leads_bind answered fun _ =>
    keeping_read fun _ _ => keeping_push _

end HidShift
