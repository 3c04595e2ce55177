import HidShift.Bridge.Delivery

namespace HidShift

open Lib

/-- `none` stands for the neutral report. -/
abbrev LastReports := OutputTarget → ReportKind → Option StandardHidReport

namespace LastReports

def neutral : LastReports := fun _ _ => none

/-- Back to neutral wherever `fresh` says so. -/
def forget (last : LastReports) (fresh : OutputTarget → ReportKind → Bool) :
    LastReports :=
  fun target kind => if fresh target kind then none else last target kind

def record (last : LastReports) (notification : Notification) : LastReports :=
  fun target kind =>
    if notification.target = target ∧ notification.report.kind = kind then
      some notification.report
    else
      last target kind

variable {last : LastReports} {target : OutputTarget} {kind : ReportKind}
  {report : StandardHidReport}

theorem forget_eq_some (stored : last.forget fresh target kind = some report) :
    fresh target kind = false ∧ last target kind = some report := by
  unfold forget at stored
  split at stored
  · cases stored
  · rename_i old
    exact ⟨Bool.eq_false_iff.mpr old, stored⟩

theorem records_eq_some {sent : List Notification}
    (stored : sent.foldl record last target kind = some report) :
    (∃ notification ∈ sent, notification.target = target ∧
        notification.report.kind = kind ∧ notification.report = report) ∨
      (last target kind = some report ∧ ∀ notification ∈ sent,
        ¬ (notification.target = target ∧
          notification.report.kind = kind)) := by
  induction sent generalizing last with
  | nil => exact .inr ⟨stored, by simp⟩
  | cons head tail ih =>
      rcases ih stored with ⟨found, member, matched⟩ | ⟨before, silent⟩
      · exact .inl ⟨found, List.mem_cons_of_mem _ member, matched⟩
      · unfold record at before
        split at before
        · rename_i matched
          cases before
          exact .inl ⟨head, List.mem_cons_self .., matched.1, matched.2, rfl⟩
        · rename_i unmatched
          refine .inr ⟨before, fun notification member => ?_⟩
          rcases List.mem_cons.mp member with rfl | later
          · exact unmatched
          · exact silent notification later

end LastReports

/-- The view after a call: first what became fresh, then what was sent. -/
def LastReports.afterCall {build : Build}
    (fresh : BridgeState → BridgeState → OutputTarget → ReportKind → Bool)
    (last : LastReports) (taken : BridgeTransition build) : LastReports :=
  (notifications taken.output).foldl LastReports.record
    (last.forget (fresh taken.before taken.after))

def lastReports {build : Build}
    (fresh : BridgeState → BridgeState → OutputTarget → ReportKind → Bool)
    (history : List (BridgeTransition build)) : LastReports :=
  history.foldl (LastReports.afterCall fresh) .neutral

def BridgeState.receives (bridge : BridgeState) :
    OutputTarget → ReportKind → Bool
  | .wired, _ => true
  | .ble hostId, kind => bridge.canSend hostId kind

def linkOpened (before after : BridgeState) (target : OutputTarget)
    (kind : ReportKind) : Bool :=
  !before.receives target kind && after.receives target kind

def becameActive (before after : BridgeState) (target : OutputTarget)
    (_ : ReportKind) : Bool :=
  before.outputTarget.active ≠ some target ∧
    after.outputTarget.active = some target

section

variable {build : Build}
  {fresh : BridgeState → BridgeState → OutputTarget → ReportKind → Bool}
  {last : LastReports} {taken : BridgeTransition build}
  {target : OutputTarget} {kind : ReportKind} {report : StandardHidReport}

theorem LastReports.afterCall_eq_some
    (stored : last.afterCall fresh taken target kind = some report) :
    (∃ notification ∈ notifications taken.output,
        notification.target = target ∧ notification.report.kind = kind ∧
          notification.report = report) ∨
      (fresh taken.before taken.after target kind = false ∧
        last target kind = some report ∧
        ∀ notification ∈ notifications taken.output,
          ¬ (notification.target = target ∧
            notification.report.kind = kind)) := by
  apply (LastReports.records_eq_some stored).imp id
  rintro ⟨before, silent⟩
  obtain ⟨old, found⟩ := LastReports.forget_eq_some before
  exact ⟨old, found, silent⟩

def LastReports.Filed (last : LastReports) : Prop :=
  ∀ target kind report, last target kind = some report → report.kind = kind

theorem LastReports.Filed.afterCall (filed : last.Filed) :
    (last.afterCall fresh taken).Filed := by
  intro target kind report stored
  rcases LastReports.afterCall_eq_some stored with
    ⟨_, -, -, sameKind, rfl⟩ | ⟨-, before, -⟩
  · exact sameKind
  · exact filed target kind report before

end

theorem readyActiveTarget_single {bridge : BridgeState} :
    bridge.readyActiveTarget .single kind = some target ↔
      ∃ hostId, target = .ble hostId ∧
        bridge.hosts.activeTarget = some hostId ∧
          bridge.canSend hostId kind = true := by
  simp only [BridgeState.readyActiveTarget]
  cases active : bridge.hosts.activeTarget with
  | none => simp
  | some hostId =>
      by_cases ready : bridge.canSend hostId kind = true
      · simp only [ready, if_true, Option.some.injEq]
        constructor
        · rintro rfl
          exact ⟨hostId, rfl, rfl, ready⟩
        · rintro ⟨other, rfl, rfl, -⟩
          rfl
      · simp only [ready]
        constructor
        · intro impossible
          cases impossible
        · rintro ⟨other, -, same, otherReady⟩
          cases same
          exact absurd otherReady ready

theorem mem_releaseActive_ble {bridge : BridgeState}
    {notification : Notification}
    (member : notification ∈ notifications (bridge.releaseActive
      (bridge.hosts.activeTarget.map .ble) (some reason))) :
    ∃ hostId, notification.target = .ble hostId ∧
      bridge.hosts.activeTarget = some hostId ∧
        notification.report.IsNeutral ∧
          bridge.canSend hostId notification.report.kind = true := by
  cases active : bridge.hosts.activeTarget with
  | none =>
      rw [active] at member
      cases member
  | some hostId =>
      rw [active] at member
      obtain ⟨target, neutral, ready⟩ := mem_releaseReports member
      exact ⟨hostId, target, rfl, neutral, ready⟩

/-- A report goes to the host that is active after the step and shows held
input, or it releases the host that was active before. -/
theorem BridgeStep.single_sent {bridge next : BridgeState}
    (step : BridgeStep .single bridge event sent next)
    {notification : Notification} (member : notification ∈ sent) :
    ∃ hostId, notification.target = .ble hostId ∧
      bridge.canSend hostId notification.report.kind = true ∧
      ((next.hosts.activeTarget = some hostId ∧
          next.canSend hostId notification.report.kind = true ∧
            notification.report.HeldIn next.input) ∨
        (bridge.hosts.activeTarget = some hostId ∧
          notification.report.IsNeutral)) := by
  cases step with
  | quiet => cases member
  | frame _ _ applied same =>
      obtain ⟨ready, held⟩ := applied.sent_held member
      obtain ⟨hostId, target, active, canSend⟩ :=
        readyActiveTarget_single.mp ready
      refine ⟨hostId, target, canSend, .inl ⟨?_, ?_, held⟩⟩
      · rw [same.hosts]
        exact active
      · rw [BridgeState.canSend, same.hosts]
        exact canSend
  | detach _ _ applied same =>
      cases applied with
      | unseen => cases member
      | seen active _ =>
          obtain ⟨target, canSend, held⟩ := detachReports_held member
          have before := canSend
          rw [BridgeState.canSend, same.hosts] at before
          exact ⟨_, target, before, .inl ⟨same.hosts ▸ active, canSend, held⟩⟩
  | retargetBle _ _ _ _ _ released =>
      cases released with
      | told =>
          obtain ⟨hostId, target, active, neutral, canSend⟩ :=
            mem_releaseActive_ble member
          exact ⟨hostId, target, canSend, .inr ⟨active, neutral⟩⟩
      | lost => cases member
  | retargetOutput impossible => cases impossible
  | clear =>
      split at member
      · rename_i active
        obtain ⟨target, neutral, canSend⟩ := mem_releaseReports member
        exact ⟨_, target, canSend, .inr ⟨active, neutral⟩⟩
      · cases member
  | wiredReset impossible => cases impossible

variable {report : StandardHidReport} {finish : BridgeState}

/-- Every report goes to a host that can receive it: to the active one, or, as
a release, to the one that was active until then. -/
theorem notify_active_host_only {hosts : Nat}
    {history : List (BridgeTransition .single)} {finish : BridgeState}
    (run : BridgeRun .single hosts history finish)
    {taken : BridgeTransition .single} (member : taken ∈ history)
    {target : OutputTarget} {report : StandardHidReport}
    {reason : NotifyReason}
    (emitted : .notify target report reason ∈ taken.output) :
    ∃ hostId, target = .ble hostId ∧
      ((taken.after.hosts.activeTarget = some hostId ∧
          taken.after.canSend hostId report.kind = true) ∨
        (report.IsNeutral ∧ taken.before.hosts.activeTarget = some hostId ∧
          taken.before.canSend hostId report.kind = true)) := by
  have notified : ⟨target, report, reason⟩ ∈ notifications taken.output :=
    mem_notifications.mpr emitted
  obtain ⟨_, _, -, step⟩ := step_of_sent (run.step_of_mem member) notified
  obtain ⟨hostId, same, before, ⟨active, ready, -⟩ | ⟨active, neutral⟩⟩ :=
    step.single_sent notified
  · exact ⟨hostId, same, .inl ⟨active, ready⟩⟩
  · exact ⟨hostId, same, .inr ⟨neutral, active, before⟩⟩

def Scenario.handOver : List (BridgeCall .single) :=
  connect ⟨1⟩ ++ connect ⟨2⟩ ++ [.event 16 (.switchTarget ⟨1⟩), keyDown 1 4,
    .event 16 (.switchTarget ⟨2⟩), keyDown 2 5]

theorem notify_active_host_only_handOver :
    let taken := (Scenario.trace Scenario.handOver).getLast (by decide +kernel)
    let report := StandardHidReport.keyboard ⟨#v[0, 0, 5, 0, 0, 0, 0, 0]⟩
    .notify (.ble ⟨2⟩) report .input ∈ taken.output ∧
      ∃ hostId, OutputTarget.ble ⟨2⟩ = .ble hostId ∧
        ((taken.after.hosts.activeTarget = some hostId ∧
            taken.after.canSend hostId report.kind = true) ∨
          (report.IsNeutral ∧ taken.before.hosts.activeTarget = some hostId ∧
            taken.before.canSend hostId report.kind = true)) := by
  have emitted : BridgeAction.notify (.ble ⟨2⟩)
      (.keyboard ⟨#v[0, 0, 5, 0, 0, 0, 0, 0]⟩) .input ∈
        ((Scenario.trace Scenario.handOver).getLast
          (by decide +kernel)).output := by decide +kernel
  exact ⟨emitted, notify_active_host_only (Scenario.run Scenario.handOver)
    (List.getLast_mem _) emitted⟩

theorem exists_releaseReports {bridge : BridgeState}
    {report : StandardHidReport}
    (ready : bridge.canSend hostId report.kind = true) :
    ∃ notification ∈ notifications (bridge.releaseReports hostId reason),
      notification.target = .ble hostId ∧
        notification.report.kind = report.kind := by
  simp only [BridgeState.releaseReports, notifications_append, List.mem_append]
  cases report with
  | keyboard => exact ⟨_, .inl (mem_notifyIf.mpr ⟨ready, rfl⟩), rfl, rfl⟩
  | mouse => exact ⟨_, .inr (.inl (mem_notifyIf.mpr ⟨ready, rfl⟩)), rfl, rfl⟩
  | consumer =>
      exact ⟨_, .inr (.inr (mem_notifyIf.mpr ⟨ready, rfl⟩)), rfl, rfl⟩

def Settled (bridge : BridgeState) (hostId : HostId)
    (report : StandardHidReport) : Prop :=
  (bridge.hosts.activeTarget = some hostId → report.HeldIn bridge.input) ∧
    (bridge.hosts.activeTarget ≠ some hostId → report.IsNeutral)

theorem Settled.of_neutral (neutral : report.IsNeutral) (bridge : BridgeState)
    (hostId : HostId) : Settled bridge hostId report :=
  ⟨fun _ => neutral.heldIn _, fun _ => neutral⟩

theorem Settled.of_same {bridge next : BridgeState} {hostId : HostId}
    (settled : Settled bridge hostId report) (input : next.input = bridge.input)
    (activeTarget : next.hosts.activeTarget = bridge.hosts.activeTarget) :
    Settled next hostId report := by
  simp only [Settled]
  rw [input, activeTarget]
  exact settled

theorem BridgeStep.single_settled {bridge next : BridgeState}
    (step : BridgeStep .single bridge event sent next)
    {report : StandardHidReport}
    (ready : bridge.canSend hostId report.kind = true)
    (stillReady : next.canSend hostId report.kind = true)
    (silent : ∀ notification ∈ sent,
      ¬ (notification.target = .ble hostId ∧
        notification.report.kind = report.kind))
    (settled : Settled bridge hostId report) : Settled next hostId report := by
  cases step with
  | quiet same activeTarget => exact settled.of_same same.input activeTarget
  | frame _ _ applied same =>
      simp only [Settled]
      rw [same.hosts]
      refine ⟨fun active => ?_, settled.2⟩
      exact (settled.1 active).of_sameKind (applied.unreported
        (readyActiveTarget_single.mpr ⟨hostId, rfl, active, ready⟩) silent)
  | detach _ input applied same =>
      simp only [Settled]
      rw [same.hosts]
      refine ⟨fun active => ?_, settled.2⟩
      cases applied with
      | unseen inactive =>
          rw [active] at inactive
          cases inactive
      | seen other =>
          rw [active] at other
          cases other
          exact (settled.1 active).of_sameKind
            (detachReports_unreported stillReady silent)
  | retargetBle _ captured changed activeTarget _ released =>
      by_cases active : bridge.hosts.activeTarget = some hostId
      · -- The previous host has been told to release, or cannot receive.
        cases released with
        | told =>
            rw [active] at silent
            obtain ⟨notification, member, matched⟩ :=
              exists_releaseReports ready
            exact absurd matched (silent notification member)
        | lost other gone =>
            rw [active] at other
            cases other
            rw [gone] at stillReady
            cases stillReady
      · exact .of_neutral (settled.2 active) next hostId
  | retargetOutput impossible => cases impossible
  | clear same hosts =>
      by_cases active : bridge.hosts.activeTarget = some hostId
      · rcases BleHostStateMachine.clearHost_activeTarget with kept |
          ⟨-, cleared⟩
        · exact settled.of_same same.input ((congrArg _ hosts).trans kept)
        · rw [active] at cleared
          cases cleared
          rw [if_pos active] at silent
          obtain ⟨notification, member, matched⟩ :=
            exists_releaseReports ready
          exact absurd matched (silent notification member)
      · exact .of_neutral (settled.2 active) next hostId
  | wiredReset impossible => cases impossible

def AllSettled (bridge : BridgeState) (last : LastReports) : Prop :=
  last.Filed ∧ ∀ hostId kind report, bridge.canSend hostId kind = true →
    last (.ble hostId) kind = some report → Settled bridge hostId report

theorem AllSettled.performs (settled : AllSettled taken.before last)
    (performed : Performs .single taken.before taken.event taken.output
      taken.after) :
    AllSettled taken.after (last.afterCall linkOpened taken) := by
  refine ⟨settled.1.afterCall, fun hostId kind report ready stored => ?_⟩
  rcases LastReports.afterCall_eq_some stored with
    ⟨notification, member, target, sameKind, rfl⟩ | ⟨old, found, silent⟩
  · obtain ⟨_, _, -, step⟩ := step_of_sent performed member
    obtain ⟨other, otherTarget, -, ⟨active, -, held⟩ | ⟨-, neutral⟩⟩ :=
      step.single_sent member
    · rw [target] at otherTarget
      cases otherTarget
      exact ⟨fun _ => held, fun inactive => absurd active inactive⟩
    · exact .of_neutral neutral taken.after hostId
  · -- The link was open before: otherwise the report would be forgotten.
    have wasReady : taken.before.canSend hostId kind = true := by
      have opened : (!taken.before.canSend hostId kind &&
        taken.after.canSend hostId kind) = false := old
      rw [ready, Bool.and_true] at opened
      simpa using opened
    have current := settled.2 hostId kind report wasReady found
    have sameKind := settled.1 _ kind report found
    subst sameKind
    rcases perform_cases performed with ⟨same, -⟩ | ⟨_, _, -, step⟩ |
      ⟨-, restarted⟩
    · exact same ▸ current
    · exact step.single_settled wasReady ready silent current
    · exact current.of_same restarted.captured.input
        (congrArg _ restarted.hosts)

/-- What the active host last saw is still held, and every other host has been
told to release everything. -/
theorem no_stuck_input {hosts : Nat}
    {history : List (BridgeTransition .single)} {finish : BridgeState}
    (run : BridgeRun .single hosts history finish) (hostId : HostId)
    (kind : ReportKind) (ready : finish.canSend hostId kind = true)
    (report : StandardHidReport)
    (last : lastReports linkOpened history (.ble hostId) kind =
      some report) :
    (finish.hosts.activeTarget = some hostId → report.HeldIn finish.input) ∧
      (finish.hosts.activeTarget ≠ some hostId → report.IsNeutral) := by
  have settled : AllSettled finish (lastReports linkOpened history) := by
    refine run.invariant_foldl _ _ AllSettled ?_ ?_
    · refine ⟨?_, ?_⟩
      · intro target kind report stored
        cases stored
      · intro hostId kind report _ stored
        cases stored
    · intro taken _ last performed settled
      exact settled.performs performed
  exact settled.2 hostId kind report ready last

theorem no_stuck_input_handOver :
    let history := Scenario.trace Scenario.handOver
    let finish := Scenario.final Scenario.handOver
    let report := StandardHidReport.keyboard ⟨#v[0, 0, 5, 0, 0, 0, 0, 0]⟩
    (finish.hosts.activeTarget = some ⟨2⟩ ∧
        lastReports linkOpened history (.ble ⟨2⟩) .keyboard = some report ∧
          report.HeldIn finish.input) ∧
      lastReports linkOpened history (.ble ⟨1⟩) .keyboard =
          some (.keyboard .release) ∧
        (StandardHidReport.keyboard .release).IsNeutral := by
  have active : (Scenario.final Scenario.handOver).hosts.activeTarget =
      some ⟨2⟩ := by decide +kernel
  have shown : lastReports linkOpened (Scenario.trace Scenario.handOver)
      (.ble ⟨2⟩) .keyboard =
        some (.keyboard ⟨#v[0, 0, 5, 0, 0, 0, 0, 0]⟩) := by decide +kernel
  have released : lastReports linkOpened (Scenario.trace Scenario.handOver)
      (.ble ⟨1⟩) .keyboard = some (.keyboard .release) := by decide +kernel
  have run := Scenario.run Scenario.handOver
  refine ⟨⟨active, shown, ?_⟩, released, ?_⟩
  · exact (no_stuck_input run ⟨2⟩ .keyboard (by decide +kernel) _ shown).1
      active
  · exact (no_stuck_input run ⟨1⟩ .keyboard (by decide +kernel) _ released).2
      (by rw [active]; decide)

def BridgeCall.detaches : BridgeCall build → Bool
  | .event _ (.usbDeviceRemoved _) => true
  | .event _ (.resetInputDevice _) => true
  | _ => false

theorem Removal.detaches (removal : Removal aggregator event next)
    (capacity : Nat) : (BridgeCall.event capacity event).detaches = true := by
  cases removal <;> rfl

structure InputKept (previous current : PhysicalInputState) : Prop where
  keys : ∀ key ∈ previous.keyboard.keys, key ∈ current.keyboard.keys
  modifiers : ∀ bit, previous.keyboard.modifiers.getLsbD bit = true →
    current.keyboard.modifiers.getLsbD bit = true
  buttons : ∀ bit, previous.mouse.buttons.bits.getLsbD bit = true →
    current.mouse.buttons.bits.getLsbD bit = true
  consumer : ∀ usage, previous.consumer.active = some usage →
    current.consumer.active = some usage

theorem StandardHidReport.HeldIn.of_kept {report : StandardHidReport}
    (held : report.HeldIn previous) (kept : InputKept previous current) :
    report.HeldIn current := by
  cases report with
  | keyboard report =>
      exact ⟨fun key carried => kept.keys key (held.1 key carried),
        fun bit set => kept.modifiers bit (held.2 bit set)⟩
  | mouse report => exact fun bit set => kept.buttons bit (held bit set)
  | consumer report =>
      exact fun usage carried => kept.consumer usage (held usage carried)

/-- The output target that receives the input is the active BLE host. -/
def TargetsAgree (bridge : BridgeState) : Prop :=
  ∀ target, bridge.outputTarget.active = some target →
    ∃ hostId, target = .ble hostId ∧ bridge.hosts.activeTarget = some hostId

theorem readyActiveTarget_dual {bridge : BridgeState}
    (active : bridge.outputTarget.active = some target)
    (receives : bridge.receives target kind = true) :
    bridge.readyActiveTarget .dual kind = some target := by
  simp only [BridgeState.readyActiveTarget]
  cases target with
  | wired => simp [active]
  | ble hostId =>
      have ready : bridge.canSend hostId kind = true := receives
      simp [active, ready]

/-- A report that stays the last one at the active target stays held, if a
removal that loses input finds that target among the BLE hosts. -/
theorem BridgeStep.dual_held (step : BridgeStep .dual bridge event sent next)
    (agree : (BridgeCall.event capacity event).detaches = true →
      TargetsAgree bridge ∨ InputKept bridge.input next.input)
    {report : StandardHidReport}
    (active : bridge.outputTarget.active = some target)
    (receives : bridge.receives target report.kind = true)
    (silent : ∀ notification ∈ sent,
      ¬ (notification.target = target ∧
        notification.report.kind = report.kind))
    (held : report.HeldIn bridge.input) : report.HeldIn next.input := by
  cases step with
  | quiet same => exact same.input ▸ held
  | frame _ _ applied _ =>
      exact held.of_sameKind (applied.unreported
        (readyActiveTarget_dual active receives) silent)
  | detach removal _ applied same =>
      rcases agree (removal.detaches capacity) with agrees | kept
      · obtain ⟨hostId, rfl, hostActive⟩ := agrees target active
        cases applied with
        | unseen inactive =>
            rw [hostActive] at inactive
            cases inactive
        | seen other =>
            rw [hostActive] at other
            cases other
            have ready : next.canSend hostId report.kind = true := by
              rw [BridgeState.canSend, same.hosts]
              exact receives
            exact held.of_sameKind (detachReports_unreported ready silent)
      · exact held.of_kept kept
  | retargetBle impossible => cases impossible
  | retargetOutput _ captured => exact captured.input ▸ held
  | clear same => exact same.input ▸ held
  | wiredReset _ same => exact same.input ▸ held

/-- Starting to receive, or becoming the active target, begins anew. -/
def linkRenewed (before after : BridgeState) (target : OutputTarget)
    (kind : ReportKind) : Bool :=
  linkOpened before after target kind || becameActive before after target kind

theorem linkRenewed_false (old : linkRenewed before after target kind = false)
    (active : after.outputTarget.active = some target)
    (receives : after.receives target kind = true) :
    before.outputTarget.active = some target ∧
      before.receives target kind = true := by
  simp only [linkRenewed, linkOpened, becameActive, receives, active,
    Bool.or_eq_false_iff, Bool.and_true, Bool.not_eq_false', ne_eq, and_true,
    decide_eq_false_iff_not, not_not] at old
  exact ⟨old.2, old.1⟩

def ActiveHeld (bridge : BridgeState) (last : LastReports) : Prop :=
  last.Filed ∧ ∀ target kind report,
    bridge.outputTarget.active = some target →
      bridge.receives target kind = true →
        last target kind = some report → report.HeldIn bridge.input

theorem ActiveHeld.performs (held : ActiveHeld taken.before last)
    (agree : taken.event.detaches = true → TargetsAgree taken.before ∨
      InputKept taken.before.input taken.after.input)
    (performed : Performs .dual taken.before taken.event taken.output
      taken.after) :
    ActiveHeld taken.after (last.afterCall linkRenewed taken) := by
  refine ⟨held.1.afterCall, fun target kind report active receives stored => ?_⟩
  rcases LastReports.afterCall_eq_some stored with
    ⟨notification, member, -, -, rfl⟩ | ⟨old, found, silent⟩
  · obtain ⟨_, _, -, step⟩ := step_of_sent performed member
    exact step.sent_held member
  · obtain ⟨wasActive, received⟩ := linkRenewed_false old active receives
    have before := held.2 target kind report wasActive received found
    have sameKind := held.1 target kind report found
    subst sameKind
    rcases perform_cases performed with ⟨same, -⟩ | ⟨_, _, call, step⟩ |
      ⟨-, restarted⟩
    · exact same ▸ before
    · exact step.dual_held (call ▸ agree) wasActive received silent before
    · exact restarted.captured.input ▸ before

/-- The active target last saw only what is still held, in every kind it can
receive, as long as removals that lose input find it among the BLE hosts. -/
theorem active_target_sees_held_input {hosts : Nat}
    {history : List (BridgeTransition .dual)} {finish : BridgeState}
    (run : BridgeRun .dual hosts history finish)
    (agree : ∀ taken ∈ history, taken.event.detaches = true →
      TargetsAgree taken.before ∨
        InputKept taken.before.input taken.after.input)
    (target : OutputTarget)
    (active : finish.outputTarget.active = some target) (kind : ReportKind)
    (receives : finish.receives target kind = true)
    (report : StandardHidReport)
    (last : lastReports linkRenewed history target kind = some report) :
    report.HeldIn finish.input := by
  have held : ActiveHeld finish (lastReports linkRenewed history) := by
    refine run.invariant_foldl _ _ ActiveHeld ?_ ?_
    · refine ⟨?_, ?_⟩
      · intro target kind report stored
        cases stored
      · intro target kind report _ _ stored
        cases stored
    · intro taken member last performed held
      exact held.performs (agree taken member) performed
  exact held.2 target kind report active receives last

def Scenario.buttonHeld : List (BridgeCall .dual) :=
  connect ⟨1⟩ ++ [.event 16 (.switchTarget ⟨1⟩), buttons 1 1]

/-- Two more devices press a button and a key, and both go. -/
def Scenario.othersGone : List (BridgeCall .dual) :=
  buttonHeld ++ [buttons 2 2, keyDown 3 4, .event 16 (.usbDeviceRemoved ⟨2⟩),
    .event 16 (.resetInputDevice ⟨3⟩)]

theorem active_target_sees_held_input_othersGone :
    let history := Scenario.trace Scenario.othersGone
    let finish := Scenario.final Scenario.othersGone
    let report := StandardHidReport.mouse
      (.fromFrame (.fromBitsTruncate 1) .neutral)
    finish.outputTarget.active = some (.ble ⟨1⟩) ∧
      lastReports linkRenewed history (.ble ⟨1⟩) .mouse = some report ∧
      lastReports linkRenewed history (.ble ⟨1⟩) .keyboard =
        some (.keyboard .release) ∧ report.HeldIn finish.input := by
  have active : (Scenario.final Scenario.othersGone).outputTarget.active =
      some (.ble ⟨1⟩) := by decide +kernel
  have shown : lastReports linkRenewed (Scenario.trace Scenario.othersGone)
      (.ble ⟨1⟩) .mouse = some (.mouse
        (.fromFrame (.fromBitsTruncate 1) .neutral)) := by decide +kernel
  have found : ∀ taken ∈ Scenario.trace Scenario.othersGone,
      taken.event.detaches = true →
        taken.before.outputTarget.active = some (.ble ⟨1⟩) ∧
          taken.before.hosts.activeTarget = some ⟨1⟩ := by decide +kernel
  refine ⟨active, shown, by decide +kernel, active_target_sees_held_input
    (Scenario.run Scenario.othersGone) (fun taken member detaches => .inl ?_)
    (.ble ⟨1⟩) active .mouse (by decide +kernel) _ shown⟩
  obtain ⟨ble, host⟩ := found taken member detaches
  intro target same
  rw [ble, Option.some.injEq] at same
  exact ⟨⟨1⟩, same.symm, host⟩

/-- The host then closes the mouse link and the button is released.  No report
can tell it so, and the active target keeps the press. -/
def Scenario.mouseClosed : List (BridgeCall .dual) :=
  buttonHeld ++ [.event 16 (.cccdChanged ⟨1⟩ .mouse false), buttons 1 0]

theorem active_target_sees_released_button :
    ¬ ∀ (calls : List (BridgeCall .dual)) (target : OutputTarget)
      (kind : ReportKind) (report : StandardHidReport),
        (Scenario.final calls).outputTarget.active = some target →
        lastReports becameActive (Scenario.trace calls) target kind =
          some report →
        report.HeldIn (Scenario.final calls).input := by
  intro always
  have held := always Scenario.mouseClosed (.ble ⟨1⟩) .mouse
    (.mouse (.fromFrame (.fromBitsTruncate 1) .neutral)) (by decide +kernel)
    (by decide +kernel)
  have button : (Scenario.final
      Scenario.mouseClosed).input.mouse.buttons.bits.getLsbD 0 = false := by
    decide +kernel
  rw [held 0 (by decide)] at button
  cases button

end HidShift
