import HidShift.Bridge.Suppression

namespace HidShift

open Lib

def BridgeState.visibleKeys (bridge : BridgeState) : List KeyUsage :=
  bridge.input.keyboard.keys.toList.filter fun key =>
    !bridge.suppression.keyboard.containsKey key

structure WindowStable (bridge : BridgeState) : Prop where
  visible : bridge.visibleKeys.length ≤ keyboard6KroKeyCapacity
  nodup : bridge.suppression.keyboard.keys.toList.Nodup

theorem windowStable_new (hosts : Nat) : WindowStable (.new hosts) :=
  ⟨Nat.zero_le _, List.nodup_nil⟩

variable {bridge next : BridgeState} {build : Build} {finish : BridgeState}

theorem WindowStable.of_same (stable : WindowStable bridge)
    (input : next.input = bridge.input)
    (suppression : next.suppression = bridge.suppression) :
    WindowStable next := by
  constructor
  · simp only [BridgeState.visibleKeys]
    rw [input, suppression]
    exact stable.visible
  · rw [suppression]
    exact stable.nodup

theorem Captured.windowStable (captured : Captured bridge next)
    (sound : InputSound bridge) : WindowStable next := by
  have hidden : next.visibleKeys = [] := by
    apply List.filter_eq_nil_iff.mpr
    intro key held
    rw [captured.input] at held
    have contained : key ∈ next.suppression.keyboard.keys.toList := by
      rw [captured.suppression]
      exact held
    rw [KeyboardSuppression.containsKey_iff.mpr contained]
    exact Bool.false_ne_true
  constructor
  · rw [hidden]
    exact Nat.zero_le _
  · rw [captured.suppression]
    exact sound.nodup

section

variable {build : Build} {bridge : BridgeState}
  {aggregate : PhysicalInputState} {keyboard : PhysicalKeyboardState}
  {pruned : KeyboardSuppression}

/-- What `apply_state` leaves for the window: distinct keys, each suppressed
one of them held. -/
theorem applyState_distinct (sound : InputSound bridge)
    (stable : WindowStable bridge)
    (applied : bridge.input.keyboard.applyState aggregate.keyboard
      bridge.suppression.keyboard = .ok (keyboard, pruned)) :
    keyboard.keys.toList.Nodup ∧ pruned.keys.toList.Nodup ∧
      ∀ key ∈ pruned.keys.toList, key ∈ keyboard.keys.toList := by
  have snapshot := applySnapshot_spec applied
  refine ⟨?_, stable.nodup.sublist (applySnapshot_sublist applied), ?_⟩
  · rw [snapshot.nextKeys]
    exact OrderedUnion.nodup_unionInto (sound.nodup.filter _) _
  · intro key suppressed
    exact (snapshot.mem_keys key).mpr
      ((snapshot.mem_suppressed key).mp suppressed).2

theorem window_visible_le (held : keyboard.keys.toList.Nodup)
    (window : pruned.suppressVisibleAfter keyboard keyboard6KroKeyCapacity =
      .ok (suppression, added)) :
    (keyboard.keys.toList.filter fun key =>
      !suppression.containsKey key).length ≤ keyboard6KroKeyCapacity := by
  rw [suppressVisibleAfter_visible held window]
  exact List.length_take_le ..

theorem KeyboardPart.windowStable
    (part : KeyboardPart build bridge aggregate carried keyboard suppression
      out) (sound : InputSound bridge) (stable : WindowStable bridge) :
    (keyboard.keys.toList.filter fun key =>
        !suppression.containsKey key).length ≤ keyboard6KroKeyCapacity ∧
      suppression.keys.toList.Nodup := by
  cases part with
  | absent => exact ⟨stable.visible, stable.nodup⟩
  | present applied window =>
      obtain ⟨held, hidden, -⟩ := applyState_distinct sound stable applied
      exact ⟨window_visible_le held window,
        suppressVisibleAfter_nodup held hidden window⟩

end

theorem InputAggregator.installDevices_held {aggregator : InputAggregator}
    (exact : aggregator.Exact) {devices : DeviceSlots}
    (installed : (aggregator.installDevices devices).1.Exact)
    (fewer : ∀ entry ∈ devices.reduceOption,
      entry ∈ aggregator.devices.reduceOption) {item : HeldItem}
    (held : item.HeldIn (aggregator.installDevices devices).1.aggregate) :
    item.HeldIn aggregator.aggregate := by
  obtain ⟨entry, stored, holds⟩ := installed.heldIn_aggregate item |>.mp held
  refine (exact.heldIn_aggregate item).mpr ⟨entry, ?_, holds⟩
  simp only [InputAggregator.installDevices] at stored
  split at stored
  · exact fewer entry stored
  · exact stored

theorem Removal.held {aggregator next : InputAggregator}
    (removal : Removal aggregator event next) (exact : aggregator.Exact)
    {item : HeldItem} (held : item.HeldIn next.aggregate) :
    item.HeldIn aggregator.aggregate := by
  have nextExact := removal.exact exact
  cases removal with
  | interface interfaceId =>
      simp only [InputAggregator.removeInterface] at held nextExact
      split at held
      · rename_i index found
        rw [found] at nextExact
        refine InputAggregator.installDevices_held exact nextExact ?_ held
        intro entry member
        rw [List.reduceOption_mem_iff] at member ⊢
        rcases List.mem_or_eq_of_mem_set member with stored | impossible
        · exact stored
        · cases impossible
      · exact held
  | device deviceId =>
      simp only [InputAggregator.removeDevice] at held nextExact
      split at held
      · rename_i present
        rw [if_pos present] at nextExact
        refine InputAggregator.installDevices_held exact nextExact ?_ held
        intro entry member
        rw [List.reduceOption_mem_iff] at member ⊢
        obtain ⟨stored, inTable, kept⟩ := List.mem_map.mp member
        split at kept
        · cases kept
        · exact kept ▸ inTable
      · exact held

theorem visibleKeys_le_of_subset (nodup : next.input.keyboard.keys.toList.Nodup)
    (held : ∀ key ∈ next.input.keyboard.keys.toList, key ∈
      bridge.input.keyboard.keys.toList)
    (hidden : ∀ key ∈ next.input.keyboard.keys.toList, key ∈
      bridge.suppression.keyboard.keys.toList → key ∈
      next.suppression.keyboard.keys.toList) :
    next.visibleKeys.length ≤ bridge.visibleKeys.length := by
  apply ((nodup.filter _).subperm ?_).length_le
  intro key visible
  obtain ⟨stillHeld, unhidden⟩ := List.mem_filter.mp visible
  refine List.mem_filter.mpr ⟨held key stillHeld, ?_⟩
  rw [Bool.not_eq_true', ← Bool.not_eq_true,
    KeyboardSuppression.containsKey_iff] at unhidden ⊢
  exact fun before => unhidden (hidden key stillHeld before)

theorem DetachApplied.windowStable (applied : DetachApplied bridge next out)
    (stable : WindowStable bridge)
    (nodup : next.input.keyboard.keys.toList.Nodup)
    (held : ∀ key ∈ next.input.keyboard.keys.toList,
      key ∈ bridge.input.keyboard.keys.toList) : WindowStable next := by
  cases applied with
  | unseen _ same =>
      refine ⟨Nat.le_trans (visibleKeys_le_of_subset nodup held ?_)
        stable.visible, ?_⟩
      · rw [same]
        exact fun _ _ hidden => hidden
      · rw [same]
        exact stable.nodup
  | seen _ pruned =>
      refine ⟨Nat.le_trans (visibleKeys_le_of_subset nodup held ?_)
        stable.visible, stable.nodup.sublist pruned.keptInOrder⟩
      exact fun key stillHeld hidden => (pruned.keys key).mpr
        ⟨hidden, stillHeld⟩

theorem BridgeStep.windowStable (step : BridgeStep build bridge event sent next)
    (sound : InputSound bridge) (stable : WindowStable bridge) :
    WindowStable next := by
  have nextSound := step.inputSound sound
  cases step with
  | quiet same => exact stable.of_same same.input same.suppression
  | frame _ _ applied _ =>
      obtain ⟨keyboard, -, -⟩ := applied
      obtain ⟨visible, nodup⟩ := keyboard.windowStable sound stable
      exact ⟨visible, nodup⟩
  | detach removal input applied _ =>
      apply applied.windowStable stable nextSound.nodup
      intro key held
      rw [input] at held
      have before : HeldItem.HeldIn bridge.inputDevices.aggregate (.key key) :=
        removal.held sound.exact held
      exact (sound.keys key).mpr before
  | retargetBle _ captured => exact captured.windowStable sound
  | retargetOutput _ captured => exact captured.windowStable sound
  | clear same => exact stable.of_same same.input same.suppression
  | wiredReset _ same => exact stable.of_same same.input same.suppression

theorem Performs.windowStable (performed : Performs build bridge call out next)
    (sound : InputSound bridge) (stable : WindowStable bridge) :
    WindowStable next := by
  rcases perform_cases performed with ⟨rfl, -⟩ | ⟨_, _, -, step⟩ |
    ⟨-, restarted⟩
  · exact stable
  · exact step.windowStable sound stable
  · exact restarted.captured.windowStable sound

theorem BridgeRun.windowStable (run : BridgeRun build hosts history finish) :
    WindowStable finish := by
  have both := run.invariant
    (fun bridge => InputSound bridge ∧ WindowStable bridge)
    ⟨inputSound_new hosts, windowStable_new hosts⟩
    fun _ _ performed kept =>
      ⟨performed.inputSound kept.1, performed.windowStable kept.1 kept.2⟩
  exact both.2

/-- The calls a keyboard frame makes on the way to its report: the window has
room, and the report shows every key that is left visible. -/
def FrameFits (bridge : BridgeState) (frame : StandardInputFrame) : Prop :=
  ∀ prepared keyboard pruned,
    bridge.inputDevices.prepareFrame frame = .ok prepared →
    bridge.input.keyboard.applyState
      (prepared.aggregateOver bridge.inputDevices).keyboard
      bridge.suppression.keyboard = .ok (keyboard, pruned) →
    ∃ suppression added,
      pruned.suppressVisibleAfter keyboard keyboard6KroKeyCapacity =
        .ok (suppression, added) ∧
      (Keyboard6KroReport.fromPhysicalState keyboard suppression).truncated =
        false

theorem WindowStable.frameFits (stable : WindowStable bridge)
    (sound : InputSound bridge) (frame : StandardInputFrame) :
    FrameFits bridge frame := by
  intro prepared keyboard pruned _ applied
  obtain ⟨held, hidden, within⟩ := applyState_distinct sound stable applied
  obtain ⟨suppression, added, window⟩ :=
    suppressVisibleAfter_ok keyboard6KroKeyCapacity hidden within
  refine ⟨suppression, added, window, ?_⟩
  rw [Keyboard6KroReport.truncated_fromPhysicalState]
  exact decide_eq_false (Nat.not_lt.mpr (window_visible_le held window))

/-- A frame suppresses a key that was not suppressed.  Only the window does
that, when six other keys are visible. -/
def Overflows {build : Build} (taken : BridgeTransition build)
    (key : KeyUsage) : Prop :=
  (∃ capacity frame, taken.event = .event capacity (.inputFrame frame)) ∧
    key ∉ taken.before.suppression.keyboard.keys ∧
      key ∈ taken.after.suppression.keyboard.keys

def InAggregate (bridge : BridgeState) (key : KeyUsage) : Prop :=
  key ∈ bridge.inputDevices.aggregate.keyboard.keys

theorem overflow_not_carried
    (run : BridgeRun build hosts (earlier ++ overflow :: since) finish)
    (overflows : Overflows overflow key)
    (stays : ∀ taken ∈ since, InAggregate taken.before key)
    (member : taken ∈ overflow :: since) {report : Keyboard6KroReport}
    (emitted : .notify target (.keyboard report) reason ∈ taken.output) :
    ¬ report.Carries key := by
  obtain ⟨before, performed, rest⟩ := run.split_at
  have hidden : HeldItem.HiddenBy overflow.after.suppression (.key key) :=
    overflows.2.2
  have sent : ⟨target, .keyboard report, reason⟩ ∈
      notifications taken.output := mem_notifications.mpr emitted
  rcases List.mem_cons.mp member with rfl | later
  · obtain ⟨_, _, -, step⟩ := step_of_sent performed sent
    exact step.hidden_not_shown sent hidden
  · -- In a reachable state the aggregate is what the input holds.
    have held : ∀ taken ∈ since,
        HeldItem.HeldIn taken.before.input (.key key) := by
      intro taken inSince
      obtain ⟨first, second, rfl⟩ := List.append_of_mem inSince
      obtain ⟨reached, -, -⟩ := rest.split_at
      have sound : InputSound taken.before :=
        BridgeRun.inputSound (Run.append_iff.mpr ⟨_, before,
          .cons performed reached⟩)
      exact (sound.keys key).mpr (stays taken inSince)
    exact hidden_not_shown_along rest hidden held later sent

/-- The stable window: at most six held keys are visible in every reachable
state, no call on the way to a report runs out of room or truncates, and a key
that overflowed is in no keyboard report until it left the aggregate. -/
theorem stable_window {build : Build} {hosts : Nat}
    {history : List (BridgeTransition build)} {finish : BridgeState}
    (run : BridgeRun build hosts history finish) :
    finish.visibleKeys.length ≤ keyboard6KroKeyCapacity ∧
      (∀ frame, FrameFits finish frame) ∧
      (∀ keyboard, ∃ captured,
        KeyboardSuppression.captureFrom keyboard = .ok captured) ∧
      ∀ earlier overflow since key,
        history = earlier ++ overflow :: since → Overflows overflow key →
        (∀ taken ∈ since, InAggregate taken.before key) →
        ∀ taken ∈ overflow :: since, ∀ target report reason,
          .notify target (.keyboard report) reason ∈ taken.output →
            ¬ report.Carries key := by
  have stable := run.windowStable
  refine ⟨stable.visible, stable.frameFits run.inputSound,
    fun keyboard => ⟨_, captureFrom_eq keyboard⟩, ?_⟩
  rintro earlier overflow since key rfl overflows stays taken member target
    report reason emitted
  exact overflow_not_carried run overflows stays member emitted

def Scenario.sixKeys : List (BridgeCall .single) :=
  connect ⟨1⟩ ++ [.event 16 (.switchTarget ⟨1⟩), keyDown 1 4, keyDown 2 5,
    keyDown 3 6, keyDown 4 7, keyDown 5 8, keyDown 6 9]

/-- A seventh key overflows.  The first is released, and the report that says
so does not show the seventh either. -/
theorem stable_window_seventhKey :
    let overflow : BridgeTransition .single := Scenario.next
      (Scenario.final Scenario.sixKeys) (Scenario.keyDown 7 10)
    let release : BridgeTransition .single := Scenario.next overflow.after
      (Scenario.frame 1 (some (.new 0)) none none)
    let report : Keyboard6KroReport := ⟨#v[0, 0, 5, 6, 7, 8, 9, 0]⟩
    InAggregate release.after ⟨10⟩ ∧
      .notify (.ble ⟨1⟩) (.keyboard report) .inputRelease ∈ release.output ∧
        release.after.visibleKeys.length ≤ 6 ∧ ¬ report.Carries ⟨10⟩ := by
  intro overflow release report
  have run : BridgeRun .single 2
      (Scenario.trace Scenario.sixKeys ++ overflow :: [release])
      release.after :=
    Run.append_iff.mpr ⟨_, Scenario.run _,
      Scenario.run_next _ _ (Scenario.run_next _ _ (.nil _))⟩
  obtain ⟨visible, -, -, hides⟩ := stable_window run
  have emitted : .notify (.ble ⟨1⟩) (.keyboard report) .inputRelease ∈
      release.output := by decide +kernel
  have overflows : Overflows overflow ⟨10⟩ :=
    ⟨⟨_, _, rfl⟩, by decide +kernel, by decide +kernel⟩
  refine ⟨by unfold InAggregate; decide +kernel, emitted, visible,
    hides _ overflow [release] ⟨10⟩ rfl overflows ?_ release
      (by simp) (.ble ⟨1⟩) report .inputRelease emitted⟩
  intro taken member
  obtain rfl := List.mem_singleton.mp member
  unfold InAggregate
  decide +kernel

end HidShift
