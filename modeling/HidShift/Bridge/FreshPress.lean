import HidShift.Bridge.LastReports
import HidShift.Bridge.Suppression

namespace HidShift

open Lib

/-- The interface keeps its entry when the call is performed. -/
def BridgeCall.spares {build : Build} (call : BridgeCall build)
    (entry : DeviceInputState) : Bool :=
  match call with
  | .event _ (.usbDeviceRemoved interfaceId) => entry.interfaceId ≠ interfaceId
  | .event _ (.resetInputDevice deviceId) => entry.deviceId ≠ deviceId
  | _ => true

def HiddenSpared {build : Build} (bridge : BridgeState)
    (call : BridgeCall build) : Prop :=
  ∀ item : HeldItem, item.HiddenBy bridge.suppression →
    ∃ entry ∈ bridge.inputDevices.devices.reduceOption,
      call.spares entry = true ∧ item.HeldBy entry

def SuppressionState.items (suppression : SuppressionState) : List HeldItem :=
  suppression.keyboard.keys.toList.map .key ++
    ((List.range 8).map .modifier ++ (List.range 8).map .button)

theorem HeldItem.HiddenBy.mem_items {item : HeldItem}
    {suppression : SuppressionState} (hidden : item.HiddenBy suppression) :
    item ∈ suppression.items := by
  simp only [SuppressionState.items, List.mem_append, List.mem_map,
    List.mem_range]
  cases item with
  | key usage => exact .inl ⟨usage, hidden, rfl⟩
  | modifier bit =>
      exact .inr (.inl ⟨bit, BitVec.lt_of_getLsbD hidden, rfl⟩)
  | button bit => exact .inr (.inr ⟨bit, BitVec.lt_of_getLsbD hidden, rfl⟩)

instance {build : Build} (bridge : BridgeState) (call : BridgeCall build) :
    Decidable (HiddenSpared bridge call) :=
  decidable_of_iff (∀ item ∈ bridge.suppression.items,
      item.HiddenBy bridge.suppression →
        ∃ entry ∈ bridge.inputDevices.devices.reduceOption,
          call.spares entry = true ∧ item.HeldBy entry)
    ⟨fun covered item hidden => covered item hidden.mem_items hidden,
      fun covered item _ => covered item⟩

/-- Without an active BLE host, a removal leaves the hidden input held. -/
def RemovalCovered {build : Build} (taken : BridgeTransition build) : Prop :=
  taken.event.detaches = true → taken.before.hosts.activeTarget = none →
    HiddenSpared taken.before taken.event

instance {build : Build} (taken : BridgeTransition build) :
    Decidable (RemovalCovered taken) :=
  inferInstanceAs (Decidable (_ → _ → _))

def HiddenHeld (bridge : BridgeState) : Prop :=
  ∀ item : HeldItem, item.HiddenBy bridge.suppression → item.HeldIn bridge.input

private theorem mem_reduceOption_set_none {slots : DeviceSlots}
    (member : entry ∈ slots.reduceOption)
    (elsewhere : slots[index]? ≠ some (some entry)) :
    entry ∈ (slots.set index none).reduceOption := by
  rw [List.reduceOption_mem_iff] at member ⊢
  obtain ⟨position, bound, stored⟩ := List.mem_iff_getElem.mp member
  have differs : index ≠ position := by
    rintro rfl
    exact elsewhere (by rw [List.getElem?_eq_getElem bound, stored])
  refine List.mem_iff_getElem.mpr ⟨position, ?_, ?_⟩
  · rw [List.length_set]
    exact bound
  · rw [List.getElem_set_ne differs]
    exact stored

theorem InputAggregator.mem_installDevices {aggregator : InputAggregator}
    {devices : DeviceSlots} (member : entry ∈ aggregator.devices.reduceOption)
    (installed : entry ∈ devices.reduceOption) :
    entry ∈ (aggregator.installDevices devices).1.devices.reduceOption := by
  simp only [InputAggregator.installDevices]
  split
  · exact installed
  · exact member

theorem Removal.spared {aggregator next : InputAggregator}
    (removal : Removal aggregator event next)
    (member : entry ∈ aggregator.devices.reduceOption)
    (spared : (BridgeCall.event capacity event).spares entry = true) :
    entry ∈ next.devices.reduceOption := by
  cases removal with
  | interface interfaceId =>
      have differs : entry.interfaceId ≠ interfaceId :=
        of_decide_eq_true spared
      simp only [InputAggregator.removeInterface]
      split
      · rename_i index found
        refine InputAggregator.mem_installDevices member
          (mem_reduceOption_set_none member ?_)
        obtain ⟨before, old, after, devices, rfl, keyed, -⟩ :=
          SlotTable.split_of_slotIndex? found
        rw [devices]
        intro stored
        simp only [List.getElem?_append_right (Nat.le_refl _), Nat.sub_self,
          List.getElem?_cons_zero, Option.some.injEq] at stored
        exact differs (stored ▸ keyed)
      · exact member
  | device deviceId =>
      have differs : entry.deviceId ≠ deviceId := of_decide_eq_true spared
      simp only [InputAggregator.removeDevice]
      split
      · apply InputAggregator.mem_installDevices member
        rw [List.reduceOption_mem_iff] at member ⊢
        exact List.mem_map.mpr ⟨some entry, member, by simp [differs]⟩
      · exact member

section

variable {build : Build} {bridge : BridgeState}
  {aggregate : PhysicalInputState} {out : List BridgeAction}

theorem KeyboardPart.hiddenHeld
    (part : KeyboardPart build bridge aggregate carried keyboard suppression
      out) (held : HiddenHeld bridge) :
    (∀ key ∈ suppression.keys, key ∈ keyboard.keys) ∧
      ∀ bit, suppression.modifiers.getLsbD bit = true →
        keyboard.modifiers.getLsbD bit = true := by
  cases part with
  | absent => exact ⟨fun key => held (.key key), fun bit => held (.modifier bit)⟩
  | present applied window =>
      have snapshot := applySnapshot_spec applied
      obtain ⟨modifiers, -, bounded⟩ := suppressVisibleAfter_subset window
      refine ⟨fun key hidden => ?_, fun bit hidden => ?_⟩
      · rcases bounded key hidden with pruned | shown
        · exact (snapshot.mem_keys key).mpr
            ((snapshot.mem_suppressed key).mp pruned).2
        · exact shown
      · rw [modifiers, snapshot.suppressedModifiers, BitVec.getLsbD_and,
          Bool.and_eq_true] at hidden
        rw [snapshot.nextModifiers]
        exact hidden.2

theorem MousePart.hiddenHeld
    (part : MousePart build bridge aggregate carried mouse suppression out)
    (held : HiddenHeld bridge) (hidden : suppression.bits.getLsbD bit = true) :
    mouse.buttons.bits.getLsbD bit = true := by
  cases part with
  | absent => exact held (.button bit) hidden
  | present =>
      rw [MouseButtons.intersection, BitVec.getLsbD_and,
        Bool.and_eq_true] at hidden
      exact hidden.2

end

theorem HiddenHeld.of_same {bridge next : BridgeState}
    (held : HiddenHeld bridge) (input : next.input = bridge.input)
    (suppression : next.suppression = bridge.suppression) :
    HiddenHeld next := by
  intro item hidden
  rw [input]
  exact held item (suppression ▸ hidden)

theorem HiddenHeld.of_captured (captured : Captured bridge next) :
    HiddenHeld next := by
  intro item hidden
  unfold HeldItem.HiddenBy at hidden
  rw [captured.suppression] at hidden
  rw [captured.input]
  cases item <;> exact hidden

theorem HiddenHeld.of_pruned (pruned : SuppressionPruned bridge next) :
    HiddenHeld next := by
  intro item hidden
  cases item with
  | key usage => exact ((pruned.keys usage).mp hidden).2
  | modifier bit =>
      rw [HeldItem.HiddenBy, pruned.modifiers, BitVec.getLsbD_and,
        Bool.and_eq_true] at hidden
      exact hidden.2
  | button bit =>
      rw [HeldItem.HiddenBy, pruned.mouseButtons, MouseButtons.intersection,
        BitVec.getLsbD_and, Bool.and_eq_true] at hidden
      exact hidden.2

theorem BridgeStep.hiddenHeld (step : BridgeStep build bridge event sent next)
    (sound : InputSound bridge) (held : HiddenHeld bridge)
    (covered : (BridgeCall.event capacity event).detaches = true →
      bridge.hosts.activeTarget = none →
        HiddenSpared bridge (.event capacity event)) :
    HiddenHeld next := by
  cases step with
  | quiet same => exact held.of_same same.input same.suppression
  | frame _ _ applied _ =>
      obtain ⟨keyboard, mouse, -⟩ := applied
      intro item hidden
      cases item with
      | key usage => exact (keyboard.hiddenHeld held).1 usage hidden
      | modifier bit => exact (keyboard.hiddenHeld held).2 bit hidden
      | button bit => exact mouse.hiddenHeld held hidden
  | detach removal input applied _ =>
      cases applied with
      | seen _ pruned => exact .of_pruned pruned
      | unseen inactive same =>
          -- Nothing was pruned: the hidden items must still be held.
          intro item hidden
          obtain ⟨entry, member, spared, holds⟩ :=
            covered (removal.detaches capacity) inactive item (same ▸ hidden)
          rw [input, (removal.exact sound.exact).heldIn_aggregate]
          exact ⟨entry, removal.spared member spared, holds⟩
  | retargetBle _ captured => exact .of_captured captured
  | retargetOutput _ captured => exact .of_captured captured
  | clear same => exact held.of_same same.input same.suppression
  | wiredReset _ same => exact held.of_same same.input same.suppression

theorem Performs.hiddenHeld
    (performed : Performs build taken.before taken.event taken.output
      taken.after) (sound : InputSound taken.before)
    (held : HiddenHeld taken.before) (covered : RemovalCovered taken) :
    HiddenHeld taken.after := by
  rcases perform_cases performed with ⟨same, -⟩ | ⟨_, _, call, step⟩ |
    ⟨-, restarted⟩
  · rw [same]
    exact held
  · unfold RemovalCovered at covered
    rw [call] at covered
    exact step.hiddenHeld sound held covered
  · exact .of_captured restarted.captured

theorem hiddenHeld_along (run : Run (Performs build) start history finish)
    (sound : InputSound start) (held : HiddenHeld start)
    (covered : ∀ taken ∈ history, RemovalCovered taken) :
    InputSound finish ∧ HiddenHeld finish := by
  refine run.invariant (fun bridge => InputSound bridge ∧ HiddenHeld bridge)
    ⟨sound, held⟩ ?_
  intro taken member performed ⟨sound, held⟩
  exact ⟨performed.inputSound sound,
    performed.hiddenHeld sound held (covered taken member)⟩

theorem hiddenHeld_new (hosts : Nat) : HiddenHeld (.new hosts) := by
  intro item hidden
  cases item <;> exact hidden

/-- The unsuppressed keys pressed before `key`, which take report bytes ahead
of it. -/
def visibleAhead (bridge next : BridgeState) (key : KeyUsage) :
    List KeyUsage :=
  (next.input.keyboard.keys.toList.takeWhile (· ≠ key)).filter
    fun other => !bridge.suppression.keyboard.containsKey other

/-- The press of an absent key is in the report for its frame, if fewer than
six visible keys are ahead of it. -/
def FreshPressShown (taken : BridgeTransition .dual) : Prop :=
  ∀ capacity frame (key : KeyUsage) target,
    taken.event = .event capacity (.inputFrame (.standard frame)) →
    key.val ≠ 0 →
    key ∉ taken.before.inputDevices.aggregate.keyboard.keys →
    key ∈ taken.after.inputDevices.aggregate.keyboard.keys →
    (visibleAhead taken.before taken.after key).length <
      keyboard6KroKeyCapacity →
    taken.before.readyActiveTarget .dual .keyboard = some target →
    ∃ report reason,
      .notify target (.keyboard report) reason ∈ taken.output ∧
        report.Carries key

private theorem mem_take_filter {α : Type} {front rest : List α} {value : α}
    {keep : α → Bool} {count : Nat} (kept : keep value = true)
    (room : (front.filter keep).length < count) :
    value ∈ ((front ++ value :: rest).filter keep).take count := by
  rw [List.filter_append, List.filter_cons_of_pos kept, List.take_append]
  apply List.mem_append_right _
  obtain ⟨more, left⟩ : ∃ more, count - (front.filter keep).length = more + 1 :=
    ⟨count - (front.filter keep).length - 1, by omega⟩
  rw [left, List.take_succ_cons]
  exact List.mem_cons_self ..

private theorem split_at_first {keys : List KeyUsage} {key : KeyUsage}
    (member : key ∈ keys) :
    ∃ rest, keys = keys.takeWhile (· ≠ key) ++ key :: rest := by
  induction keys with
  | nil => cases member
  | cons head tail ih =>
      by_cases same : head = key
      · subst same
        exact ⟨tail, by simp⟩
      · obtain ⟨rest, split⟩ :=
          ih ((List.mem_cons.mp member).resolve_left (Ne.symm same))
        refine ⟨rest, ?_⟩
        rw [List.takeWhile_cons_of_pos (by simpa using same),
          List.cons_append, ← split]

theorem KeyboardPart.fresh_shown {bridge : BridgeState}
    {aggregate : PhysicalInputState} {out : List BridgeAction}
    {carried : Option KeyboardFrame} {keyboard : PhysicalKeyboardState}
    {suppression : KeyboardSuppression}
    (part : KeyboardPart .dual bridge aggregate carried keyboard suppression
      out) (nodup : keyboard.keys.toList.Nodup) {key : KeyUsage}
    (used : key.val ≠ 0)
    (absent : key ∉ bridge.input.keyboard.keys)
    (unhidden : key ∉ bridge.suppression.keyboard.keys)
    (pressed : key ∈ keyboard.keys)
    (room : ((keyboard.keys.toList.takeWhile (· ≠ key)).filter fun other =>
      !bridge.suppression.keyboard.containsKey other).length <
        keyboard6KroKeyCapacity) {target : OutputTarget}
    (ready : bridge.readyActiveTarget .dual .keyboard = some target) :
    ∃ report reason, .notify target (.keyboard report) reason ∈ out ∧
      report.Carries key := by
  cases part with
  | absent => exact absurd pressed absent
  | present applied window =>
      rename_i pruned total
      have snapshot := applySnapshot_spec applied
      obtain ⟨-, windowKeys⟩ := suppressVisibleAfter_spec nodup window
      obtain ⟨rest, split⟩ := split_at_first pressed
      -- Before the window, exactly the held keys hidden earlier are hidden.
      have sameHidden : ∀ other ∈ keyboard.keys.toList,
          pruned.containsKey other =
            bridge.suppression.keyboard.containsKey other := by
        intro other held
        have down := (snapshot.mem_keys other).mp held
        rw [Bool.eq_iff_iff, KeyboardSuppression.containsKey_iff,
          KeyboardSuppression.containsKey_iff, snapshot.mem_suppressed]
        exact and_iff_left down
      have visible : pruned.containsKey key = false := by
        rw [sameHidden key pressed, Bool.eq_false_iff, ne_eq,
          KeyboardSuppression.containsKey_iff]
        exact unhidden
      have ahead : ((keyboard.keys.toList.takeWhile (· ≠ key)).filter
          fun other => !pruned.containsKey other).length < 6 := by
        refine Nat.lt_of_le_of_lt (Nat.le_of_eq (congrArg _
          (List.filter_congr fun other member => ?_))) room
        rw [sameHidden other (List.takeWhile_subset _ member)]
      have kept : key ∈ (keyboard.keys.toList.filter fun other =>
          !pruned.containsKey other).take 6 := by
        rw [split]
        exact mem_take_filter (by simp [visible]) ahead
      have shown : suppression.containsKey key = false := by
        rw [Bool.eq_false_iff, ne_eq, KeyboardSuppression.containsKey_iff,
          windowKeys, List.mem_append]
        rintro (hidden | dropped)
        · rw [← KeyboardSuppression.containsKey_iff, visible] at hidden
          cases hidden
        · exact List.disjoint_take_drop (nodup.filter _) (Nat.le_refl _) kept
            dropped
      have stillAhead : ((keyboard.keys.toList.takeWhile (· ≠ key)).filter
          fun other => !suppression.containsKey other).length < 6 := by
        refine Nat.lt_of_le_of_lt (List.Sublist.length_le
          (List.monotone_filter_right _ fun other => ?_)) ahead
        have grows := (suppressVisibleAfter_subset window).2.1 other
        simp only [Bool.not_eq_true', ← Bool.not_eq_true,
          KeyboardSuppression.containsKey_iff]
        exact fun shown hidden => shown (grows hidden)
      obtain ⟨reason, reported⟩ : ∃ reason,
          bridge.keyboardReports .dual keyboard suppression =
            [.notify target (.keyboard (Keyboard6KroReport.fromPhysicalState
              keyboard suppression).report) reason] := by
        simp only [BridgeState.keyboardReports, ready]
        exact ⟨_, rfl⟩
      refine ⟨_, reason, ?_, (Keyboard6KroReport.carries_fromPhysicalState
        keyboard suppression key).mpr ⟨used, ?_⟩⟩
      · rw [reported]
        exact List.mem_singleton.mpr rfl
      · rw [split]
        exact mem_take_filter (by simp [shown]) stillAhead

theorem Performs.freshPressShown
    (performed : Performs .dual taken.before taken.event taken.output
      taken.after) (sound : InputSound taken.before)
    (held : HiddenHeld taken.before) : FreshPressShown taken := by
  intro capacity frame key target call used absent pressed room ready
  have unmoved : taken.after.inputDevices = taken.before.inputDevices →
      False := fun same => absent (same ▸ pressed)
  have soundAfter := performed.inputSound sound
  have absentInput : key ∉ taken.before.input.keyboard.keys :=
    fun member => absent ((sound.keys key).mp member)
  have unhidden : key ∉ taken.before.suppression.keyboard.keys :=
    fun hidden => absentInput (held (.key key) hidden)
  rw [← soundAfter.keys] at pressed
  rcases perform_cases performed with ⟨same, -⟩ | ⟨_, event, handled, step⟩ |
    ⟨-, restarted⟩
  · exact absurd (congrArg _ same) unmoved
  · rw [handled] at call
    cases call
    generalize sending : notifications taken.output = sent at step
    cases step with
    | quiet same => exact absurd same.inputDevices unmoved
    | frame _ _ applied _ =>
        obtain ⟨keyboard, mouse, consumer⟩ := applied
        obtain ⟨report, reason, member, carried⟩ := keyboard.fresh_shown
          soundAfter.nodup used absentInput unhidden pressed room ready
        refine ⟨report, reason, mem_notifications.mp
          (sending ▸ ?_ : ⟨target, .keyboard report, reason⟩ ∈
            notifications taken.output), carried⟩
        rw [notifications_append]
        exact List.mem_append_left _ (mem_notifications.mpr member)
    | detach removal => cases removal
    | retargetBle _ captured => exact absurd captured.inputDevices unmoved
    | retargetOutput _ captured => exact absurd captured.inputDevices unmoved
    | wiredReset _ same => exact absurd same.inputDevices unmoved
  · exact absurd restarted.captured.inputDevices unmoved

/-- In every run whose removals leave the hidden input held, only held input is
hidden and every fresh press is shown. -/
theorem fresh_presses_shown {hosts : Nat}
    {history : List (BridgeTransition .dual)} {finish : BridgeState}
    (run : BridgeRun .dual hosts history finish)
    (covered : ∀ taken ∈ history, RemovalCovered taken) :
    HiddenHeld finish ∧ ∀ taken ∈ history, FreshPressShown taken := by
  refine ⟨(hiddenHeld_along run (inputSound_new hosts) (hiddenHeld_new hosts)
    covered).2, fun taken member => ?_⟩
  obtain ⟨earlier, later, rfl⟩ := List.append_of_mem member
  obtain ⟨first, performed, -⟩ := run.split_at
  obtain ⟨sound, held⟩ := hiddenHeld_along first (inputSound_new hosts)
    (hiddenHeld_new hosts)
    fun earlierTaken earlierMember => covered earlierTaken
      (List.mem_append_left _ earlierMember)
  exact performed.freshPressShown sound held

/-- The wired computer takes over while a key is held, the keyboard is removed
and comes back with the same key. -/
def Scenario.keyboardReplugged : List (BridgeCall .dual) :=
  connect ⟨1⟩ ++ [.event 16 (.switchTarget ⟨1⟩), keyDown 1 4,
    .event 16 (.selectOutputTarget .wired),
    .event 16 (.wiredAvailabilityChanged .ready),
    .event 16 (.usbDeviceRemoved ⟨1⟩), keyDown 1 4]

theorem replugged_press_swallowed :
    ¬ ∀ calls : List (BridgeCall .dual),
      HiddenHeld (Scenario.final calls) ∧
        ∀ taken ∈ Scenario.trace calls, FreshPressShown taken := by
  intro always
  obtain ⟨-, shown⟩ := always Scenario.keyboardReplugged
  have output : ((Scenario.trace Scenario.keyboardReplugged).getLast
      (by decide +kernel)).output =
        [.notify .wired (.keyboard .release) .input] := by decide +kernel
  obtain ⟨report, reason, emitted, carried⟩ := shown _
    (List.getLast_mem (by decide +kernel)) 16
    ⟨⟨1⟩, ⟨1⟩, some ⟨0, ⟨[⟨4⟩], by decide⟩, by decide⟩, none, none⟩ ⟨4⟩ .wired
    (by rfl) (by decide) (by decide +kernel) (by decide +kernel)
    (by decide +kernel) (by decide +kernel)
  rw [output, List.mem_singleton] at emitted
  cases emitted
  exact Keyboard6KroReport.not_carries_release _ carried

def Scenario.keyShared : List (BridgeCall .dual) :=
  connect ⟨1⟩ ++ [.event 16 (.switchTarget ⟨1⟩), keyDown 1 4, keyDown 2 4,
    .event 16 (.selectOutputTarget .wired),
    .event 16 (.wiredAvailabilityChanged .ready),
    .event 16 (.usbDeviceRemoved ⟨1⟩), keyDown 1 5]

theorem fresh_presses_shown_keyShared :
    let finish := Scenario.final Scenario.keyShared
    (finish.outputTarget.active = some .wired ∧
        HeldItem.HiddenBy finish.suppression (.key ⟨4⟩)) ∧
      HiddenHeld finish ∧
        ∀ taken ∈ Scenario.trace Scenario.keyShared, FreshPressShown taken := by
  exact ⟨by decide +kernel, fresh_presses_shown
    (Scenario.run Scenario.keyShared) (by decide +kernel)⟩

end HidShift
