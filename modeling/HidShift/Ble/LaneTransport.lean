import HidShift.Ble.LaneOrder

namespace HidShift

namespace BleLanes

section

variable {lanes : BleLanes}

theorem transmitted_handle (stamped : Stamped) :
    (lanes.handle stamped).transmitted =
      lanes.transmitted ++ deliver lanes.gate [stamped] := by
  simp only [handle, deliver]
  split
  · exact (List.append_nil _).symm
  · rfl

variable {stamped : Stamped}

theorem gate_handle_input {report : BleHidReport}
    (input : stamped.command = .notify hostId report .input) :
    (lanes.handle stamped).gate = lanes.gate := by
  simp only [handle, input]
  rfl

theorem passed_receive_control (control : lanes.control = stamped :: rest)
    (hostId : HostId) (kind : ReportKind) :
    ({ lanes with control := rest }.handle stamped).passed hostId kind =
      lanes.passed hostId kind := by
  simp only [passed]
  rw [transmitted_handle, control, deliver_cons lanes.gate stamped rest,
    List.append_assoc]
  rfl

theorem line_receive_control (control : lanes.control = stamped :: rest)
    (hostId : HostId) (kind : ReportKind) :
    ({ lanes with control := rest }.handle stamped).line hostId kind =
      lanes.line hostId kind := by
  have gate : ({ lanes with control := rest }.handle stamped).gateAhead =
      lanes.gateAhead := by
    simp only [gateAhead]
    rw [control]
    rfl
  simp only [line]
  rw [passed_receive_control control, gate]
  rfl

theorem line_receive_notify {report : BleHidReport}
    (control : lanes.control = []) (notify : lanes.notify = stamped :: rest)
    (input : stamped.command = .notify target report .input) (hostId : HostId)
    (kind : ReportKind) :
    ({ lanes with notify := rest }.handle stamped).line hostId kind =
      lanes.line hostId kind := by
  have gate : ({ lanes with notify := rest }.handle stamped).gate =
      lanes.gate := gate_handle_input input
  have ahead : ({ lanes with notify := rest }.handle stamped).gateAhead =
      lanes.gateAhead := by
    simp only [gateAhead]
    rw [gate]
    rfl
  have empty : lanes.gateAhead = lanes.gate := by
    simp only [gateAhead]
    rw [control]
    rfl
  have passed : ({ lanes with notify := rest }.handle stamped).passed
      hostId kind = lanes.passed hostId kind ++
        marks hostId kind (deliver lanes.gate [stamped]) := by
    have still : ({ lanes with notify := rest }.handle stamped).control =
        [] := control
    simp only [BleLanes.passed]
    rw [transmitted_handle, gate, still, control, deliver, List.append_nil,
      List.append_nil, marks_append]
  -- The report is for another host or kind, or the gate decides about it.
  have front : marks hostId kind (deliver lanes.gate [stamped]) =
      if lanes.gate.shouldDropInput hostId then []
      else marks hostId kind [stamped] := by
    simp only [deliver, input, BleInputGate.applyCommand,
      BleInputGate.shouldDrop]
    by_cases same : target = hostId
    · rw [same]
      split
      · rfl
      · rfl
    · have other : marks hostId kind [stamped] = [] :=
        marks_singleton_of_none (by
          rw [input]
          exact if_neg fun both => same both.1)
      rw [other]
      split
      · rw [ite_self]
        rfl
      · rw [ite_self]
        exact other
  simp only [line]
  rw [passed, ahead, front, empty, notify, marks_cons stamped rest]
  cases lanes.gate.shouldDropInput hostId with
  | true => simp only [if_true, List.append_nil]; rfl
  | false =>
      simp only [Bool.false_eq_true, if_false, List.append_assoc]
      rfl

theorem LaneInvariant.receive (invariant : lanes.LaneInvariant) :
    lanes.receive.LaneInvariant := by
  unfold BleLanes.receive
  split
  · rename_i stamped rest control
    refine ⟨invariant.notify, invariant.outbox, fun hostId kind => ?_⟩
    refine (invariant.inStep hostId kind).frame (.inl rfl) ?_
      (line_receive_control control hostId kind) id rfl id
      (fun _ member => .inl member)
    simp only [gateAhead]
    rw [control]
    rfl
  · rename_i stamped rest control notify
    have head := invariant.notify stamped (notify ▸ List.mem_cons_self ..)
    obtain ⟨target, report, input⟩ := head
    refine ⟨fun other member => invariant.notify other
      (notify ▸ List.mem_cons_of_mem _ member), invariant.outbox,
      fun hostId kind => ?_⟩
    refine (invariant.inStep hostId kind).frame (.inl rfl) ?_
      (line_receive_notify control notify input hostId kind) ?_ rfl id
      (fun _ member => .inl member)
    · simp only [gateAhead]
      rw [gate_handle_input input]
      rfl
    · rw [notify, marks_cons stamped rest]
      exact fun none => (List.append_eq_nil_iff.mp none).2
  · exact invariant

end

section

variable {lanes : BleLanes} {stamped : Stamped} {rest : List Stamped}
  {hostId : HostId} {kind : ReportKind}

def sent (lanes : BleLanes) (stamped : Stamped) (rest : List Stamped) :
    BleLanes :=
  { lanes with control := lanes.control ++ [stamped], outbox := rest }

theorem gateAhead_sent :
    (lanes.sent stamped rest).gateAhead =
      lanes.gateAhead.applyCommand stamped.command :=
  gateAfter_append _ _ _

theorem passed_sent :
    (lanes.sent stamped rest).passed hostId kind =
      lanes.passed hostId kind ++
        marks hostId kind (deliver lanes.gateAhead [stamped]) := by
  show marks hostId kind (lanes.transmitted ++
    deliver lanes.gate (lanes.control ++ [stamped])) = _
  rw [deliver_append, ← List.append_assoc, marks_append]
  rfl

theorem applyCommand_changes {gate : BleInputGate bleHostsMax}
    (changed : (gate.applyCommand command).shouldDropInput hostId ≠
      gate.shouldDropInput hostId) :
    ((∃ report reason, command = .notify hostId report reason ∧
        reason.blocks = true) ∧ gate.shouldDropInput hostId = false) ∨
      command = .activateInput hostId ∧
        gate.shouldDropInput hostId = true ∧
          (hostIndex bleHostsMax hostId).isSome := by
  have blocked {target : HostId} (changed :
      (gate.block target).shouldDropInput hostId ≠
        gate.shouldDropInput hostId) :
      target = hostId ∧ gate.shouldDropInput hostId = false := by
    rw [BleInputGate.shouldDropInput_block] at changed
    by_cases same : hostId = target
    · refine ⟨same.symm, ?_⟩
      rw [decide_eq_true same, Bool.true_or] at changed
      exact Bool.eq_false_iff.mpr changed.symm
    · rw [decide_eq_false same, Bool.false_or] at changed
      exact absurd rfl changed
  cases command with
  | notify target report reason =>
      cases reason with
      | targetSwitchRelease =>
          obtain ⟨rfl, wasOpen⟩ := blocked changed
          exact .inl ⟨⟨report, _, rfl, rfl⟩, wasOpen⟩
      | safetyRelease =>
          obtain ⟨rfl, wasOpen⟩ := blocked changed
          exact .inl ⟨⟨report, _, rfl, rfl⟩, wasOpen⟩
      | _ => exact absurd rfl changed
  | activateInput target =>
      change (gate.activate target).shouldDropInput hostId ≠ _ at changed
      by_cases same : hostId = target
      · subst same
        cases wasBlocked : gate.shouldDropInput hostId with
        | false =>
            rw [BleInputGate.shouldDropInput_activate_of_open gate
              wasBlocked] at changed
            exact absurd wasBlocked.symm changed
        | true =>
            refine .inr ⟨rfl, rfl, ?_⟩
            cases found : hostIndex bleHostsMax hostId with
            | some index => rfl
            | none =>
                refine absurd ?_ changed
                simp only [BleInputGate.shouldDropInput, found]
      · exact absurd
          (BleInputGate.shouldDropInput_activate_other gate same) changed
  | _ => exact absurd rfl changed

section

variable (outbox : Outbox (stamped :: rest))

include outbox

theorem Outbox.tail_of_blocks {report : BleHidReport}
    (command : stamped.command = .notify hostId report reason)
    (blocks : reason.blocks = true) : rest = [] := by
  cases outbox with
  | last => rfl
  | movement next =>
      cases command
      cases blocks

theorem Outbox.tail_of_activates
    (command : stamped.command = .activateInput hostId) : rest = [] := by
  cases outbox with
  | last => rfl
  | movement next => cases command

theorem Outbox.tail : Outbox rest := by
  cases outbox with
  | last => exact .done
  | movement next => exact next

end

theorem deliver_of_blocks {gate : BleInputGate bleHostsMax}
    {report : BleHidReport}
    (command : stamped.command = .notify hostId report reason)
    (blocks : reason.blocks = true) : deliver gate [stamped] = [stamped] := by
  rw [deliver, command]
  cases reason with
  | targetSwitchRelease => rfl
  | safetyRelease => rfl
  | _ => cases blocks

theorem line_sent_of_unchanged (outbox : lanes.outbox = stamped :: rest)
    (gate : (lanes.sent stamped rest).gateAhead.shouldDropInput hostId =
      lanes.gateAhead.shouldDropInput hostId)
    (apart : lanes.Admits hostId →
      marks hostId kind (deliver lanes.gateAhead [stamped]) = [] ∨
        marks hostId kind lanes.notify = []) :
    (lanes.sent stamped rest).line hostId kind = lanes.line hostId kind := by
  by_cases admits : lanes.Admits hostId
  · rw [line_of_admits admits, line_of_admits (gate.trans admits),
      passed_sent, gateAhead_sent, outbox,
      deliver_cons lanes.gateAhead stamped rest, marks_append]
    rcases apart admits with none | none
    · rw [none]
      simp only [List.append_nil, List.nil_append]
      rfl
    · have still : marks hostId kind (lanes.sent stamped rest).notify = [] :=
        none
      rw [none, still]
      simp only [List.append_nil, List.append_assoc]
      rfl
  · have still : ¬(lanes.sent stamped rest).Admits hostId := by
      unfold Admits
      rw [gate]
      exact admits
    rw [line_of_not_admits admits, line_of_not_admits still, passed_sent,
      gateAhead_sent, outbox, deliver_cons lanes.gateAhead stamped rest,
      marks_append, List.append_assoc]
    rfl

section

variable (inStep : lanes.InStep hostId kind)

include inStep

theorem InStep.sent_of_unchanged (outbox : lanes.outbox = stamped :: rest)
    (gate : (lanes.sent stamped rest).gateAhead.shouldDropInput hostId =
      lanes.gateAhead.shouldDropInput hostId) :
    (lanes.sent stamped rest).InStep hostId kind := by
  have member : stamped ∈ lanes.outbox := outbox ▸ List.mem_cons_self ..
  -- A report that blocks its host cannot leave an open gate open.
  have clear {report : BleHidReport} {reason : NotifyReason}
      (notice : stamped.command.noticeTo hostId kind =
        some (report, reason)) (admits : lanes.Admits hostId) :
      marks hostId kind lanes.notify = [] := by
    apply (inStep.clear stamped member report reason notice).2 admits
    obtain ⟨command, -⟩ := noticeTo_eq_some notice
    rw [gateAhead_sent, command,
      show lanes.gateAhead.shouldDropInput hostId = false from admits]
      at gate
    cases reason with
    | targetSwitchRelease =>
        simp [BleInputGate.applyCommand,
          BleInputGate.shouldDropInput_block] at gate
    | safetyRelease =>
        simp [BleInputGate.applyCommand,
          BleInputGate.shouldDropInput_block] at gate
    | _ => rfl
  cases notice : stamped.command.noticeTo hostId kind with
  | none =>
      refine inStep.frame (.inl rfl) gate
        (line_sent_of_unchanged outbox gate fun _ =>
          .inl (marks_deliver_eq_nil _ (marks_singleton_of_none notice)))
        id rfl ?_ ?_
      · intro none
        rw [outbox, marks_cons, marks_singleton_of_none notice]
        exact none
      · intro other later
        exact .inl (outbox ▸ List.mem_cons_of_mem _ later)
  | some found =>
      obtain ⟨report, reason⟩ := found
      have line : (lanes.sent stamped rest).line hostId kind =
          lanes.line hostId kind :=
        line_sent_of_unchanged outbox gate fun admits =>
          .inr (clear notice admits)
      have admits : (lanes.sent stamped rest).Admits hostId ↔
          lanes.Admits hostId := by
        unfold Admits
        rw [gate]
      constructor
      · rw [line]
        exact inStep.inOrder
      · rw [line, admits]
        exact inStep.current
      · rw [admits]
        intro isOpen _ _
        exact ⟨clear notice isOpen,
          (inStep.clear stamped member report reason notice).1⟩
      · rw [admits]
        intro other later
        exact inStep.clear other (outbox ▸ List.mem_cons_of_mem _ later)
      · intro other later activates
        have before := inStep.opening other
          (outbox ▸ List.mem_cons_of_mem _ later) activates
        simp only [Opening] at before ⊢
        rw [admits]
        exact before

theorem InStep.sent_of_blocks
    {report : BleHidReport} (outbox : lanes.outbox = [stamped])
    (command : stamped.command = .notify hostId report reason)
    (blocks : reason.blocks = true) (admits : lanes.Admits hostId) :
    (lanes.sent stamped []).InStep hostId kind := by
  have blocked : ¬(lanes.sent stamped []).Admits hostId := by
    unfold Admits
    rw [gateAhead_sent, command]
    cases reason with
    | targetSwitchRelease =>
        simp [BleInputGate.applyCommand, BleInputGate.shouldDropInput_block]
    | safetyRelease =>
        simp [BleInputGate.applyCommand, BleInputGate.shouldDropInput_block]
    | _ => cases blocks
  have after : (lanes.sent stamped []).line hostId kind =
      lanes.passed hostId kind ++ marks hostId kind [stamped] := by
    rw [line_of_not_admits blocked, passed_sent,
      deliver_of_blocks command blocks]
    exact List.append_nil _
  have before : lanes.line hostId kind =
      lanes.passed hostId kind ++ marks hostId kind lanes.notify ++
        marks hostId kind [stamped] ++ lanes.pendingMarks hostId kind := by
    rw [line_of_admits admits, outbox, deliver_of_blocks command blocks]
  have shorter : ((lanes.sent stamped []).line hostId kind).Sublist
      (lanes.line hostId kind) := by
    rw [after, before]
    exact ((List.sublist_append_left _ _).append (.refl _)).trans
      (List.sublist_append_left _ _)
  refine ⟨inStep.inOrder.sublist shorter, ?_, fun isOpen =>
    absurd isOpen blocked, nofun, nofun⟩
  intro either
  have notInput := either.resolve_left blocked
  refine Eq.trans (congrArg (Option.map Prod.snd) ?_)
    (inStep.current (.inl admits))
  cases notice : stamped.command.noticeTo hostId kind with
  | none =>
      have alone : marks hostId kind lanes.outbox = [] := by
        rw [outbox]
        exact marks_singleton_of_none notice
      obtain ⟨waiting, idle⟩ := inStep.settled admits alone notInput
      rw [after, before, waiting, idle, List.append_nil, List.append_nil]
  | some found =>
      obtain ⟨shown, why⟩ := found
      have idle := (inStep.clear stamped (outbox ▸ List.mem_cons_self ..)
        shown why notice).1
      rw [after, before, idle, marks_singleton_of_some notice,
        List.append_nil, List.getLast?_append, List.getLast?_append]
      rfl

theorem InStep.sent_of_activates (outbox : lanes.outbox = [stamped])
    (command : stamped.command = .activateInput hostId)
    (blocked : ¬lanes.Admits hostId)
    (admits : (lanes.sent stamped []).Admits hostId)
    (inTable : (hostIndex bleHostsMax hostId).isSome) :
    (lanes.sent stamped []).InStep hostId kind := by
  obtain ⟨waiting, idle, notInput⟩ := inStep.opening stamped
    (outbox ▸ List.mem_cons_self ..) command inTable blocked
  have other : stamped.command.noticeTo hostId kind = none := by
    rw [command]
    rfl
  have line : (lanes.sent stamped []).line hostId kind =
      lanes.line hostId kind := by
    have stillWaiting : marks hostId kind (lanes.sent stamped []).notify =
        [] := waiting
    have stillIdle : (lanes.sent stamped []).pendingMarks hostId kind =
        [] := idle
    rw [line_of_admits admits, line_of_not_admits blocked, passed_sent,
      stillWaiting, stillIdle, outbox,
      marks_deliver_eq_nil _ (marks_singleton_of_none other)]
    simp only [List.append_nil]
    exact List.append_nil _
  refine ⟨line ▸ inStep.inOrder, fun _ => ?_, fun _ _ _ => ⟨waiting, idle⟩,
    nofun, nofun⟩
  rw [line]
  exact inStep.current (.inr notInput)

end

theorem LaneInvariant.send (invariant : lanes.LaneInvariant)
    (capacity : LaneCapacity) : (lanes.send capacity).LaneInvariant := by
  unfold BleLanes.send
  split
  · exact invariant
  · rename_i stamped rest outbox
    unfold trySend
    split
    · rename_i control room
      split at room
      · obtain rfl := Option.some.inj room
        have shape : Outbox (stamped :: rest) := outbox ▸ invariant.outbox
        refine ⟨invariant.notify, shape.tail, fun hostId kind => ?_⟩
        have inStep := invariant.inStep hostId kind
        by_cases gate : (lanes.sent stamped rest).gateAhead.shouldDropInput
            hostId = lanes.gateAhead.shouldDropInput hostId
        · exact inStep.sent_of_unchanged outbox gate
        · rw [gateAhead_sent] at gate
          rcases applyCommand_changes gate with
            ⟨⟨report, reason, command, blocks⟩, isOpen⟩ |
              ⟨command, closed, inTable⟩
          · obtain rfl := shape.tail_of_blocks command blocks
            exact inStep.sent_of_blocks outbox command blocks isOpen
          · obtain rfl := shape.tail_of_activates command
            have blocked : ¬lanes.Admits hostId := by
              unfold Admits
              rw [closed]
              exact nofun
            refine inStep.sent_of_activates outbox command blocked ?_ inTable
            unfold Admits
            rw [gateAhead_sent]
            rw [closed] at gate
            exact Bool.eq_false_iff.mpr gate
      · cases room
    · exact invariant

end

variable {lanes next : BleLanes} {target hostId : HostId}
  {kind : ReportKind} {report : MouseReport}
  {mouse : MouseReportAccumulator bleHostsMax}

theorem pendingMarks_congr
    (state : next.mouse.state hostId = lanes.mouse.state hostId)
    (merged : next.merged hostId = lanes.merged hostId) :
    next.pendingMarks hostId kind = lanes.pendingMarks hostId kind := by
  unfold pendingMarks pendingMark MouseReportAccumulator.isPending
  rw [state, merged]

theorem marks_movement_other (other : ¬(hostId = target ∧ kind = .mouse)) :
    marks hostId kind [lanes.movement target report] = [] :=
  marks_singleton_of_none (if_neg fun both => other ⟨both.1.symm, both.2.symm⟩)

theorem marks_movement (buttons : MouseButtons.fromBitsTruncate report.buttons =
      .fromBitsTruncate (lanes.mouse.state hostId).buttons) :
    marks hostId .mouse [lanes.movement hostId report] =
      [lanes.pendingMark hostId] := by
  rw [marks_singleton_of_some (noticeTo_notify _ _)]
  exact congrArg (fun buttons => [(lanes.merged hostId,
    ShownInput.mouse buttons)]) buttons

def taken (lanes : BleLanes) (target : HostId) (report : MouseReport)
    (mouse : MouseReportAccumulator bleHostsMax) : BleLanes :=
  { lanes with
    mouse
    notify := lanes.notify ++ [lanes.movement target report] }

theorem InStep.taken_other (inStep : lanes.InStep hostId kind)
    (takes : lanes.mouse.takeNext target = some (report, mouse))
    (other : ¬(hostId = target ∧ kind = .mouse)) :
    (lanes.taken target report mouse).InStep hostId kind := by
  obtain ⟨-, -, states⟩ := MouseReportAccumulator.takeNext_eq_some takes
  have notify : marks hostId kind (lanes.taken target report mouse).notify =
      marks hostId kind lanes.notify := by
    show marks hostId kind (lanes.notify ++ [_]) = _
    rw [marks_append, marks_movement_other other, List.append_nil]
  have pending :
      (lanes.taken target report mouse).pendingMarks hostId kind =
        lanes.pendingMarks hostId kind := by
    by_cases isMouse : kind = .mouse
    · refine pendingMarks_congr ?_ rfl
      exact (states hostId).trans (if_neg fun same => other ⟨same, isMouse⟩)
    · rw [pendingMarks_of_ne isMouse, pendingMarks_of_ne isMouse]
  refine inStep.frame (.inl rfl) rfl ?_ notify.trans pending id
    fun stamped member => .inl member
  simp only [line]
  rw [notify, pending]
  rfl

theorem marks_taken
    (takes : lanes.mouse.takeNext hostId = some (report, mouse)) :
    ∃ parts, marks hostId .mouse (lanes.taken hostId report mouse).notify ++
      (lanes.taken hostId report mouse).pendingMarks hostId .mouse =
        marks hostId .mouse lanes.notify ++
          List.replicate (parts + 1) (lanes.pendingMark hostId) := by
  obtain ⟨-, takesReport, states⟩ :=
    MouseReportAccumulator.takeNext_eq_some takes
  have state : (lanes.taken hostId report mouse).mouse.state hostId =
      (lanes.mouse.state hostId).takeReport.2 :=
    (states hostId).trans (if_pos rfl)
  have notify : marks hostId .mouse
      (lanes.taken hostId report mouse).notify =
        marks hostId .mouse lanes.notify ++ [lanes.pendingMark hostId] := by
    have buttons := PendingMouseState.buttons_takeReport
      (lanes.mouse.state hostId)
    rw [← takesReport] at buttons
    rw [← marks_movement buttons]
    exact marks_append _ _
  have mark : (lanes.taken hostId report mouse).pendingMark hostId =
      lanes.pendingMark hostId := by
    simp only [pendingMark]
    rw [state]
    rfl
  simp only [pendingMarks]
  rw [mark, notify]
  split
  · refine ⟨1, ?_⟩
    rw [List.append_assoc]
    rfl
  · refine ⟨0, ?_⟩
    rw [List.append_nil]
    rfl

theorem InStep.taken_same (inStep : lanes.InStep hostId .mouse)
    (outbox : lanes.outbox = [])
    (takes : lanes.mouse.takeNext hostId = some (report, mouse)) :
    (lanes.taken hostId report mouse).InStep hostId .mouse := by
  obtain ⟨isPending, -, -⟩ := MouseReportAccumulator.takeNext_eq_some takes
  obtain ⟨parts, moved⟩ := marks_taken takes
  have still : (lanes.taken hostId report mouse).outbox = [] := outbox
  have before := pendingMarks_of_pending isPending
  have noSends : marks hostId .mouse lanes.outbox = [] := by
    rw [outbox]
    rfl
  -- Movement is pending, so the last report emitted was input.
  have settled : ¬(lanes.Admits hostId ∧ ¬lanes.LastInput hostId .mouse) := by
    rintro ⟨admits, notInput⟩
    have idle := (inStep.settled admits noSends notInput).2
    rw [before] at idle
    cases idle
  refine ⟨?_, ?_, fun admits _ notInput => absurd ⟨admits, notInput⟩ settled,
    fun stamped member => ?_, fun stamped member => ?_⟩
  · by_cases admits : lanes.Admits hostId
    · have whole := inStep.inOrder
      rw [line_of_admits_done outbox admits, before,
        ← List.append_assoc] at whole
      rw [line_of_admits_done still admits, moved, ← List.append_assoc]
      exact whole.repeatLast (parts + 1)
    · rw [line_of_not_admits_done still admits]
      exact inStep.inOrder_passed
  · intro either
    refine Eq.trans (congrArg (Option.map Prod.snd) ?_) (inStep.current either)
    by_cases admits : lanes.Admits hostId
    · rw [line_of_admits_done outbox admits,
        line_of_admits_done still admits, moved, before,
        List.replicate_succ', ← List.append_assoc, ← List.append_assoc,
        ← List.append_assoc, List.getLast?_concat, List.getLast?_concat]
    · rw [line_of_not_admits_done outbox admits,
        line_of_not_admits_done still admits]
      rfl
  · rw [still] at member
    cases member
  · rw [still] at member
    cases member

theorem LaneInvariant.taken (invariant : lanes.LaneInvariant)
    (outbox : lanes.outbox = [])
    (takes : lanes.mouse.takeNext target = some (report, mouse)) :
    (lanes.taken target report mouse).LaneInvariant := by
  refine ⟨fun stamped member => ?_, invariant.outbox, fun hostId kind => ?_⟩
  · rcases List.mem_append.mp member with old | new
    · exact invariant.notify stamped old
    · obtain rfl := List.mem_singleton.mp new
      exact ⟨target, .mouse report, rfl⟩
  · by_cases same : hostId = target ∧ kind = .mouse
    · obtain ⟨rfl, rfl⟩ := same
      exact (invariant.inStep hostId .mouse).taken_same outbox takes
    · exact (invariant.inStep hostId kind).taken_other takes same

theorem LaneInvariant.flushHosts (capacity : Nat) (hosts : List HostId)
    (invariant : lanes.LaneInvariant) (outbox : lanes.outbox = []) :
    (flushHosts capacity hosts lanes).LaneInvariant := by
  induction hosts generalizing lanes with
  | nil => exact invariant
  | cons target rest ih =>
      rw [BleLanes.flushHosts]
      split
      · exact invariant
      · rename_i room
        split
        · exact ih invariant outbox
        · rename_i report mouse takes
          rw [trySend, if_pos (Nat.lt_of_not_le room)]
          exact ih (invariant.taken outbox takes) outbox

theorem LaneInvariant.flush (invariant : lanes.LaneInvariant)
    (capacity : LaneCapacity) : (lanes.flush capacity).LaneInvariant := by
  unfold BleLanes.flush
  split
  · rename_i outbox
    exact invariant.flushHosts capacity.notify _ outbox
  · exact invariant

end BleLanes

end HidShift
