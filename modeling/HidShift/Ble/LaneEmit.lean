import HidShift.Ble.LaneTransport

namespace HidShift

namespace BleLanes

variable {lanes : BleLanes} {target hostId : HostId} {kind : ReportKind}
  {command : BleTaskCommand}

variable {report : BleHidReport} {mouse : MouseReportAccumulator bleHostsMax}
  {reason : NotifyReason}

theorem noticeTo_notify_other (other : ¬(hostId = target ∧ kind = report.kind)) :
    (BleTaskCommand.notify target report reason).noticeTo hostId kind =
      none :=
  if_neg fun both => other ⟨both.1.symm, both.2.symm⟩

theorem InStep.join {next : BleLanes}
    (notice : command.noticeTo hostId kind = some (report, reason))
    (emitted : next.emitted = lanes.emitted ++ [command])
    (line : (∃ front, InOrder lanes.emitted hostId kind front ∧ next.line
      hostId kind = front ++ [(lanes.emitted.length, report.shown)]) ∨ (reason
      = .input ∧ ¬next.Admits hostId) ∧ InOrder lanes.emitted hostId kind
      (next.line hostId kind))
    (outbox : reason = .input ∨ marks hostId kind next.outbox ≠ [])
    (clear : ∀ stamped ∈ next.outbox, ∀ report reason, stamped.command.noticeTo
      hostId kind = some (report, reason) → next.pendingMarks hostId kind = []
      ∧ (next.Admits hostId → reason.blocks = false → marks hostId kind
      next.notify = []))
    (opening : ∀ stamped ∈ next.outbox, stamped.command ≠ .activateInput hostId) :
    next.InStep hostId kind := by
  have last : lastNotice hostId kind next.emitted =
      some (report, reason) := by
    rw [emitted]
    exact lastNotice_append_of_some notice
  have lastInput : reason = .input → next.LastInput hostId kind := by
    rintro rfl
    exact ⟨report, last⟩
  refine ⟨?_, fun either => ?_, fun _ none notInput => ?_, clear,
    fun stamped member activates =>
      absurd activates (opening stamped member)⟩
  · rw [emitted]
    rcases line with ⟨front, inOrder, line⟩ | ⟨-, inOrder⟩
    · rw [line]
      exact inOrder.snoc notice
    · exact inOrder.emit command
  · rcases line with ⟨front, -, line⟩ | ⟨⟨input, blocked⟩, -⟩
    · rw [line, last, List.getLast?_concat]
      rfl
    · exact absurd (lastInput input) (either.resolve_left blocked)
  · rcases outbox with input | some
    · exact absurd (lastInput input) notInput
    · exact absurd none some

def pushed (lanes : BleLanes) (target : HostId) (report : MouseReport)
    (mouse : MouseReportAccumulator bleHostsMax) : BleLanes :=
  { lanes with
    emitted := lanes.emitted ++ [.notify target (.mouse report) .input]
    mouse
    merged := Function.update lanes.merged target lanes.emitted.length }

theorem pendingMarks_pushed {report : MouseReport}
    (accepted : lanes.mouse.push target report = some mouse) :
    (lanes.pushed target report mouse).pendingMarks target .mouse =
      [(lanes.emitted.length, StandardHidReport.shown (.mouse report))] := by
  obtain ⟨isPending, buttons, -⟩ :=
    MouseReportAccumulator.push_eq_some accepted
  have pending : (lanes.pushed target report mouse).mouse.isPending target =
      true := isPending
  have position : (lanes.pushed target report mouse).merged target =
      lanes.emitted.length := Function.update_self ..
  rw [pendingMarks_of_pending pending, pendingMark, position]
  show [(_, ShownInput.mouse (.fromBitsTruncate
    (mouse.state target).buttons))] = _
  rw [buttons]
  rfl

theorem InStep.pushed_same (inStep : lanes.InStep target .mouse)
    (outbox : lanes.outbox = []) {report : MouseReport}
    (accepted : lanes.mouse.push target report = some mouse) :
    (lanes.pushed target report mouse).InStep target .mouse := by
  have still : (lanes.pushed target report mouse).outbox = [] := outbox
  refine InStep.join (noticeTo_notify (.mouse report) .input) rfl ?_
    (.inl rfl) (still ▸ nofun) (still ▸ nofun)
  by_cases admits : lanes.Admits target
  · refine .inl ⟨lanes.passed target .mouse ++
      marks target .mouse lanes.notify, inStep.inOrder.sublist ?_, ?_⟩
    · rw [line_of_admits_done outbox admits, ← List.append_assoc]
      exact List.sublist_append_left _ _
    · rw [line_of_admits_done still admits, pendingMarks_pushed accepted,
        ← List.append_assoc]
      rfl
  · refine .inr ⟨⟨rfl, admits⟩, ?_⟩
    rw [line_of_not_admits_done still admits]
    exact inStep.inOrder_passed

theorem LaneInvariant.pushed (invariant : lanes.LaneInvariant)
    (outbox : lanes.outbox = []) {report : MouseReport}
    (accepted : lanes.mouse.push target report = some mouse) :
    (lanes.pushed target report mouse).LaneInvariant := by
  obtain ⟨-, -, others⟩ := MouseReportAccumulator.push_eq_some accepted
  refine ⟨invariant.notify, invariant.outbox, fun hostId kind => ?_⟩
  by_cases same : hostId = target ∧ kind = .mouse
  · obtain ⟨rfl, rfl⟩ := same
    exact (invariant.inStep hostId .mouse).pushed_same outbox accepted
  · have pending : (lanes.pushed target report mouse).pendingMarks hostId
        kind = lanes.pendingMarks hostId kind := by
      by_cases isMouse : kind = .mouse
      · have different : hostId ≠ target := fun host =>
          same ⟨host, isMouse⟩
        exact pendingMarks_congr (others hostId different)
          (Function.update_of_ne different _ _)
      · rw [pendingMarks_of_ne isMouse, pendingMarks_of_ne isMouse]
    refine (invariant.inStep hostId kind).frame
      (.inr ⟨_, noticeTo_notify_other same, rfl⟩) rfl ?_ id pending id
      fun stamped member => .inl member
    simp only [line]
    rw [pending]
    rfl

def queued (lanes : BleLanes) (capacity : Nat) (command : BleTaskCommand) :
    BleLanes :=
  { lanes with
    emitted := lanes.emitted ++ [command]
    notify := (trySend capacity lanes.notify
      ⟨lanes.emitted.length, command⟩).getD lanes.notify }

theorem notify_queued (capacity : Nat) (command : BleTaskCommand) :
    (lanes.queued capacity command).notify = lanes.notify ∧
        ¬lanes.notify.length < capacity ∨
      (lanes.queued capacity command).notify =
        lanes.notify ++ [⟨lanes.emitted.length, command⟩] := by
  simp only [queued, trySend]
  split
  · exact .inr rfl
  · rename_i full
    exact .inl ⟨rfl, full⟩

theorem InStep.queued_same (inStep : lanes.InStep target report.kind)
    (outbox : lanes.outbox = []) (notMouse : report.kind ≠ .mouse)
    (room : lanes.Admits target → lanes.notify.length < capacity) :
    (lanes.queued capacity (.notify target report .input)).InStep target
      report.kind := by
  have still : (lanes.queued capacity
    (.notify target report .input)).outbox = [] := outbox
  have notice : (BleTaskCommand.notify target report .input).noticeTo target
    report.kind = some (report, .input) := noticeTo_notify report .input
  refine InStep.join notice rfl ?_ (.inl rfl) (still ▸ nofun) (still ▸ nofun)
  by_cases admits : lanes.Admits target
  · refine .inl ⟨lanes.line target report.kind, inStep.inOrder, ?_⟩
    rw [line_of_admits_done outbox admits, line_of_admits_done still admits,
      pendingMarks_of_ne notMouse, pendingMarks_of_ne notMouse,
      List.append_nil, List.append_nil]
    rcases notify_queued capacity (.notify target report .input) with
      ⟨-, full⟩ | more
    · exact absurd (room admits) full
    · rw [more, marks_append, marks_singleton_of_some notice,
        ← List.append_assoc]
      rfl
  · refine .inr ⟨⟨rfl, admits⟩, ?_⟩
    rw [line_of_not_admits_done still admits]
    exact inStep.inOrder_passed

theorem LaneInvariant.queued (invariant : lanes.LaneInvariant)
    (outbox : lanes.outbox = []) (notMouse : report.kind ≠ .mouse)
    (room : lanes.Admits target → lanes.notify.length < capacity) :
    (lanes.queued capacity (.notify target report .input)).LaneInvariant := by
  refine ⟨fun stamped member => ?_, invariant.outbox, fun hostId kind => ?_⟩
  · rcases notify_queued capacity (.notify target report .input) with
      ⟨same, -⟩ | more
    · rw [same] at member
      exact invariant.notify stamped member
    · rw [more] at member
      rcases List.mem_append.mp member with old | new
      · exact invariant.notify stamped old
      · obtain rfl := List.mem_singleton.mp new
        exact ⟨target, report, rfl⟩
  · by_cases same : hostId = target ∧ kind = report.kind
    · obtain ⟨rfl, rfl⟩ := same
      exact (invariant.inStep hostId report.kind).queued_same outbox notMouse
        room
    · have other : (BleTaskCommand.notify target report .input).noticeTo
        hostId kind = none := noticeTo_notify_other same
      have notify : marks hostId kind (lanes.queued capacity
          (.notify target report .input)).notify =
            marks hostId kind lanes.notify := by
        rcases notify_queued capacity (.notify target report .input) with
          ⟨same, -⟩ | more
        · rw [same]
        · rw [more, marks_append, marks_singleton_of_none other,
            List.append_nil]
      refine (invariant.inStep hostId kind).frame (.inr ⟨_, other, rfl⟩) rfl
        ?_ notify.trans rfl id fun stamped member => .inl member
      simp only [line]
      rw [notify]
      rfl

def ordered (lanes : BleLanes) (moves : List Stamped)
    (mouse : MouseReportAccumulator bleHostsMax)
    (command : BleTaskCommand) : BleLanes :=
  { lanes with
    emitted := lanes.emitted ++ [command]
    mouse
    outbox := moves ++ [⟨lanes.emitted.length, command⟩] }

theorem LaneInvariant.ordered_other (invariant : lanes.LaneInvariant)
    (outbox : lanes.outbox = [])
    (other : ∀ hostId kind, command.noticeTo hostId kind = none)
    (opening : ∀ hostId, command = .activateInput hostId →
      ∀ kind, lanes.Opening hostId kind) :
    (lanes.ordered [] lanes.mouse command).LaneInvariant := by
  refine ⟨invariant.notify, .last _, fun hostId kind => ?_⟩
  have none : marks hostId kind
      (lanes.ordered [] lanes.mouse command).outbox = [] :=
    marks_singleton_of_none (other hostId kind)
  have before : marks hostId kind lanes.outbox = [] := by
    rw [outbox]
    rfl
  refine (invariant.inStep hostId kind).frame
    (.inr ⟨command, other hostId kind, rfl⟩) rfl ?_ id rfl (fun _ => before)
    fun stamped member => ?_
  · simp only [line]
    rw [marks_deliver_eq_nil _ none, marks_deliver_eq_nil _ before]
    rfl
  · obtain rfl := List.mem_singleton.mp member
    exact .inr ⟨other hostId kind, fun activates =>
      opening hostId activates kind⟩

/-- The state after a best-effort command has been tried on the control
lane. -/
def tried (lanes : BleLanes) (capacity : Nat) (command : BleTaskCommand) :
    BleLanes :=
  { lanes with
    emitted := lanes.emitted ++ [command]
    control := (trySend capacity lanes.control
      ⟨lanes.emitted.length, command⟩).getD lanes.control }

theorem control_tried (capacity : Nat) (command : BleTaskCommand) :
    (lanes.tried capacity command).control = lanes.control ∨
      (lanes.tried capacity command).control =
        lanes.control ++ [⟨lanes.emitted.length, command⟩] := by
  simp only [tried, trySend]
  split
  · exact .inr rfl
  · exact .inl rfl

theorem LaneInvariant.tried (invariant : lanes.LaneInvariant) (capacity : Nat)
    (other : ∀ hostId kind, command.noticeTo hostId kind = none)
    (passive : ∀ gate : BleInputGate bleHostsMax,
      gate.applyCommand command = gate) :
    (lanes.tried capacity command).LaneInvariant := by
  refine ⟨invariant.notify, invariant.outbox, fun hostId kind => ?_⟩
  have gate : (lanes.tried capacity command).gateAhead =
      lanes.gateAhead := by
    simp only [gateAhead]
    rcases control_tried capacity command with same | more
    · rw [same]
      rfl
    · rw [more, gateAfter_append]
      exact passive _
  have passed : (lanes.tried capacity command).passed hostId kind =
      lanes.passed hostId kind := by
    simp only [BleLanes.passed]
    rcases control_tried capacity command with same | more
    · rw [same]
      rfl
    · have none : marks hostId kind [⟨lanes.emitted.length, command⟩] =
          [] := marks_singleton_of_none (other hostId kind)
      rw [more, deliver_append, ← List.append_assoc, marks_append,
        marks_deliver_eq_nil _ none, List.append_nil]
      rfl
  refine (invariant.inStep hostId kind).frame
    (.inr ⟨command, other hostId kind, rfl⟩) (by rw [gate]) ?_ id rfl id
    fun stamped member => .inl member
  simp only [line]
  rw [passed, gate]
  rfl

/-- What a report of one kind finds in the accumulator of its host: movement
leaves before a mouse report. -/
structure Drained (lanes : BleLanes) (target : HostId) (kind : ReportKind)
    (moves : List Stamped) (mouse : MouseReportAccumulator bleHostsMax) :
    Prop where
  movement : ∀ stamped ∈ moves, kind = .mouse ∧ ∃ report,
    stamped = lanes.movement target report ∧
      MouseButtons.fromBitsTruncate report.buttons =
        .fromBitsTruncate (lanes.mouse.state target).buttons
  empty : moves = [] ↔ lanes.pendingMarks target kind = []
  others : ∀ hostId, hostId ≠ target ∨ kind ≠ .mouse →
    mouse.state hostId = lanes.mouse.state hostId
  idle : kind = .mouse → mouse.isPending target = false

theorem Drained.of_ne (notMouse : kind ≠ .mouse) :
    lanes.Drained target kind [] lanes.mouse where
  movement := nofun
  empty := iff_of_true rfl (pendingMarks_of_ne notMouse)
  others := fun _ _ => rfl
  idle := fun isMouse => absurd isMouse notMouse

theorem Drained.of_drain (report : MouseReport) :
    lanes.Drained target .mouse
      ((lanes.mouse.drain target).1.map (lanes.movement target))
      ((lanes.mouse.drain target).2.setButtons target report.buttons) := by
  obtain ⟨⟨idle, others⟩, empty, shown⟩ := lanes.mouse.drain_spec target
  constructor
  · intro stamped member
    obtain ⟨moved, from_, rfl⟩ := List.mem_map.mp member
    exact ⟨rfl, moved, rfl, shown moved from_⟩
  · rw [List.map_eq_nil_iff, empty]
    simp only [pendingMarks, MouseReportAccumulator.isPending]
    cases (lanes.mouse.state target).pending with
    | true => simp
    | false => simp
  · rintro hostId (different | notMouse)
    · rw [MouseReportAccumulator.state_setButtons_other _ different,
        others hostId different]
    · exact absurd rfl notMouse
  · intro _
    simp only [MouseReportAccumulator.isPending]
    rw [MouseReportAccumulator.state_setButtons_pending]
    exact idle

section

variable {report : BleHidReport} {reason : NotifyReason}
  {moves : List Stamped} {mouse : MouseReportAccumulator bleHostsMax}

section

variable (drained : lanes.Drained target kind moves mouse)

include drained

theorem Drained.marks_moves :
    marks target kind moves =
      List.replicate moves.length (lanes.pendingMark target) := by
  have each : ∀ stamped ∈ moves, marks target kind [stamped] =
      [lanes.pendingMark target] := by
    intro stamped member
    obtain ⟨rfl, moved, rfl, buttons⟩ := drained.movement stamped member
    exact marks_movement buttons
  clear drained
  induction moves with
  | nil => rfl
  | cons stamped rest ih =>
      rw [marks_cons, each stamped (List.mem_cons_self ..),
        ih fun other member => each other (List.mem_cons_of_mem _ member)]
      rfl

theorem Drained.outbox (stamped : Stamped) : Outbox (moves ++ [stamped]) := by
  have each := drained.movement
  clear drained
  induction moves with
  | nil => exact .last stamped
  | cons first rest ih =>
      obtain ⟨-, moved, rfl, -⟩ := each first (List.mem_cons_self ..)
      exact .movement
        (ih fun other member => each other (List.mem_cons_of_mem _ member))

theorem Drained.deliver_moves (gate : BleInputGate bleHostsMax) :
    gateAfter gate moves = gate ∧
      deliver gate moves =
        if gate.shouldDropInput target then [] else moves := by
  have each := drained.movement
  clear drained
  induction moves with
  | nil => exact ⟨rfl, (ite_self _).symm⟩
  | cons first rest ih =>
      obtain ⟨-, moved, rfl, -⟩ := each first (List.mem_cons_self ..)
      obtain ⟨still, delivered⟩ :=
        ih fun other member => each other (List.mem_cons_of_mem _ member)
      refine ⟨still, ?_⟩
      show (if gate.shouldDropInput target then deliver gate rest
        else _ :: deliver gate rest) = _
      rw [delivered]
      cases gate.shouldDropInput target with
      | true => rfl
      | false => rfl

end

theorem deliver_notify (gate : BleInputGate bleHostsMax) (position : Nat)
    (report : BleHidReport) (reason : NotifyReason) :
    deliver gate [⟨position, .notify target report reason⟩] =
      if reason = .input ∧ gate.shouldDropInput target then []
      else [⟨position, .notify target report reason⟩] := by
  rw [deliver]
  cases reason with
  | input =>
      show (if gate.shouldDropInput target then [] else _) = _
      cases gate.shouldDropInput target with
      | true => rfl
      | false => rfl
  | _ => rfl

theorem deliver_ordered (drained : lanes.Drained target kind moves mouse)
    (gate : BleInputGate bleHostsMax) (position : Nat)
    (report : BleHidReport) (reason : NotifyReason) :
    deliver gate (moves ++ [⟨position, .notify target report reason⟩]) =
      if gate.shouldDropInput target then
        if reason = .input then []
        else [⟨position, .notify target report reason⟩]
      else
        moves ++ [⟨position, .notify target report reason⟩] := by
  obtain ⟨still, delivered⟩ := drained.deliver_moves gate
  rw [deliver_append, still, delivered, deliver_notify]
  cases gate.shouldDropInput target with
  | true => simp
  | false => simp

theorem pendingMarks_ordered (drained : lanes.Drained target kind moves mouse) :
    (lanes.ordered moves mouse command).pendingMarks target kind = [] := by
  by_cases isMouse : kind = .mouse
  · exact pendingMarks_of_idle (drained.idle isMouse)
  · exact pendingMarks_of_ne isMouse

theorem line_ordered_of_admits
    (drained : lanes.Drained target report.kind moves mouse)
    (admits : lanes.Admits target) :
    (lanes.ordered moves mouse (.notify target report reason)).line target
        report.kind =
      lanes.passed target report.kind ++
        marks target report.kind lanes.notify ++
          marks target report.kind moves ++
            [(lanes.emitted.length, report.shown)] := by
  have still : (lanes.ordered moves mouse
    (.notify target report reason)).Admits target := admits
  have coming : deliver (lanes.ordered moves mouse
      (.notify target report reason)).gateAhead (lanes.ordered moves mouse
        (.notify target report reason)).outbox =
          moves ++ [⟨lanes.emitted.length, .notify target report reason⟩] := by
    apply (deliver_ordered drained _ _ report reason).trans
    rw [show BleInputGate.shouldDropInput _ target = false from still]
    rfl
  rw [line_of_admits still, pendingMarks_ordered drained, coming,
    marks_append, marks_singleton_of_some (noticeTo_notify report reason),
    List.append_nil, ← List.append_assoc]
  rfl

theorem line_ordered_of_not_admits
    (drained : lanes.Drained target report.kind moves mouse)
    (blocked : ¬lanes.Admits target) :
    (lanes.ordered moves mouse (.notify target report reason)).line target
        report.kind =
      lanes.passed target report.kind ++
        if reason = .input then []
        else [(lanes.emitted.length, report.shown)] := by
  have still : ¬(lanes.ordered moves mouse
    (.notify target report reason)).Admits target := blocked
  have coming : deliver (lanes.ordered moves mouse
      (.notify target report reason)).gateAhead (lanes.ordered moves mouse
        (.notify target report reason)).outbox =
          if reason = .input then []
          else [⟨lanes.emitted.length, .notify target report reason⟩] := by
    apply (deliver_ordered drained _ _ report reason).trans
    rw [show BleInputGate.shouldDropInput _ target = true from
      Bool.not_eq_false _ ▸ still]
    rfl
  rw [line_of_not_admits still, coming]
  split
  · rfl
  · rw [marks_singleton_of_some (noticeTo_notify report reason)]
    rfl

theorem InStep.inOrder_drained (inStep : lanes.InStep target kind)
    (outbox : lanes.outbox = [])
    (drained : lanes.Drained target kind moves mouse)
    (admits : lanes.Admits target) :
    InOrder lanes.emitted target kind
      (lanes.passed target kind ++ marks target kind lanes.notify ++
        marks target kind moves) := by
  have whole := inStep.inOrder
  rw [line_of_admits_done outbox admits, ← List.append_assoc] at whole
  by_cases none : moves = []
  · rw [none]
    rw [drained.empty.mp none] at whole
    exact whole
  · have isMouse : kind = .mouse := by
      obtain ⟨stamped, member⟩ := List.exists_mem_of_ne_nil moves none
      exact (drained.movement stamped member).1
    have pending : lanes.mouse.isPending target = true := by
      by_contra idle
      exact none (drained.empty.mpr
        (pendingMarks_of_idle (Bool.eq_false_iff.mpr idle)))
    rw [drained.marks_moves]
    subst isMouse
    rw [pendingMarks_of_pending pending] at whole
    exact whole.repeatLast moves.length

theorem InStep.ordered_same (inStep : lanes.InStep target report.kind)
    (outbox : lanes.outbox = [])
    (drained : lanes.Drained target report.kind moves mouse)
    (may : lanes.Admits target → lanes.NoneWaiting target report.kind ∨
      reason.blocks = true ∧ (report.kind = .mouse →
        lanes.mouse.isPending target = false)) :
    (lanes.ordered moves mouse (.notify target report reason)).InStep target
      report.kind := by
  have notice : (BleTaskCommand.notify target report reason).noticeTo target
    report.kind = some (report, reason) := noticeTo_notify report reason
  refine InStep.join notice rfl ?_ (.inr ?_) ?_ ?_
  · by_cases admits : lanes.Admits target
    · exact .inl ⟨_, inStep.inOrder_drained outbox drained admits,
        line_ordered_of_admits drained admits⟩
    · have line : (lanes.ordered moves mouse
          (.notify target report reason)).line target report.kind = _ :=
        line_ordered_of_not_admits drained admits
      split at line
      · rename_i input
        rw [List.append_nil] at line
        exact .inr ⟨⟨input, admits⟩, line ▸ inStep.inOrder_passed⟩
      · exact .inl ⟨_, inStep.inOrder_passed, line⟩
  · show marks target report.kind (moves ++ [_]) ≠ []
    rw [marks_append, marks_singleton_of_some notice]
    exact List.append_ne_nil_of_right_ne_nil _ (List.cons_ne_nil _ _)
  · intro stamped member shown why found
    refine ⟨pendingMarks_ordered drained, fun admits passes =>
      marks_eq_nil_iff.mpr ?_⟩
    rcases may admits with none | ⟨blocks, notPending⟩
    · exact none
    · -- Nothing is pending, so the blocking report is the only send.
      exfalso
      rcases List.mem_append.mp member with moved | last
      · have isMouse := (drained.movement stamped moved).1
        rw [drained.empty.mpr (pendingMarks_of_idle (notPending isMouse))]
          at moved
        cases moved
      · obtain rfl := List.mem_singleton.mp last
        obtain ⟨-, rfl⟩ := Prod.mk.inj
          (Option.some.inj (notice.symm.trans found))
        rw [blocks] at passes
        cases passes
  · intro stamped member activates
    rcases List.mem_append.mp member with moved | last
    · obtain ⟨-, _, rfl, -⟩ := drained.movement stamped moved
      cases activates
    · obtain rfl := List.mem_singleton.mp last
      cases activates

theorem InStep.ordered_other (inStep : lanes.InStep hostId kind)
    (outbox : lanes.outbox = [])
    (drained : lanes.Drained target report.kind moves mouse)
    (other : ¬(hostId = target ∧ kind = report.kind)) :
    (lanes.ordered moves mouse (.notify target report reason)).InStep hostId
      kind := by
  have sends : ∀ stamped ∈ (lanes.ordered moves mouse
      (.notify target report reason)).outbox,
        stamped.command.noticeTo hostId kind = none ∧
          stamped.command ≠ .activateInput hostId := by
    intro stamped member
    rcases List.mem_append.mp member with moved | last
    · obtain ⟨isMouse, _, rfl, -⟩ := drained.movement stamped moved
      rw [isMouse] at other
      exact ⟨noticeTo_notify_other other, nofun⟩
    · obtain rfl := List.mem_singleton.mp last
      exact ⟨noticeTo_notify_other other, nofun⟩
  have none := marks_eq_nil_iff.mpr fun stamped member =>
    (sends stamped member).1
  have before : marks hostId kind lanes.outbox = [] := by
    rw [outbox]
    rfl
  have pending : (lanes.ordered moves mouse
      (.notify target report reason)).pendingMarks hostId kind =
        lanes.pendingMarks hostId kind := by
    by_cases isMouse : kind = .mouse
    · refine pendingMarks_congr (drained.others hostId ?_) rfl
      by_contra same
      obtain ⟨host, mouseKind⟩ := not_or.mp same
      exact other ⟨not_not.mp host, isMouse.trans (not_not.mp mouseKind).symm⟩
    · rw [pendingMarks_of_ne isMouse, pendingMarks_of_ne isMouse]
  refine inStep.frame (.inr ⟨_, noticeTo_notify_other other, rfl⟩) rfl ?_ id
    pending (fun _ => before) fun stamped member => .inr
      ⟨(sends stamped member).1, fun activates =>
        absurd activates (sends stamped member).2⟩
  simp only [line]
  rw [marks_deliver_eq_nil _ none, marks_deliver_eq_nil _ before, pending]
  rfl

theorem LaneInvariant.ordered_notify (invariant : lanes.LaneInvariant)
    (outbox : lanes.outbox = [])
    (drained : lanes.Drained target report.kind moves mouse)
    (may : lanes.Admits target → lanes.NoneWaiting target report.kind ∨
      reason.blocks = true ∧ (report.kind = .mouse →
        lanes.mouse.isPending target = false)) :
    (lanes.ordered moves mouse
      (.notify target report reason)).LaneInvariant := by
  refine ⟨invariant.notify, drained.outbox _, fun hostId kind => ?_⟩
  by_cases same : hostId = target ∧ kind = report.kind
  · obtain ⟨rfl, rfl⟩ := same
    exact (invariant.inStep hostId report.kind).ordered_same outbox drained
      may
  · exact (invariant.inStep hostId kind).ordered_other outbox drained same

end

variable {capacity : LaneCapacity}

theorem emit_of_takesControl (outbox : lanes.outbox = [])
    {report : BleHidReport}
    (takes : lanes.takesControl target report reason = true) :
    ∃ moves mouse, lanes.Drained target report.kind moves mouse ∧
      lanes.emit capacity (.notify target report reason) =
        lanes.ordered moves mouse (.notify target report reason) := by
  cases report with
  | mouse report =>
      refine ⟨_, _, .of_drain report, ?_⟩
      simp only [emit]
      rw [if_pos outbox]
      cases reason with
      | input =>
          have refused : lanes.mouse.push target report = none :=
            Option.isNone_iff_eq_none.mp takes
          simp only [sendBleWithPolicy, refused,
            flushMouseAccumulatorOrdered, ordered, outbox, List.nil_append]
          rfl
      | _ =>
          simp only [sendBleWithPolicy, sendOnLane, BleTaskCommand.lane,
            BleTaskCommand.commandClass, flushMouseAccumulatorOrdered,
            ordered, outbox, List.nil_append]
          rfl
  | keyboard report =>
      refine ⟨[], lanes.mouse, .of_ne nofun, ?_⟩
      simp only [emit]
      rw [if_pos outbox]
      cases reason with
      | input => cases takes
      | _ =>
          simp only [sendBleWithPolicy, sendOnLane, BleTaskCommand.lane,
            BleTaskCommand.commandClass, ordered, outbox]
  | consumer report =>
      refine ⟨[], lanes.mouse, .of_ne nofun, ?_⟩
      simp only [emit]
      rw [if_pos outbox]
      cases reason with
      | input => cases takes
      | _ =>
          simp only [sendBleWithPolicy, sendOnLane, BleTaskCommand.lane,
            BleTaskCommand.commandClass, ordered, outbox]

theorem emit_of_passes (outbox : lanes.outbox = []) {report : BleHidReport}
    (passes : lanes.takesControl target report reason = false) :
    reason = .input ∧
      ((∃ moved mouse, lanes.mouse.push target moved = some mouse ∧
          lanes.emit capacity (.notify target report reason) =
            (lanes.pushed target moved mouse).flushMouseAccumulator capacity) ∨
        report.kind ≠ .mouse ∧
          lanes.emit capacity (.notify target report reason) =
            lanes.queued capacity.notify (.notify target report .input)) := by
  simp only [emit]
  rw [if_pos outbox]
  cases report with
  | mouse report =>
      cases reason with
      | input =>
          obtain ⟨mouse, accepted⟩ := Option.isSome_iff_exists.mp
            (Option.isNone_eq_false_iff.mp passes)
          refine ⟨rfl, .inl ⟨report, mouse, accepted, ?_⟩⟩
          simp only [sendBleWithPolicy, accepted]
          rfl
      | _ => cases passes
  | keyboard report =>
      cases reason with
      | input => exact ⟨rfl, .inr ⟨nofun, rfl⟩⟩
      | _ => cases passes
  | consumer report =>
      cases reason with
      | input => exact ⟨rfl, .inr ⟨nofun, rfl⟩⟩
      | _ => cases passes

theorem LaneInvariant.emit_passing (invariant : lanes.LaneInvariant)
    (outbox : lanes.outbox = [])
    (passes : lanes.takesControl target report reason = false)
    (room : lanes.Admits target → report.kind ≠ .mouse → lanes.notify.length <
      capacity.notify) :
    (lanes.emit capacity (.notify target report reason)).LaneInvariant := by
  obtain ⟨-, ⟨moved, mouse, accepted, merges⟩ | ⟨notMouse, tries⟩⟩ :=
    emit_of_passes outbox passes
  · rw [merges]
    exact (invariant.pushed outbox accepted).flushHosts _ _ outbox
  · rw [tries]
    exact invariant.queued outbox notMouse fun admits =>
      room admits notMouse

theorem Opening.of_mayEmit
    (may : lanes.MayEmit capacity (.activateInput hostId))
    (kind : ReportKind) : lanes.Opening hostId kind := by
  intro inTable blocked
  obtain ⟨idle, kinds⟩ := may inTable blocked
  obtain ⟨none, notInput⟩ := kinds kind
  exact ⟨marks_eq_nil_iff.mpr none, pendingMarks_of_idle idle, notInput⟩

theorem emit_of_critical (outbox : lanes.outbox = [])
    (other : ∀ hostId kind, command.noticeTo hostId kind = none)
    (critical : command.commandClass = .critical) :
    lanes.emit capacity command = lanes.ordered [] lanes.mouse command := by
  simp only [emit]
  rw [if_pos outbox]
  cases command with
  | notify target report reason =>
      have none := other target report.kind
      rw [noticeTo_notify] at none
      cases none
  | managementEvent hostId => cases critical
  | _ =>
      simp only [sendBleWithPolicy, sendOnLane, BleTaskCommand.lane,
        BleTaskCommand.commandClass, ordered, outbox]

theorem LaneInvariant.emit_critical (invariant : lanes.LaneInvariant)
    (outbox : lanes.outbox = [])
    (other : ∀ hostId kind, command.noticeTo hostId kind = none)
    (critical : command.commandClass = .critical)
    (may : lanes.MayEmit capacity command) :
    (lanes.emit capacity command).LaneInvariant := by
  rw [emit_of_critical outbox other critical]
  apply invariant.ordered_other outbox other
  rintro hostId rfl kind
  exact Opening.of_mayEmit may kind

theorem LaneInvariant.emit (invariant : lanes.LaneInvariant)
    (command : BleTaskCommand)
    (may : lanes.outbox = [] → lanes.MayEmit capacity command) :
    (lanes.emit capacity command).LaneInvariant := by
  by_cases outbox : lanes.outbox = []
  · have allowed := may outbox
    cases command with
    | notify target report reason =>
        cases takes : lanes.takesControl target report reason with
        | true =>
            obtain ⟨moves, mouse, drained, sends⟩ :=
              emit_of_takesControl outbox takes
            rw [sends]
            apply invariant.ordered_notify outbox drained
            intro admits
            have free := allowed admits
            rw [takes] at free
            exact free
        | false =>
            apply invariant.emit_passing outbox takes
            intro admits
            have free := allowed admits
            rw [takes] at free
            exact free
    | managementEvent hostId =>
        simp only [BleLanes.emit]
        rw [if_pos outbox]
        exact invariant.tried capacity.control (fun _ _ => rfl) fun _ => rfl
    | _ =>
        exact invariant.emit_critical outbox (fun _ _ => rfl) rfl allowed
  · simp only [BleLanes.emit]
    rw [if_neg outbox]
    exact invariant

end BleLanes

end HidShift
