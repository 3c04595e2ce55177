import HidShift.Ble.LaneEmit

namespace HidShift

open Lib

namespace BleLanes

section

variable {lanes next : BleLanes} {command : BleTaskCommand}
  {capacity : LaneCapacity}

def safe (lanes : BleLanes) : List Stamped :=
  lanes.transmitted ++ lanes.control ++ lanes.outbox

def Kept (lanes : BleLanes) : Prop :=
  ∀ position hostId report reason,
    lanes.emitted[position]? = some (.notify hostId report reason) →
      reason ≠ .input → ⟨position, .notify hostId report reason⟩ ∈ lanes.safe

theorem flushHosts_safe (room : Nat) (hosts : List HostId) (lanes : BleLanes) :
    (flushHosts room hosts lanes).safe = lanes.safe ∧
      (flushHosts room hosts lanes).emitted = lanes.emitted := by
  induction hosts generalizing lanes with
  | nil => exact ⟨rfl, rfl⟩
  | cons target rest ih =>
      rw [flushHosts]
      split
      · exact ⟨rfl, rfl⟩
      · split
        · exact ih lanes
        · split
          · exact ih _
          · exact ⟨rfl, rfl⟩

section

variable (kept : lanes.Kept)

include kept

theorem Kept.emitted (emitted : next.emitted = lanes.emitted ++ [command])
    (safe : ∀ stamped ∈ lanes.safe, stamped ∈ next.safe)
    (new : ∀ hostId report reason, command = .notify hostId report reason →
      reason ≠ .input → ⟨lanes.emitted.length, command⟩ ∈ next.safe) :
    next.Kept := by
  intro position hostId report reason found notInput
  rw [emitted] at found
  by_cases old : position < lanes.emitted.length
  · rw [List.getElem?_append_left old] at found
    exact safe _ (kept position hostId report reason found notInput)
  · rw [List.getElem?_append_right (Nat.le_of_not_lt old)] at found
    obtain ⟨bound, isCommand⟩ := List.getElem?_eq_some_iff.mp found
    have same : position = lanes.emitted.length := by
      simp only [List.length_singleton] at bound
      omega
    rw [List.getElem_singleton] at isCommand
    have member := new hostId report reason isCommand notInput
    rw [isCommand] at member
    exact same ▸ member

theorem Kept.ordered (outbox : lanes.outbox = [])
    (moves : List Stamped) (mouse : MouseReportAccumulator bleHostsMax) :
    (lanes.ordered moves mouse command).Kept := by
  refine kept.emitted rfl (fun stamped member => ?_) fun _ _ _ _ _ => ?_
  · rcases List.mem_append.mp member with early | waits
    · exact List.mem_append_left _ early
    · rw [outbox] at waits
      cases waits
  · exact List.mem_append_right _
      (List.mem_append_right _ (List.mem_singleton_self _))

theorem Kept.emit_passing (outbox : lanes.outbox = [])
    {report : BleHidReport}
    (passes : lanes.takesControl target report reason = false) :
    (lanes.emit capacity (.notify target report reason)).Kept := by
  obtain ⟨rfl, ⟨moved, mouse, -, merges⟩ | ⟨-, tries⟩⟩ :=
    emit_of_passes outbox passes
  · obtain ⟨safe, emitted⟩ := flushHosts_safe capacity.notify
      [⟨1⟩, ⟨2⟩, ⟨3⟩, ⟨4⟩] (lanes.pushed target moved mouse)
    rw [merges]
    refine kept.emitted emitted (fun stamped member => ?_) ?_
    · exact safe.symm ▸ member
    · rintro _ _ _ ⟨⟩ notInput
      exact absurd rfl notInput
  · rw [tries]
    refine kept.emitted rfl (fun stamped member => member) ?_
    rintro _ _ _ ⟨⟩ notInput
    exact absurd rfl notInput

theorem Kept.tried (room : Nat)
    (other : ∀ hostId report reason, command ≠ .notify hostId report reason) :
    (lanes.tried room command).Kept := by
  refine kept.emitted rfl (fun stamped member => ?_)
    fun hostId report reason same => absurd same (other _ _ _)
  simp only [BleLanes.safe] at member ⊢
  rcases control_tried room command with same | more
  · rw [same]
    exact member
  · rw [more]
    rcases List.mem_append.mp member with early | waits
    · rcases List.mem_append.mp early with past | queue
      · exact List.mem_append_left _ (List.mem_append_left _ past)
      · exact List.mem_append_left _
          (List.mem_append_right _ (List.mem_append_left _ queue))
    · exact List.mem_append_right _ waits

theorem Kept.emit (command : BleTaskCommand) :
    (lanes.emit capacity command).Kept := by
  by_cases outbox : lanes.outbox = []
  · cases command with
    | notify target report reason =>
        cases takes : lanes.takesControl target report reason with
        | true =>
            obtain ⟨moves, mouse, -, sends⟩ :=
              emit_of_takesControl outbox takes
            rw [sends]
            exact kept.ordered outbox moves mouse
        | false =>
            exact kept.emit_passing outbox takes
    | managementEvent hostId =>
        unfold BleLanes.emit
        rw [if_pos outbox]
        exact kept.tried capacity.control nofun
    | _ =>
        rw [emit_of_critical outbox (fun _ _ => rfl) rfl]
        exact kept.ordered outbox [] lanes.mouse
  · unfold BleLanes.emit
    rw [if_neg outbox]
    exact kept

theorem Kept.send : (lanes.send capacity).Kept := by
  unfold BleLanes.send
  split
  · exact kept
  · rename_i stamped rest outbox
    unfold trySend
    split
    · rename_i control room
      split at room
      · obtain rfl := Option.some.inj room
        intro position hostId report reason found notInput
        have member := kept position hostId report reason found notInput
        simp only [safe] at member ⊢
        rw [outbox] at member
        simpa only [List.append_assoc, List.singleton_append] using member
      · cases room
    · exact kept

end

theorem transmitted_handle_of_ne {report : BleHidReport}
    (command : stamped.command = .notify hostId report reason)
    (notInput : reason ≠ .input) :
    (lanes.handle stamped).transmitted = lanes.transmitted ++ [stamped] := by
  have drops : ∀ gate : BleInputGate bleHostsMax,
      gate.shouldDrop stamped.command = false := by
    intro gate
    rw [command]
    cases reason with
    | input => exact absurd rfl notInput
    | _ => rfl
  simp only [handle, drops]
  rfl

theorem transmitted_sublist_handle (stamped : Stamped) :
    lanes.transmitted.Sublist (lanes.handle stamped).transmitted := by
  rw [transmitted_handle]
  exact List.sublist_append_left _ _

theorem Kept.receive (kept : lanes.Kept) : lanes.receive.Kept := by
  unfold BleLanes.receive
  split
  · rename_i head rest control
    intro position hostId report reason found notInput
    have member := kept position hostId report reason found notInput
    simp only [safe] at member ⊢
    rw [control] at member
    rcases List.mem_append.mp member with early | waits
    · apply List.mem_append_left _
      rcases List.mem_append.mp early with past | queue
      · exact List.mem_append_left _
          ((transmitted_sublist_handle head).mem past)
      · rcases List.mem_cons.mp queue with rfl | later
        · rw [transmitted_handle_of_ne rfl notInput]
          exact List.mem_append_left _
            (List.mem_append_right _ (List.mem_singleton_self _))
        · exact List.mem_append_right _ later
    · exact List.mem_append_right _ waits
  · rename_i head rest control notify
    intro position hostId report reason found notInput
    have member := kept position hostId report reason found notInput
    rcases List.mem_append.mp member with early | waits
    · apply List.mem_append_left _
      rcases List.mem_append.mp early with past | queue
      · exact List.mem_append_left _
          ((transmitted_sublist_handle head).mem past)
      · exact List.mem_append_right _ queue
    · exact List.mem_append_right _ waits
  · exact kept

theorem Kept.flush (kept : lanes.Kept) : (lanes.flush capacity).Kept := by
  unfold BleLanes.flush
  split
  · obtain ⟨safe, emitted⟩ := flushHosts_safe capacity.notify
      [⟨1⟩, ⟨2⟩, ⟨3⟩, ⟨4⟩] lanes
    intro position hostId report reason found notInput
    rw [flushMouseAccumulator, emitted] at found
    rw [flushMouseAccumulator, safe]
    exact kept position hostId report reason found notInput
  · exact kept

end

variable {lanes : BleLanes} {capacity : LaneCapacity}

def advance (capacity : LaneCapacity) (lanes : BleLanes)
    (event : LaneEvent) : BleLanes × Unit :=
  (lanes.step capacity event, ())

abbrev LaneRun (capacity : LaneCapacity) :=
  Run (fun before event output after =>
    advance capacity before event = (after, output)) start

theorem LaneInvariant.step (invariant : lanes.LaneInvariant)
    (event : LaneEvent) (may : lanes.MayStep capacity event) :
    (lanes.step capacity event).LaneInvariant := by
  cases event with
  | emit command => exact invariant.emit command may
  | send => exact invariant.send capacity
  | flush => exact invariant.flush capacity
  | receive => exact invariant.receive

theorem Kept.step (kept : lanes.Kept) (event : LaneEvent) :
    (lanes.step capacity event).Kept := by
  cases event with
  | emit command => exact kept.emit command
  | send => exact kept.send
  | flush => exact kept.flush
  | receive => exact kept.receive

theorem isPending_new (hostId : HostId) :
    (MouseReportAccumulator.new : MouseReportAccumulator
      bleHostsMax).isPending hostId = false := by
  simp only [MouseReportAccumulator.isPending, MouseReportAccumulator.state]
  cases hostIndex bleHostsMax hostId with
  | none => rfl
  | some index => rfl

theorem line_start (hostId : HostId) (kind : ReportKind) :
    start.line hostId kind = [] := by
  simp only [line]
  rw [pendingMarks_of_idle (isPending_new hostId)]
  split
  · rfl
  · rfl

theorem LaneInvariant.start : start.LaneInvariant := by
  refine ⟨nofun, .done, fun hostId kind => ?_⟩
  have line := line_start hostId kind
  refine ⟨line ▸ InOrder.nil, fun _ => ?_, fun _ _ _ =>
    ⟨rfl, pendingMarks_of_idle (isPending_new hostId)⟩, nofun, nofun⟩
  rw [line]
  rfl

theorem LaneInvariant.delivered (invariant : lanes.LaneInvariant)
    (kept : lanes.Kept) : lanes.Delivered := by
  constructor
  · intro hostId kind
    refine (invariant.inStep hostId kind).inOrder.sublist
      (List.Sublist.trans ?_ passed_sublist_line)
    simp only [passed]
    rw [marks_append]
    exact List.sublist_append_left _ _
  · intro idle position hostId report reason found notInput
    have member := kept position hostId report reason found notInput
    unfold safe at member
    rw [idle.control, idle.outbox, List.append_nil, List.append_nil] at member
    exact member
  · intro idle hostId isOpen kind
    have admits : lanes.Admits hostId := by
      simp only [Admits, gateAhead]
      rw [idle.control]
      exact isOpen
    have current := (invariant.inStep hostId kind).current (.inl admits)
    rw [line_of_admits_done idle.outbox admits, idle.notify,
      pendingMarks_of_idle (idle.mouse hostId), passed, idle.control]
      at current
    rw [← current, deliver, List.append_nil]
    show _ = ((marks hostId kind lanes.transmitted ++ []).getLast?.map Prod.snd)
    rw [List.append_nil]

/-- When no report passes one that waits, nothing is overtaken and an active
host ends with what it was sent last. -/
theorem reports_in_order (capacity : LaneCapacity)
    {history : List (Transition BleLanes LaneEvent Unit)}
    {lanes : BleLanes} (run : LaneRun capacity history lanes)
    (may : ∀ taken ∈ history,
      taken.before.MayStep capacity taken.event) : lanes.Delivered := by
  have both : lanes.LaneInvariant ∧ lanes.Kept := by
    refine run.invariant (fun lanes => lanes.LaneInvariant ∧ lanes.Kept)
      ⟨.start, nofun⟩ fun taken member steps before => ?_
    obtain ⟨after, -⟩ := Prod.mk.inj steps
    rw [← after]
    exact ⟨before.1.step taken.event (may taken member),
      before.2.step taken.event⟩
  exact both.1.delivered both.2

def pressA : BleTaskCommand :=
  .notify ⟨1⟩ (.keyboard ⟨#v[0, 0, 4, 0, 0, 0, 0, 0]⟩) .input

def releaseA : BleTaskCommand :=
  .notify ⟨1⟩ (.keyboard .release) .inputRelease

/-- The BLE task takes the press before the release is emitted. -/
theorem reports_in_order_pressTaken :
    (Run.final (advance .runtime) start
      [.emit pressA, .receive, .emit releaseA, .send, .receive]).Delivered := by
  apply reports_in_order .runtime (Run.of_trace ..)
  intro taken member
  simp only [Run.trace, List.mem_cons, List.not_mem_nil, or_false] at member
  rcases member with rfl | rfl | rfl | rfl | rfl
  · exact fun _ _ _ => by decide
  · trivial
  · exact fun _ _ => .inl nofun
  · trivial
  · trivial

/-- Both are on their lanes before the BLE task runs: the release goes first,
and the computer is left with the key pressed. -/
theorem press_after_release :
    let lanes := Run.final (advance .runtime) start
      [.emit pressA, .emit releaseA, .send, .receive, .receive]
    lanes.Idle ∧ lanes.gate.shouldDropInput ⟨1⟩ = false ∧
      lanes.transmitted = [⟨1, releaseA⟩, ⟨0, pressA⟩] ∧
        ¬lanes.Delivered := by
  refine ⟨⟨rfl, rfl, rfl, isPending_new⟩, rfl, rfl, fun delivered => ?_⟩
  have current := delivered.current ⟨rfl, rfl, rfl, isPending_new⟩ ⟨1⟩ rfl
    .keyboard
  revert current
  decide

end BleLanes

end HidShift
