import HidShift.Ble.Lanes

namespace HidShift

section

variable {hostId : HostId} {kind : ReportKind}

theorem marks_append (first second : List Stamped) :
    marks hostId kind (first ++ second) =
      marks hostId kind first ++ marks hostId kind second :=
  List.filterMap_append

theorem marks_cons (stamped : Stamped) (rest : List Stamped) :
    marks hostId kind (stamped :: rest) =
      marks hostId kind [stamped] ++ marks hostId kind rest :=
  marks_append [stamped] rest

theorem marks_singleton_of_some {report : BleHidReport}
    (notice : stamped.command.noticeTo hostId kind = some (report, reason)) :
    marks hostId kind [stamped] = [(stamped.position, report.shown)] := by
  simp [marks, notice]

theorem marks_singleton_of_none
    (other : stamped.command.noticeTo hostId kind = none) :
    marks hostId kind [stamped] = [] := by
  simp [marks, other]

theorem marks_eq_nil_iff :
    marks hostId kind commands = [] ↔
      ∀ stamped ∈ commands, stamped.command.noticeTo hostId kind = none := by
  simp [marks]

theorem noticeTo_notify (report : BleHidReport) (reason : NotifyReason) :
    (BleTaskCommand.notify hostId report reason).noticeTo hostId
      report.kind = some (report, reason) :=
  if_pos ⟨rfl, rfl⟩

theorem noticeTo_eq_some {command : BleTaskCommand} {report : BleHidReport}
    (notice : command.noticeTo hostId kind = some (report, reason)) :
    command = .notify hostId report reason ∧ report.kind = kind := by
  cases command with
  | notify target shown why =>
      simp only [BleTaskCommand.noticeTo] at notice
      split at notice
      · rename_i matching
        obtain ⟨rfl, rfl⟩ := Prod.mk.inj (Option.some.inj notice)
        exact ⟨by rw [matching.1], matching.2⟩
      · cases notice
  | _ => cases notice

theorem lastNotice_append_of_some
    (found : command.noticeTo hostId kind = some notice) :
    lastNotice hostId kind (emitted ++ [command]) = some notice := by
  simp [lastNotice, List.filterMap_append, found]

theorem lastNotice_append_of_none
    (other : command.noticeTo hostId kind = none) :
    lastNotice hostId kind (emitted ++ [command]) =
      lastNotice hostId kind emitted := by
  simp [lastNotice, List.filterMap_append, other]

end

namespace InOrder

variable {emitted : List BleTaskCommand} {hostId : HostId}
  {kind : ReportKind} {line shorter : List (Nat × ShownInput)}

theorem nil : InOrder emitted hostId kind [] := ⟨.nil, nofun⟩

section

variable (inOrder : InOrder emitted hostId kind line)

include inOrder

theorem sublist
    (part : shorter.Sublist line) : InOrder emitted hostId kind shorter :=
  ⟨inOrder.follows.sublist part,
    fun mark member => inOrder.traced mark (part.mem member)⟩

theorem position_lt (member : mark ∈ line) : mark.1 < emitted.length := by
  obtain ⟨report, reason, found, -⟩ := inOrder.traced mark member
  exact (List.getElem?_eq_some_iff.mp found).1

theorem emit (command : BleTaskCommand) :
    InOrder (emitted ++ [command]) hostId kind line := by
  refine ⟨inOrder.follows, fun mark member => ?_⟩
  obtain ⟨report, reason, found, shown⟩ := inOrder.traced mark member
  refine ⟨report, reason, ?_, shown⟩
  rw [List.getElem?_append_left (inOrder.position_lt member)]
  exact found

theorem snoc {report : BleHidReport}
    (notice : command.noticeTo hostId kind = some (report, reason)) :
    InOrder (emitted ++ [command]) hostId kind
      (line ++ [(emitted.length, report.shown)]) := by
  obtain ⟨rfl, kindOf⟩ := noticeTo_eq_some notice
  have earlier := inOrder.emit (.notify hostId report reason)
  refine ⟨List.pairwise_append.mpr ⟨earlier.follows,
    List.pairwise_singleton _ _, fun mark member last lastMember => ?_⟩, ?_⟩
  · obtain rfl := List.mem_singleton.mp lastMember
    have bound := inOrder.position_lt member
    exact ⟨Nat.le_of_lt bound, fun _ => Nat.ne_of_lt bound⟩
  · intro mark member
    rcases List.mem_append.mp member with old | new
    · exact earlier.traced mark old
    · obtain rfl := List.mem_singleton.mp new
      exact ⟨report, reason, List.getElem?_concat_length, kindOf, rfl⟩

end

theorem repeatLast (inOrder : InOrder emitted hostId .mouse (line ++ [mark]))
    (parts : Nat) :
    InOrder emitted hostId .mouse (line ++ List.replicate parts mark) := by
  obtain ⟨front, -, apart⟩ := List.pairwise_append.mp inOrder.follows
  refine ⟨List.pairwise_append.mpr ⟨front, ?_, ?_⟩, ?_⟩
  · exact List.pairwise_replicate.mpr (.inr ⟨Nat.le_refl _, absurd rfl⟩)
  · intro first member second repeated
    rw [List.eq_of_mem_replicate repeated]
    exact apart first member mark (List.mem_singleton_self mark)
  · intro other member
    rcases List.mem_append.mp member with old | repeated
    · exact inOrder.traced other (List.mem_append_left _ old)
    · rw [List.eq_of_mem_replicate repeated]
      exact inOrder.traced mark
        (List.mem_append_right _ (List.mem_singleton_self mark))

end InOrder

section

variable {hosts : Nat}

def gateAfter (gate : BleInputGate hosts) (commands : List Stamped) :
    BleInputGate hosts :=
  commands.foldl (fun gate stamped => gate.applyCommand stamped.command) gate

def deliver (gate : BleInputGate hosts) : List Stamped → List Stamped
  | [] => []
  | stamped :: rest =>
      if (gate.applyCommand stamped.command).shouldDrop stamped.command then
        deliver (gate.applyCommand stamped.command) rest
      else
        stamped :: deliver (gate.applyCommand stamped.command) rest

variable (gate : BleInputGate hosts)

theorem gateAfter_append (first second : List Stamped) :
    gateAfter gate (first ++ second) =
      gateAfter (gateAfter gate first) second :=
  List.foldl_append

theorem deliver_append (first second : List Stamped) :
    deliver gate (first ++ second) =
      deliver gate first ++ deliver (gateAfter gate first) second := by
  induction first generalizing gate with
  | nil => rfl
  | cons stamped rest ih =>
      rw [List.cons_append, deliver, deliver]
      split
      · exact ih _
      · rw [ih]
        rfl

theorem deliver_cons (stamped : Stamped) (rest : List Stamped) :
    deliver gate (stamped :: rest) =
      deliver gate [stamped] ++
        deliver (gate.applyCommand stamped.command) rest :=
  deliver_append gate [stamped] rest

theorem deliver_sublist (commands : List Stamped) :
    (deliver gate commands).Sublist commands := by
  induction commands generalizing gate with
  | nil => exact .slnil
  | cons stamped rest ih =>
      rw [deliver]
      split
      · exact (ih _).cons _
      · exact (ih _).cons_cons _

theorem marks_deliver_eq_nil (none : marks hostId kind commands = []) :
    marks hostId kind (deliver gate commands) = [] := by
  rw [marks_eq_nil_iff] at none ⊢
  exact fun stamped member =>
    none stamped ((deliver_sublist gate commands).mem member)

end

def NotifyReason.blocks : NotifyReason → Bool
  | .targetSwitchRelease | .safetyRelease => true
  | .input | .inputEdge | .inputRelease | .usbDeviceRemovedRelease => false

namespace BleLanes

def gateAhead (lanes : BleLanes) : BleInputGate bleHostsMax :=
  gateAfter lanes.gate lanes.control

def Admits (lanes : BleLanes) (hostId : HostId) : Prop :=
  lanes.gateAhead.shouldDropInput hostId = false

def LastInput (lanes : BleLanes) (hostId : HostId) (kind : ReportKind) :
    Prop :=
  ∃ report, lastNotice hostId kind lanes.emitted = some (report, .input)

def NoneWaiting (lanes : BleLanes) (hostId : HostId) (kind : ReportKind) :
    Prop :=
  ∀ stamped ∈ lanes.notify, stamped.command.noticeTo hostId kind = none

/-- `send_ble_with_policy` puts the report on the control lane. -/
def takesControl (lanes : BleLanes) (hostId : HostId) :
    BleHidReport → NotifyReason → Bool
  | .mouse report, .input => (lanes.mouse.push hostId report).isNone
  | _, reason => reason != .input

/-- A report may take the control lane when it overtakes no report of its
kind, or blocks those it overtakes; input needs room on the notify lane; and a
blocked host may be activated when nothing waits for it and the last report of
each kind was no input, which the gate may have dropped. -/
def MayEmit (capacity : LaneCapacity) (lanes : BleLanes) :
    BleTaskCommand → Prop
  | .notify hostId report reason =>
      lanes.Admits hostId →
        if lanes.takesControl hostId report reason then
          lanes.NoneWaiting hostId report.kind ∨
            reason.blocks = true ∧ (report.kind = .mouse →
              lanes.mouse.isPending hostId = false)
        else
          report.kind ≠ .mouse → lanes.notify.length < capacity.notify
  | .activateInput hostId =>
      (hostIndex bleHostsMax hostId).isSome → ¬lanes.Admits hostId →
        lanes.mouse.isPending hostId = false ∧
          ∀ kind, lanes.NoneWaiting hostId kind ∧
            ¬lanes.LastInput hostId kind
  | _ => True

def MayStep (capacity : LaneCapacity) (lanes : BleLanes) :
    LaneEvent → Prop
  | .emit command => lanes.outbox = [] → lanes.MayEmit capacity command
  | _ => True

def pendingMark (lanes : BleLanes) (hostId : HostId) : Nat × ShownInput :=
  (lanes.merged hostId,
    .mouse (.fromBitsTruncate (lanes.mouse.state hostId).buttons))

def pendingMarks (lanes : BleLanes) (hostId : HostId) (kind : ReportKind) :
    List (Nat × ShownInput) :=
  if kind = .mouse ∧ lanes.mouse.isPending hostId then
    [lanes.pendingMark hostId]
  else
    []

def passed (lanes : BleLanes) (hostId : HostId) (kind : ReportKind) :
    List (Nat × ShownInput) :=
  marks hostId kind (lanes.transmitted ++ deliver lanes.gate lanes.control)

/-- The whole of what a host gets if nothing else is emitted.  While a send
waits, the notify lane may still be emptied before it. -/
def line (lanes : BleLanes) (hostId : HostId) (kind : ReportKind) :
    List (Nat × ShownInput) :=
  let admitted := fun queue : List (Nat × ShownInput) =>
    if lanes.gateAhead.shouldDropInput hostId then [] else queue
  lanes.passed hostId kind ++ admitted (marks hostId kind lanes.notify) ++
    marks hostId kind (deliver lanes.gateAhead lanes.outbox) ++
      admitted (lanes.pendingMarks hostId kind)

def Opening (lanes : BleLanes) (hostId : HostId) (kind : ReportKind) :
    Prop :=
  (hostIndex bleHostsMax hostId).isSome → ¬lanes.Admits hostId →
    marks hostId kind lanes.notify = [] ∧
      lanes.pendingMarks hostId kind = [] ∧ ¬lanes.LastInput hostId kind

structure InStep (lanes : BleLanes) (hostId : HostId) (kind : ReportKind) :
    Prop where
  inOrder : InOrder lanes.emitted hostId kind (lanes.line hostId kind)
  current : lanes.Admits hostId ∨ ¬lanes.LastInput hostId kind →
    (lanes.line hostId kind).getLast?.map Prod.snd =
      (lastNotice hostId kind lanes.emitted).map (·.1.shown)
  settled : lanes.Admits hostId → marks hostId kind lanes.outbox = [] →
    ¬lanes.LastInput hostId kind →
      marks hostId kind lanes.notify = [] ∧
        lanes.pendingMarks hostId kind = []
  clear : ∀ stamped ∈ lanes.outbox, ∀ report reason,
    stamped.command.noticeTo hostId kind = some (report, reason) →
      lanes.pendingMarks hostId kind = [] ∧
        (lanes.Admits hostId → reason.blocks = false →
          marks hostId kind lanes.notify = [])
  opening : ∀ stamped ∈ lanes.outbox,
    stamped.command = .activateInput hostId → lanes.Opening hostId kind

inductive Outbox : List Stamped → Prop
  | done : Outbox []
  | last (stamped : Stamped) : Outbox [stamped]
  | movement {position : Nat} {hostId : HostId} {report : MouseReport}
      {rest : List Stamped} (next : Outbox rest) :
      Outbox (⟨position, .notify hostId (.mouse report) .input⟩ :: rest)

structure LaneInvariant (lanes : BleLanes) : Prop where
  notify : ∀ stamped ∈ lanes.notify,
    ∃ hostId report, stamped.command = .notify hostId report .input
  outbox : Outbox lanes.outbox
  inStep : ∀ hostId kind, lanes.InStep hostId kind

section

variable {lanes : BleLanes} {hostId : HostId} {kind : ReportKind}

theorem line_of_admits (admits : lanes.Admits hostId) :
    lanes.line hostId kind =
      lanes.passed hostId kind ++ marks hostId kind lanes.notify ++
        marks hostId kind (deliver lanes.gateAhead lanes.outbox) ++
          lanes.pendingMarks hostId kind := by
  simp only [line]
  rw [show lanes.gateAhead.shouldDropInput hostId = false from admits]
  rfl

theorem line_of_not_admits (blocked : ¬lanes.Admits hostId) :
    lanes.line hostId kind =
      lanes.passed hostId kind ++
        marks hostId kind (deliver lanes.gateAhead lanes.outbox) := by
  simp only [line]
  rw [show lanes.gateAhead.shouldDropInput hostId = true from
    Bool.not_eq_false _ ▸ blocked]
  simp

theorem passed_sublist_line :
    (lanes.passed hostId kind).Sublist (lanes.line hostId kind) := by
  simp only [line]
  rw [List.append_assoc, List.append_assoc]
  exact List.sublist_append_left _ _

theorem pendingMarks_of_ne (notMouse : kind ≠ .mouse) :
    lanes.pendingMarks hostId kind = [] :=
  if_neg fun both => notMouse both.1

theorem pendingMarks_of_idle (idle : lanes.mouse.isPending hostId = false) :
    lanes.pendingMarks hostId kind = [] :=
  if_neg fun both => Bool.false_ne_true (idle.symm.trans both.2)

theorem pendingMarks_of_pending
    (pending : lanes.mouse.isPending hostId = true) :
    lanes.pendingMarks hostId .mouse = [lanes.pendingMark hostId] :=
  if_pos ⟨rfl, pending⟩

theorem line_of_admits_done (outbox : lanes.outbox = [])
    (admits : lanes.Admits hostId) :
    lanes.line hostId kind =
      lanes.passed hostId kind ++ (marks hostId kind lanes.notify ++
        lanes.pendingMarks hostId kind) := by
  rw [line_of_admits admits, outbox, ← List.append_assoc]
  exact congrArg (· ++ lanes.pendingMarks hostId kind) (List.append_nil _)

theorem line_of_not_admits_done (outbox : lanes.outbox = [])
    (blocked : ¬lanes.Admits hostId) :
    lanes.line hostId kind = lanes.passed hostId kind := by
  rw [line_of_not_admits blocked, outbox]
  exact List.append_nil _

end

theorem InStep.inOrder_passed {lanes : BleLanes}
    (inStep : lanes.InStep hostId kind) :
    InOrder lanes.emitted hostId kind (lanes.passed hostId kind) :=
  inStep.inOrder.sublist passed_sublist_line

theorem InStep.frame {lanes next : BleLanes} (inStep : lanes.InStep hostId kind)
    (emitted : next.emitted = lanes.emitted ∨
      ∃ command, command.noticeTo hostId kind = none ∧
        next.emitted = lanes.emitted ++ [command])
    (gate : next.gateAhead.shouldDropInput hostId =
      lanes.gateAhead.shouldDropInput hostId)
    (line : next.line hostId kind = lanes.line hostId kind)
    (notify : marks hostId kind lanes.notify = [] →
      marks hostId kind next.notify = [])
    (pending : next.pendingMarks hostId kind = lanes.pendingMarks hostId kind)
    (settled : marks hostId kind next.outbox = [] →
      marks hostId kind lanes.outbox = [])
    (outbox : ∀ stamped ∈ next.outbox, stamped ∈ lanes.outbox ∨
      stamped.command.noticeTo hostId kind = none ∧
        (stamped.command = .activateInput hostId → lanes.Opening hostId kind)) :
    next.InStep hostId kind := by
  have admits : next.Admits hostId ↔ lanes.Admits hostId := by
    simp only [Admits]
    rw [gate]
  have last : lastNotice hostId kind next.emitted =
      lastNotice hostId kind lanes.emitted := by
    rcases emitted with same | ⟨command, other, more⟩
    · rw [same]
    · rw [more, lastNotice_append_of_none other]
  have lastInput : next.LastInput hostId kind ↔
      lanes.LastInput hostId kind := by
    simp only [LastInput]
    rw [last]
  have opening : lanes.Opening hostId kind → next.Opening hostId kind := by
    intro before inTable blocked
    rw [admits] at blocked
    obtain ⟨none, idle, notInput⟩ := before inTable blocked
    exact ⟨notify none, pending.trans idle, mt lastInput.mp notInput⟩
  constructor
  · rw [line]
    rcases emitted with same | ⟨command, -, more⟩
    · rw [same]
      exact inStep.inOrder
    · rw [more]
      exact inStep.inOrder.emit command
  · rw [line, last, admits, lastInput]
    exact inStep.current
  · rw [admits, lastInput, pending]
    intro isOpen none notInput
    obtain ⟨waiting, idle⟩ :=
      inStep.settled isOpen (settled none) notInput
    exact ⟨notify waiting, idle⟩
  · rw [admits, pending]
    intro stamped member report reason notice
    rcases outbox stamped member with old | ⟨other, -⟩
    · obtain ⟨idle, waiting⟩ :=
        inStep.clear stamped old report reason notice
      exact ⟨idle, fun isOpen passes => notify (waiting isOpen passes)⟩
    · rw [other] at notice
      cases notice
  · intro stamped member activates
    rcases outbox stamped member with old | ⟨-, allowed⟩
    · exact opening (inStep.opening stamped old activates)
    · exact opening (allowed activates)

end BleLanes

end HidShift
