import HidShift.Wired.DynamicUsb
import Mathlib.Data.List.Induction

namespace HidShift

open Lib

inductive UsbCall
  | enqueueStandardReport (report : StandardHidReport)
  | releaseAllStandard
  | enqueueManagementResponse (response : ManagementResponse)
  | enqueueManagementEvent (event : ManagementEvent)
  | service (bus : UsbBus)
  | setProtocol (interface : Fin 4) (value : UInt16)
  | reset

namespace UsbCall

def standardReports : UsbCall → List StandardHidReport
  | .enqueueStandardReport report => [report]
  | .releaseAllStandard => DynamicUsb.releases
  | _ => []

end UsbCall

namespace RawPacket

def ofBytes (endpoint : UInt8) (data : List UInt8) : List RawPacket :=
  (RawPacket.new endpoint data).toOption.toList

theorem ofBytes_endpoint {data : List UInt8}
    (member : packet ∈ ofBytes endpoint data) :
    packet.endpointAddress = endpoint := by
  simp only [ofBytes, RawPacket.new] at member
  split at member
  · rw [List.mem_singleton.mp member]
  · cases member

theorem new_cases (endpoint : UInt8) (data : List UInt8) :
    (∃ packet, RawPacket.new endpoint data = .ok packet ∧
      ofBytes endpoint data = [packet]) ∨
    (∃ error, RawPacket.new endpoint data = .error error ∧
      ofBytes endpoint data = []) := by
  cases built : RawPacket.new endpoint data with
  | ok packet => exact .inl ⟨packet, rfl, by rw [ofBytes, built]; rfl⟩
  | error error => exact .inr ⟨error, rfl, by rw [ofBytes, built]; rfl⟩

def IsStandard (packet : RawPacket) : Bool :=
  packet.endpointAddress ≠ managementInEndpoint

end RawPacket

def DynamicUsb.standardPackets (usb : DynamicUsb)
    (report : StandardHidReport) : List RawPacket :=
  RawPacket.ofBytes (usb.standardData report).2.1 (usb.standardData report).2.2

namespace UsbCall

def packets (usb : DynamicUsb) : UsbCall → List RawPacket
  | .enqueueManagementResponse response =>
      RawPacket.ofBytes managementInEndpoint
        (managementHidResponseReportId :: response.encode)
  | .enqueueManagementEvent event =>
      RawPacket.ofBytes managementInEndpoint
        (managementHidEventReportId :: event.encode)
  | call => call.standardReports.flatMap usb.standardPackets

def perform (usb : DynamicUsb) : UsbCall → DynamicUsb × Option RawPacket
  | .enqueueStandardReport report => (usb.enqueueStandardReport report, none)
  | .releaseAllStandard => (usb.releaseAllStandard, none)
  | .enqueueManagementResponse response =>
      (usb.enqueueManagementResponse response, none)
  | .enqueueManagementEvent event => (usb.enqueueManagementEvent event, none)
  | .service bus => usb.service bus
  | .setProtocol interface value => (usb.setProtocol interface value, none)
  | .reset => (usb.reset, none)

def HasRoom (usb : DynamicUsb) (call : UsbCall) : Prop :=
  usb.pendingIn.toList.length + call.standardReports.length ≤
    rawQueueCapacity

def AcceptsOrStalls : UsbCall → Prop
  | .service bus => ∀ address data,
      bus.write address data = .error .wouldBlock ∨
        ∃ length, bus.write address data = .ok length
  | _ => True

end UsbCall

/-- A device, the packets meant for its IN endpoints and those the computer
has. -/
structure WiredRun where
  usb : DynamicUsb
  offered : List RawPacket
  written : List RawPacket

namespace WiredRun

def start : WiredRun := ⟨.new fallbackEndpoints true, [], []⟩

def step (run : WiredRun) (call : UsbCall) : WiredRun where
  usb := (call.perform run.usb).1
  offered := run.offered ++ call.packets run.usb
  written := run.written ++ (call.perform run.usb).2.toList

def after (calls : List UsbCall) : WiredRun := calls.foldl step start

def onEndpoint (endpoint : UInt8) (packets : List RawPacket) :
    List RawPacket :=
  packets.filter fun packet => packet.endpointAddress = endpoint

def InEnqueueOrder (run : WiredRun) : Prop :=
  ∀ endpoint, (onEndpoint endpoint run.written).Sublist
    (onEndpoint endpoint run.offered)

/-- Once nothing is pending, keyboard, mouse and consumer endpoint carried
their latest packet last. -/
def LastStateWritten (run : WiredRun) : Prop :=
  run.usb.pendingIn.toList = [] →
    ∀ endpoint ∈ ([0x81, 0x82, 0x83] : List UInt8),
      (onEndpoint endpoint run.written).getLast? =
        (onEndpoint endpoint run.offered).getLast?

/-- Every call of the run found room for its standard reports. -/
def FoundRoom (calls : List UsbCall) : Prop :=
  ∀ before call, before ++ [call] <+: calls → call.HasRoom (after before).usb

end WiredRun

/-- A part of the packets went to the back of the queue, and nothing else that
the queue depends on changed. -/
structure DynamicUsb.Queued (usb next : DynamicUsb)
    (offered kept : List RawPacket) : Prop where
  pending : next.pendingIn.toList = usb.pendingIn.toList ++ kept
  part : kept.Sublist offered
  inputs : next.inputs = usb.inputs
  fallback : next.fallback = usb.fallback
  protocol : next.fallbackProtocol = usb.fallbackProtocol

namespace DynamicUsb

theorem Queued.none {usb next : DynamicUsb} (offered : List RawPacket)
    (pending : next.pendingIn = usb.pendingIn)
    (inputs : next.inputs = usb.inputs)
    (fallback : next.fallback = usb.fallback)
    (protocol : next.fallbackProtocol = usb.fallbackProtocol) :
    usb.Queued next offered [] :=
  ⟨by rw [pending, List.append_nil], List.nil_sublist _, inputs, fallback,
    protocol⟩

theorem Queued.append {usb middle next : DynamicUsb}
    {first second firstKept secondKept : List RawPacket}
    (queued : usb.Queued middle first firstKept)
    (later : middle.Queued next second secondKept) :
    usb.Queued next (first ++ second) (firstKept ++ secondKept) where
  pending := by rw [later.pending, queued.pending, List.append_assoc]
  part := queued.part.append later.part
  inputs := later.inputs.trans queued.inputs
  fallback := later.fallback.trans queued.fallback
  protocol := later.protocol.trans queued.protocol

theorem pushPendingIn_cases (usb : DynamicUsb) (packet : RawPacket) :
    (∃ next, usb.pushPendingIn packet = .ok next ∧
      usb.Queued next [packet] [packet]) ∨
    (usb.pushPendingIn packet = .error .queueFull ∧
      rawQueueCapacity ≤ usb.pendingIn.toList.length) := by
  simp only [pushPendingIn]
  cases pushed : usb.pendingIn.push? packet with
  | none => exact .inr ⟨rfl, BoundedVec.push?_eq_none.mp pushed⟩
  | some pendingIn =>
      exact .inl ⟨_, rfl, BoundedVec.push?_eq_some.mp pushed, .refl _, rfl,
        rfl, rfl⟩

section

variable {usb : DynamicUsb} (fallback : usb.fallback = true)

include fallback

theorem enqueueManagementPacket_queued (bytes : List UInt8) :
    ∃ kept, usb.Queued (usb.enqueueManagementPacket bytes)
      (RawPacket.ofBytes managementInEndpoint bytes) kept := by
  simp only [enqueueManagementPacket, fallback, ↓reduceIte]
  rcases RawPacket.new_cases managementInEndpoint bytes with
    ⟨packet, built, same⟩ | ⟨error, built, same⟩
  · rw [built, same]
    rcases usb.pushPendingIn_cases packet with
      ⟨next, pushed, queued⟩ | ⟨full, _⟩
    · refine ⟨[packet], ?_⟩
      simpa only [ok_bind, pushed] using queued
    · refine ⟨[], ?_⟩
      simp only [ok_bind, full]
      exact .none _ rfl rfl rfl rfl
  · rw [built]
    exact ⟨[], .none _ rfl rfl rfl rfl⟩

theorem enqueueStandardReport_queued (report : StandardHidReport) :
    ∃ kept, usb.Queued (usb.enqueueStandardReport report)
        (usb.standardPackets report) kept ∧
      (usb.pendingIn.toList.length < rawQueueCapacity →
        kept = usb.standardPackets report) := by
  rw [enqueueStandardReport, if_pos fallback, standardPackets]
  rcases RawPacket.new_cases (usb.standardData report).2.1
    (usb.standardData report).2.2 with
    ⟨packet, built, same⟩ | ⟨error, built, same⟩
  · rw [built, same]
    simp only
    rcases pushPendingIn_cases { usb with
        fallbackLastInput := usb.fallbackLastInput.setIfInBounds
          (usb.standardData report).1 (some packet) } packet with
      ⟨next, pushed, queued⟩ | ⟨full, noRoom⟩
    · rw [pushed]
      exact ⟨[packet], ⟨queued.pending, queued.part, queued.inputs,
        queued.fallback, queued.protocol⟩, fun _ => rfl⟩
    · rw [full]
      refine ⟨[], .none _ rfl rfl rfl rfl, fun room => ?_⟩
      exact absurd noRoom (Nat.not_le.mpr room)
  · rw [built, same]
    exact ⟨[], .none _ rfl rfl rfl rfl, fun _ => rfl⟩

theorem enqueueAll_queued (reports : List StandardHidReport) :
    ∃ kept, usb.Queued (reports.foldl enqueueStandardReport usb)
        (reports.flatMap usb.standardPackets) kept ∧
      (usb.pendingIn.toList.length + reports.length ≤ rawQueueCapacity →
        kept = reports.flatMap usb.standardPackets) := by
  induction reports generalizing usb with
  | nil => exact ⟨[], .none _ rfl rfl rfl rfl, fun _ => rfl⟩
  | cons report rest ih =>
      obtain ⟨first, queued, whole⟩ :=
        enqueueStandardReport_queued fallback report
      obtain ⟨second, restQueued, restWhole⟩ :=
        ih (queued.fallback.trans fallback)
      have same : (usb.enqueueStandardReport report).standardPackets =
          usb.standardPackets := by
        funext report
        cases report <;> simp only [standardPackets, standardData,
          queued.protocol]
      rw [same] at restQueued restWhole
      refine ⟨first ++ second, ?_, fun room => ?_⟩
      · rw [List.foldl_cons, List.flatMap_cons]
        exact queued.append restQueued
      · rw [List.length_cons] at room
        have short : first.length ≤ 1 := by
          refine queued.part.length_le.trans ?_
          rcases RawPacket.new_cases (usb.standardData report).2.1
            (usb.standardData report).2.2 with
            ⟨packet, _, same⟩ | ⟨error, _, same⟩ <;>
            simp [standardPackets, same]
        rw [List.flatMap_cons, whole (by omega), restWhole]
        rw [queued.pending, List.length_append]
        omega

end

theorem standardPackets_endpoint {usb : DynamicUsb}
    {report : StandardHidReport} {packet : RawPacket}
    (member : packet ∈ usb.standardPackets report) :
    packet.endpointAddress ∈ ([0x81, 0x82, 0x83] : List UInt8) := by
  rw [RawPacket.ofBytes_endpoint member]
  cases report <;> simp [standardData]

structure SameIn (usb next : DynamicUsb) : Prop where
  pending : next.pendingIn = usb.pendingIn
  inputs : next.inputs = usb.inputs
  fallback : next.fallback = usb.fallback

theorem serviceOutput_in (usb : DynamicUsb) (bus : UsbBus)
    (address : UInt8) : usb.SameIn (usb.serviceOutput bus address) := by
  simp only [serviceOutput, received]
  repeat' split
  all_goals exact ⟨rfl, rfl, rfl⟩

theorem serviceOutputs_in (bus : UsbBus) (addresses : List UInt8)
    (usb : DynamicUsb) : usb.SameIn (serviceOutputs bus addresses usb) := by
  induction addresses generalizing usb with
  | nil => exact ⟨rfl, rfl, rfl⟩
  | cons address rest ih =>
      rw [serviceOutputs]
      split
      · exact ⟨rfl, rfl, rfl⟩
      · have first := usb.serviceOutput_in bus address
        have rest := ih (usb.serviceOutput bus address)
        exact ⟨rest.pending.trans first.pending,
          rest.inputs.trans first.inputs, rest.fallback.trans first.fallback⟩

theorem service_moves {usb : DynamicUsb}
    (known : ∀ packet ∈ usb.pendingIn.toList,
      packet.endpointAddress ∈ usb.inputs)
    (answers : (UsbCall.service bus).AcceptsOrStalls) :
    usb.pendingIn.toList = (usb.service bus).2.toList ++
        (usb.service bus).1.pendingIn.toList ∧
      (usb.service bus).1.inputs = usb.inputs ∧
      (usb.service bus).1.fallback = usb.fallback := by
  have outputs := serviceOutputs_in bus (usb.serviceIn bus).1.outputs
    (usb.serviceIn bus).1
  simp only [service]
  rw [outputs.pending, outputs.inputs, outputs.fallback]
  cases queue : usb.pendingIn.toList with
  | nil => simp [serviceIn, queue]
  | cons packet rest =>
      have input := known packet (by rw [queue]; exact List.mem_cons_self)
      rcases answers packet.endpointAddress packet.data.toList with
        stalls | ⟨length, accepts⟩
      · simp [serviceIn, queue, input, stalls]
      · simp [serviceIn, queue, input, accepts]

end DynamicUsb

namespace UsbCall

theorem packets_endpoint {call : UsbCall} {packet : RawPacket}
    (member : packet ∈ call.packets usb) :
    packet.endpointAddress ∈ ([0x81, 0x82, 0x83, 0x84] : List UInt8) := by
  have management {data : List UInt8}
      (member : packet ∈ RawPacket.ofBytes managementInEndpoint data) :
      packet.endpointAddress ∈ ([0x81, 0x82, 0x83, 0x84] : List UInt8) := by
    rw [RawPacket.ofBytes_endpoint member]
    decide
  have standard {reports : List StandardHidReport}
      (member : packet ∈ reports.flatMap usb.standardPackets) :
      packet.endpointAddress ∈ ([0x81, 0x82, 0x83, 0x84] : List UInt8) := by
    obtain ⟨report, _, member⟩ := List.mem_flatMap.mp member
    have := DynamicUsb.standardPackets_endpoint member
    simp only [List.mem_cons, List.not_mem_nil, or_false] at this ⊢
    rcases this with here | here | here <;> simp [here]
  cases call with
  | enqueueManagementResponse response => exact management member
  | enqueueManagementEvent event => exact management member
  | _ => exact standard member

/-- A call moves packets along the queue; those it refuses are management
packets if it found room. -/
structure Moves (usb : DynamicUsb) (call : UsbCall) (kept : List RawPacket) :
    Prop where
  queue : usb.pendingIn.toList ++ kept =
    (call.perform usb).2.toList ++ (call.perform usb).1.pendingIn.toList
  part : kept.Sublist (call.packets usb)
  whole : call.HasRoom usb →
    kept.filter RawPacket.IsStandard =
      (call.packets usb).filter RawPacket.IsStandard
  inputs : (call.perform usb).1.inputs = usb.inputs
  fallback : (call.perform usb).1.fallback = usb.fallback

theorem management_not_standard (data : List UInt8) :
    (RawPacket.ofBytes managementInEndpoint data).filter
      RawPacket.IsStandard = [] := by
  apply List.filter_eq_nil_iff.mpr
  intro packet member
  simp [RawPacket.IsStandard, RawPacket.ofBytes_endpoint member]

theorem moves_management {usb : DynamicUsb} {call : UsbCall}
    (packets : call.packets usb = RawPacket.ofBytes managementInEndpoint bytes)
    (performed : call.perform usb = (usb.enqueueManagementPacket bytes, none))
    (queued : usb.Queued (usb.enqueueManagementPacket bytes)
      (RawPacket.ofBytes managementInEndpoint bytes) kept) :
    call.Moves usb kept where
  queue := by rw [performed, queued.pending]; rfl
  part := by rw [packets]; exact queued.part
  whole := by
    intro _
    rw [packets, management_not_standard]
    have none := queued.part.filter RawPacket.IsStandard
    rw [management_not_standard] at none
    exact List.sublist_nil.mp none
  inputs := by rw [performed]; exact queued.inputs
  fallback := by rw [performed]; exact queued.fallback

theorem moves_standard {usb : DynamicUsb} {call : UsbCall}
    (fallback : usb.fallback = true)
    (packets : call.packets usb =
      call.standardReports.flatMap usb.standardPackets)
    (performed : call.perform usb =
      (call.standardReports.foldl DynamicUsb.enqueueStandardReport usb,
        none)) :
    ∃ kept, call.Moves usb kept := by
  obtain ⟨kept, queued, whole⟩ :=
    DynamicUsb.enqueueAll_queued fallback call.standardReports
  refine ⟨kept, ?_, ?_, ?_, ?_, ?_⟩
  · rw [performed, queued.pending]
    rfl
  · rw [packets]
    exact queued.part
  · intro room
    rw [packets, whole room]
  · rw [performed]
    exact queued.inputs
  · rw [performed]
    exact queued.fallback

theorem perform_moves {usb : DynamicUsb} (fallback : usb.fallback = true)
    (known : ∀ packet ∈ usb.pendingIn.toList,
      packet.endpointAddress ∈ usb.inputs)
    (call : UsbCall) (answers : call.AcceptsOrStalls) :
    ∃ kept, call.Moves usb kept := by
  cases call with
  | enqueueStandardReport report => exact moves_standard fallback rfl rfl
  | releaseAllStandard => exact moves_standard fallback rfl rfl
  | enqueueManagementResponse response =>
      obtain ⟨kept, queued⟩ := DynamicUsb.enqueueManagementPacket_queued
        fallback (managementHidResponseReportId :: response.encode)
      exact ⟨kept, moves_management rfl rfl queued⟩
  | enqueueManagementEvent event =>
      obtain ⟨kept, queued⟩ := DynamicUsb.enqueueManagementPacket_queued
        fallback (managementHidEventReportId :: event.encode)
      exact ⟨kept, moves_management rfl rfl queued⟩
  | service bus =>
      obtain ⟨queue, inputs, same⟩ :=
        DynamicUsb.service_moves known answers
      exact ⟨[], by rw [List.append_nil]; exact queue, List.nil_sublist _,
        fun _ => rfl, inputs, same⟩
  | setProtocol interface value =>
      refine ⟨[], ?_, List.nil_sublist _, fun _ => rfl, ?_, ?_⟩ <;>
        simp only [perform, DynamicUsb.setProtocol] <;> split <;> simp
  | reset =>
      exact ⟨[], List.append_nil _, List.nil_sublist _, fun _ => rfl, rfl,
        rfl⟩

end UsbCall

namespace WiredRun

structure Sound (run : WiredRun) : Prop where
  fallback : run.usb.fallback = true
  inputs : run.usb.inputs = [0x81, 0x82, 0x83, 0x84]
  known : ∀ packet ∈ run.offered, packet.endpointAddress ∈ run.usb.inputs
  order : (run.written ++ run.usb.pendingIn.toList).Sublist run.offered

def Complete (run : WiredRun) : Prop :=
  (run.written ++ run.usb.pendingIn.toList).filter RawPacket.IsStandard =
    run.offered.filter RawPacket.IsStandard

variable {run : WiredRun} {call : UsbCall}

theorem Sound.moves (sound : run.Sound) (answers : call.AcceptsOrStalls) :
    ∃ kept, call.Moves run.usb kept := by
  apply UsbCall.perform_moves sound.fallback _ call answers
  intro packet member
  exact sound.known packet (sound.order.subset (List.mem_append_right _ member))

theorem line_step (moves : call.Moves run.usb kept) :
    (run.step call).written ++ (run.step call).usb.pendingIn.toList =
      run.written ++ run.usb.pendingIn.toList ++ kept := by
  simp only [step]
  rw [List.append_assoc, ← moves.queue, List.append_assoc]

theorem sound_start : start.Sound :=
  ⟨rfl, rfl, fun _ member => (List.not_mem_nil member).elim, .refl _⟩

theorem sound_step (sound : run.Sound) (answers : call.AcceptsOrStalls) :
    (run.step call).Sound := by
  obtain ⟨kept, moves⟩ := sound.moves answers
  refine ⟨moves.fallback.trans sound.fallback,
    moves.inputs.trans sound.inputs, ?_, ?_⟩
  · intro packet member
    have inputs : (run.step call).usb.inputs = run.usb.inputs := moves.inputs
    rw [inputs]
    rcases List.mem_append.mp member with earlier | new
    · exact sound.known packet earlier
    · rw [sound.inputs]
      exact UsbCall.packets_endpoint new
  · rw [line_step moves]
    exact sound.order.append moves.part

theorem complete_step (sound : run.Sound) (complete : run.Complete)
    (answers : call.AcceptsOrStalls) (room : call.HasRoom run.usb) :
    (run.step call).Complete := by
  obtain ⟨kept, moves⟩ := sound.moves answers
  rw [Complete, line_step moves, List.filter_append, complete,
    moves.whole room, ← List.filter_append]
  rfl

theorem after_append (calls : List UsbCall) (call : UsbCall) :
    after (calls ++ [call]) = (after calls).step call :=
  List.foldl_concat ..

theorem sound_after (answers : ∀ call ∈ calls, call.AcceptsOrStalls) :
    (after calls).Sound := by
  induction calls using List.reverseRecOn with
  | nil => exact sound_start
  | append_singleton earlier call ih =>
      rw [after_append]
      apply sound_step (ih fun call member =>
        answers call (List.mem_append_left _ member))
      exact answers call (List.mem_append_right _ List.mem_cons_self)

theorem complete_after (answers : ∀ call ∈ calls, call.AcceptsOrStalls)
    (room : FoundRoom calls) : (after calls).Complete := by
  induction calls using List.reverseRecOn with
  | nil => rfl
  | append_singleton earlier call ih =>
      have before : ∀ call ∈ earlier, call.AcceptsOrStalls :=
        fun call member => answers call (List.mem_append_left _ member)
      rw [after_append]
      apply complete_step (sound_after before) (ih before ?_)
      · exact answers call (List.mem_append_right _ List.mem_cons_self)
      · exact room earlier call (List.prefix_refl _)
      · intro first next reached
        exact room first next
          (reached.trans (List.prefix_append earlier [call]))

theorem Sound.inEnqueueOrder (sound : run.Sound) : run.InEnqueueOrder := by
  intro endpoint
  exact ((List.sublist_append_left _ _).trans sound.order).filter _

theorem Complete.lastStateWritten (complete : run.Complete) :
    run.LastStateWritten := by
  intro drained endpoint standard
  rw [Complete, drained, List.append_nil] at complete
  have onStandard (packets : List RawPacket) :
      onEndpoint endpoint (packets.filter RawPacket.IsStandard) =
        onEndpoint endpoint packets := by
    simp only [onEndpoint, List.filter_filter]
    apply List.filter_congr
    intro packet _
    simp only [Bool.and_eq_left_iff_imp, decide_eq_true_eq,
      RawPacket.IsStandard]
    intro here management
    rw [here] at management
    subst management
    revert standard
    decide
  rw [← onStandard run.written, complete, onStandard]

/-- A keyboard press and the events of the other endpoint fill the queue while
the computer takes nothing, so the release is refused; then everything that is
queued arrives. -/
def lostRelease : List UsbCall :=
  .enqueueStandardReport
      (.keyboard ⟨(Vector.replicate 8 0).setIfInBounds 2 4⟩) ::
    List.replicate 15 (.enqueueManagementEvent ⟨0⟩) ++
    .releaseAllStandard ::
    List.replicate 16 (.service ⟨fun _ _ => .ok 0, fun _ => .error .wouldBlock⟩)

theorem release_lost_on_full_queue :
    (∀ call ∈ lostRelease, call.AcceptsOrStalls) ∧
      ¬ (after lostRelease).LastStateWritten := by
  constructor
  · intro call member
    simp only [lostRelease, List.mem_cons, List.mem_append,
      List.mem_replicate] at member
    rcases member with (rfl | ⟨_, rfl⟩) | rfl | ⟨_, rfl⟩
    · trivial
    · trivial
    · trivial
    · exact fun _ _ => .inr ⟨0, rfl⟩
  · intro last
    have arrived := last (by decide +kernel) 0x81 (by decide)
    revert arrived
    decide +kernel

/-- In every run the packets of an endpoint arrive in the order they were
queued in.  If every call finds room for its standard reports, then also the
last one of each standard endpoint has arrived once nothing is pending. -/
theorem wired_output_ends_in_last_state (calls : List UsbCall)
    (answers : ∀ call ∈ calls, call.AcceptsOrStalls) :
    ∀ reached, reached <+: calls →
      (after reached).InEnqueueOrder ∧
        (FoundRoom calls → (after reached).LastStateWritten) := by
  intro reached earlier
  have answered : ∀ call ∈ reached, call.AcceptsOrStalls :=
    fun call member => answers call (earlier.subset member)
  refine ⟨(sound_after answered).inEnqueueOrder, fun room => ?_⟩
  apply (complete_after answered ?_).lastStateWritten
  intro before call here
  exact room before call (here.trans earlier)

theorem foundRoom_of_each (room : ∀ index : Fin calls.length,
    (calls.get index).HasRoom (after (calls.take index)).usb) :
    FoundRoom calls := by
  rintro before call ⟨later, rfl⟩
  have here := room ⟨before.length, by simp⟩
  simpa using here

/-- The computer stalls the press while the release is queued behind it. -/
def pressedAndReleased : List UsbCall :=
  [.enqueueStandardReport (.keyboard ⟨(Vector.replicate 8 0).setIfInBounds 2 4⟩),
    .service ⟨fun _ _ => .error .wouldBlock, fun _ => .error .wouldBlock⟩,
    .enqueueManagementEvent ⟨0⟩, .releaseAllStandard] ++
    List.replicate 5 (.service ⟨fun _ _ => .ok 0, fun _ => .error .wouldBlock⟩)

theorem wired_output_of_a_press :
    (after pressedAndReleased).usb.pendingIn.toList = [] ∧
      (after pressedAndReleased).InEnqueueOrder ∧
      ∀ endpoint ∈ ([0x81, 0x82, 0x83] : List UInt8),
        (onEndpoint endpoint (after pressedAndReleased).written).getLast? =
          (onEndpoint endpoint
            (after pressedAndReleased).offered).getLast? := by
  have drained : (after pressedAndReleased).usb.pendingIn.toList = [] := by
    decide +kernel
  have room : FoundRoom pressedAndReleased := by
    apply foundRoom_of_each
    unfold UsbCall.HasRoom
    decide +kernel
  obtain ⟨order, last⟩ := wired_output_ends_in_last_state pressedAndReleased
    (by simp [pressedAndReleased, UsbCall.AcceptsOrStalls])
    pressedAndReleased (List.prefix_refl _)
  exact ⟨drained, order, last room drained⟩

end WiredRun

end HidShift
