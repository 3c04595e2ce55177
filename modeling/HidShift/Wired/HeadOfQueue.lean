import HidShift.Wired.LastState

namespace HidShift

open Lib

namespace DynamicUsb

def Accepts (usb : DynamicUsb) (bus : UsbBus) (packet : RawPacket) : Prop :=
  packet.endpointAddress ∈ usb.inputs ∧
    ∃ length, bus.write packet.endpointAddress packet.data.toList = .ok length

def Ready (usb : DynamicUsb) (bus : UsbBus) (packet : RawPacket) : Prop :=
  ∃ earlier later, usb.pendingIn.toList = earlier ++ packet :: later ∧
    usb.Accepts bus packet ∧
    ∀ other ∈ earlier, other.endpointAddress ≠ packet.endpointAddress

/-- A packet that is ready is not kept back by the other endpoints. -/
def EndpointsIndependent (usb : DynamicUsb) (bus : UsbBus) : Prop :=
  (∃ packet, usb.Ready bus packet) →
    ∃ written, (usb.service bus).2 = some written ∧ usb.Accepts bus written

theorem service_written {usb : DynamicUsb} :
    (usb.service bus).2 = some packet ↔
      usb.pendingIn.toList.head? = some packet ∧ usb.Accepts bus packet := by
  change (usb.serviceIn bus).2 = some packet ↔ _
  rw [serviceIn]
  cases queue : usb.pendingIn.toList.head? with
  | none => simp
  | some first =>
      by_cases input : first.endpointAddress ∈ usb.inputs
      · simp only [if_pos input]
        cases answer : bus.write first.endpointAddress first.data.toList with
        | ok length =>
            simp only [Option.some.injEq]
            constructor
            · intro same
              subst same
              exact ⟨rfl, input, length, answer⟩
            · exact fun written => written.1
        | error error =>
            have refused : ¬ (first = packet ∧ usb.Accepts bus packet) := by
              intro accepted
              obtain ⟨same, _, length, taken⟩ := accepted
              subst same
              rw [answer] at taken
              cases taken
            cases error <;> simp [refused]
      · have foreign : ¬ (first = packet ∧ usb.Accepts bus packet) := by
          intro accepted
          exact input (accepted.1 ▸ accepted.2.1)
        simp [input, foreign]

/-- The endpoints are independent just when nothing is ready or the packet at
the head of the queue is taken. -/
theorem endpoints_independent_iff (usb : DynamicUsb) (bus : UsbBus) :
    usb.EndpointsIndependent bus ↔
      (∀ packet, ¬ usb.Ready bus packet) ∨
        ∃ first, usb.pendingIn.toList.head? = some first ∧
          usb.Accepts bus first := by
  constructor
  · intro independent
    by_cases ready : ∃ packet, usb.Ready bus packet
    · obtain ⟨written, served, _⟩ := independent ready
      exact .inr ⟨written, service_written.mp served⟩
    · exact .inl fun packet here => ready ⟨packet, here⟩
  · intro condition ready
    rcases condition with idle | ⟨first, head, accepts⟩
    · obtain ⟨packet, here⟩ := ready
      exact absurd here (idle packet)
    · exact ⟨first, service_written.mpr ⟨head, accepts⟩, accepts⟩

end DynamicUsb

def UsbCall.StallsAt (endpoint : UInt8) : UsbCall → Prop
  | .service bus => ∀ data, bus.write endpoint data = .error .wouldBlock
  | _ => True

theorem UsbCall.stalled_writes {usb : DynamicUsb} {call : UsbCall}
    {packet : RawPacket} (head : usb.pendingIn.toList.head? = some packet)
    (stalls : call.StallsAt packet.endpointAddress) :
    (call.perform usb).2 = none := by
  cases call with
  | service bus =>
      apply Option.eq_none_iff_forall_ne_some.mpr
      intro written served
      obtain ⟨same, _, length, taken⟩ := DynamicUsb.service_written.mp served
      rw [head, Option.some.injEq] at same
      rw [← same, stalls] at taken
      cases taken
  | _ => rfl

namespace WiredRun

theorem stalled_step {run : WiredRun} (sound : run.Sound) {call : UsbCall}
    (answers : call.AcceptsOrStalls) {packet : RawPacket}
    (head : run.usb.pendingIn.toList.head? = some packet)
    (stalls : call.StallsAt packet.endpointAddress) :
    (run.step call).written = run.written ∧
      (run.step call).usb.pendingIn.toList.head? = some packet := by
  have nothing := UsbCall.stalled_writes head stalls
  obtain ⟨kept, moves⟩ := sound.moves answers
  have queue := moves.queue
  rw [nothing, Option.toList_none, List.nil_append] at queue
  constructor
  · rw [step, nothing, Option.toList_none, List.append_nil]
  · change (call.perform run.usb).1.pendingIn.toList.head? = some packet
    rw [← queue, List.head?_append, head, Option.some_or]

/-- As long as the computer does not poll the endpoint of the first packet, it
gets no packet at all, whatever else is queued. -/
theorem stalled_run {run : WiredRun} (sound : run.Sound)
    {packet : RawPacket}
    (head : run.usb.pendingIn.toList.head? = some packet)
    {calls : List UsbCall} (answers : ∀ call ∈ calls, call.AcceptsOrStalls)
    (stalls : ∀ call ∈ calls, call.StallsAt packet.endpointAddress) :
    (calls.foldl step run).written = run.written := by
  induction calls generalizing run with
  | nil => rfl
  | cons call rest next =>
      have answered := List.forall_mem_cons.mp answers
      have stalled := List.forall_mem_cons.mp stalls
      obtain ⟨same, kept⟩ := stalled_step sound answered.1 head stalled.1
      rw [List.foldl_cons, next (sound_step sound answered.1) kept answered.2
        stalled.2, same]

def unpolledEvent : List UsbCall :=
  [.enqueueManagementEvent ⟨0⟩, .enqueueStandardReport (.keyboard .release)]

def keyboardOnly : UsbBus where
  write address data :=
    if address = managementInEndpoint then .error .wouldBlock
    else .ok data.length
  read _ := .error .wouldBlock

/-- The keyboard report is ready, and no number of `service` calls writes it. -/
theorem unpolled_event_blocks_keyboard :
    ¬ (after unpolledEvent).usb.EndpointsIndependent keyboardOnly ∧
      ∀ count, (after (unpolledEvent ++
        List.replicate count (.service keyboardOnly))).written = [] := by
  have answered : ∀ call ∈ unpolledEvent, call.AcceptsOrStalls := by
    simp [unpolledEvent, UsbCall.AcceptsOrStalls]
  constructor
  · intro independent
    have ready : (after unpolledEvent).usb.Ready keyboardOnly
        ⟨0x81, ⟨List.replicate 8 0, by decide⟩⟩ := by
      refine ⟨[⟨0x84, ⟨0x12 :: ManagementEvent.encode ⟨0⟩, by decide⟩⟩], [],
        by decide +kernel, ⟨by decide, 8, rfl⟩, by decide⟩
    obtain ⟨written, served, _⟩ := independent ⟨_, ready⟩
    have nothing :
        ((after unpolledEvent).usb.service keyboardOnly).2 = none := by
      decide +kernel
    rw [nothing] at served
    cases served
  · intro count
    have head : (after unpolledEvent).usb.pendingIn.toList.head? =
        some ⟨0x84, ⟨0x12 :: ManagementEvent.encode ⟨0⟩, by decide⟩⟩ := by
      decide +kernel
    rw [after, List.foldl_append]
    refine (stalled_run (sound_after answered) head ?_ ?_).trans
      (by decide +kernel)
    · intro call member
      rw [(List.mem_replicate.mp member).2]
      intro address data
      by_cases management : address = managementInEndpoint
      · exact .inl (if_pos management)
      · exact .inr ⟨data.length, if_neg management⟩
    · intro call member
      rw [(List.mem_replicate.mp member).2]
      exact fun data => rfl

end WiredRun

end HidShift
