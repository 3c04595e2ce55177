import HidShift.Interchip.DeviceStream
import HidShift.Interchip.HostLink

namespace HidShift

open Lib

def LinkAction.isReceived : LinkAction → Bool
  | .received _ _ _ => true
  | _ => false

def LinkAction.isReset : LinkAction → Bool
  | .sessionReset => true
  | _ => false

def LinkAction.isReported : LinkAction → Bool
  | .reported _ => true
  | _ => false

namespace HostLink

structure ChoosesOnly (before after : HostLink) : Prop where
  frame : ∃ reportSequence expandingControlResponse pendingDeviceCommand
      commandQueue inputBudget,
    after = { before with
      reportSequence, expandingControlResponse, pendingDeviceCommand,
      commandQueue, inputBudget }

variable {before after : HostLink}

namespace ChoosesOnly

theorem refl (link : HostLink) : ChoosesOnly link link :=
  ⟨⟨_, _, _, _, _, rfl⟩⟩

theorem trans (left : ChoosesOnly first second)
    (right : ChoosesOnly second third) : ChoosesOnly first third := by
  obtain ⟨_, _, _, _, _, rfl⟩ := left.frame
  obtain ⟨_, _, _, _, _, rfl⟩ := right.frame
  exact ⟨⟨_, _, _, _, _, rfl⟩⟩

section

variable (chooses : ChoosesOnly before after)

include chooses

theorem sender : after.sender = before.sender := by
  obtain ⟨_, _, _, _, _, rfl⟩ := chooses.frame
  rfl

theorem receiver : after.receiver = before.receiver := by
  obtain ⟨_, _, _, _, _, rfl⟩ := chooses.frame
  rfl

theorem helloConfirmed : after.helloConfirmed = before.helloConfirmed := by
  obtain ⟨_, _, _, _, _, rfl⟩ := chooses.frame
  rfl

theorem delivery : after.delivery = before.delivery := by
  obtain ⟨_, _, _, _, _, rfl⟩ := chooses.frame
  rfl

theorem pending : after.pending = before.pending := by
  obtain ⟨_, _, _, _, _, rfl⟩ := chooses.frame
  rfl

end

end ChoosesOnly

section

variable (link : HostLink)

theorem choosesOnly_takeDeviceCommand :
    ChoosesOnly link link.takeDeviceCommand.2 := by
  unfold takeDeviceCommand
  split
  · exact ⟨⟨_, _, _, _, _, rfl⟩⟩
  · exact ⟨⟨_, _, _, _, _, rfl⟩⟩

theorem choosesOnly_withholdsInput
    (first : DeviceTaskCommand) (nowUs : UInt64) :
    ChoosesOnly link (link.withholdsInput first nowUs).2 := by
  unfold withholdsInput
  split
  · exact ⟨⟨_, _, _, _, _, rfl⟩⟩
  · exact .refl link

theorem choosesOnly_startCommand (first : DeviceTaskCommand) (nowUs : UInt64) :
    ChoosesOnly link (link.startCommand first nowUs).2 := by
  have withheld := link.choosesOnly_withholdsInput first nowUs
  unfold startCommand
  split
  · exact ⟨⟨_, _, _, _, _, rfl⟩⟩
  · simp only
    split
    · exact withheld.trans ⟨⟨_, _, _, _, _, rfl⟩⟩
    · split
      · exact withheld
      · exact withheld.trans ⟨⟨_, _, _, _, _, rfl⟩⟩

theorem choosesOnly_freshCommand (nowUs : UInt64) :
    ChoosesOnly link (link.freshCommand nowUs).2 := by
  have taken := link.choosesOnly_takeDeviceCommand
  unfold freshCommand
  split
  · exact .refl link
  · split
    · rename_i next taking
      rw [taking] at taken
      exact taken
    · rename_i first next taking
      rw [taking] at taken
      exact taken.trans (next.choosesOnly_startCommand first nowUs)

theorem nextCommand_cases (nowUs : UInt64) :
    (∃ command rest, link.delivery.retry.toList = command :: rest ∧
      link.nextCommand nowUs = (some command, true,
        { link with
          delivery :=
            { link.delivery with retry := link.delivery.retry.drop 1 } })) ∨
      (link.delivery.retry.toList = [] ∧
        ∃ command next, link.nextCommand nowUs = (command, false, next) ∧
          ChoosesOnly link next) := by
  unfold nextCommand ReliableDeliveryQueue.nextRetry
  cases waiting : link.delivery.retry.toList with
  | nil =>
      exact .inr ⟨rfl, _, _, rfl, link.choosesOnly_freshCommand nowUs⟩
  | cons command rest => exact .inl ⟨command, rest, rfl, rfl⟩

theorem continueResponse_chooses (fromRetry : Bool)
    (progress : Option ControlProgress) :
    ChoosesOnly link (link.continueResponse fromRetry progress) := by
  unfold continueResponse
  split
  · exact .refl link
  · split
    · exact .refl link
    · exact ⟨⟨_, _, _, _, _, rfl⟩⟩

theorem recordQueued_frame (command : WireCommand) :
    ∃ delivery, link.recordQueued command = { link with delivery } := by
  unfold recordQueued
  split
  · exact ⟨_, rfl⟩
  · exact ⟨_, rfl⟩

end

structure Sends (before after : Turn) : Prop where
  receiver : after.link.receiver = before.link.receiver
  pending : after.link.pending = before.link.pending
  confirmed : after.link.helloConfirmed = true →
    before.link.helloConfirmed = true
  actions : ∃ added, after.actions = before.actions ++ added ∧
    ∀ action ∈ added, action.isReceived = false ∧ action.isReported = false

namespace Sends

variable {first second third turn : Turn}

theorem refl (turn : Turn) : Sends turn turn where
  receiver := rfl
  pending := rfl
  confirmed := id
  actions := ⟨[], (List.append_nil _).symm, fun _ impossible => by
    cases impossible⟩

theorem trans (left : Sends first second) (right : Sends second third) :
    Sends first third where
  receiver := right.receiver.trans left.receiver
  pending := right.pending.trans left.pending
  confirmed := fun confirmed => left.confirmed (right.confirmed confirmed)
  actions := by
    obtain ⟨early, earlyActions, earlyOthers⟩ := left.actions
    obtain ⟨late, lateActions, lateOthers⟩ := right.actions
    refine ⟨early ++ late, ?_, ?_⟩
    · rw [lateActions, earlyActions, List.append_assoc]
    · intro action member
      rcases List.mem_append.mp member with isEarly | isLate
      · exact earlyOthers action isEarly
      · exact lateOthers action isLate

theorem of_same (receiver : second.link.receiver = first.link.receiver)
    (pending : second.link.pending = first.link.pending)
    (confirmed : second.link.helloConfirmed = true →
      first.link.helloConfirmed = true)
    (actions : second.actions = first.actions) : Sends first second where
  receiver := receiver
  pending := pending
  confirmed := confirmed
  actions := ⟨[], actions.trans (List.append_nil _).symm,
    fun _ impossible => by cases impossible⟩

end Sends

section

variable (turn : Turn)

theorem Turn.sends_resetOutboundSession :
    Sends turn turn.resetOutboundSession where
  receiver := rfl
  pending := rfl
  confirmed := fun confirmed => confirmed
  actions := ⟨[.sessionReset], rfl, fun action member => by
    rw [List.mem_singleton.mp member]
    exact ⟨rfl, rfl⟩⟩

theorem Turn.sends_queueHello (nowMs : UInt64) :
    Sends turn (turn.queueHello nowMs).2 := by
  unfold Turn.queueHello
  split
  · exact Sends.refl turn
  · exact {
      receiver := rfl
      pending := rfl
      confirmed := fun confirmed => confirmed
      actions := ⟨[.helloQueued], rfl, fun action member => by
        rw [List.mem_singleton.mp member]
        exact ⟨rfl, rfl⟩⟩ }

theorem Turn.sends_queueCommand (command : WireCommand)
    (fromRetry : Bool) (nowMs : UInt64) :
    Sends turn (turn.queueCommand command fromRetry nowMs).2 := by
  unfold Turn.queueCommand
  split
  · exact Sends.refl turn
  · rename_i cell progress sender queued
    have continued := ({ turn.link with
      sender } : HostLink).continueResponse_chooses fromRetry progress
    obtain ⟨delivery, recorded⟩ := (({ turn.link with
      sender } : HostLink).continueResponse fromRetry
        progress).recordQueued_frame command
    exact {
      receiver := (congrArg HostLink.receiver recorded).trans
        continued.receiver
      pending := (congrArg HostLink.pending recorded).trans
        continued.pending
      confirmed := fun confirmed => continued.helloConfirmed.symm.trans
        ((congrArg HostLink.helloConfirmed recorded).symm.trans confirmed)
      actions := ⟨[.commandQueued command fromRetry], rfl,
        fun action member => by
          rw [List.mem_singleton.mp member]
          exact ⟨rfl, rfl⟩⟩ }

theorem Turn.sends_queueNextCommand (nowMs nowUs : UInt64) :
    Sends turn (turn.queueNextCommand nowMs nowUs).2 := by
  unfold Turn.queueNextCommand
  rcases turn.link.nextCommand_cases nowUs with
    ⟨command, rest, _, chosen⟩ | ⟨_, command, next, chosen, chooses⟩
  · rw [chosen]
    refine Sends.trans ?_ (Turn.sends_queueCommand _ _ _ _)
    exact Sends.of_same rfl rfl (fun confirmed => confirmed) rfl
  · rw [chosen]
    have choosing : Sends turn { turn with link := next } :=
      Sends.of_same chooses.receiver chooses.pending
        (fun confirmed => chooses.helloConfirmed.symm.trans confirmed) rfl
    cases command with
    | some command => exact choosing.trans (Turn.sends_queueCommand _ _ _ _)
    | none =>
        simp only
        split
        · exact choosing
        · refine choosing.trans (Sends.trans ?_
            (Turn.sends_queueCommand _ _ _ _))
          exact Sends.of_same rfl rfl (fun confirmed => confirmed) rfl

theorem Turn.sends_selectCell (nowMs nowUs : UInt64) :
    Sends turn (turn.selectCell nowMs nowUs).2 := by
  unfold Turn.selectCell
  simp only
  split
  · exact Sends.of_same rfl rfl (fun confirmed => confirmed) rfl
  · refine Sends.trans (Sends.trans ?_ (Turn.sends_resetOutboundSession _))
      (Turn.sends_queueHello _ _)
    exact Sends.of_same rfl rfl (fun impossible => nomatch impossible) rfl
  · split
    · refine Sends.trans ?_ (Turn.sends_queueHello _ _)
      exact Sends.of_same rfl rfl (fun confirmed => confirmed) rfl
    · split
      · refine Sends.trans ?_ (Turn.sends_queueNextCommand _ _ _)
        exact Sends.of_same rfl rfl (fun confirmed => confirmed) rfl
      · exact Sends.of_same rfl rfl (fun confirmed => confirmed) rfl

theorem Turn.sends_startTransfer (input : HostInput) :
    Sends turn (turn.startTransfer input).1 := by
  have selected := turn.sends_selectCell input.nowMs input.nowUs
  unfold Turn.startTransfer
  simp only
  split
  · exact selected
  · exact selected.trans
      (Sends.of_same rfl rfl (fun confirmed => confirmed) rfl)

theorem Turn.sends_poll (input : HostInput) :
    Sends turn (turn.poll input).1 := by
  unfold Turn.poll
  simp only
  have observed : ∀ readyHandshake, Sends turn
      (turn.update fun link => { link with readyHandshake }) :=
    fun _ => Sends.of_same rfl rfl (fun confirmed => confirmed) rfl
  split
  · exact observed _
  · exact (observed _).trans (Turn.sends_startTransfer _ _)
  · exact (observed _).trans (Turn.sends_startTransfer _ _)

end

def reported (link : HostLink) (input : HostInput) : Turn :=
  Turn.report ⟨link, []⟩ input.room input.nowMs

theorem reported_received (link : HostLink) (input : HostInput) :
    ∀ action ∈ (link.reported input).actions, action.isReceived = false := by
  intro action member
  obtain ⟨message, _, rfl⟩ := List.mem_map.mp member
  rfl

structure Quiet (before after : Turn) : Prop where
  pending : after.link.pending = before.link.pending
  confirmed : after.link.helloConfirmed = false
  actions : after.actions = before.actions ++ [.sessionReset]

theorem prepare_cases (link : HostLink) (input : HostInput) :
    Sends (link.reported input) (link.prepare input).1 ∨
      ((link.prepare input).2 = false ∧
        Quiet (link.reported input) (link.prepare input).1) := by
  have advanced : ∀ recovery, Sends (link.reported input)
      ((link.reported input).update fun link => { link with recovery }) :=
    fun _ => Sends.of_same rfl rfl (fun confirmed => confirmed) rfl
  unfold prepare
  simp only
  split
  · exact .inr ⟨rfl, rfl, rfl, rfl⟩
  · exact .inl (advanced _)
  · exact .inl ((advanced _).trans (Turn.sends_poll _ input))
  · exact .inl ((advanced _).trans (Turn.sends_poll _ input))

theorem iterate_still {link : HostLink}
    (silent : (link.prepare input).2 = false) (received : Received) :
    link.iterate input received = (link.prepare input).1 := by
  unfold iterate
  simp only [silent]
  rfl

theorem iterate_transfer {link : HostLink} {input : HostInput}
    (transfers : (link.prepare input).2 = true) (received : Received) :
    link.iterate input received =
      (link.prepare input).1.finish input.nowMs received := by
  unfold iterate
  simp only [transfers]
  rfl

def roomForAll : ReportRoom := ⟨true, true, true, true, true, true, true⟩

def arrival (nowMs : UInt64) (cell : SpiCell) : Event :=
  .turn ⟨nowMs, 0, roomForAll, true, true⟩ (some (DeviceLink.wireCell cell))

def arriving (link : HostLink) (nowMs : UInt64) (cell : SpiCell) : Turn :=
  link.iterate ⟨nowMs, 0, roomForAll, true, true⟩ (some (.ok cell))

theorem perform_wire (valid : cell.Valid) (link : HostLink)
    (input : HostInput) :
    link.perform (.turn input (some (DeviceLink.wireCell cell))) =
      link.iterate input (some (.ok cell)) := by
  rw [perform, Option.map_some, DeviceLink.decode_wireCell valid]

theorem perform_arrival (valid : cell.Valid) (link : HostLink)
    (nowMs : UInt64) :
    link.perform (arrival nowMs cell) = link.arriving nowMs cell :=
  link.perform_wire valid _

def deviceCell (sequence : UInt16) (records : List Record) : SpiCell :=
  ({ ReliableSender.new 5 with nextSequence := sequence } :
    ReliableSender).queuedCell (records.flatMap Record.encode)
      (UInt8.ofNat records.length)

def deviceHello (recordType : UInt8) : Record :=
  ⟨recordType, 0, Hello.encode
    ⟨.device, spiProtocolVersion, 0, 2, requiredDeviceCapabilities, 0⟩⟩

theorem deviceCell_valid {sequence : UInt16} {records : List Record}
    (fits : (records.flatMap Record.encode).length ≤ spiCellPayloadLen)
    (numbered : sequence ≠ 0) : (deviceCell sequence records).Valid :=
  ReliableSender.valid_queuedCell fits numbered

end HostLink

end HidShift
