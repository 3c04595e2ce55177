import HidShift.Interchip.HostContent
import HidShift.Lib.Run

namespace HidShift

open Lib

/-- What the actions of a link say about its commands: what stands behind each
pending cell, and the commands sent for the first time and acknowledged, in
order. -/
structure DeliveryLog where
  origins : List Origin
  sent : List WireCommand
  acked : List WireCommand

namespace DeliveryLog

def new : DeliveryLog := ⟨[], [], []⟩

def act (log : DeliveryLog) : LinkAction → DeliveryLog
  | .sessionReset => { log with origins := [] }
  | .helloQueued => { log with origins := log.origins ++ [none] }
  | .commandQueued command fromRetry =>
      { log with
        origins := log.origins ++ [some command]
        sent := if fromRetry then log.sent else log.sent ++ [command] }
  | .acknowledged count =>
      { log with
        origins := log.origins.drop count
        acked := log.acked ++ (log.origins.take count).reduceOption }
  | .reported _ | .received _ _ _ => log

def acts (log : DeliveryLog) (actions : List LinkAction) : DeliveryLog :=
  actions.foldl act log

@[simp] theorem acts_append (log : DeliveryLog)
    (first second : List LinkAction) :
    log.acts (first ++ second) = (log.acts first).acts second :=
  List.foldl_append

end DeliveryLog

/-- The delivery queue holds the commands of the pending cells and nothing is
lost or reordered. -/
structure DeliversInOrder (link : HostLink) (log : DeliveryLog) : Prop where
  cells : log.origins.map Origin.content = link.sender.pendingContents.map some
  inflight : link.delivery.inflight.toList = log.origins.reduceOption
  room : link.delivery.inflight.toList.length +
    link.delivery.retry.toList.length ≤ spiTxWindow
  order : log.sent = log.acked ++ link.delivery.inflight.toList ++
    link.delivery.retry.toList

structure DeliveryGood (link : HostLink) (log : DeliveryLog) : Prop
    extends DeliversInOrder link log where
  packed : link.sender.Packed
  encodable : ∀ command ∈ link.delivery.inflight.toList ++
    link.delivery.retry.toList, (WireCommand.content command).isSome

namespace DeliveryGood

variable {link : HostLink} {log : DeliveryLog}

theorem origins_length (good : DeliveryGood link log) :
    log.origins.length = link.sender.pendingLen := by
  have lengths := congrArg List.length good.cells
  rw [List.length_map, List.length_map, ReliableSender.pendingContents,
    List.length_map] at lengths
  exact lengths

theorem of_same {after : HostLink} (good : DeliveryGood link log)
    (packed : after.sender.Packed)
    (contents : after.sender.pendingContents = link.sender.pendingContents)
    (delivery : after.delivery = link.delivery) :
    DeliveryGood after log where
  cells := by rw [contents]; exact good.cells
  inflight := by rw [delivery]; exact good.inflight
  room := by rw [delivery]; exact good.room
  order := by rw [delivery]; exact good.order
  packed := packed
  encodable := by rw [delivery]; exact good.encodable

theorem resetOutboundSession (good : DeliveryGood link log) :
    DeliveryGood link.resetOutboundSession (log.act .sessionReset) := by
  obtain ⟨emptied, moved⟩ :=
    ReliableDeliveryQueue.retryAfterSessionReset_all good.room
  obtain ⟨packed, contents⟩ := link.sender.packed_resetSession
    (nonzeroSession (link.sessionId + 1))
  exact {
    cells := by
      change _ = List.map some (link.sender.resetSession _).pendingContents
      rw [contents]
      rfl
    inflight := emptied
    room := by
      change link.delivery.retryAfterSessionReset.inflight.toList.length +
        link.delivery.retryAfterSessionReset.retry.toList.length ≤ _
      rw [emptied, moved, List.length_nil, Nat.zero_add, List.length_append]
      exact good.room
    order := by
      change log.sent = log.acked ++
        link.delivery.retryAfterSessionReset.inflight.toList ++
          link.delivery.retryAfterSessionReset.retry.toList
      rw [emptied, moved, List.append_nil, ← List.append_assoc]
      exact good.order
    packed := packed
    encodable := by
      change ∀ command ∈
        link.delivery.retryAfterSessionReset.inflight.toList ++
          link.delivery.retryAfterSessionReset.retry.toList, _
      rw [emptied, moved, List.nil_append]
      exact good.encodable }

theorem queueHello (good : DeliveryGood link log)
    (queued : HidShift.queueHello link.sender nowMs = some (cell, sender)) :
    DeliveryGood { link with sender } (log.act .helloQueued) := by
  obtain ⟨packed, content, contents⟩ := queueHello_some good.packed queued
  exact {
    cells := by
      change List.map Origin.content (log.origins ++ [none]) =
        List.map some sender.pendingContents
      rw [List.map_append, good.cells, contents, List.map_append,
        List.map_singleton, content]
      rfl
    inflight := by
      change _ = (log.origins ++ [none]).reduceOption
      rw [List.reduceOption_append, List.reduceOption_cons_of_none,
        List.reduceOption_nil, List.append_nil]
      exact good.inflight
    room := good.room
    order := good.order
    packed := packed
    encodable := good.encodable }

theorem drop_reduceOption_of_some {origins : List Origin}
    (commands : ∀ origin ∈ origins, origin.isSome) (count : Nat) :
    origins.reduceOption.drop count = (origins.drop count).reduceOption := by
  induction origins generalizing count with
  | nil => simp
  | cons head tail ih =>
      cases count with
      | zero => rfl
      | succ count =>
          obtain ⟨command, rfl⟩ := Option.isSome_iff_exists.mp
            (commands head List.mem_cons_self)
          rw [List.reduceOption_cons_of_some, List.drop_succ_cons,
            List.drop_succ_cons]
          exact ih (fun origin member =>
            commands origin (List.mem_cons_of_mem _ member)) count

/-- Releasing cells releases as many commands, unless an introduction is
released without everything behind it. -/
theorem drop_reduceOption {origins : List Origin}
    (whole : count = 0 ∨ count = origins.length ∨
      origins.reduceOption.length = origins.length) :
    origins.reduceOption.drop count = (origins.drop count).reduceOption := by
  rcases whole with rfl | rfl | full
  · rfl
  · rw [List.drop_length, List.drop_eq_nil_of_le
      (List.reduceOption_length_le origins)]
    rfl
  · exact drop_reduceOption_of_some
      (List.reduceOption_length_eq_iff.mp full) count

theorem acknowledge (good : DeliveryGood link log) (cumulativeAck : UInt16)
    (whole : link.sender.acknowledgedCount cumulativeAck = 0 ∨
      link.sender.acknowledgedCount cumulativeAck = link.sender.pendingLen ∨
      link.delivery.inflight.toList.length = link.sender.pendingLen) :
    DeliveryGood
      { link with
        sender := (link.sender.acknowledge cumulativeAck).2
        delivery := link.delivery.acknowledge
          (link.sender.acknowledgedCount cumulativeAck) }
      (log.act (.acknowledged
        (link.sender.acknowledgedCount cumulativeAck))) := by
  obtain ⟨packed, contents⟩ := good.packed.acknowledge cumulativeAck
  generalize link.sender.acknowledgedCount cumulativeAck = count at *
  rw [← good.origins_length, good.inflight] at whole
  have dropped := drop_reduceOption whole
  exact {
    cells := by
      change List.map Origin.content (log.origins.drop count) =
        List.map some (link.sender.acknowledge cumulativeAck).2.pendingContents
      rw [List.map_drop, good.cells, contents, List.map_drop]
    inflight := by
      change link.delivery.inflight.toList.drop count = _
      rw [good.inflight]
      exact dropped
    room := by
      change (link.delivery.inflight.toList.drop count).length + _ ≤ _
      rw [List.length_drop]
      exact Nat.le_trans (Nat.add_le_add_right (Nat.sub_le _ _) _) good.room
    order := by
      change log.sent = log.acked ++ (log.origins.take count).reduceOption ++
        link.delivery.inflight.toList.drop count ++ _
      rw [good.inflight, dropped, List.append_assoc log.acked,
        ← List.reduceOption_append, List.take_append_drop, ← good.inflight]
      exact good.order
    packed := packed
    encodable := by
      intro command member
      refine good.encodable command ?_
      rcases List.mem_append.mp member with inflight | retry
      · exact List.mem_append_left _ (List.mem_of_mem_drop inflight)
      · exact List.mem_append_right _ retry }

/-- A command joins the pending ones.  It is the next one to be sent again, or
a new one while none is. -/
theorem queueCommand (good : DeliveryGood link log)
    (queued : queueWireCommand link.sender command nowMs =
      some (cell, progress, sender))
    (window : link.sender.pendingLen < spiTxWindow)
    {delivery recorded : ReliableDeliveryQueue WireCommand}
    (inflight : delivery.inflight = link.delivery.inflight)
    (source : if fromRetry then
      link.delivery.retry.toList = command :: delivery.retry.toList
      else link.delivery.retry.toList = [] ∧ delivery.retry.toList = [])
    (recording : recorded.inflight.toList =
      delivery.inflight.toList ++ [command] ∧
        recorded.retry = delivery.retry) :
    DeliveryGood { link with sender, delivery := recorded }
      (log.act (.commandQueued command fromRetry)) := by
  obtain ⟨packed, content, contents⟩ :=
    queueWireCommand_some good.packed queued
  obtain ⟨recordedInflight, recordedRetry⟩ := recording
  rw [inflight] at recordedInflight
  have cells : List.map Origin.content (log.origins ++ [some command]) =
      List.map some sender.pendingContents := by
    rw [List.map_append, good.cells, contents, List.map_append,
      List.map_singleton, Origin.content, content]
    rfl
  have commands : recorded.inflight.toList =
      (log.origins ++ [some command]).reduceOption := by
    rw [recordedInflight, good.inflight, List.reduceOption_append,
      List.reduceOption_cons_of_some, List.reduceOption_nil]
  have within : link.delivery.inflight.toList.length < spiTxWindow := by
    have bounded := List.reduceOption_length_le log.origins
    rw [good.origins_length] at bounded
    rw [good.inflight]
    omega
  have recent : (WireCommand.content command).isSome := by
    rw [content]
    rfl
  cases fromRetry with
  | true =>
      rw [if_pos rfl] at source
      have room := good.room
      have order := good.order
      have encodable := good.encodable
      rw [source] at room order encodable
      exact {
        cells := cells
        inflight := commands
        room := by
          change recorded.inflight.toList.length +
            recorded.retry.toList.length ≤ _
          rw [recordedInflight, recordedRetry, List.length_append,
            List.length_singleton]
          rw [List.length_cons] at room
          omega
        order := by
          change log.sent = log.acked ++ recorded.inflight.toList ++
            recorded.retry.toList
          rw [recordedInflight, recordedRetry, order]
          simp
        packed := packed
        encodable := by
          change ∀ command ∈ recorded.inflight.toList ++
            recorded.retry.toList, _
          rw [recordedInflight, recordedRetry, List.append_assoc]
          exact encodable }
  | false =>
      rw [if_neg Bool.false_ne_true] at source
      obtain ⟨waiting, left⟩ := source
      have order := good.order
      have encodable := good.encodable
      rw [waiting, List.append_nil] at order encodable
      exact {
        cells := cells
        inflight := commands
        room := by
          change recorded.inflight.toList.length +
            recorded.retry.toList.length ≤ _
          rw [recordedInflight, recordedRetry, left, List.length_append,
            List.length_singleton, List.length_nil]
          omega
        order := by
          change log.sent ++ [command] = log.acked ++
            recorded.inflight.toList ++ recorded.retry.toList
          rw [recordedInflight, recordedRetry, left, order, List.append_nil,
            List.append_assoc]
        packed := packed
        encodable := by
          change ∀ command ∈ recorded.inflight.toList ++
            recorded.retry.toList, _
          rw [recordedInflight, recordedRetry, left, List.append_nil]
          intro found member
          rcases List.mem_append.mp member with earlier | last
          · exact encodable found earlier
          · rw [List.mem_singleton.mp last]
            exact recent }

end DeliveryGood

namespace HostLink

def Turn.Delivers (log : DeliveryLog) (turn : Turn) : Prop :=
  DeliveryGood turn.link (log.acts turn.actions)

variable {log : DeliveryLog} {turn : Turn}

theorem Turn.Delivers.of_same {after : Turn} (delivers : turn.Delivers log)
    (sender : after.link.sender = turn.link.sender)
    (delivery : after.link.delivery = turn.link.delivery)
    (actions : log.acts after.actions = log.acts turn.actions) :
    after.Delivers log := by
  unfold Turn.Delivers
  rw [actions]
  refine DeliveryGood.of_same delivers ?_ ?_ delivery
  · rw [sender]
    exact DeliveryGood.packed delivers
  · rw [sender]

theorem Turn.Delivers.act (good : DeliveryGood (change turn.link)
      ((log.acts turn.actions).act action)) :
    ((turn.update change).act action).Delivers log := by
  unfold Turn.Delivers
  change DeliveryGood (change turn.link) (log.acts (turn.actions ++ [action]))
  rw [DeliveryLog.acts_append]
  exact good

theorem Turn.Delivers.resetOutboundSession (delivers : turn.Delivers log) :
    turn.resetOutboundSession.Delivers log :=
  Turn.Delivers.act (DeliveryGood.resetOutboundSession delivers)

theorem Turn.Delivers.queueHello (delivers : turn.Delivers log)
    (nowMs : UInt64) : (turn.queueHello nowMs).2.Delivers log := by
  unfold Turn.queueHello
  split
  · exact delivers
  · rename_i cell sender queued
    exact Turn.Delivers.act (DeliveryGood.queueHello delivers queued)

theorem acts_reported (messages : List HostMessage) :
    log.acts (messages.map LinkAction.reported) = log := by
  induction messages with
  | nil => rfl
  | cons message rest ih => exact ih

theorem Turn.Delivers.report (delivers : turn.Delivers log)
    (room : ReportRoom) (nowMs : UInt64) :
    (turn.report room nowMs).Delivers log := by
  refine delivers.of_same rfl rfl ?_
  unfold Turn.report
  rw [DeliveryLog.acts_append, acts_reported]

theorem recordQueued_ok {link : HostLink} {fromRetry : Bool}
    {progress : Option ControlProgress} {command : WireCommand}
    (room : link.delivery.inflight.toList.length < spiTxWindow) :
    ∃ recorded,
      (recorded.inflight.toList =
        link.delivery.inflight.toList ++ [command] ∧
          recorded.retry = link.delivery.retry) ∧
      ((link.continueResponse fromRetry progress).recordQueued
        command).sender = link.sender ∧
      ((link.continueResponse fromRetry progress).recordQueued
        command).delivery = recorded := by
  have continued := link.continueResponse_chooses fromRetry progress
  obtain ⟨recorded, queued, inflight, retry⟩ :=
    @ReliableDeliveryQueue.recordQueued_ok _ link.delivery command room
  refine ⟨recorded, ⟨inflight, retry⟩, ?_⟩
  unfold recordQueued
  rw [continued.delivery, queued]
  exact ⟨continued.sender, rfl⟩

theorem delivers_queued {link : HostLink} {sender : ReliableSender}
    (good : DeliveryGood link (log.acts turn.actions))
    (queued : queueWireCommand link.sender command nowMs =
      some (cell, progress, sender))
    (window : link.sender.pendingLen < spiTxWindow)
    (inflight : turn.link.delivery.inflight = link.delivery.inflight)
    (source : if fromRetry then
      link.delivery.retry.toList = command :: turn.link.delivery.retry.toList
      else link.delivery.retry.toList = [] ∧
        turn.link.delivery.retry.toList = []) :
    ((turn.update fun link => (({ link with
      sender } : HostLink).continueResponse fromRetry progress).recordQueued
        command).act (.commandQueued command fromRetry)).Delivers log := by
  have within : turn.link.delivery.inflight.toList.length < spiTxWindow := by
    have bounded :=
      List.reduceOption_length_le (log.acts turn.actions).origins
    rw [good.origins_length] at bounded
    rw [inflight, good.inflight]
    omega
  obtain ⟨recorded, recording, afterSender, afterDelivery⟩ :=
    @recordQueued_ok { turn.link with sender } fromRetry progress command
      within
  have recordedGood :=
    good.queueCommand queued window inflight source recording
  refine Turn.Delivers.act (recordedGood.of_same ?_ ?_ afterDelivery)
  · rw [afterSender]
    exact recordedGood.packed
  · rw [afterSender]

section

variable (delivers : turn.Delivers log)

include delivers

section

variable (window : turn.link.sender.pendingLen < spiTxWindow)

include window

theorem Turn.Delivers.queueFresh
    (waiting : turn.link.delivery.retry.toList = []) (command : WireCommand)
    (nowMs : UInt64) :
    (turn.queueCommand command false nowMs).2.Delivers log := by
  unfold Turn.queueCommand
  split
  · exact delivers
  · rename_i cell progress sender queued
    refine delivers_queued delivers queued window rfl ?_
    rw [if_neg Bool.false_ne_true]
    exact ⟨waiting, waiting⟩

theorem Turn.Delivers.queueRetry
    (waiting : turn.link.delivery.retry.toList = command :: rest)
    (nowMs : UInt64) :
    (({ turn with
      link :=
        { turn.link with
          delivery :=
            { turn.link.delivery with
              retry := turn.link.delivery.retry.drop 1 } } } :
      Turn).queueCommand command true nowMs).2.Delivers log := by
  have good : DeliveryGood turn.link (log.acts turn.actions) := delivers
  unfold Turn.queueCommand
  split
  · rename_i refused
    have encodable := good.encodable command (by
      rw [waiting]
      exact List.mem_append_right _ List.mem_cons_self)
    have queued := queueWireCommand_again encodable good.packed window nowMs
    rw [show queueWireCommand turn.link.sender command nowMs = none from
      refused] at queued
    cases queued
  · rename_i cell progress sender queued
    refine delivers_queued good queued window rfl ?_
    rw [if_pos rfl, waiting]
    change _ = command :: turn.link.delivery.retry.toList.drop 1
    rw [waiting]
    rfl

theorem Turn.Delivers.queueNextCommand (nowMs nowUs : UInt64) :
    (turn.queueNextCommand nowMs nowUs).2.Delivers log := by
  unfold Turn.queueNextCommand
  rcases turn.link.nextCommand_cases nowUs with
    ⟨command, rest, waiting, chosen⟩ | ⟨waiting, command, next, chosen, chooses⟩
  · rw [chosen]
    exact delivers.queueRetry window waiting nowMs
  · rw [chosen]
    have choosing : ({ turn with link := next } : Turn).Delivers log :=
      delivers.of_same chooses.sender chooses.delivery rfl
    have nextWindow : next.sender.pendingLen < spiTxWindow := by
      rw [chooses.sender]
      exact window
    have nextWaiting : next.delivery.retry.toList = [] := by
      rw [chooses.delivery]
      exact waiting
    cases command with
    | some command =>
        exact choosing.queueFresh nextWindow nextWaiting command nowMs
    | none =>
        simp only
        split
        · exact choosing
        · refine Turn.Delivers.queueFresh ?_ nextWindow nextWaiting .heartbeat
            nowMs
          exact choosing.of_same rfl rfl rfl

end

theorem Turn.Delivers.withSender {after : Turn}
    (packed : after.link.sender.Packed)
    (contents : after.link.sender.pendingContents =
      turn.link.sender.pendingContents)
    (delivery : after.link.delivery = turn.link.delivery)
    (actions : after.actions = turn.actions) : after.Delivers log := by
  unfold Turn.Delivers
  rw [actions]
  exact DeliveryGood.of_same delivers packed contents delivery

theorem Turn.Delivers.selectCell
    (nowMs nowUs : UInt64) : (turn.selectCell nowMs nowUs).2.Delivers log := by
  have good : DeliveryGood turn.link (log.acts turn.actions) := delivers
  obtain ⟨packed, contents⟩ :=
    good.packed.setCumulativeAck turn.link.receiver.cumulativeAck
  obtain ⟨polledPacked, polledContents⟩ := packed.pollRetransmit nowMs
    retransmitTimeoutMs maxRetransmitAttempts
  have polled : ((turn.update acknowledgeDevice).update fun link =>
      { link with
        sender := ((turn.update acknowledgeDevice).link.sender.pollRetransmit
          nowMs retransmitTimeoutMs maxRetransmitAttempts).2 }).Delivers log :=
    delivers.withSender polledPacked (polledContents.trans contents) rfl rfl
  unfold Turn.selectCell
  simp only
  split
  · exact polled
  · refine Turn.Delivers.queueHello (Turn.Delivers.resetOutboundSession ?_)
      nowMs
    exact polled.of_same rfl rfl rfl
  · split
    · exact polled.queueHello nowMs
    · split
      · rename_i _ sends
        exact polled.queueNextCommand sends.2 nowMs nowUs
      · exact polled

theorem Turn.Delivers.enterQuiet : turn.enterQuiet.Delivers log := by
  have forgot : (turn.update fun link =>
      { link.forgetHello with lastValidCellMs := none }).Delivers log :=
    delivers.of_same rfl rfl rfl
  exact forgot.resetOutboundSession.of_same rfl rfl rfl

theorem Turn.Delivers.poll
    (input : HostInput) : (turn.poll input).1.Delivers log := by
  have observed : ∀ readyHandshake,
      (turn.update fun link => { link with readyHandshake }).Delivers log :=
    fun _ => delivers.of_same rfl rfl rfl
  have transferred : ∀ readyHandshake,
      ((turn.update fun link =>
        { link with readyHandshake }).startTransfer input).1.Delivers log := by
    intro readyHandshake
    have selected := (observed readyHandshake).selectCell input.nowMs
      input.nowUs
    unfold Turn.startTransfer
    simp only
    split
    · exact selected
    · exact selected.of_same rfl rfl rfl
  unfold Turn.poll
  simp only
  split
  · exact observed _
  · exact transferred _
  · exact transferred _

end

theorem delivers_prepare (good : DeliveryGood link log) (input : HostInput) :
    (link.prepare input).1.Delivers log := by
  have reported : (Turn.report ⟨link, []⟩ input.room
      input.nowMs).Delivers log :=
    @Turn.Delivers.report log ⟨link, []⟩ good input.room input.nowMs
  have advanced : ∀ recovery, ((Turn.report ⟨link, []⟩ input.room
      input.nowMs).update fun link => { link with recovery }).Delivers log :=
    fun _ => reported.of_same rfl rfl rfl
  unfold prepare
  simp only
  split
  · exact (advanced _).enterQuiet
  · exact advanced _
  · exact (advanced _).poll input
  · exact (advanced _).poll input

/-- An acknowledgement that releases something releases the whole window,
unless no introduction is in it. -/
def ReleasesWhole (link : HostLink) (cumulativeAck : UInt16) : Prop :=
  link.sender.acknowledgedCount cumulativeAck = 0 ∨
    link.sender.acknowledgedCount cumulativeAck = link.sender.pendingLen ∨
    link.delivery.inflight.toList.length = link.sender.pendingLen

section

variable (delivers : turn.Delivers log)

include delivers

theorem Turn.Delivers.acknowledged
    (whole : turn.link.ReleasesWhole cumulativeAck) :
    (turn.acknowledged cumulativeAck).Delivers log := by
  have good := DeliveryGood.acknowledge delivers cumulativeAck whole
  unfold Turn.acknowledged
  simp only [ReliableSender.acknowledge_removed]
  exact Turn.Delivers.act good

theorem Turn.Delivers.process
    (cell : SpiCell) (disposition : ReceiveDisposition) :
    (turn.process cell disposition).Delivers log := by
  have told : (turn.act (.received cell disposition
      turn.link.recordState)).Delivers log := by
    refine delivers.of_same rfl rfl ?_
    change log.acts (turn.actions ++ [_]) = _
    rw [DeliveryLog.acts_append]
    rfl
  unfold Turn.process
  simp only
  split
  · refine told.of_same ?_ ?_ rfl
    · change (turn.link.processAccepted cell).sender = turn.link.sender
      unfold processAccepted
      simp only
      split <;> rfl
    · change (turn.link.processAccepted cell).delivery = turn.link.delivery
      unfold processAccepted
      simp only
      split <;> rfl
  · exact told

theorem Turn.Delivers.settle
    (changed : Bool) : (turn.settle changed).Delivers log := by
  unfold Turn.settle
  split
  · exact delivers.resetOutboundSession
  · exact delivers

theorem Turn.Delivers.receiveCell (cell : SpiCell) (nowMs : UInt64)
    (whole : (turn.link.receiver.receive cell).1.remoteSessionChanged =
      false → turn.link.ReleasesWhole cell.header.cumulativeAck) :
    (turn.receiveCell cell nowMs).Delivers log := by
  unfold Turn.receiveCell
  simp only
  cases changed :
    (turn.link.receiver.receive cell).1.remoteSessionChanged with
  | true =>
      rw [if_pos rfl]
      refine Turn.Delivers.settle (Turn.Delivers.process
        (Turn.Delivers.resetOutboundSession ?_) _ _) _
      exact delivers.of_same rfl rfl rfl
  | false =>
      rw [if_neg Bool.false_ne_true]
      refine Turn.Delivers.settle (Turn.Delivers.process
        (Turn.Delivers.acknowledged ?_ ?_) _ _) _
      · exact delivers.of_same rfl rfl rfl
      · exact whole changed

end

/-- A cell that continues the device's session acknowledges no introduction
without the commands behind it. -/
def AcksWhole (link : HostLink) : Event → Prop
  | .command _ => True
  | .turn input wire => (link.prepare input).2 = true →
      ∀ cell, wire.map SpiCell.decode = some (.ok cell) →
        ((link.prepare input).1.link.receiver.receive
          cell).1.remoteSessionChanged = false →
        (link.prepare input).1.link.ReleasesWhole cell.header.cumulativeAck

theorem delivers_perform (good : DeliveryGood link log)
    (whole : link.AcksWhole event) : (link.perform event).Delivers log := by
  cases event with
  | command command =>
      exact @Turn.Delivers.of_same log ⟨link, []⟩ _ good rfl rfl rfl
  | turn input wire =>
      have prepared := delivers_prepare good input
      change (link.iterate input _).Delivers log
      cases transfers : (link.prepare input).2 with
      | false =>
          rw [iterate_still transfers]
          exact prepared
      | true =>
          rw [iterate_transfer transfers]
          cases received : wire.map SpiCell.decode with
          | none => exact prepared.of_same rfl rfl rfl
          | some decoded =>
              cases decoded with
              | error _ => exact prepared
              | ok cell =>
                  exact prepared.receiveCell cell input.nowMs
                    (whole transfers cell received)

abbrev DeliveryTransition := Transition HostLink Event (List LinkAction)

def deliveryLog (history : List DeliveryTransition) : DeliveryLog :=
  history.foldl (fun log taken => log.acts taken.output) .new

theorem good_new (sessionId : UInt32) (nowMs nowUs : UInt64) :
    DeliveryGood (HostLink.new sessionId nowMs nowUs) .new where
  cells := by
    change [] = List.map some
      (ReliableSender.new (nonzeroSession sessionId)).pendingContents
    rw [(ReliableSender.holds_new _).contents]
    rfl
  inflight := rfl
  room := Nat.zero_le _
  order := rfl
  packed := ReliableSender.packed_new _
  encodable := fun _ impossible => by cases impossible

theorem commands_delivered_in_order {sessionId : UInt32}
    {nowMs nowUs : UInt64} {history : List DeliveryTransition}
    {link : HostLink}
    (run : Run Step (HostLink.new sessionId nowMs nowUs) history link)
    (whole : ∀ taken ∈ history, taken.before.AcksWhole taken.event) :
    DeliversInOrder link (deliveryLog history) := by
  refine DeliveryGood.toDeliversInOrder (run.invariant_foldl _ _ DeliveryGood
    (good_new sessionId nowMs nowUs) ?_)
  intro taken member log step good
  have delivers := delivers_perform good (whole taken member)
  rw [show taken.before.perform taken.event =
    ⟨taken.after, taken.output⟩ from step] at delivers
  exact delivers

def firstHello : Turn :=
  (HostLink.new 1 0 0).arriving 1 (deviceCell 1 [deviceHello recordHelloAck])

def secondHello : Turn :=
  firstHello.link.arriving 2 (deviceCell 2 [deviceHello recordHello])

def confirmedEarly : Turn :=
  secondHello.link.arriving 3 (deviceCell 3 [deviceHello recordHelloAck])

def commanded : HostLink :=
  { confirmedEarly.link with
    commandQueue := confirmedEarly.link.commandQueue ++ [.releaseAll] }

def commandedHistory : List DeliveryTransition :=
  [⟨HostLink.new 1 0 0, arrival 1 (deviceCell 1 [deviceHello recordHelloAck]),
      firstHello.actions, firstHello.link⟩,
    ⟨firstHello.link, arrival 2 (deviceCell 2 [deviceHello recordHello]),
      secondHello.actions, secondHello.link⟩,
    ⟨secondHello.link, arrival 3 (deviceCell 3 [deviceHello recordHelloAck]),
      confirmedEarly.actions, confirmedEarly.link⟩,
    ⟨confirmedEarly.link, .command .releaseAll, [], commanded⟩]

theorem commanded_run :
    Run Step (HostLink.new 1 0 0) commandedHistory commanded :=
  .cons (perform_arrival (deviceCell_valid (by decide) (by decide)) _ _)
    (.cons (perform_arrival (deviceCell_valid (by decide) (by decide)) _ _)
      (.cons (perform_arrival (deviceCell_valid (by decide) (by decide)) _ _)
        (.cons rfl (.nil _))))

theorem acksWhole_arrival {link : HostLink} {cell : SpiCell}
    (valid : cell.Valid)
    (whole : (link.prepare ⟨nowMs, 0, roomForAll, true,
      true⟩).1.link.ReleasesWhole cell.header.cumulativeAck) : link.AcksWhole (arrival nowMs cell) := by
  intro _ received arrived _
  rw [Option.map_some, DeviceLink.decode_wireCell valid] at arrived
  cases arrived
  exact whole

/-- The introduction and the command are acknowledged together. -/
theorem commands_delivered_in_order_together :
    DeliversInOrder (commanded.arriving 4 ((deviceCell 4 []).withAck 2)).link
      (deliveryLog (commandedHistory ++
        [⟨commanded, arrival 4 ((deviceCell 4 []).withAck 2),
          (commanded.arriving 4 ((deviceCell 4 []).withAck 2)).actions,
          (commanded.arriving 4 ((deviceCell 4 []).withAck 2)).link⟩])) := by
  have valid : ((deviceCell 4 []).withAck 2).Valid :=
    (deviceCell_valid (by decide) (by decide)).withAck 2
  have last : Run Step commanded
      [⟨commanded, arrival 4 ((deviceCell 4 []).withAck 2),
        (commanded.arriving 4 ((deviceCell 4 []).withAck 2)).actions,
        (commanded.arriving 4 ((deviceCell 4 []).withAck 2)).link⟩] _ :=
    .cons (perform_arrival valid _ _) (.nil _)
  refine commands_delivered_in_order
    (Run.append_iff.mpr ⟨commanded, commanded_run, last⟩) ?_
  simp only [commandedHistory, List.cons_append, List.nil_append,
    List.forall_mem_cons, List.not_mem_nil, false_imp_iff, implies_true,
    and_true]
  refine ⟨acksWhole_arrival (deviceCell_valid (by decide) (by decide))
      (.inl ?_),
    acksWhole_arrival (deviceCell_valid (by decide) (by decide)) (.inl ?_),
    acksWhole_arrival (deviceCell_valid (by decide) (by decide)) (.inl ?_),
    trivial, acksWhole_arrival valid (.inr (.inl ?_))⟩
  · decide +kernel
  · decide +kernel
  · decide +kernel
  · decide +kernel

/-- The acknowledgement of the introduction takes the command out of the
delivery queue, while its cell is still pending. -/
theorem command_not_delivered :
    ¬ ∀ history link, Run Step (HostLink.new 1 0 0) history link →
      DeliversInOrder link (deliveryLog history) := by
  intro claimed
  have valid : ((deviceCell 4 []).withAck 1).Valid :=
    (deviceCell_valid (by decide) (by decide)).withAck 1
  have last : Run Step commanded
      [⟨commanded, arrival 4 ((deviceCell 4 []).withAck 1),
        (commanded.arriving 4 ((deviceCell 4 []).withAck 1)).actions,
        (commanded.arriving 4 ((deviceCell 4 []).withAck 1)).link⟩] _ :=
    .cons (perform_arrival valid _ _) (.nil _)
  have delivers := claimed _ _
    (Run.append_iff.mpr ⟨commanded, commanded_run, last⟩)
  have lengths := congrArg List.length delivers.inflight
  revert lengths
  decide +kernel

end HostLink

end HidShift
