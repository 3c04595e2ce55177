import HidShift.Interchip.DualLink
import HidShift.Lib.Run

namespace HidShift

open Lib

namespace HostPair

variable {host : HostPair} {released : Nat}

structure Prepared (receiver : ReliableReceiver)
    (result : SpiCell × HostPair) : Prop where
  valid : result.1.Valid
  ack : result.1.header.cumulativeAck = 0 ∨
    result.1.header.cumulativeAck = receiver.cumulativeAck
  receiver : result.2.receiver = receiver
  stream : ∃ released, result.2.sender.Stream released

section

variable (stream : host.sender.Stream released)

include stream

theorem prepared_idle :
    Prepared host.receiver (host.idleCell, host) where
  valid := (SpiCell.valid_empty _).withAck _
  ack := .inr rfl
  receiver := rfl
  stream := ⟨released, stream⟩

theorem prepared_queue (ack : host.sender.cumulativeAck = 0 ∨
      host.sender.cumulativeAck = host.receiver.cumulativeAck)
    (content : List UInt8) (recordCount : UInt8) (nowMs : UInt64) :
    Prepared host.receiver (host.queue content recordCount nowMs) := by
  unfold queue
  split
  · rename_i cell sender queued
    obtain ⟨afterStream, _, _, numbered⟩ := stream.queue queued
    obtain ⟨_, rfl, _⟩ := ReliableSender.queue_ok stream.window queued
    exact ⟨numbered.valid, ack, rfl, released, afterStream⟩
  · exact prepared_idle stream

theorem prepared_retransmit (nowMs timeoutMs : UInt64) (maxAttempts : UInt8) :
    Prepared host.receiver
      (host.prepare (.retransmit nowMs timeoutMs maxAttempts)) := by
  obtain ⟨acked, cells⟩ :=
    stream.setCumulativeAck host.receiver.cumulativeAck
  have current : host.acknowledgeDevice.sender.Stream released := acked
  rw [prepare, transmit]
  rcases current.pollRetransmit nowMs timeoutMs maxAttempts with
    (idle | reset) | ⟨cell, after, sent, afterStream, _, _, ⟨pending, held,
      rfl⟩, numbered⟩
  · rw [idle]
    exact prepared_idle current
  · rw [reset]
    exact prepared_idle current
  · rw [sent]
    have updated : pending ∈ host.sender.pendingCells.map
        (ReliableSender.setPendingAck host.receiver.cumulativeAck) :=
      cells ▸ held
    obtain ⟨original, _, rfl⟩ := List.mem_map.mp updated
    exact ⟨numbered.valid, .inr rfl, rfl, released, afterStream⟩

theorem prepared
    (choice : HostChoice) : Prepared host.receiver (host.prepare choice) := by
  have current : host.acknowledgeDevice.sender.Stream released :=
    (stream.setCumulativeAck host.receiver.cumulativeAck).1
  cases choice with
  | idle => exact prepared_idle current
  | queue content recordCount nowMs =>
      exact prepared_queue current (.inr rfl) content recordCount nowMs
  | restart sessionId content recordCount nowMs =>
      have restarted : (host.acknowledgeDevice.restart
          sessionId).sender.Stream 0 :=
        host.acknowledgeDevice.sender.stream_resetSession sessionId
      exact prepared_queue restarted (.inl rfl) content recordCount nowMs
  | retransmit nowMs timeoutMs maxAttempts =>
      exact prepared_retransmit stream nowMs timeoutMs maxAttempts

end

end HostPair

/-- The host's acknowledgement names position `last`, and the host has
accepted everything the device still holds up to there. -/
structure Counting (receiver : ReliableReceiver) (sender : ReliableSender)
    (released : Nat) (accepted : List Nat) (last : Nat) : Prop where
  session : receiver.sessionId = some sender.sessionId
  names : receiver.cumulativeAck = sequenceAt last
  recent : released ≤ last + 1
  bounded : last < released + sender.pendingLen
  held : ∀ position, released ≤ position → position ≤ last → position ∈ accepted

/-- An armed cell is an idle one or belongs to the present session, and its
recorded position is right. -/
structure Armed (sender : ReliableSender) (released : Nat)
    (armed : ArmedCell) (cell : SpiCell) : Prop where
  decoded : SpiCell.decode armed.wire = .ok cell
  session : cell.header.sessionId = sender.sessionId
  stream : cell.header.txSequence = 0 ∨
    ∃ position, cell.header.txSequence = sequenceAt position ∧
      position < released + sender.pendingLen ∧ released ≤ position + 4 ∧
        (released ≤ position → armed.position = some position)
  recorded : ∀ position, armed.position = some position →
    cell.header.txSequence = sequenceAt position ∧
      released ≤ position ∧ position < released + sender.pendingLen

structure DualLink.Sound (link : DualLink) : Prop where
  host : ∃ released, link.host.sender.Stream released
  device : link.device.Good link.released (if link.armed.isSome then 0 else 4)
  armed : ∀ armed, link.armed = some armed →
    ∃ cell, Armed link.device.sender link.released armed cell
  counting : link.counted = some link.session →
    ∃ last, Counting link.host.receiver link.device.sender link.released
      link.accepted last
  known : ∀ session, link.counted = some session → session ≤ link.session
  safe : ∀ position < link.released, position ∈ link.accepted

structure Grows (before after : ReliableSender) : Prop where
  session : after.sessionId = before.sessionId
  length : before.pendingLen ≤ after.pendingLen

theorem Counting.grow
    (counting : Counting receiver before released accepted last)
    (grows : Grows before after) :
    Counting receiver after released accepted last where
  session := by rw [grows.session]; exact counting.session
  names := counting.names
  recent := counting.recent
  bounded := Nat.lt_of_lt_of_le counting.bounded
    (Nat.add_le_add_left grows.length _)
  held := counting.held

theorem Armed.grow (good : Armed before released armed cell)
    (grows : Grows before after) :
    Armed after released armed cell where
  decoded := good.decoded
  session := good.session.trans grows.session.symm
  stream := by
    have length := grows.length
    rcases good.stream with idle | ⟨position, sequence, bounded, recent, known⟩
    · exact .inl idle
    · exact .inr ⟨position, sequence, by omega, recent, known⟩
  recorded := by
    intro position recorded
    have length := grows.length
    obtain ⟨sequence, recent, bounded⟩ := good.recorded position recorded
    exact ⟨sequence, recent, by omega⟩

theorem DeviceLink.Continues.grows
    (continued : DeviceLink.Continues before after)
    (stream : before.sender.Stream released) :
    Grows before.sender after.sender where
  session := continued.session
  length := by
    obtain ⟨_, queued, cells⟩ := continued.window released stream
    unfold ReliableSender.pendingLen
    rw [cells, List.length_append]
    omega

theorem DeviceRequest.continues_apply (request : DeviceRequest)
    (link : DeviceLink) (nowMs : UInt64) :
    DeviceLink.Continues link (request.apply link nowMs) := by
  cases request with
  | usbState state => exact link.continues_updateUsbState state nowMs
  | standardOutput report => exact link.continues_queueOneRecord _ _ nowMs
  | profileResult result => exact link.continues_queueOneRecord _ _ nowMs
  | rawEndpointOut report => exact link.continues_queueOneRecord _ _ nowMs
  | controlRequest request =>
      exact link.continues_queueControlRequest request nowMs
  | managementRequest request =>
      exact link.continues_queueManagementRequest request nowMs

theorem DeviceLink.Carries.mono {sender : ReliableSender}
    (carries : DeviceLink.Carries sender released slack cell)
    (le : slack ≤ wider) : DeviceLink.Carries sender released wider cell := by
  refine ⟨carries.1, carries.2.imp_right fun inStream => ?_⟩
  obtain ⟨position, numbered, bounded, recent⟩ := inStream.numbered
  exact ⟨position, numbered, bounded, by omega⟩

theorem DeviceLink.Good.mono {link : DeviceLink}
    (good : link.Good released slack) (le : slack ≤ wider) :
    link.Good released wider where
  stream := good.stream
  nextCell := by
    intro cell present
    obtain ⟨position, numbered, bounded, recent⟩ :=
      (good.nextCell cell present).numbered
    exact ⟨position, numbered, bounded, by omega⟩

namespace DualLink

variable {link : DualLink}

theorem Sound.request (sound : link.Sound) (request : DeviceRequest)
    (nowMs : UInt64) : (link.perform (.request request nowMs)).Sound := by
  have continued := request.continues_apply link.device nowMs
  have grows := continued.grows sound.device.stream
  exact {
    host := sound.host
    device := continued.good sound.device
    armed := by
      intro armed present
      obtain ⟨cell, good⟩ := sound.armed armed present
      exact ⟨cell, good.grow grows⟩
    counting := by
      intro current
      obtain ⟨last, counting⟩ := sound.counting current
      exact ⟨last, counting.grow grows⟩
    known := sound.known
    safe := sound.safe }

theorem positionOf_eq {released : Nat} (stream : sender.Stream released)
    (sequence : cell.header.txSequence = sequenceAt position)
    (recent : released ≤ position)
    (bounded : position < released + sender.pendingLen) :
    positionOf sender released cell = some position := by
  have window := stream.length_le
  have inside : position - released < sender.pendingCells.length := by
    unfold ReliableSender.pendingLen at bounded
    omega
  have found : (sender.pendingCells.findIdx? fun pending =>
      pending.cell.header.txSequence = cell.header.txSequence) =
        some (position - released) := by
    refine List.findIdx?_eq_some_iff_getElem.mpr ⟨inside, ?_, ?_⟩
    · have numbered := stream.cells _ _ (List.getElem?_eq_getElem inside)
      rw [decide_eq_true_eq, numbered.sequence, sequence]
      congr 1
      omega
    · intro earlier before
      have present : earlier < sender.pendingCells.length := by omega
      have numbered := stream.cells _ _ (List.getElem?_eq_getElem present)
      rw [decide_eq_true_eq, numbered.sequence, sequence]
      intro same
      have := sequenceAt_inj (by
        unfold ReliableSender.pendingLen at bounded window
        omega) same
      omega
  rw [positionOf, found]
  exact congrArg some (Nat.add_sub_of_le recent)

theorem positionOf_some {released : Nat} (stream : sender.Stream released)
    (found : positionOf sender released cell = some position) :
    cell.header.txSequence = sequenceAt position ∧ released ≤ position ∧
      position < released + sender.pendingLen := by
  rw [positionOf, Option.map_eq_some_iff] at found
  obtain ⟨index, found, rfl⟩ := found
  obtain ⟨inside, named, _⟩ := List.findIdx?_eq_some_iff_getElem.mp found
  have numbered := stream.cells _ _ (List.getElem?_eq_getElem inside)
  refine ⟨(of_decide_eq_true named).symm.trans numbered.sequence, by omega, ?_⟩
  unfold ReliableSender.pendingLen
  omega

theorem armed_armedCell {released : Nat} (stream : sender.Stream released)
    (decoded : SpiCell.decode wire = .ok cell)
    (carries : DeviceLink.Carries sender released 4 cell) :
    Armed sender released (armedCell sender released wire) cell := by
  have position : (armedCell sender released wire).position =
      positionOf sender released cell := by
    rw [armedCell, decoded]
  exact {
    decoded := decoded
    session := carries.1
    stream := by
      rcases carries.2 with idle | inStream
      · exact .inl idle
      · obtain ⟨place, numbered, bounded, recent⟩ := inStream.numbered
        refine .inr ⟨place, numbered.sequence, bounded, recent, fun held => ?_⟩
        rw [position]
        exact positionOf_eq stream numbered.sequence held bounded
    recorded := by
      intro place found
      rw [position] at found
      exact positionOf_some stream found }

theorem Sound.enterSession (sound : link.Sound) {device : DeviceLink}
    {armed : Option ArmedCell}
    (good : device.Good 0 (if armed.isSome then 0 else 4))
    (holds : ∀ cell, armed = some cell →
      ∃ decoded, Armed device.sender 0 cell decoded) :
    ({ link.enterSession with device, armed } : DualLink).Sound where
  host := sound.host
  device := good
  armed := holds
  counting := by
    intro current
    have known := sound.known _ current
    change link.session + 1 ≤ link.session at known
    omega
  known := fun session current =>
    Nat.le_succ_of_le (sound.known session current)
  safe := fun position impossible => absurd impossible (Nat.not_lt_zero _)

theorem Sound.arm (sound : link.Sound) (nowMs : UInt64) :
    (link.arm nowMs).Sound := by
  unfold DualLink.arm
  split
  · exact sound
  · rename_i unarmed
    have device := sound.device
    rw [unarmed] at device
    obtain ⟨cell, decoded, forgotten, continued | restarted⟩ :=
      link.device.nextTransaction_cases device nowMs
    · obtain ⟨session, stream, length, carries⟩ := continued
      have same : (if (link.device.nextTransaction nowMs).2.sender.sessionId ≠
          link.device.sender.sessionId then link.enterSession else link) =
          link := if_neg (fun changed => changed session)
      simp only [same]
      have grows : Grows link.device.sender
          (link.device.nextTransaction nowMs).2.sender := ⟨session, length⟩
      exact {
        host := sound.host
        device := DeviceLink.good_of_forgotten stream forgotten
        armed := by
          intro armed present
          cases present
          exact ⟨cell, armed_armedCell stream decoded carries⟩
        counting := by
          intro current
          obtain ⟨last, counting⟩ := sound.counting current
          exact ⟨last, counting.grow grows⟩
        known := sound.known
        safe := sound.safe }
    · obtain ⟨session, stream, carries⟩ := restarted
      have entered : (if (link.device.nextTransaction
          nowMs).2.sender.sessionId ≠ link.device.sender.sessionId then
            link.enterSession else link) = link.enterSession :=
        if_pos session
      simp only [entered]
      refine sound.enterSession
        (DeviceLink.good_of_forgotten stream forgotten) ?_
      intro armed present
      cases present
      exact ⟨cell, armed_armedCell stream decoded
        (DeviceLink.Carries.mono carries (Nat.zero_le _))⟩

theorem acceptedAfter_refused {accepted : List Nat}
    (refused : ∀ changed ack, disposition ≠ .accepted changed ack) :
    acceptedAfter accepted position disposition = accepted := by
  cases disposition with
  | accepted changed ack => exact absurd rfl (refused changed ack)
  | _ => rfl

theorem mem_acceptedAfter {accepted : List Nat} (member : held ∈ accepted) :
    held ∈ acceptedAfter accepted position disposition := by
  cases disposition with
  | accepted changed ack => exact List.mem_append_right _ member
  | _ => exact member

theorem counting_receive {released : Nat} {accepted : List Nat}
    {armed : ArmedCell}
    (counting : Counting receiver sender released accepted last)
    (window : sender.pendingLen ≤ 4) (good : Armed sender released armed cell) :
    ∃ latest, last ≤ latest ∧
      Counting (receiver.receive cell).2 sender released
        (acceptedAfter accepted armed.position (receiver.receive cell).1)
        latest := by
  have entered : receiver.enterSession cell.header.sessionId = receiver :=
    ReliableReceiver.enterSession_same (by
      rw [good.session]
      exact counting.session)
  rcases receiver.receive_cases cell with
    ⟨changed, received, numbered, expected⟩ | ⟨same, refused⟩
  · rw [received, entered]
    rw [entered, counting.names, nextSequence_sequenceAt] at expected
    obtain ⟨position, sequence, bounded, recent, recorded⟩ :=
      good.stream.resolve_left numbered
    have bounds := counting.recent
    have ends := counting.bounded
    have next : position = last + 1 :=
      sequenceAt_inj (by omega) (sequence.symm.trans expected)
    refine ⟨position, by omega, ?_⟩
    exact {
      session := counting.session
      names := sequence
      recent := by omega
      bounded := bounded
      held := by
        intro held from_released up_to
        rw [recorded (by omega)]
        by_cases newest : held = position
        · rw [newest]
          exact List.mem_append_left _ (List.mem_singleton.mpr rfl)
        · exact List.mem_append_right _
            (counting.held held from_released (by omega)) }
  · rw [entered] at same
    rw [same]
    refine ⟨last, Nat.le_refl _, ?_⟩
    rw [acceptedAfter_refused refused]
    exact counting

theorem counting_started {released : Nat} {accepted : List Nat}
    {armed : ArmedCell} (good : Armed sender released armed cell)
    (starts : startsCount receiver cell = true)
    (counts : (receiver.receive cell).2.cumulativeAck ≠ 0)
    (oldest : armed.position = some released) :
    Counting (receiver.receive cell).2 sender released
      (acceptedAfter accepted armed.position (receiver.receive cell).1)
      released := by
  obtain ⟨sequence, _, bounded⟩ := good.recorded released oldest
  rcases receiver.receive_cases cell with
    ⟨changed, received, numbered, expected⟩ | ⟨same, refused⟩
  · rw [received]
    exact {
      session := by
        rw [← good.session]
        exact receiver.enterSession_sessionId _
      names := sequence
      recent := Nat.le_succ _
      bounded := bounded
      held := by
        intro held from_released up_to
        have exactly : held = released := by omega
        rw [exactly, oldest]
        exact List.mem_append_left _ (List.mem_singleton.mpr rfl) }
  · rw [same] at counts
    exact absurd (of_decide_eq_true starts) counts

theorem countedAfter_cases
    (current : link.countedAfter receiver fresh position =
      some link.session) :
    receiver.cumulativeAck ≠ 0 ∧
      (fresh = true ∧ position = some link.released ∨
        fresh = false ∧ link.counted = some link.session) := by
  unfold countedAfter at current
  split at current
  · cases current
  · rename_i counts
    refine ⟨counts, ?_⟩
    cases fresh with
    | false => exact .inr ⟨rfl, current⟩
    | true =>
        rw [if_pos rfl] at current
        split at current
        · rename_i oldest
          exact .inl ⟨rfl, oldest⟩
        · cases current

theorem known_countedAfter
    (known : ∀ session, link.counted = some session → session ≤ link.session)
    {session : Nat}
    (counted : link.countedAfter receiver fresh position = some session) :
    session ≤ link.session := by
  unfold countedAfter at counted
  split at counted
  · cases counted
  · split at counted
    · split at counted
      · cases counted
        exact Nat.le_refl _
      · cases counted
    · exact known session counted

theorem stream_receive {host : HostPair} {released : Nat}
    (stream : host.sender.Stream released) (cell : SpiCell) :
    ∃ released, (host.receive cell).2.sender.Stream released := by
  unfold HostPair.receive
  simp only
  split
  · exact ⟨0, ReliableSender.stream_resetSession _ _⟩
  · exact ⟨_, (stream.acknowledge _).1⟩

structure Exchanging (link : DualLink) : Prop where
  host : ∃ released, link.host.sender.Stream released
  device : link.device.Good link.released 0
  counting : link.counted = some link.session →
    ∃ last, Counting link.host.receiver link.device.sender link.released
      link.accepted last
  known : ∀ session, link.counted = some session → session ≤ link.session
  safe : ∀ position < link.released, position ∈ link.accepted

theorem Exchanging.hostReceives (exchanging : link.Exchanging)
    {armed : ArmedCell} {cell : SpiCell}
    (good : Armed link.device.sender link.released armed cell) :
    (link.hostReceives armed).Exchanging := by
  have window := exchanging.device.stream.length_le
  obtain ⟨released, stream⟩ := exchanging.host
  unfold DualLink.hostReceives
  rw [good.decoded]
  exact {
    host := stream_receive stream cell
    device := exchanging.device
    counting := by
      intro current
      obtain ⟨counts, ⟨fresh, oldest⟩ | ⟨_, counted⟩⟩ :=
        countedAfter_cases current
      · exact ⟨link.released, counting_started good fresh counts oldest⟩
      · obtain ⟨last, counting⟩ := exchanging.counting counted
        obtain ⟨latest, _, received⟩ := counting_receive counting window good
        exact ⟨latest, received⟩
    known := fun session counted =>
      known_countedAfter exchanging.known counted
    safe := fun position below =>
      mem_acceptedAfter (exchanging.safe position below) }

/-- The device may believe an acknowledgement: it names a position up to which
the host is known to have accepted everything, and the host counts at least as
far. -/
structure Backed (link : DualLink) (known : List Nat)
    (cumulativeAck : UInt16) (last : Nat) : Prop where
  names : cumulativeAck = 0 ∨ cumulativeAck = sequenceAt last
  recent : link.released ≤ last + 1
  bounded : last < link.released + link.device.sender.pendingLen
  held : ∀ position, link.released ≤ position → position ≤ last →
    position ∈ known
  counting : link.counted = some link.session →
    ∃ latest, last ≤ latest ∧ Counting link.host.receiver link.device.sender
      link.released link.accepted latest

theorem Backed.releases (backed : link.Backed known cumulativeAck last)
    (stream : link.device.sender.Stream link.released)
    (some_released :
      link.device.sender.acknowledgedCount cumulativeAck ≠ 0) :
    link.released + link.device.sender.acknowledgedCount cumulativeAck =
      last + 1 := by
  have names := stream.acknowledged_sequence some_released
  have window := stream.length_le
  have bounded := ReliableSender.acknowledgedCount_le stream cumulativeAck
  have recent := backed.recent
  have ends := backed.bounded
  rcases backed.names with none_named | named
  · rw [none_named] at names
    exact absurd names.symm (sequenceAt_ne_zero _)
  · have := sequenceAt_inj (by omega) (named.symm.trans names)
    omega

/-- How the window moves within a session: what it leaves behind is known to
be accepted. -/
structure Progress (before : DualLink) (known : List Nat)
    (after : DualLink) : Prop where
  ends : before.released + before.device.sender.pendingLen ≤
    after.released + after.device.sender.pendingLen
  accepted : ∀ position, before.released ≤ position →
    position < after.released → position ∈ known

theorem Exchanging.deviceReceives (exchanging : link.Exchanging)
    (unarmed : link.armed = none) (valid : cell.Valid) (nowMs : UInt64)
    (eventCapacity : Nat) {known : List Nat} (accepts : known ⊆ link.accepted)
    (believed : link.device.sender.acknowledgedCount
        cell.header.cumulativeAck = 0 ∨
      ∃ last, link.Backed known cell.header.cumulativeAck last) :
    (link.deviceReceives (DeviceLink.wireCell cell) nowMs eventCapacity).Sound ∧
      Progress link known (link.deviceReceives (DeviceLink.wireCell cell)
        nowMs eventCapacity) := by
  have decoded := DeviceLink.decode_wireCell valid
  have stream := exchanging.device.stream
  obtain ⟨good, session, queued, cells⟩ :=
    DeviceLink.handleTransaction_good exchanging.device decoded nowMs
      (.empty : BoundedVec DeviceLinkEvent eventCapacity)
  have bounded := ReliableSender.acknowledgedCount_le stream
    cell.header.cumulativeAck
  have releases : (link.deviceReceives (DeviceLink.wireCell cell) nowMs
      eventCapacity).released = link.released +
        link.device.sender.acknowledgedCount cell.header.cumulativeAck := by
    rw [DualLink.deviceReceives, decoded]
  have length : link.device.sender.pendingLen ≤
      link.device.sender.acknowledgedCount cell.header.cumulativeAck +
        (link.deviceReceives (DeviceLink.wireCell cell) nowMs
          eventCapacity).device.sender.pendingLen := by
    change link.device.sender.pendingCells.length ≤ _ +
      (link.device.handleTransaction (DeviceLink.wireCell cell) nowMs
        (.empty : BoundedVec DeviceLinkEvent
          eventCapacity)).link.sender.pendingCells.length
    rw [cells, List.length_append, List.length_drop]
    omega
  have accepted : ∀ position, link.released ≤ position →
      position < link.released +
        link.device.sender.acknowledgedCount cell.header.cumulativeAck →
          position ∈ known := by
    intro position from_released below
    rcases believed with nothing | ⟨last, backed⟩
    · omega
    · have exactly := backed.releases stream (by omega)
      exact backed.held position from_released (by omega)
  refine ⟨?_, ⟨?_, ?_⟩⟩
  · exact {
      host := exchanging.host
      device := by
        rw [releases]
        change DeviceLink.Good _ (if link.armed.isSome then 0 else 4) _
        rw [unarmed]
        exact good
      armed := by
        intro armed present
        change link.armed = some armed at present
        rw [unarmed] at present
        cases present
      counting := by
        intro current
        change link.counted = some link.session at current
        rw [releases]
        by_cases nothing : link.device.sender.acknowledgedCount
          cell.header.cumulativeAck = 0
        · obtain ⟨last, counting⟩ := exchanging.counting current
          rw [nothing, Nat.zero_add] at length
          rw [nothing, Nat.add_zero]
          exact ⟨last, counting.grow ⟨session, length⟩⟩
        · obtain ⟨last, backed⟩ := believed.resolve_left nothing
          have exactly := backed.releases stream nothing
          obtain ⟨latest, further, counting⟩ := backed.counting current
          have ends := counting.bounded
          exact ⟨latest, {
            session := counting.session.trans (congrArg some session.symm)
            names := counting.names
            recent := by omega
            bounded := by omega
            held := fun position from_released up_to =>
              counting.held position (by omega) up_to }⟩
      known := exchanging.known
      safe := by
        intro position below
        rw [releases] at below
        by_cases old : position < link.released
        · exact exchanging.safe position old
        · exact accepts (accepted position (Nat.not_lt.mp old) below) }
  · rw [releases]
    omega
  · rw [releases]
    exact accepted

theorem Progress.of_same {before after : DualLink} {known : List Nat}
    (released : after.released = before.released)
    (length : before.device.sender.pendingLen ≤
      after.device.sender.pendingLen) : Progress before known after where
  ends := by omega
  accepted := fun _ from_released below => by omega

theorem Exchanging.sound (exchanging : link.Exchanging)
    (unarmed : link.armed = none) : link.Sound where
  host := exchanging.host
  device := by
    rw [unarmed]
    exact exchanging.device.mono (Nat.zero_le _)
  armed := by
    intro armed present
    rw [unarmed] at present
    cases present
  counting := exchanging.counting
  known := exchanging.known
  safe := exchanging.safe

section

variable (link : DualLink) (armed : ArmedCell)

theorem hostReceives_device :
    (link.hostReceives armed).device = link.device := by
  unfold DualLink.hostReceives
  split <;> rfl

theorem hostReceives_released :
    (link.hostReceives armed).released = link.released := by
  unfold DualLink.hostReceives
  split <;> rfl

theorem hostReceives_armed : (link.hostReceives armed).armed = link.armed := by
  unfold DualLink.hostReceives
  split <;> rfl

theorem hostReceives_accepted :
    link.accepted ⊆ (link.hostReceives armed).accepted := by
  intro position held
  unfold DualLink.hostReceives
  split
  · exact held
  · exact mem_acceptedAfter held

end

theorem Backed.hostReceives {cumulativeAck : UInt16} {last : Nat}
    (counting : Counting link.host.receiver link.device.sender link.released
      link.accepted last)
    (window : link.device.sender.pendingLen ≤ 4)
    {armed : ArmedCell} {cell : SpiCell}
    (good : Armed link.device.sender link.released armed cell)
    (names : cumulativeAck = 0 ∨ cumulativeAck = sequenceAt last) :
    (link.hostReceives armed).Backed link.accepted cumulativeAck last where
  names := names
  recent := by
    rw [hostReceives_released]
    exact counting.recent
  bounded := by
    rw [hostReceives_released, hostReceives_device]
    exact counting.bounded
  held := by
    rw [hostReceives_released]
    exact counting.held
  counting := by
    intro _
    obtain ⟨latest, further, received⟩ :=
      counting_receive counting window good
    refine ⟨latest, further, ?_⟩
    unfold DualLink.hostReceives
    rw [good.decoded]
    exact received

theorem Sound.send (sound : link.Sound) (choice : HostChoice)
    (present : link.armed.isSome) : (link.send choice).2.Exchanging := by
  obtain ⟨_, stream⟩ := sound.host
  have prepared := HostPair.prepared stream choice
  have device := sound.device
  rw [if_pos present] at device
  exact {
    host := prepared.stream
    device := device
    counting := by
      intro current
      change ∃ last, Counting (link.host.prepare choice).2.receiver _ _ _ _
      rw [prepared.receiver]
      exact sound.counting current
    known := sound.known
    safe := sound.safe }

theorem Sound.backed (sound : link.Sound) (choice : HostChoice)
    {armed : ArmedCell} (present : link.armed = some armed)
    (deviceArrives : Bool) (current : link.counted = some link.session) :
    ∃ last, (if deviceArrives then (link.send choice).2.hostReceives armed
      else (link.send choice).2).Backed link.accepted
        (link.send choice).1.header.cumulativeAck last := by
  obtain ⟨_, stream⟩ := sound.host
  have prepared := HostPair.prepared stream choice
  obtain ⟨last, counting⟩ := sound.counting current
  have names : (link.send choice).1.header.cumulativeAck = 0 ∨
      (link.send choice).1.header.cumulativeAck = sequenceAt last := by
    rw [← counting.names]
    exact prepared.ack
  have carried : Counting (link.send choice).2.host.receiver
      link.device.sender link.released link.accepted last := by
    change Counting (link.host.prepare choice).2.receiver _ _ _ _
    rw [prepared.receiver]
    exact counting
  refine ⟨last, ?_⟩
  cases deviceArrives with
  | false =>
      exact ⟨names, counting.recent, counting.bounded, counting.held,
        fun _ => ⟨last, Nat.le_refl _, carried⟩⟩
  | true =>
      obtain ⟨cell, good⟩ := sound.armed armed present
      exact @Backed.hostReceives (link.send choice).2 _ _ carried
        sound.device.stream.length_le _ _ good names

def crossed (link : DualLink) (choice : HostChoice) (armed : ArmedCell)
    (deviceArrives : Bool) : DualLink :=
  if deviceArrives then (link.send choice).2.hostReceives armed
  else (link.send choice).2

theorem exchange_some {armed : ArmedCell} (present : link.armed = some armed)
    (choice : HostChoice) (hostArrives deviceArrives : Bool)
    (nowMs : UInt64) (eventCapacity : Nat) :
    link.exchange choice hostArrives deviceArrives nowMs eventCapacity =
      if hostArrives then
        (link.crossed choice armed deviceArrives).deviceReceives
          (DeviceLink.wireCell (link.send choice).1) nowMs eventCapacity
      else link.crossed choice armed deviceArrives := by
  rw [exchange, present]
  rfl

structure Crossed (link after : DualLink) : Prop where
  exchanging : after.Exchanging
  device : after.device = link.device
  released : after.released = link.released
  armed : after.armed = none
  accepted : link.accepted ⊆ after.accepted

theorem Sound.crossed (sound : link.Sound) (choice : HostChoice)
    {armed : ArmedCell} (present : link.armed = some armed)
    (deviceArrives : Bool) :
    Crossed link (link.crossed choice armed deviceArrives) := by
  have sent := sound.send choice (by rw [present]; rfl)
  obtain ⟨_, good⟩ := sound.armed armed present
  cases deviceArrives with
  | false => exact ⟨sent, rfl, rfl, rfl, fun _ held => held⟩
  | true =>
      exact {
        exchanging := Exchanging.hostReceives sent good
        device := hostReceives_device _ _
        released := hostReceives_released _ _
        armed := hostReceives_armed _ _
        accepted := hostReceives_accepted (link.send choice).2 armed }

theorem Progress.of_crossed {crossed : DualLink} (same : Crossed before crossed)
    (progress : Progress crossed known after) :
    Progress before known after where
  ends := by
    have ends := progress.ends
    rw [same.device, same.released] at ends
    exact ends
  accepted := by
    have accepted := progress.accepted
    rw [same.released] at accepted
    exact accepted

theorem Sound.exchange (sound : link.Sound) (choice : HostChoice)
    (hostArrives deviceArrives : Bool) (nowMs : UInt64) (eventCapacity : Nat)
    (matching : link.AckMatches
      (.exchange choice hostArrives deviceArrives nowMs eventCapacity)) :
    (link.exchange choice hostArrives deviceArrives nowMs eventCapacity).Sound ∧
      Progress link link.accepted (link.exchange choice hostArrives
        deviceArrives nowMs eventCapacity) := by
  cases present : link.armed with
  | none =>
      rw [DualLink.exchange, present]
      exact ⟨sound, Progress.of_same rfl (Nat.le_refl _)⟩
  | some armed =>
      have same := sound.crossed choice present deviceArrives
      rw [exchange_some present]
      cases hostArrives with
      | false =>
          refine ⟨same.exchanging.sound same.armed,
            Progress.of_crossed same (Progress.of_same rfl (Nat.le_refl _))⟩
      | true =>
          obtain ⟨_, stream⟩ := sound.host
          have valid := (HostPair.prepared stream choice).valid
          have believed := (matching (by rw [present]; rfl)).imp_right
            (sound.backed choice present deviceArrives)
          have received := same.exchanging.deviceReceives same.armed valid
            nowMs eventCapacity same.accepted (by
              rw [same.device]
              exact believed)
          exact ⟨received.1, received.2.of_crossed same⟩

theorem Sound.perform (sound : link.Sound) (event : DualLinkEvent)
    (matching : link.AckMatches event) : (link.perform event).Sound := by
  cases event with
  | resetHostSender sessionId =>
      exact {
        host := ⟨0, link.host.sender.stream_resetSession sessionId⟩
        device := sound.device
        armed := sound.armed
        counting := sound.counting
        known := sound.known
        safe := sound.safe }
  | forgetDevice =>
      exact {
        host := sound.host
        device := sound.device
        armed := sound.armed
        counting := fun impossible => nomatch impossible
        known := fun _ impossible => nomatch impossible
        safe := sound.safe }
  | restartDevice sessionId usbState capabilities activeProfileHash =>
      exact sound.enterSession
        ((DeviceLink.good_withCapabilities _ _ _ _).mono (Nat.zero_le _))
        (fun _ impossible => nomatch impossible)
  | request request nowMs => exact sound.request request nowMs
  | arm nowMs => exact sound.arm nowMs
  | exchange choice hostArrives deviceArrives nowMs eventCapacity =>
      exact (sound.exchange choice hostArrives deviceArrives nowMs
        eventCapacity matching).1

theorem sound_start (hostSession sessionId : UInt32) (usbState : UsbState)
    (capabilities activeProfileHash : UInt32) :
    (DualLink.start hostSession (DeviceLink.withCapabilities sessionId
      usbState capabilities activeProfileHash)).Sound where
  host := ⟨0, ReliableSender.stream_new hostSession⟩
  device := (DeviceLink.good_withCapabilities _ _ _ _).mono (Nat.zero_le _)
  armed := fun _ impossible => nomatch impossible
  counting := fun impossible => nomatch impossible
  known := fun _ impossible => nomatch impossible
  safe := fun _ impossible => absurd impossible (Nat.not_lt_zero _)

section

variable {start final : DualLink}
  {history : List (Transition DualLink DualLinkEvent Unit)}

/-- A step removes a cell the device still held only if it is among the known
ones. -/
def RemovesOnly (taken : Transition DualLink DualLinkEvent Unit)
    (known : List Nat) : Prop :=
  ∀ index pending,
    taken.before.device.sender.pendingCells[index]? = some pending →
    (∀ kept ∈ taken.after.device.sender.pendingCells,
      kept.cell.header.txSequence ≠ pending.cell.header.txSequence) →
    taken.before.released + index ∈ known

theorem sound_run (run : Run Step start history final) (sound : start.Sound)
    (matching : ∀ taken ∈ history, taken.before.AckMatches taken.event) :
    final.Sound := by
  refine run.invariant Sound sound ?_
  intro taken member step sound
  rw [← show taken.before.perform taken.event = taken.after from step]
  exact sound.perform taken.event (matching taken member)

theorem removesOnly_of_progress (before : taken.before.Sound)
    (after : taken.after.Sound)
    (progress : Progress taken.before known taken.after) :
    RemovesOnly taken known := by
  intro index pending held removed
  have numbered := before.device.stream.cells index pending held
  have inside : index < taken.before.device.sender.pendingLen :=
    (List.getElem?_eq_some_iff.mp held).1
  apply progress.accepted _ (Nat.le_add_right _ _)
  by_contra beyond
  have ends := progress.ends
  have present : taken.before.released + index - taken.after.released <
      taken.after.device.sender.pendingCells.length := by
    change _ < taken.after.device.sender.pendingLen
    omega
  refine removed _ (List.getElem_mem present) ?_
  have kept := after.device.stream.cells _ _ (List.getElem?_eq_getElem present)
  rw [kept.sequence, numbered.sequence]
  congr 1
  omega

end

/-- The device only drops cells the host has accepted in the present session,
as long as every acknowledgement that names a held cell was counted in it. -/
theorem removed_cells_accepted {hostSession sessionId : UInt32}
    {usbState : UsbState} {capabilities activeProfileHash : UInt32}
    {history : List (Transition DualLink DualLinkEvent Unit)}
    {final : DualLink}
    (run : Run Step (start hostSession (DeviceLink.withCapabilities sessionId
      usbState capabilities activeProfileHash)) history final)
    (matching : ∀ taken ∈ history, taken.before.AckMatches taken.event) :
    ∀ taken ∈ history,
      ∀ choice hostArrives deviceArrives nowMs eventCapacity,
        taken.event =
          .exchange choice hostArrives deviceArrives nowMs eventCapacity →
        RemovesOnly taken taken.before.accepted := by
  intro taken member choice hostArrives deviceArrives nowMs eventCapacity
    exchanged
  obtain ⟨earlier, later, rfl⟩ := List.append_of_mem member
  obtain ⟨first, step, _⟩ := run.split_at
  have before := sound_run first (sound_start ..) (fun passed among =>
    matching passed (List.mem_append_left _ among))
  have current := matching taken member
  rw [exchanged] at current
  have result : taken.before.exchange choice hostArrives deviceArrives nowMs
      eventCapacity = taken.after := by
    rw [← show taken.before.perform taken.event = taken.after from step,
      exchanged]
    rfl
  obtain ⟨sound, progress⟩ := before.exchange choice hostArrives deviceArrives
    nowMs eventCapacity current
  rw [result] at sound progress
  exact removesOnly_of_progress before sound progress

theorem armedCell_wireCell (valid : cell.Valid) (sender : ReliableSender)
    (released : Nat) :
    armedCell sender released (DeviceLink.wireCell cell) =
      ⟨DeviceLink.wireCell cell, positionOf sender released cell⟩ := by
  rw [armedCell, DeviceLink.decode_wireCell valid]

theorem hostReceives_wireCell (valid : cell.Valid) (link : DualLink)
    (position : Option Nat) :
    link.hostReceives ⟨DeviceLink.wireCell cell, position⟩ =
      link.hostTakes cell position := by
  rw [hostReceives, DeviceLink.decode_wireCell valid]

def deviceTakes (link : DualLink) (cell : SpiCell) (nowMs : UInt64)
    (eventCapacity : Nat) : DualLink :=
  let turn : DeviceLink.Turn eventCapacity := ⟨link.device, .empty⟩
  { link with
    device := (turn.handleCell cell nowMs).link
    released := link.released +
      link.device.sender.acknowledgedCount cell.header.cumulativeAck }

theorem deviceReceives_wireCell (valid : cell.Valid) (link : DualLink)
    (nowMs : UInt64) (eventCapacity : Nat) :
    link.deviceReceives (DeviceLink.wireCell cell) nowMs eventCapacity =
      link.deviceTakes cell nowMs eventCapacity := by
  rw [deviceReceives, DeviceLink.handleTransaction,
    DeviceLink.decode_wireCell valid]
  rfl

theorem idle_valid (link : DualLink) : (link.send .idle).1.Valid :=
  (SpiCell.valid_empty _).withAck _

def freshLink : DualLink :=
  start 1 (DeviceLink.new 7 ⟨true, false, true, true, 0, 0⟩)

def firstCell : SpiCell :=
  freshLink.device.outgoingCell (freshLink.device.selectCell 0).1

def announcing : DualLink := freshLink.perform (.arm 0)

def announced : DualLink :=
  ((announcing.send .idle).2.hostTakes firstCell (some 0)).deviceTakes
    (announcing.send .idle).1 0 4

theorem firstCell_valid : firstCell.Valid where
  magic := by decide +kernel
  version := by decide +kernel
  fits := by decide +kernel
  numbered := by decide +kernel
  padded := by decide +kernel

theorem announcing_armed : announcing.armed =
    some (armedCell announcing.device.sender 0
      (DeviceLink.wireCell firstCell)) := by
  rfl

theorem announcing_exchange :
    announcing.perform (.exchange .idle true true 0 4) = announced := by
  have crossing : (announcing.send .idle).2.hostReceives
      (armedCell announcing.device.sender 0 (DeviceLink.wireCell firstCell)) =
      (announcing.send .idle).2.hostTakes firstCell (some 0) := by
    rw [armedCell_wireCell firstCell_valid,
      hostReceives_wireCell firstCell_valid]
    congr 1
    decide +kernel
  rw [perform, exchange_some announcing_armed, if_pos rfl, crossed, if_pos rfl,
    crossing, deviceReceives_wireCell (idle_valid announcing), announced]

theorem removed_cells_accepted_announced :
    RemovesOnly ⟨announced.perform (.arm 1), .exchange .idle true true 1 4, (),
      (announced.perform (.arm 1)).perform (.exchange .idle true true 1 4)⟩
        (announced.perform (.arm 1)).accepted := by
  have run : Run Step freshLink
      [⟨freshLink, .arm 0, (), announcing⟩,
        ⟨announcing, .exchange .idle true true 0 4, (), announced⟩,
        ⟨announced, .arm 1, (), announced.perform (.arm 1)⟩,
        ⟨announced.perform (.arm 1), .exchange .idle true true 1 4, (),
          (announced.perform (.arm 1)).perform
            (.exchange .idle true true 1 4)⟩] _ :=
    .cons rfl (.cons announcing_exchange (.cons rfl (.cons rfl (.nil _))))
  refine removed_cells_accepted run ?_ _ (by simp) _ _ _ _ _ rfl
  simp only [List.forall_mem_cons, List.not_mem_nil, false_imp_iff,
    implies_true, and_true]
  refine ⟨trivial, fun _ => .inl ?_, trivial, fun _ => .inr ?_⟩
  · decide +kernel
  · decide +kernel

/-- The device opens a second session after its cells got lost.  The host has
seen nothing of it, but still acknowledges the first cell of the old one. -/
def sessionLost : DualLink :=
  ([.arm 5, .exchange .idle false false 5 4,
    .arm 10, .exchange .idle false false 10 4,
    .arm 15, .exchange .idle false false 15 4,
    .arm 20, .exchange .idle false false 20 4,
    .arm 25, .exchange .idle false false 25 4,
    .arm 30, .exchange .idle false false 30 4,
    .arm 35, .exchange .idle false false 35 4,
    .arm 40] : List DualLinkEvent).foldl perform announced

theorem run_foldl (link : DualLink) (events : List DualLinkEvent) :
    ∃ history, Run Step link history (events.foldl perform link) := by
  induction events generalizing link with
  | nil => exact ⟨_, .nil link⟩
  | cons event rest ih =>
      obtain ⟨history, run⟩ := ih (link.perform event)
      exact ⟨⟨link, event, (), link.perform event⟩ :: history, .cons rfl run⟩

theorem not_removesOnly
    (held : 0 < taken.before.device.sender.pendingCells.length)
    (emptied : taken.after.device.sender.pendingCells.length = 0)
    (unseen : known = []) : ¬ RemovesOnly taken known := by
  intro removes
  have accepted := removes 0 _ (List.getElem?_eq_getElem held) (by
    intro kept present
    rw [List.length_eq_zero_iff.mp emptied] at present
    cases present)
  rw [unseen] at accepted
  cases accepted

theorem sessionLost_exchange :
    sessionLost.perform (.exchange .idle true false 40 4) =
      (sessionLost.send .idle).2.deviceTakes (sessionLost.send .idle).1
        40 4 := by
  obtain ⟨armed, present⟩ : ∃ armed, sessionLost.armed = some armed :=
    Option.isSome_iff_exists.mp (by decide +kernel)
  rw [perform, exchange_some present, if_pos rfl, crossed,
    if_neg Bool.false_ne_true, deviceReceives_wireCell (idle_valid sessionLost)]

theorem unseen_cell_removed :
    ¬ ∀ history final, Run Step freshLink history final →
      ∀ taken ∈ history,
        ∀ choice hostArrives deviceArrives nowMs eventCapacity,
          taken.event =
            .exchange choice hostArrives deviceArrives nowMs eventCapacity →
          RemovesOnly taken taken.after.accepted := by
  intro claimed
  have first : Run Step freshLink
      [⟨freshLink, .arm 0, (), announcing⟩,
        ⟨announcing, .exchange .idle true true 0 4, (), announced⟩] _ :=
    .cons rfl (.cons announcing_exchange (.nil _))
  obtain ⟨history, run⟩ := run_foldl announced _
  have last : Run Step sessionLost
      [⟨sessionLost, .exchange .idle true false 40 4, (),
        sessionLost.perform (.exchange .idle true false 40 4)⟩] _ :=
    .cons rfl (.nil _)
  have removes := claimed _ _ (Run.append_iff.mpr ⟨sessionLost,
    Run.append_iff.mpr ⟨announced, first, run⟩, last⟩) _
    (List.mem_append_right _ (List.mem_singleton_self _)) _ _ _ _ _ rfl
  rw [sessionLost_exchange] at removes
  refine not_removesOnly ?_ ?_ ?_ removes
  · decide +kernel
  · decide +kernel
  · decide +kernel

end DualLink

end HidShift
