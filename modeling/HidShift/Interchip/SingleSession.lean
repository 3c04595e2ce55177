import HidShift.Interchip.SenderWindow
import HidShift.Lib.Channel

/-! One session of the link: a sender and a receiver joined by two faulty
first-in first-out channels, one for cells and one for acknowledgements.  The
histories record the payloads queued at the sender, accepted by the receiver
and released by acknowledgements. -/

namespace HidShift

open Lib

structure Link where
  sender : ReliableSender
  receiver : ReliableReceiver
  cells : List SpiCell
  acks : List UInt16
  queued : List (List UInt8)
  accepted : List (List UInt8)
  released : List (List UInt8)

inductive LinkEvent where
  | queue (content : List UInt8) (recordCount : UInt8) (nowMs : UInt64)
  | pollRetransmit (nowMs timeoutMs : UInt64) (maxAttempts : UInt8)
  | sendIdle
  | setCumulativeAck (cumulativeAck : UInt16)
  | loseCell (index : Nat)
  | duplicateCell (index : Nat)
  | deliverCell
  | sendAck
  | loseAck (index : Nat)
  | duplicateAck (index : Nat)
  | deliverAck

namespace Link

def start (sessionId : UInt32) : Link where
  sender := ReliableSender.new sessionId
  receiver := ReliableReceiver.new
  cells := []
  acks := []
  queued := []
  accepted := []
  released := []

def queue (link : Link) (content : List UInt8) (recordCount : UInt8)
    (nowMs : UInt64) : Link :=
  match link.sender.queue content recordCount nowMs with
  | .error _ => link
  | .ok (cell, sender) =>
      { link with
        sender
        cells := link.cells ++ [cell]
        queued := link.queued ++ [content] }

def pollRetransmit (link : Link) (nowMs timeoutMs : UInt64)
    (maxAttempts : UInt8) : Link :=
  match link.sender.pollRetransmit nowMs timeoutMs maxAttempts with
  | (.send cell, sender) =>
      { link with sender, cells := link.cells ++ [cell] }
  | (_, sender) => { link with sender }

/-- An idle cell is sent when there is nothing else to carry the
acknowledgement. -/
def idleCell (sender : ReliableSender) : SpiCell :=
  let cell := SpiCell.empty sender.sessionId
  { cell with
    header := { cell.header with cumulativeAck := sender.cumulativeAck } }

def deliverCell (link : Link) : Link :=
  match link.cells with
  | [] => link
  | cell :: cells =>
      match link.receiver.receive cell with
      | (.accepted _ _, receiver) =>
          { link with
            receiver
            cells
            accepted := link.accepted ++ [cell.payload] }
      | (_, receiver) => { link with receiver, cells }

def deliverAck (link : Link) : Link :=
  match link.acks with
  | [] => link
  | ack :: acks =>
      let (removed, sender) := link.sender.acknowledge ack
      { link with
        sender
        acks
        released :=
          link.released ++
            (link.sender.pendingCells.take removed).map (·.cell.payload) }

def perform (link : Link) : LinkEvent → Link
  | .queue content recordCount nowMs => link.queue content recordCount nowMs
  | .pollRetransmit nowMs timeoutMs maxAttempts =>
      link.pollRetransmit nowMs timeoutMs maxAttempts
  | .sendIdle => { link with cells := link.cells ++ [idleCell link.sender] }
  | .setCumulativeAck cumulativeAck =>
      { link with sender := link.sender.setCumulativeAck cumulativeAck }
  | .loseCell index => { link with cells := Channel.lose link.cells index }
  | .duplicateCell index =>
      { link with cells := Channel.duplicate link.cells index }
  | .deliverCell => link.deliverCell
  | .sendAck =>
      { link with acks := link.acks ++ [link.receiver.cumulativeAck] }
  | .loseAck index => { link with acks := Channel.lose link.acks index }
  | .duplicateAck index =>
      { link with acks := Channel.duplicate link.acks index }
  | .deliverAck => link.deliverAck

def run (sessionId : UInt32) (events : List LinkEvent) : Link :=
  events.foldl perform (start sessionId)

end Link

/-! The invariant counts cells by their position in the stream.  With `n`
queued, `r` accepted and `b` released, `b ≤ r ≤ n ≤ b + 4`. -/

/-- The window holds what is queued and not released, numbered by position. -/
structure SenderGood (sessionId : UInt32) (sender : ReliableSender)
    (queued released : List (List UInt8)) : Prop where
  window : sender.Holds sender.pendingCells
  session : sender.sessionId = sessionId
  next : sender.nextSequence = sequenceAt queued.length
  stream :
    released ++ sender.pendingCells.map (·.cell.payload) = queued
  numbered : ∀ index pending, sender.pendingCells[index]? = some pending →
    pending.cell.header.sessionId = sessionId ∧
      pending.cell.header.txSequence = sequenceAt (released.length + index)

structure ReceiverGood (sessionId : UInt32) (receiver : ReliableReceiver)
    (accepted : Nat) : Prop where
  session : receiver.sessionId = some sessionId ∨
    receiver.sessionId = none ∧ accepted = 0
  acknowledges : receiver.cumulativeAck = ackAt accepted

/-- A cell in flight with the position it was sent for.  An idle cell is filed
under the base of the window. -/
structure CellInFlight (sessionId : UInt32) (queued : List (List UInt8))
    (accepted released : Nat) (entry : Nat × SpiCell) : Prop where
  session : entry.2.header.sessionId = sessionId
  recent : accepted ≤ entry.1 + 4
  windowed : entry.1 ≤ released + 3
  content : entry.2.header.txSequence = 0 ∨
    entry.2.header.txSequence = sequenceAt entry.1 ∧
      queued[entry.1]? = some entry.2.payload

/-- Retransmissions start over at the base of the window, so a later cell is
at most three positions behind an earlier one. -/
def CellOrder (earlier later : Nat × SpiCell) : Prop :=
  earlier.1 ≤ later.1 + 3

def CellsGood (sessionId : UInt32) (queued : List (List UInt8))
    (accepted released : Nat) (cells : List SpiCell) : Prop :=
  ∃ entries : List (Nat × SpiCell),
    entries.map Prod.snd = cells ∧
      (∀ entry ∈ entries,
        CellInFlight sessionId queued accepted released entry) ∧
        entries.Pairwise CellOrder

def AcksGood (accepted released : Nat) (acks : List UInt16) : Prop :=
  ∃ counts : List Nat,
    counts.map ackAt = acks ∧
      (∀ count ∈ counts, released ≤ count ∧ count ≤ accepted) ∧
        counts.Pairwise (· ≤ ·)

structure Link.Good (sessionId : UInt32) (link : Link) : Prop where
  sender : SenderGood sessionId link.sender link.queued link.released
  receiver : ReceiverGood sessionId link.receiver link.accepted.length
  accepted : link.accepted <+: link.queued
  releasedLe : link.released.length ≤ link.accepted.length
  cells : CellsGood sessionId link.queued link.accepted.length
    link.released.length link.cells
  acks : AcksGood link.accepted.length link.released.length link.acks

variable {sessionId : UInt32} {queued released : List (List UInt8)}
  {sender : ReliableSender} {link : Link} {cells : List SpiCell}

theorem SenderGood.length (good : SenderGood sessionId sender queued released) :
    queued.length = released.length + sender.pendingCells.length ∧
      sender.pendingCells.length ≤ 4 := by
  refine ⟨?_, good.window.length_le⟩
  rw [← good.stream, List.length_append, List.length_map]

theorem Link.Good.accepted_length_le (good : link.Good sessionId) :
    link.accepted.length ≤ link.queued.length :=
  good.accepted.length_le

theorem senderGood_new (sessionId : UInt32) :
    SenderGood sessionId (ReliableSender.new sessionId) [] [] := by
  have window := ReliableSender.holds_new sessionId
  have none_pending := window.pendingCells
  exact {
    window := by rw [none_pending]; exact window
    session := rfl
    next := (nextSequence_ackAt 0)
    stream := by rw [none_pending]; rfl
    numbered := by
      intro index pending found
      rw [none_pending] at found
      cases found }

theorem Link.good_start (sessionId : UInt32) :
    (start sessionId).Good sessionId where
  sender := senderGood_new sessionId
  receiver := ⟨.inr ⟨rfl, rfl⟩, rfl⟩
  accepted := List.prefix_refl []
  releasedLe := Nat.le_refl 0
  cells := ⟨[], rfl, by simp, .nil⟩
  acks := ⟨[], rfl, by simp, .nil⟩

theorem CellInFlight.queue {accepted released : Nat}
    (good : CellInFlight sessionId queued accepted released entry)
    (content : List UInt8) :
    CellInFlight sessionId (queued ++ [content]) accepted released entry where
  session := good.session
  recent := good.recent
  windowed := good.windowed
  content := by
    rcases good.content with idle | ⟨sequence, payload⟩
    · exact .inl idle
    · exact .inr ⟨sequence,
        List.getElem?_append_left (List.getElem?_eq_some_iff.mp payload).1 ▸
          payload⟩

theorem CellsGood.send {accepted released : Nat}
    (inFlight : CellsGood sessionId queued accepted released cells)
    {position : Nat} (inside : released ≤ position)
    (sent : CellInFlight sessionId queued accepted released (position, cell)) :
    CellsGood sessionId queued accepted released (cells ++ [cell]) := by
  obtain ⟨entries, rfl, each, ordered⟩ := inFlight
  refine ⟨entries ++ [(position, cell)], ?_, ?_, ?_⟩
  · rw [List.map_append]
    rfl
  · intro entry member
    rcases List.mem_append.mp member with old | new
    · exact each entry old
    · rw [List.mem_singleton.mp new]
      exact sent
  · apply Channel.pairwise_send ordered
    intro earlier member
    have windowed := (each earlier member).windowed
    change earlier.1 ≤ position + 3
    omega

theorem SenderGood.queue (good : SenderGood sessionId sender queued released)
    (taken : sender.queue content recordCount nowMs = .ok (cell, after)) :
    SenderGood sessionId after (queued ++ [content]) released ∧
      cell.header.sessionId = sessionId ∧
        cell.header.txSequence = sequenceAt queued.length ∧
          cell.payload = content := by
  obtain ⟨fits, rfl, window, session, next⟩ :=
    ReliableSender.queue_ok good.window taken
  have payload := sender.payload_queuedCell content recordCount fits
  have pending := window.pendingCells
  have count := good.length.1
  refine ⟨?_, good.session, good.next, payload⟩
  exact {
    window := by rw [pending]; exact window
    session := session.trans good.session
    next := by
      rw [next, good.next, nextSequence_sequenceAt, List.length_append,
        List.length_singleton]
    stream := by
      rw [pending, List.map_append, ← List.append_assoc, good.stream,
        List.map_singleton, payload]
    numbered := by
      intro index entry found
      rw [pending, List.getElem?_append] at found
      split at found
      · exact good.numbered index entry found
      · rename_i beyond
        obtain ⟨inside, rfl⟩ := List.getElem?_eq_some_iff.mp found
        rw [List.length_singleton] at inside
        have last : index - sender.pendingCells.length = 0 := by omega
        refine ⟨?_, ?_⟩
        · simp only [last, List.getElem_singleton]
          exact good.session
        · simp only [last, List.getElem_singleton]
          have position : released.length + index = queued.length := by omega
          rw [position]
          exact good.next }

theorem Link.Good.queue (good : link.Good sessionId) (content : List UInt8)
    (recordCount : UInt8) (nowMs : UInt64) :
    (link.queue content recordCount nowMs).Good sessionId := by
  simp only [Link.queue]
  split
  · exact good
  · rename_i cell after taken
    obtain ⟨sender, session, sequence, payload⟩ := good.sender.queue taken
    have counts := sender.length
    have before := good.sender.length
    have acceptedLe := good.accepted_length_le
    rw [List.length_append, List.length_singleton] at counts
    exact {
      sender := sender
      receiver := good.receiver
      accepted := good.accepted.trans (List.prefix_append _ _)
      releasedLe := good.releasedLe
      cells := by
        obtain ⟨entries, onWire, each, ordered⟩ := good.cells
        have stillGood : CellsGood sessionId (link.queued ++ [content])
            link.accepted.length link.released.length link.cells :=
          ⟨entries, onWire, fun entry member =>
            (each entry member).queue content, ordered⟩
        have inside : link.released.length ≤ link.queued.length := by omega
        refine stillGood.send inside
          ⟨session, Nat.le_add_right_of_le acceptedLe, ?_, .inr ⟨sequence, ?_⟩⟩
        · change link.queued.length ≤ link.released.length + 3
          omega
        · rw [payload]
          exact List.getElem?_concat_length
      acks := good.acks }

theorem SenderGood.oldest {oldest : PendingCell}
    (good : SenderGood sessionId sender queued released)
    (pending : sender.pendingCells = oldest :: rest) :
    oldest.cell.header.sessionId = sessionId ∧
      oldest.cell.header.txSequence = sequenceAt released.length ∧
        queued[released.length]? = some oldest.cell.payload := by
  obtain ⟨session, sequence⟩ := good.numbered 0 oldest (by rw [pending]; rfl)
  refine ⟨session, sequence, ?_⟩
  rw [← good.stream, pending, List.getElem?_append_right (Nat.le_refl _),
    Nat.sub_self]
  rfl

/-- Rewriting the time stamps or the acknowledgement carried by the pending
cells leaves their numbers and payloads alone. -/
theorem SenderGood.retouch (good : SenderGood sessionId sender queued released)
    (window : after.Holds entries)
    (session : after.sessionId = sender.sessionId)
    (next : after.nextSequence = sender.nextSequence)
    (same : entries.map (fun pending => (pending.cell.header.sessionId,
      pending.cell.header.txSequence, pending.cell.payload)) =
      sender.pendingCells.map (fun pending => (pending.cell.header.sessionId,
      pending.cell.header.txSequence, pending.cell.payload))) :
    SenderGood sessionId after queued released := by
  have pending := window.pendingCells
  exact {
    window := by rw [pending]; exact window
    session := session.trans good.session
    next := next.trans good.next
    stream := by
      have payloads := congrArg (List.map (·.2.2)) same
      rw [List.map_map, List.map_map] at payloads
      rw [pending, ← good.stream]
      exact congrArg (released ++ ·) payloads
    numbered := by
      intro index entry found
      have kept := congrArg (·[index]?) same
      simp only [List.getElem?_map] at kept
      rw [pending] at found
      rw [found, Option.map_some, eq_comm, Option.map_eq_some_iff] at kept
      obtain ⟨original, at_index, equal⟩ := kept
      obtain ⟨sessionEq, rest⟩ := Prod.mk.inj equal
      obtain ⟨sequenceEq, -⟩ := Prod.mk.inj rest
      rw [← sessionEq, ← sequenceEq]
      exact good.numbered index original at_index }

theorem Link.Good.pollRetransmit (good : link.Good sessionId)
    (nowMs timeoutMs : UInt64) (maxAttempts : UInt8) :
    (link.pollRetransmit nowMs timeoutMs maxAttempts).Good sessionId := by
  simp only [Link.pollRetransmit]
  rcases ReliableSender.pollRetransmit_cases good.sender.window nowMs timeoutMs
      maxAttempts with (quiet | quiet) |
      ⟨oldest, rest, attempts, after, pending, sent, window, session, next⟩
  · rw [quiet]
    exact good
  · rw [quiet]
    exact good
  · rw [sent]
    obtain ⟨cellSession, sequence, payload⟩ := good.sender.oldest pending
    have counts := good.sender.length
    have acceptedLe := good.accepted_length_le
    exact {
      sender := by
        apply good.sender.retouch window session next
        rw [pending]
        rfl
      receiver := good.receiver
      accepted := good.accepted
      releasedLe := good.releasedLe
      cells := by
        refine good.cells.send (Nat.le_refl _)
          ⟨cellSession, ?_, Nat.le_add_right _ _, .inr ⟨sequence, payload⟩⟩
        change link.accepted.length ≤ link.released.length + 4
        omega
      acks := good.acks }

theorem Link.Good.sendIdle (good : link.Good sessionId) :
    (link.perform .sendIdle).Good sessionId := by
  have counts := good.sender.length
  have acceptedLe := good.accepted_length_le
  refine { good with cells := ?_ }
  refine good.cells.send (Nat.le_refl _)
    ⟨good.sender.session, ?_, Nat.le_add_right _ _, .inl rfl⟩
  change link.accepted.length ≤ link.released.length + 4
  omega

theorem Link.Good.setCumulativeAck (good : link.Good sessionId)
    (cumulativeAck : UInt16) :
    (link.perform (.setCumulativeAck cumulativeAck)).Good sessionId := by
  refine { good with sender := ?_ }
  refine good.sender.retouch
    (ReliableSender.setCumulativeAck_holds good.sender.window cumulativeAck)
    rfl rfl ?_
  rw [List.map_map]
  rfl

theorem CellsGood.lose {accepted released : Nat}
    (inFlight : CellsGood sessionId queued accepted released cells)
    (index : Nat) :
    CellsGood sessionId queued accepted released
      (Channel.lose cells index) := by
  obtain ⟨entries, rfl, each, ordered⟩ := inFlight
  exact ⟨Channel.lose entries index, Channel.map_lose Prod.snd entries index,
    fun entry member => each entry (Channel.mem_of_mem_lose member),
    Channel.pairwise_lose ordered index⟩

theorem CellsGood.duplicate {accepted released : Nat}
    (inFlight : CellsGood sessionId queued accepted released cells)
    (index : Nat) :
    CellsGood sessionId queued accepted released
      (Channel.duplicate cells index) := by
  obtain ⟨entries, rfl, each, ordered⟩ := inFlight
  exact ⟨Channel.duplicate entries index,
    Channel.map_duplicate Prod.snd entries index,
    fun entry member => each entry (Channel.mem_of_mem_duplicate member),
    Channel.pairwise_duplicate (fun entry => Nat.le_add_right entry.1 3)
      ordered index⟩

theorem AcksGood.lose {accepted released : Nat}
    (inFlight : AcksGood accepted released acks) (index : Nat) :
    AcksGood accepted released (Channel.lose acks index) := by
  obtain ⟨counts, rfl, each, ordered⟩ := inFlight
  exact ⟨Channel.lose counts index, Channel.map_lose ackAt counts index,
    fun count member => each count (Channel.mem_of_mem_lose member),
    Channel.pairwise_lose ordered index⟩

theorem AcksGood.duplicate {accepted released : Nat}
    (inFlight : AcksGood accepted released acks) (index : Nat) :
    AcksGood accepted released (Channel.duplicate acks index) := by
  obtain ⟨counts, rfl, each, ordered⟩ := inFlight
  exact ⟨Channel.duplicate counts index,
    Channel.map_duplicate ackAt counts index,
    fun count member => each count (Channel.mem_of_mem_duplicate member),
    Channel.pairwise_duplicate Nat.le_refl ordered index⟩

theorem ReceiverGood.enterSession
    (good : ReceiverGood sessionId receiver accepted) :
    receiver.enterSession sessionId = ⟨some sessionId, ackAt accepted⟩ := by
  have acknowledges := good.acknowledges
  rw [ReliableReceiver.enterSession]
  rcases good.session with entered | ⟨fresh, rfl⟩
  · rw [if_neg (not_not_intro entered), ← entered, ← acknowledges]
  · rw [fresh, if_pos (by simp)]
    rfl

/-- Cells in flight are within four positions of the next one expected, so the
receiver accepts a cell exactly when it is the next one of the stream. -/
theorem ReceiverGood.receive_cases {accepted released : Nat}
    (good : ReceiverGood sessionId receiver accepted)
    (ahead : released ≤ accepted)
    (inFlight : CellInFlight sessionId queued accepted released entry) :
    (∃ changed, receiver.receive entry.2 =
        (.accepted changed (sequenceAt accepted),
          ⟨some sessionId, ackAt (accepted + 1)⟩) ∧
      entry.1 = accepted ∧ queued[accepted]? = some entry.2.payload) ∨
      ∃ disposition, receiver.receive entry.2 =
          (disposition, ⟨some sessionId, ackAt accepted⟩) ∧
        ∀ changed ack, disposition ≠ .accepted changed ack := by
  simp only [ReliableReceiver.receive]
  rw [inFlight.session, good.enterSession]
  dsimp only
  split
  · refine .inr ⟨_, rfl, ?_⟩
    intro changed ack
    split <;> exact ReceiveDisposition.noConfusion
  · rename_i notIdle
    rw [nextSequence_ackAt]
    obtain ⟨sequence, payload⟩ := inFlight.content.resolve_left notIdle
    split
    · rename_i expected
      rw [sequence] at expected
      have position : entry.1 = accepted := by
        refine sequenceAt_inj ?_ expected
        have := inFlight.recent
        have := inFlight.windowed
        omega
      rw [position] at sequence payload
      rw [sequence]
      exact .inl ⟨_, rfl, position, payload⟩
    · split
      · exact .inr ⟨_, rfl, fun _ _ => ReceiveDisposition.noConfusion⟩
      · exact .inr ⟨_, rfl, fun _ _ => ReceiveDisposition.noConfusion⟩

theorem CellInFlight.accept {accepted released : Nat}
    (good : CellInFlight sessionId queued accepted released later)
    (order : CellOrder delivered later) (position : delivered.1 = accepted) :
    CellInFlight sessionId queued (accepted + 1) released later where
  session := good.session
  recent := by
    rw [CellOrder, position] at order
    omega
  windowed := good.windowed
  content := good.content

theorem Link.Good.deliverCell (good : link.Good sessionId) :
    link.deliverCell.Good sessionId := by
  simp only [Link.deliverCell]
  obtain ⟨entries, onWire, each, ordered⟩ := good.cells
  cases entries with
  | nil =>
      rw [List.map_nil] at onWire
      rw [← onWire]
      exact good
  | cons entry entries =>
      rw [List.map_cons] at onWire
      rw [← onWire]
      obtain ⟨order, restOrdered⟩ := List.pairwise_cons.mp ordered
      have rest : ∀ later ∈ entries, CellInFlight sessionId link.queued
          link.accepted.length link.released.length later :=
        fun later member => each later (List.mem_cons_of_mem entry member)
      rcases good.receiver.receive_cases good.releasedLe
          (each entry List.mem_cons_self) with
        ⟨changed, received, position, payload⟩ |
          ⟨disposition, received, notAccepted⟩
      · dsimp only
        rw [received]
        have counted : (link.accepted ++ [entry.2.payload]).length =
            link.accepted.length + 1 := by
          rw [List.length_append, List.length_singleton]
        exact {
          sender := good.sender
          receiver := ⟨.inl rfl, by rw [counted]⟩
          accepted := by
            obtain ⟨remaining, split⟩ := good.accepted
            rw [← split, List.getElem?_append_right (Nat.le_refl _),
              Nat.sub_self] at payload
            cases remaining with
            | nil => cases payload
            | cons next remaining =>
                cases payload
                exact ⟨remaining, by rw [List.append_assoc, ← split]; rfl⟩
          releasedLe := by
            rw [counted]
            exact Nat.le_succ_of_le good.releasedLe
          cells := by
            rw [counted]
            exact ⟨entries, rfl, fun later member =>
              (rest later member).accept (order later member) position,
              restOrdered⟩
          acks := by
            obtain ⟨counts, onWire, bounds, sorted⟩ := good.acks
            refine ⟨counts, onWire, ?_, sorted⟩
            intro count member
            rw [counted]
            exact ⟨(bounds count member).1,
              Nat.le_succ_of_le (bounds count member).2⟩ }
      · have ignored : link.deliverCell =
            { link with
              receiver := ⟨some sessionId, ackAt link.accepted.length⟩
              cells := entries.map Prod.snd } := by
          simp only [Link.deliverCell]
          rw [← onWire]
          dsimp only
          rw [received]
          cases disposition with
          | accepted changed ack => exact absurd rfl (notAccepted changed ack)
          | _ => rfl
        unfold Link.deliverCell at ignored
        rw [← onWire] at ignored
        rw [ignored]
        exact { good with
          receiver := ⟨.inl rfl, rfl⟩
          cells := ⟨entries, rfl, rest, restOrdered⟩ }

theorem Link.Good.sendAck (good : link.Good sessionId) :
    (link.perform .sendAck).Good sessionId := by
  refine { good with acks := ?_ }
  obtain ⟨counts, onWire, bounds, sorted⟩ := good.acks
  refine ⟨counts ++ [link.accepted.length], ?_, ?_, ?_⟩
  · rw [List.map_append, onWire, List.map_singleton,
      ← good.receiver.acknowledges]
    rfl
  · intro count member
    rcases List.mem_append.mp member with old | new
    · exact bounds count old
    · rw [List.mem_singleton.mp new]
      exact ⟨good.releasedLe, Nat.le_refl _⟩
  · exact Channel.pairwise_send sorted fun earlier member =>
      (bounds earlier member).2

/-- An acknowledgement of the first `count` cells of the stream releases
exactly those of them still in the window. -/
theorem SenderGood.acknowledgedCount
    (good : SenderGood sessionId sender queued released)
    (known : released.length ≤ count) (sent : count ≤ queued.length) :
    sender.acknowledgedCount (ackAt count) = count - released.length := by
  obtain ⟨total, small⟩ := good.length
  rw [ReliableSender.acknowledgedCount_eq good.window]
  have matching : ∀ index pending, sender.pendingCells[index]? = some pending →
      pending.cell.header.txSequence = ackAt count →
        released.length + index + 1 = count := by
    intro index pending found same
    have inside := (List.getElem?_eq_some_iff.mp found).1
    rw [(good.numbered index pending found).2] at same
    cases count with
    | zero => exact absurd same (sequenceAt_ne_zero _)
    | succ last =>
        rw [sequenceAt_inj (by omega) same]
  split
  · rename_i absent
    rw [List.findIdx?_eq_none_iff] at absent
    by_contra notReleased
    obtain ⟨index, rfl⟩ : ∃ index, count = released.length + index + 1 :=
      ⟨count - released.length - 1, by omega⟩
    have inside : index < sender.pendingCells.length := by omega
    have found := List.getElem?_eq_getElem inside
    refine absurd (absent _ (List.getElem_mem inside)) ?_
    rw [(good.numbered index _ found).2]
    simp [ackAt]
  · rename_i index present
    obtain ⟨inside, same, -⟩ := List.findIdx?_eq_some_iff_getElem.mp present
    rw [← matching index _ (List.getElem?_eq_getElem inside)
      (of_decide_eq_true same), Nat.add_assoc, Nat.add_sub_cancel_left]

theorem SenderGood.acknowledge
    (good : SenderGood sessionId sender queued released) (ack : UInt16) :
    SenderGood sessionId (sender.acknowledge ack).2 queued
      (released ++
        (sender.pendingCells.take (sender.acknowledgedCount ack)).map
          (·.cell.payload)) := by
  have window := ReliableSender.acknowledge_holds good.window ack
  have pending := window.pendingCells
  generalize sender.acknowledgedCount ack = removed at *
  exact {
    window := by rw [pending]; exact window
    session := (ReliableSender.acknowledge_sessionId ack).trans good.session
    next := (ReliableSender.acknowledge_nextSequence ack).trans good.next
    stream := by
      rw [pending, List.append_assoc, ← List.map_append, List.take_append_drop]
      exact good.stream
    numbered := by
      intro index entry found
      rw [pending, List.getElem?_drop] at found
      have inside := (List.getElem?_eq_some_iff.mp found).1
      rw [List.length_append, List.length_map, List.length_take,
        Nat.min_eq_left (by omega), Nat.add_assoc]
      exact good.numbered (removed + index) entry found }

theorem Link.Good.deliverAck (good : link.Good sessionId) :
    link.deliverAck.Good sessionId := by
  simp only [Link.deliverAck]
  obtain ⟨counts, onWire, bounds, sorted⟩ := good.acks
  cases counts with
  | nil =>
      rw [List.map_nil] at onWire
      rw [← onWire]
      exact good
  | cons count counts =>
      rw [List.map_cons] at onWire
      rw [← onWire]
      obtain ⟨increasing, restSorted⟩ := List.pairwise_cons.mp sorted
      obtain ⟨known, reached⟩ := bounds count List.mem_cons_self
      have total := good.sender.length.1
      have acceptedLe := good.accepted_length_le
      have removed := good.sender.acknowledgedCount known
        (Nat.le_trans reached acceptedLe)
      have sender := good.sender.acknowledge (ackAt count)
      dsimp only
      rw [ReliableSender.acknowledge_removed]
      rw [removed] at sender ⊢
      have counted : (link.released ++
          (link.sender.pendingCells.take
            (count - link.released.length)).map (·.cell.payload)).length =
          count := by
        rw [List.length_append, List.length_map, List.length_take]
        omega
      exact {
        sender := sender
        receiver := good.receiver
        accepted := good.accepted
        releasedLe := by
          rw [counted]
          exact reached
        cells := by
          obtain ⟨entries, carried, each, ordered⟩ := good.cells
          refine ⟨entries, carried, fun entry member => ?_, ordered⟩
          have inFlight := each entry member
          refine { inFlight with windowed := ?_ }
          rw [counted]
          exact Nat.le_trans inFlight.windowed (Nat.add_le_add_right known 3)
        acks := by
          refine ⟨counts, rfl, ?_, restSorted⟩
          intro later member
          rw [counted]
          exact ⟨increasing later member,
            (bounds later (List.mem_cons_of_mem count member)).2⟩ }

theorem Link.Good.perform (good : link.Good sessionId) (event : LinkEvent) :
    (link.perform event).Good sessionId := by
  cases event with
  | queue content recordCount nowMs =>
      exact good.queue content recordCount nowMs
  | pollRetransmit nowMs timeoutMs maxAttempts =>
      exact good.pollRetransmit nowMs timeoutMs maxAttempts
  | sendIdle => exact good.sendIdle
  | setCumulativeAck cumulativeAck =>
      exact good.setCumulativeAck cumulativeAck
  | loseCell index => exact { good with cells := good.cells.lose index }
  | duplicateCell index =>
      exact { good with cells := good.cells.duplicate index }
  | deliverCell => exact good.deliverCell
  | sendAck => exact good.sendAck
  | loseAck index => exact { good with acks := good.acks.lose index }
  | duplicateAck index =>
      exact { good with acks := good.acks.duplicate index }
  | deliverAck => exact good.deliverAck

theorem Link.good_run (sessionId : UInt32) (events : List LinkEvent) :
    (run sessionId events).Good sessionId := by
  have kept : ∀ link : Link, link.Good sessionId →
      (events.foldl Link.perform link).Good sessionId := by
    induction events with
    | nil => exact fun _ good => good
    | cons event events ih => exact fun _ good => ih _ (good.perform event)
  exact kept (start sessionId) (good_start sessionId)

theorem SenderGood.consecutive
    (good : SenderGood sessionId sender queued released) :
    (sender.pendingCells.map (·.cell.header.txSequence)).IsChain
      FollowsSequence := by
  rw [List.isChain_iff_getElem]
  intro index inside
  rw [List.length_map] at inside
  rw [List.getElem_map, List.getElem_map,
    (good.numbered index _ (List.getElem?_eq_getElem (by omega))).2,
    (good.numbered (index + 1) _ (List.getElem?_eq_getElem inside)).2]
  exact sequenceAt_follows (released.length + index)

/-- In every state of a single session the accepted payloads are a prefix of
the queued ones, the released cells were accepted, and the window holds at most
four cells with consecutive numbers, none of them zero. -/
theorem Link.reliable_delivery (sessionId : UInt32) (events : List LinkEvent) :
    (run sessionId events).accepted <+: (run sessionId events).queued ∧
      (run sessionId events).released <+: (run sessionId events).accepted ∧
      (run sessionId events).sender.pendingLen ≤ 4 ∧
      ((run sessionId events).sender.pendingCells.map
        (·.cell.header.txSequence)).IsChain FollowsSequence ∧
      (∀ pending ∈ (run sessionId events).sender.pendingCells,
        pending.cell.header.txSequence ≠ 0) ∧
      (run sessionId events).released ++
          (run sessionId events).sender.pendingCells.map (·.cell.payload) =
        (run sessionId events).queued := by
  have good := good_run sessionId events
  generalize run sessionId events = link at good
  refine ⟨good.accepted, ?_, good.sender.length.2, good.sender.consecutive, ?_,
    good.sender.stream⟩
  · have released : link.released <+: link.queued :=
      ⟨_, good.sender.stream⟩
    exact List.prefix_of_prefix_length_le released good.accepted
      good.releasedLe
  · intro pending member
    obtain ⟨index, found⟩ := List.mem_iff_getElem?.mp member
    rw [(good.sender.numbered index pending found).2]
    exact sequenceAt_ne_zero _

end HidShift
