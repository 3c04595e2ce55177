import HidShift.Interchip.SingleSession
import HidShift.Lib.Run

namespace HidShift

open Lib

structure RetransmitPoll where
  nowMs : UInt64
  timeoutMs : UInt64
  maxAttempts : UInt8

namespace Link

/-- The cell that is sent again arrives, and so does its acknowledgement. -/
def recover (link : Link) (poll : RetransmitPoll) : Link :=
  ((link.pollRetransmit poll.nowMs poll.timeoutMs
    poll.maxAttempts).deliverCell.perform .sendAck).deliverAck

/-- The oldest cell has waited for its timeout and may be sent again. -/
def Due (link : Link) (poll : RetransmitPoll) : Prop :=
  ∀ oldest ∈ link.sender.pendingCells.head?,
    poll.timeoutMs ≤ ReliableSender.saturatingSub poll.nowMs
      oldest.lastSentMs ∧ oldest.attempts < poll.maxAttempts

/-- Nothing is in flight, and the first `count` payloads are released. -/
structure Silent (sessionId : UInt32) (count : Nat)
    (payloads : List (List UInt8)) (link : Link) : Prop where
  good : link.Good sessionId
  cells : link.cells = []
  acks : link.acks = []
  same : link.queued = payloads
  released : min payloads.length count ≤ link.released.length

variable {link : Link} {sessionId : UInt32}

theorem Good.answered (good : link.Good sessionId) (cells : link.cells = [])
    (acks : link.acks = [])
    (ahead : min link.queued.length count ≤ link.accepted.length) :
    Silent sessionId count link.queued (link.perform .sendAck).deliverAck := by
  have total := good.sender.length.1
  have most := good.accepted_length_le
  have least := good.releasedLe
  have removed := good.sender.acknowledgedCount least most
  rw [← good.receiver.acknowledges,
    ← ReliableSender.acknowledge_removed] at removed
  have kept := good.sendAck.deliverAck
  simp only [Link.perform, Link.deliverAck, acks, List.nil_append] at kept ⊢
  refine ⟨kept, cells, rfl, rfl, ?_⟩
  rw [removed, List.length_append, List.length_map, List.length_take]
  omega

theorem Good.deliverCell_only (good : link.Good sessionId)
    (cells : link.cells = [cell]) (session : cell.header.sessionId = sessionId) :
    ∃ receiver more, link.deliverCell =
      { link with receiver, cells := [], accepted := link.accepted ++ more } ∧
      (cell.header.txSequence = sequenceAt link.accepted.length →
        more.length = 1) := by
  unfold Link.deliverCell
  rw [cells]
  dsimp only
  split
  · exact ⟨_, [_], rfl, fun _ => rfl⟩
  · rename_i other received
    refine ⟨_, [], by rw [List.append_nil], fun expected => ?_⟩
    simp only [ReliableReceiver.receive, session, expected,
      good.receiver.enterSession, if_neg (sequenceAt_ne_zero _),
      nextSequence_ackAt, if_true] at received
    cases received
    exact (other _ _ rfl).elim

theorem Silent.recover (silent : Silent sessionId count payloads link)
    (due : link.Due poll) :
    Silent sessionId (count + 1) payloads (link.recover poll) := by
  obtain ⟨good, cells, acks, rfl, released⟩ := silent
  have total := good.sender.length.1
  have ahead := good.releasedLe
  have polled := good.pollRetransmit poll.nowMs poll.timeoutMs
    poll.maxAttempts
  have window := good.sender.window
  unfold Link.recover
  unfold Link.pollRetransmit ReliableSender.pollRetransmit at polled ⊢
  rw [window] at polled ⊢
  cases pending : link.sender.pendingCells with
  | nil =>
      rw [pending, List.length_nil] at total
      simp only [FrontFilled.first_slot_nil]
      have still : link.deliverCell = link := by rw [Link.deliverCell, cells]
      rw [still]
      exact good.answered cells acks (by omega)
  | cons oldest rest =>
      obtain ⟨waited, again⟩ := due oldest (by rw [pending]; rfl)
      obtain ⟨session, base, -⟩ := good.sender.oldest pending
      simp only [pending, FrontFilled.first_slot_cons, FrontFilled.slot_join,
        List.getElem?_cons_zero, if_neg (UInt64.not_lt.mpr waited),
        if_neg (UInt8.not_le.mpr again), cells, List.nil_append] at polled ⊢
      have read := polled.deliverCell
      obtain ⟨receiver, more, arrived, next⟩ :=
        polled.deliverCell_only rfl session
      rw [arrived] at read ⊢
      refine read.answered rfl acks ?_
      show min link.queued.length _ ≤ (link.accepted ++ more).length
      rw [List.length_append]
      by_cases level : link.released.length = link.accepted.length
      · have one := next (base.trans (congrArg sequenceAt level))
        omega
      · omega

/-- Once everything in flight is lost or read, as many polls as the window has
cells bring whatever was queued to the receiver. -/
theorem session_recovers (sessionId : UInt32) (events : List LinkEvent)
    {polls : List RetransmitPoll}
    (silent : (run sessionId events).cells = [] ∧
      (run sessionId events).acks = [])
    (due : Along recover Due (run sessionId events) polls)
    (enough : (run sessionId events).sender.pendingLen ≤ polls.length) :
    (polls.foldl recover (run sessionId events)).accepted =
        (run sessionId events).queued ∧
      (polls.foldl recover (run sessionId events)).released =
        (run sessionId events).queued := by
  have start := good_run sessionId events
  generalize run sessionId events = link at *
  have rounds : ∀ (link : Link) (count : Nat),
      Silent sessionId count link.queued link →
        Along recover Due link polls →
          Silent sessionId (count + polls.length) link.queued
            (polls.foldl recover link) := by
    clear due enough
    induction polls with
    | nil => exact fun _ _ silent _ => silent
    | cons poll polls ih =>
        intro link count silent due
        have next := silent.recover due.1
        rw [← next.same, List.length_cons, Nat.add_comm polls.length,
          ← Nat.add_assoc]
        exact ih _ _ (next.same.symm ▸ next) due.2
  obtain ⟨good, -, -, same, released⟩ := rounds link link.released.length
    ⟨start, silent.1, silent.2, rfl, Nat.min_le_right _ _⟩ due
  have total := start.sender.length.1
  have least := good.releasedLe
  have most := good.accepted_length_le
  have stream := good.sender.stream
  unfold ReliableSender.pendingLen at enough
  rw [← same] at total released ⊢
  exact ⟨good.accepted.eq_of_length (by omega),
    List.IsPrefix.eq_of_length ⟨_, stream⟩ (by omega)⟩

/-- The first cell arrives and its acknowledgement is lost, as is the second
cell. -/
def cellAndAckLost : List LinkEvent :=
  [.queue [1] 1 0, .queue [2] 1 0, .deliverCell, .sendAck, .loseAck 0,
    .loseCell 0]

theorem session_recovers_cellAndAckLost :
    let polls := [⟨50, 20, 3⟩, ⟨60, 20, 3⟩]
    (run 7 cellAndAckLost).accepted = [[1]] ∧
      (run 7 cellAndAckLost).released = [] ∧
      (polls.foldl recover (run 7 cellAndAckLost)).accepted = [[1], [2]] ∧
      (polls.foldl recover (run 7 cellAndAckLost)).released = [[1], [2]] := by
  have due : Along recover Due (run 7 cellAndAckLost)
      [⟨50, 20, 3⟩, ⟨60, 20, 3⟩] := by
    refine ⟨?_, ?_, trivial⟩ <;>
    · unfold Due
      decide +kernel
  have queued : (run 7 cellAndAckLost).queued = [[1], [2]] := by
    decide +kernel
  have recovered := session_recovers 7 cellAndAckLost (by decide +kernel) due
    (by decide +kernel)
  rw [queued] at recovered
  exact ⟨by decide +kernel, by decide +kernel, recovered⟩

end Link

end HidShift
