import HidShift.Interchip.HostTurn
import HidShift.Interchip.DualLink
import HidShift.Lib.Run

namespace HidShift

open Lib

/-- A record that introduces a device the host can work with. -/
def Record.ConfirmsHello (record : Record) : Prop :=
  record.recordType = recordHelloAck ∧
    ∃ hello, Hello.decode record.data = .ok hello ∧ hello.role = .device ∧
      hello.protocolVersion = spiProtocolVersion ∧
        hello.capabilities &&& requiredDeviceCapabilities =
          requiredDeviceCapabilities

def SpiCell.ConfirmsHello (cell : SpiCell) : Prop :=
  ∃ record, .ok record ∈ (RecordIter.ofCell cell).items.1 ∧
    record.ConfirmsHello

theorem confirms_of_hello {hello : Hello} {record : Record}
    (helloAck : record.recordType = recordHelloAck)
    (decoded : Hello.decode record.data = .ok hello)
    (confirmed : (isCompatibleDeviceHello hello &&
      hello.capabilities &&& requiredDeviceCapabilities =
        requiredDeviceCapabilities) = true) : record.ConfirmsHello := by
  obtain ⟨compatible, capabilities⟩ := Bool.and_eq_true_iff.mp confirmed
  obtain ⟨role, version⟩ := Bool.and_eq_true_iff.mp compatible
  exact ⟨helloAck, hello, decoded, of_decide_eq_true role,
    of_decide_eq_true version, of_decide_eq_true capabilities⟩

variable {state : RecordState}

theorem processHelloAck_confirms {record : Record}
    (helloAck : record.recordType = recordHelloAck)
    (confirmed : (processHelloAck state processed record.data).1.helloConfirmed
      = true) :
    state.helloConfirmed = true ∨ record.ConfirmsHello := by
  unfold processHelloAck at confirmed
  split at confirmed
  · exact .inl confirmed
  · rename_i hello decoded
    exact .inr (confirms_of_hello helloAck decoded confirmed)

theorem processDecoded_state {ε α : Type} (state : RecordState)
    (decoded : Except ε α) (keep : α → ProcessedRecords) :
    (processDecoded state decoded keep).1 = state := by
  unfold processDecoded
  split <;> rfl

theorem processStandardOutput_state (state : RecordState)
    (processed : ProcessedRecords) (data : List UInt8) :
    (processStandardOutput state processed data).1 = state := by
  unfold processStandardOutput
  split
  · rfl
  · split <;> rfl

theorem processRecord_confirms (confirmed :
      (processRecord state processed record).1.helloConfirmed = true) :
    state.helloConfirmed = true ∨ record.ConfirmsHello := by
  unfold processRecord at confirmed
  split at confirmed
  · left
    unfold processHello at confirmed
    split at confirmed
    · exact confirmed
    · split at confirmed
      · cases confirmed
      · exact confirmed
  split at confirmed
  · rename_i helloAck
    exact processHelloAck_confirms helloAck confirmed
  left
  split at confirmed
  · unfold processUsbState at confirmed
    split at confirmed <;> exact confirmed
  split at confirmed
  · cases confirmed
  split at confirmed
  · rw [processStandardOutput_state] at confirmed
    exact confirmed
  split at confirmed
  · rw [processDecoded_state] at confirmed
    exact confirmed
  split at confirmed
  · rw [processDecoded_state] at confirmed
    exact confirmed
  split at confirmed
  · unfold processControlRequest at confirmed
    split at confirmed <;> exact confirmed
  split at confirmed
  · rw [processDecoded_state] at confirmed
    exact confirmed
  · exact confirmed

theorem processItems_confirms {state : RecordState}
    {processed : ProcessedRecords}
    {items : List (Except RecordCodecError Record)}
    (confirmed : (processItems state processed items).1.helloConfirmed = true) :
    state.helloConfirmed = true ∨
      ∃ record, .ok record ∈ items ∧ record.ConfirmsHello := by
  induction items generalizing state processed with
  | nil => exact .inl confirmed
  | cons item rest ih =>
      cases item with
      | error _ => exact .inl confirmed
      | ok record =>
          have head : (processRecord state processed
              record).1.helloConfirmed = true → state.helloConfirmed = true ∨
                ∃ found, .ok found ∈ (.ok record :: rest : List
                  (Except RecordCodecError Record)) ∧ found.ConfirmsHello := by
            intro reached
            rcases processRecord_confirms reached with earlier | confirms
            · exact .inl earlier
            · exact .inr ⟨record, List.mem_cons_self, confirms⟩
          unfold processItems at confirmed
          split at confirmed
          · rename_i next processing
            apply head
            rw [processing]
            exact confirmed
          · rename_i next following processing
            rcases ih confirmed with reached | ⟨found, later, confirms⟩
            · apply head
              rw [processing]
              exact reached
            · exact .inr ⟨found, List.mem_cons_of_mem _ later, confirms⟩

theorem processRecords_confirms {cell : SpiCell}
    (confirmed : (processRecords state cell).1.helloConfirmed = true) :
    state.helloConfirmed = true ∨ cell.ConfirmsHello := by
  apply @processItems_confirms state .empty (RecordIter.ofCell cell).items.1
  unfold processRecords at confirmed
  simp only at confirmed
  split at confirmed
  · rename_i next processing
    rw [processing]
    exact confirmed
  · rename_i next following processing
    rw [processing]
    exact confirmed

namespace HostLink

def isAccepted : ReceiveDisposition → Bool
  | .accepted _ _ => true
  | _ => false

/-- What waits for the runtime after a cell, with the state its records were
looked at in. -/
def pendingAfter (pending : ProcessedRecords) (state : RecordState)
    (cell : SpiCell) (disposition : ReceiveDisposition) : ProcessedRecords :=
  if isAccepted disposition then
    match (processRecords state cell).2 with
    | none => pending
    | some processed => pending.keep processed
  else pending

/-- A cell is received.  Where it belongs to another session, a new outbound
session was started before its records are looked at. -/
structure Receives (before after : Turn) (cell : SpiCell) : Prop where
  receiver : after.link.receiver = (before.link.receiver.receive cell).2
  confirmed : after.link.helloConfirmed = true →
    (before.link.helloConfirmed = true ∧
      (before.link.receiver.receive cell).1.remoteSessionChanged = false) ∨
    (isAccepted (before.link.receiver.receive cell).1 = true ∧
      cell.ConfirmsHello)
  actions : ∃ first state rest,
    after.actions = before.actions ++ first ::
      .received cell (before.link.receiver.receive cell).1 state :: rest ∧
    (first.isReceived = false ∧ first.isReported = false) ∧
    (∀ action ∈ rest, action.isReceived = false ∧ action.isReported = false) ∧
    after.link.pending = pendingAfter before.link.pending state cell
      (before.link.receiver.receive cell).1 ∧
    ((before.link.receiver.receive cell).1.remoteSessionChanged = true →
      first = .sessionReset ∧ state.helloConfirmed = false)

theorem processAccepted_confirms (link : HostLink) (cell : SpiCell) :
    (link.processAccepted cell).receiver = link.receiver ∧
      ((link.processAccepted cell).helloConfirmed = true →
        link.helloConfirmed = true ∨ cell.ConfirmsHello) := by
  have confirms := @processRecords_confirms link.recordState cell
  unfold processAccepted
  simp only
  split
  · exact ⟨rfl, confirms⟩
  · exact ⟨rfl, confirms⟩

theorem processAccepted_pending (link : HostLink) (cell : SpiCell) :
    (link.processAccepted cell).pending =
      match (processRecords link.recordState cell).2 with
      | none => link.pending
      | some processed => link.pending.keep processed := by
  unfold processAccepted
  simp only
  cases (processRecords link.recordState cell).2 with
  | none => rfl
  | some processed => rfl

theorem Turn.process_pending (turn : Turn) (cell : SpiCell)
    (disposition : ReceiveDisposition) :
    (turn.process cell disposition).link.pending =
      pendingAfter turn.link.pending turn.link.recordState cell
        disposition := by
  cases disposition with
  | accepted changed ack => exact turn.link.processAccepted_pending cell
  | empty => rfl
  | sessionChanged => rfl
  | duplicate ack => rfl
  | gap expected ack => rfl

theorem Turn.process_receives (turn : Turn) (cell : SpiCell)
    (disposition : ReceiveDisposition) :
    (turn.process cell disposition).link.receiver = turn.link.receiver ∧
      (turn.process cell disposition).actions =
        turn.actions ++ [.received cell disposition turn.link.recordState] ∧
      ((turn.process cell disposition).link.helloConfirmed = true →
        turn.link.helloConfirmed = true ∨
          (isAccepted disposition = true ∧ cell.ConfirmsHello)) := by
  have processed := turn.link.processAccepted_confirms cell
  unfold Turn.process
  simp only
  split
  · refine ⟨processed.1, rfl, fun confirmed => ?_⟩
    exact (processed.2 confirmed).imp_right fun confirms => ⟨rfl, confirms⟩
  · exact ⟨rfl, rfl, .inl⟩

theorem Turn.sends_settle (turn : Turn) (changed : Bool) :
    Sends turn (turn.settle changed) := by
  unfold Turn.settle
  split
  · exact turn.sends_resetOutboundSession
  · exact Sends.refl turn

theorem receives_of_entered {turn entered after : Turn} {cell : SpiCell}
    {first : LinkAction}
    (receiver : entered.link.receiver = (turn.link.receiver.receive cell).2)
    (pending : entered.link.pending = turn.link.pending)
    (actions : entered.actions = turn.actions ++ [first])
    (other : first.isReceived = false ∧ first.isReported = false)
    (confirmed : entered.link.helloConfirmed = true →
      turn.link.helloConfirmed = true ∧
        (turn.link.receiver.receive cell).1.remoteSessionChanged = false)
    (restarted : (turn.link.receiver.receive cell).1.remoteSessionChanged =
      true → first = .sessionReset ∧ entered.link.helloConfirmed = false)
    (settled : Sends
      (entered.process cell (turn.link.receiver.receive cell).1) after) :
    Receives turn after cell := by
  obtain ⟨keptReceiver, processedActions, confirms⟩ :=
    entered.process_receives cell (turn.link.receiver.receive cell).1
  obtain ⟨added, settledActions, others⟩ := settled.actions
  exact {
    receiver := settled.receiver.trans (keptReceiver.trans receiver)
    confirmed := fun reached =>
      (confirms (settled.confirmed reached)).imp_left confirmed
    actions := by
      refine ⟨first, entered.link.recordState, added, ?_, other, others, ?_,
        restarted⟩
      · rw [settledActions, processedActions, actions]
        simp only [List.append_assoc, List.cons_append, List.nil_append]
      · rw [settled.pending, entered.process_pending, pending] }

theorem Turn.receives_receiveCell (turn : Turn) (cell : SpiCell)
    (nowMs : UInt64) : Receives turn (turn.receiveCell cell nowMs) cell := by
  unfold Turn.receiveCell
  simp only
  cases changed :
    (turn.link.receiver.receive cell).1.remoteSessionChanged with
  | true =>
      rw [if_pos rfl]
      refine receives_of_entered ?_ ?_ ?_ ?_ (fun impossible => ?_)
        (fun _ => ⟨rfl, ?_⟩) (Turn.sends_settle _ _)
      · rfl
      · rfl
      · rfl
      · exact ⟨rfl, rfl⟩
      · cases impossible
      · rfl
  | false =>
      rw [if_neg Bool.false_ne_true]
      refine @receives_of_entered turn _ _ cell
        (.acknowledged (turn.link.sender.acknowledge
          cell.header.cumulativeAck).1) ?_ ?_ ?_ ⟨rfl, rfl⟩
        (fun confirmed => ?_) (fun impossible => ?_) (Turn.sends_settle _ _)
      · rfl
      · rfl
      · rfl
      · exact ⟨confirmed, changed⟩
      · rw [changed] at impossible
        cases impossible

/-- A cell of another session that the link gets to see is the first one of
that session or an idle one. -/
def SessionsFromStart (link : HostLink) : Event → Prop
  | .command _ => True
  | .turn input wire => (link.prepare input).2 = true →
      ∀ cell, wire.map SpiCell.decode = some (.ok cell) →
        link.receiver.sessionId ≠ some cell.header.sessionId →
          cell.header.txSequence = 0 ∨ cell.header.txSequence = 1

/-- A new outbound session is started, before anything received is looked at
and with the introduction forgotten. -/
def Restarts (actions : List LinkAction) (after : HostLink) : Prop :=
  ∃ first rest, actions = first ++ .sessionReset :: rest ∧
    (∀ action ∈ first, action.isReceived = false) ∧
    (∀ cell disposition state, .received cell disposition state ∈ rest →
      state.helloConfirmed = false) ∧
    ((∀ action ∈ rest, action.isReceived = false) →
      after.helloConfirmed = false)

def Confirms (actions : List LinkAction) (sessionId : UInt32) : Prop :=
  ∃ cell disposition state, .received cell disposition state ∈ actions ∧
    isAccepted disposition = true ∧ cell.header.sessionId = sessionId ∧
      cell.ConfirmsHello

theorem receive_otherSession {receiver : ReliableReceiver}
    (other : receiver.sessionId ≠ some cell.header.sessionId)
    (fromStart : cell.header.txSequence = 0 ∨ cell.header.txSequence = 1) :
    (receiver.receive cell).1.remoteSessionChanged = true := by
  have entered : receiver.enterSession cell.header.sessionId =
      ⟨some cell.header.sessionId, 0⟩ := if_pos other
  unfold ReliableReceiver.receive
  simp only [entered, decide_eq_true other]
  rcases fromStart with idle | first
  · rw [if_pos idle]
    rfl
  · rw [if_neg (by rw [first]; decide), if_pos (by rw [first]; decide)]
    rfl

theorem receive_sessionId (receiver : ReliableReceiver) (cell : SpiCell) :
    (receiver.receive cell).2.sessionId = some cell.header.sessionId := by
  rcases receiver.receive_cases cell with ⟨_, received, _⟩ | ⟨entered, _⟩
  · rw [received]
    exact receiver.enterSession_sessionId _
  · rw [entered]
    exact receiver.enterSession_sessionId _

structure Tracks (before : HostLink) (actions : List LinkAction)
    (after : HostLink) : Prop where
  restarts : after.receiver.sessionId ≠ before.receiver.sessionId →
    Restarts actions after
  confirmed : after.helloConfirmed = true →
    (before.helloConfirmed = true ∧
      after.receiver.sessionId = before.receiver.sessionId) ∨
    ∃ sessionId, after.receiver.sessionId = some sessionId ∧
      Confirms actions sessionId

variable {link : HostLink} {input : HostInput}

theorem Sends.none_received (sends : Sends (link.reported input) turn) :
    ∀ action ∈ turn.actions, action.isReceived = false := by
  obtain ⟨added, actions, others⟩ := sends.actions
  intro action member
  rw [actions] at member
  rcases List.mem_append.mp member with early | late
  · exact link.reported_received input action early
  · exact (others action late).1

theorem Sends.tracks (sends : Sends (link.reported input) turn) :
    Tracks link turn.actions turn.link where
  restarts := fun changed =>
    absurd (congrArg ReliableReceiver.sessionId sends.receiver) changed
  confirmed := fun confirmed => .inl ⟨sends.confirmed confirmed,
    congrArg ReliableReceiver.sessionId sends.receiver⟩

theorem Quiet.tracks (quiet : Quiet (link.reported input) turn) :
    Tracks link turn.actions turn.link where
  restarts := by
    refine fun _ => ⟨_, [], quiet.actions, link.reported_received input, ?_,
      fun _ => quiet.confirmed⟩
    intro _ _ _ impossible
    cases impossible
  confirmed := by
    intro confirmed
    rw [quiet.confirmed] at confirmed
    cases confirmed

theorem Receives.tracks (sends : Sends (link.reported input) prepared)
    (receives : Receives prepared turn cell)
    (fromStart : link.receiver.sessionId ≠ some cell.header.sessionId →
      cell.header.txSequence = 0 ∨ cell.header.txSequence = 1) :
    Tracks link turn.actions turn.link := by
  have entered : turn.link.receiver.sessionId =
      some cell.header.sessionId := by
    rw [receives.receiver]
    exact receive_sessionId _ _
  have receiver : prepared.link.receiver = link.receiver := sends.receiver
  obtain ⟨first, state, rest, actions, other, others, _, restarted⟩ :=
    receives.actions
  rw [receiver] at actions restarted
  constructor
  · intro changed
    rw [entered] at changed
    obtain ⟨rfl, forgotten⟩ := restarted
      (receive_otherSession (Ne.symm changed) (fromStart (Ne.symm changed)))
    refine ⟨_, _, actions, sends.none_received, ?_, ?_⟩
    · intro found disposition foundState member
      rcases List.mem_cons.mp member with same | later
      · cases same
        exact forgotten
      · exact absurd (others _ later).1 Bool.noConfusion
    · intro none_received
      exact absurd (none_received _ List.mem_cons_self) Bool.noConfusion
  · intro confirmed
    rcases receives.confirmed confirmed with ⟨kept, same⟩ | ⟨accepted, hello⟩
    · rw [receiver] at same
      refine .inl ⟨sends.confirmed kept, ?_⟩
      rw [entered]
      by_contra changed
      rw [receive_otherSession (Ne.symm changed)
        (fromStart (Ne.symm changed))] at same
      cases same
    · rw [receiver] at accepted
      refine .inr ⟨_, entered, cell, _, state, ?_, accepted, rfl, hello⟩
      rw [actions]
      exact List.mem_append_right _ (List.mem_cons_of_mem _ List.mem_cons_self)

theorem tracks_step (step : Step before event actions after)
    (fromStart : before.SessionsFromStart event) :
    Tracks before actions after := by
  rw [show after = (before.perform event).link from
      congrArg Turn.link step.symm,
    show actions = (before.perform event).actions from
      congrArg Turn.actions step.symm]
  cases event with
  | command command =>
      exact ⟨fun changed => absurd rfl changed,
        fun confirmed => .inl ⟨confirmed, rfl⟩⟩
  | turn input wire =>
      change Tracks before (before.iterate input _).actions
        (before.iterate input _).link
      rcases before.prepare_cases input with sends | ⟨silent, quiet⟩
      · cases transfers : (before.prepare input).2 with
        | false =>
            rw [iterate_still transfers]
            exact sends.tracks
        | true =>
            rw [iterate_transfer transfers]
            cases received : wire.map SpiCell.decode with
            | none =>
                have cancelled : Sends (before.prepare input).1
                    ((before.prepare input).1.finish input.nowMs none) :=
                  Sends.of_same rfl rfl (fun confirmed => confirmed) rfl
                exact (sends.trans cancelled).tracks
            | some decoded =>
                cases decoded with
                | error _ => exact sends.tracks
                | ok cell =>
                    exact (Turn.receives_receiveCell _ cell _).tracks sends
                      (fromStart transfers cell received)
      · rw [iterate_still silent]
        exact quiet.tracks

abbrev HostTransition := Transition HostLink Event (List LinkAction)

/-- The link is confirmed only by an introduction in the session it still
listens to. -/
def ConfirmedSince (history : List HostTransition) (link : HostLink) : Prop :=
  link.helloConfirmed = true →
    ∃ sessionId, link.receiver.sessionId = some sessionId ∧
      ∃ earlier taken later, history = earlier ++ taken :: later ∧
        Confirms taken.output sessionId ∧
        taken.after.receiver.sessionId = some sessionId ∧
        ∀ passed ∈ later, passed.after.receiver.sessionId = some sessionId

theorem ConfirmedSince.step (before : ConfirmedSince history taken.before)
    (tracks : Tracks taken.before taken.output taken.after) :
    ConfirmedSince (history ++ [taken]) taken.after := by
  intro confirmed
  rcases tracks.confirmed confirmed with ⟨kept, same⟩ | ⟨sessionId, session,
    confirms⟩
  · obtain ⟨sessionId, session, earlier, found, later, split, confirms, entered,
      stayed⟩ := before kept
    refine ⟨sessionId, same.trans session, earlier, found, later ++ [taken], ?_,
      confirms, entered, ?_⟩
    · rw [split, List.append_assoc, List.cons_append]
    · intro passed member
      rcases List.mem_append.mp member with among | last
      · exact stayed passed among
      · rw [List.mem_singleton.mp last]
        exact same.trans session
  · refine ⟨sessionId, session, history, taken, [], rfl, confirms, session, ?_⟩
    intro passed impossible
    cases impossible

theorem session_change_restarts {sessionId : UInt32} {nowMs nowUs : UInt64}
    {history : List HostTransition} {link : HostLink}
    (run : Run Step (HostLink.new sessionId nowMs nowUs) history link)
    (fromStart : ∀ taken ∈ history,
      taken.before.SessionsFromStart taken.event) :
    (∀ taken ∈ history,
      taken.after.receiver.sessionId ≠ taken.before.receiver.sessionId →
        Restarts taken.output taken.after) ∧
      ConfirmedSince history link := by
  constructor
  · intro taken member
    exact (tracks_step (run.step_of_mem member)
      (fromStart taken member)).restarts
  · refine run.invariant_history ConfirmedSince ?_ ?_
    · intro impossible
      cases impossible
    · intro earlier taken later split step before
      apply before.step (tracks_step step (fromStart taken ?_))
      rw [split]
      exact List.mem_append_right _ List.mem_cons_self

def introduction : SpiCell := deviceCell 1 [deviceHello recordHelloAck]

def afterRestart : SpiCell :=
  ({ ReliableSender.new 9 with nextSequence := 2 } :
    ReliableSender).queuedCell [] 0

def introduced : Turn := (HostLink.new 1 0 0).arriving 1 introduction

def misled : Turn := introduced.link.arriving 2 afterRestart

theorem introduction_valid : introduction.Valid :=
  deviceCell_valid (by decide) (by decide)

/-- Session 9 from its start, and introduced. -/
def reintroduction : SpiCell :=
  (ReliableSender.new 9).queuedCell (deviceHello recordHelloAck).encode 1

def reintroduced : Turn := introduced.link.arriving 2 reintroduction

theorem reintroduction_valid : reintroduction.Valid :=
  ReliableSender.valid_queuedCell (by decide) (by decide)

def introductions : List HostTransition :=
  [⟨HostLink.new 1 0 0, arrival 1 introduction, introduced.actions,
      introduced.link⟩,
    ⟨introduced.link, arrival 2 reintroduction, reintroduced.actions,
      reintroduced.link⟩]

theorem introductions_run :
    Run Step (HostLink.new 1 0 0) introductions reintroduced.link :=
  .cons (perform_arrival introduction_valid _ _)
    (.cons (perform_arrival reintroduction_valid _ _) (.nil _))

theorem fromStart_of_first (valid : cell.Valid)
    (first : cell.header.txSequence = 1) (link : HostLink) (nowMs : UInt64) :
    link.SessionsFromStart (arrival nowMs cell) := by
  intro _ other received _
  rw [Option.map_some, DeviceLink.decode_wireCell valid] at received
  cases received
  exact .inr first

theorem session_change_restarts_introductions :
    introduced.link.receiver.sessionId = some 5 ∧
      reintroduced.link.receiver.sessionId = some 9 ∧
      reintroduced.link.helloConfirmed = true ∧
      (∀ taken ∈ introductions,
        taken.after.receiver.sessionId ≠ taken.before.receiver.sessionId →
          Restarts taken.output taken.after) ∧
        ConfirmedSince introductions reintroduced.link := by
  refine ⟨by decide +kernel, by decide +kernel, by decide +kernel,
    session_change_restarts introductions_run fun taken member => ?_⟩
  rcases List.mem_cons.mp member with rfl | later
  · exact fromStart_of_first introduction_valid (by decide) _ _
  · rw [List.mem_singleton.mp later]
    exact fromStart_of_first reintroduction_valid (by decide) _ _

/-- The second cell of session 9 is a gap in a session the host has not seen:
the host listens to it from now on and stays confirmed. -/
theorem session_change_missed :
    ¬ ∀ history link, Run Step (HostLink.new 1 0 0) history link →
      (∀ taken ∈ history,
        taken.after.receiver.sessionId ≠ taken.before.receiver.sessionId →
          Restarts taken.output taken.after) ∧
        ConfirmedSince history link := by
  intro claimed
  have afterRestart_valid : afterRestart.Valid :=
    ReliableSender.valid_queuedCell (by decide) (by decide)
  have run : Run Step (HostLink.new 1 0 0)
      [⟨HostLink.new 1 0 0, arrival 1 introduction, introduced.actions,
          introduced.link⟩,
        ⟨introduced.link, arrival 2 afterRestart, misled.actions,
          misled.link⟩] misled.link :=
    .cons (perform_arrival introduction_valid _ _)
      (.cons (perform_arrival afterRestart_valid _ _) (.nil _))
  have changed : misled.link.receiver.sessionId ≠
      introduced.link.receiver.sessionId := by
    decide +kernel
  obtain ⟨first, rest, actions, _⟩ := (claimed _ _ run).1 _
    (List.mem_cons_of_mem _ List.mem_cons_self) changed
  have member : LinkAction.sessionReset ∈ misled.actions := by
    rw [show misled.actions = _ from actions]
    exact List.mem_append_right _ List.mem_cons_self
  have unreset : (misled.actions.all fun action => !action.isReset) =
      true := by
    decide +kernel
  have := List.all_eq_true.mp unreset _ member
  cases this

end HostLink

end HidShift
