import HidShift.Bridge.State
import HidShift.Interchip.Message

/-! The one control request that may cross the link (`mirror/control.rs`). -/

namespace HidShift

open Lib

def mirrorControlTimeoutMs : UInt64 := 250

inductive MirrorControlForwarderError
  | busy
  | invalidMessage
  | staleResponse
deriving Repr

structure PendingMirrorControl where
  requestId : UInt32
  deadlineMs : UInt64

structure MirrorControlForwarder where
  nextRequestId : UInt32
  pending : Option PendingMirrorControl

namespace MirrorControlForwarder

def nextNonzero (value : UInt32) : UInt32 :=
  if value = 0xffffffff ∨ value = 0 then 1 else value + 1

def new : MirrorControlForwarder := ⟨1, none⟩

/-- A request that is not valid uses up its number. -/
def begin (forwarder : MirrorControlForwarder)
    (setupPacket : Vector UInt8 8) (data : List UInt8) (nowMs : UInt64) :
    Except MirrorControlForwarderError MirrorControlRequest ×
      MirrorControlForwarder :=
  if forwarder.pending.isSome then (.error .busy, forwarder)
  else
    let requestId := forwarder.nextRequestId
    let forwarder := { forwarder with
      nextRequestId := nextNonzero forwarder.nextRequestId }
    match MirrorControlRequest.new requestId setupPacket data with
    | .error _ => (.error .invalidMessage, forwarder)
    | .ok request => (.ok request, { forwarder with
        pending := some ⟨requestId,
          saturatingAddMs nowMs mirrorControlTimeoutMs⟩ })

def complete (forwarder : MirrorControlForwarder)
    (response : MirrorControlResponse) (nowMs : UInt64) :
    Except MirrorControlForwarderError MirrorControlResponse ×
      MirrorControlForwarder :=
  match forwarder.pending with
  | none => (.error .staleResponse, forwarder)
  | some pending =>
      if pending.requestId ≠ response.requestId ∨
          pending.deadlineMs ≤ nowMs then
        (.error .staleResponse, forwarder)
      else
        (.ok response, { forwarder with pending := none })

def expire (forwarder : MirrorControlForwarder) (nowMs : UInt64) :
    Option MirrorControlResponse × MirrorControlForwarder :=
  match forwarder.pending.filter (·.deadlineMs ≤ nowMs) with
  | none => (none, forwarder)
  | some pending =>
      ((MirrorControlResponse.new pending.requestId .timeout []).toOption,
        { forwarder with pending := none })

def cancel (forwarder : MirrorControlForwarder) :
    Option UInt32 × MirrorControlForwarder :=
  (forwarder.pending.map PendingMirrorControl.requestId,
    { forwarder with pending := none })

end MirrorControlForwarder

inductive ForwarderCall
  | begin (setupPacket : Vector UInt8 8) (data : List UInt8)
  | complete (response : MirrorControlResponse)
  | expire
  | cancel

inductive ControlEnd
  | response
  | timeout
  | cancelled

structure FinishedControl where
  requestId : UInt32
  how : ControlEnd
  nowMs : UInt64

structure ControlRun where
  forwarder : MirrorControlForwarder
  begun : List PendingMirrorControl
  finished : List FinishedControl

namespace ControlRun

def start : ControlRun := ⟨.new, [], []⟩

def begins (forwarder : MirrorControlForwarder) (nowMs : UInt64) :
    ForwarderCall → List PendingMirrorControl
  | .begin setupPacket data =>
      match (forwarder.begin setupPacket data nowMs).1 with
      | .ok request => [⟨request.requestId,
          saturatingAddMs nowMs mirrorControlTimeoutMs⟩]
      | .error _ => []
  | _ => []

def finishes (forwarder : MirrorControlForwarder) (nowMs : UInt64) :
    ForwarderCall → List FinishedControl
  | .begin _ _ => []
  | .complete response =>
      match (forwarder.complete response nowMs).1 with
      | .ok response => [⟨response.requestId, .response, nowMs⟩]
      | .error _ => []
  | .expire => ((forwarder.expire nowMs).1.map fun response =>
      ⟨response.requestId, .timeout, nowMs⟩).toList
  | .cancel => (forwarder.cancel.1.map fun requestId =>
      ⟨requestId, .cancelled, nowMs⟩).toList

def forwarded (forwarder : MirrorControlForwarder) (nowMs : UInt64) :
    ForwarderCall → MirrorControlForwarder
  | .begin setupPacket data => (forwarder.begin setupPacket data nowMs).2
  | .complete response => (forwarder.complete response nowMs).2
  | .expire => (forwarder.expire nowMs).2
  | .cancel => forwarder.cancel.2

def perform (run : ControlRun) (call : UInt64 × ForwarderCall) : ControlRun where
  forwarder := forwarded run.forwarder call.1 call.2
  begun := run.begun ++ begins run.forwarder call.1 call.2
  finished := run.finished ++ finishes run.forwarder call.1 call.2

section

variable (run : ControlRun) (call : UInt64 × ForwarderCall)

@[simp] theorem perform_forwarder : (run.perform call).forwarder =
      forwarded run.forwarder call.1 call.2 :=
  rfl

@[simp] theorem perform_begun : (run.perform call).begun =
      run.begun ++ begins run.forwarder call.1 call.2 :=
  rfl

@[simp] theorem perform_finished : (run.perform call).finished =
      run.finished ++ finishes run.forwarder call.1 call.2 :=
  rfl

end

def after (calls : List (UInt64 × ForwarderCall)) : ControlRun :=
  calls.foldl perform start

/-- The end belongs to the request: its response in time, its timeout not
before, or a cancel. -/
def Ends (request : PendingMirrorControl) (finished : FinishedControl) :
    Prop :=
  finished.requestId = request.requestId ∧
    match finished.how with
    | .response => finished.nowMs < request.deadlineMs
    | .timeout => request.deadlineMs ≤ finished.nowMs
    | .cancelled => True

inductive Performed (forwarder : MirrorControlForwarder) (nowMs : UInt64)
    (call : ForwarderCall) : Prop
  | begun (free : forwarder.pending = none)
      (isBegin : ∃ setupPacket data, call = .begin setupPacket data)
      (begins : begins forwarder nowMs call = [⟨forwarder.nextRequestId,
        saturatingAddMs nowMs mirrorControlTimeoutMs⟩])
      (finishes : finishes forwarder nowMs call = [])
      (next : forwarded forwarder nowMs call =
        ⟨MirrorControlForwarder.nextNonzero forwarder.nextRequestId,
          some ⟨forwarder.nextRequestId,
            saturatingAddMs nowMs mirrorControlTimeoutMs⟩⟩)
  | consumed (isBegin : ∃ setupPacket data, call = .begin setupPacket data)
      (begins : begins forwarder nowMs call = [])
      (finishes : finishes forwarder nowMs call = [])
      (next : forwarded forwarder nowMs call = { forwarder with
        nextRequestId :=
          MirrorControlForwarder.nextNonzero forwarder.nextRequestId })
  | finished (request : PendingMirrorControl) (last : FinishedControl)
      (pending : forwarder.pending = some request) (ends : Ends request last)
      (begins : begins forwarder nowMs call = [])
      (finishes : finishes forwarder nowMs call = [last])
      (next : forwarded forwarder nowMs call =
        { forwarder with pending := none })
  | nothing (begins : begins forwarder nowMs call = [])
      (finishes : finishes forwarder nowMs call = [])
      (next : forwarded forwarder nowMs call = forwarder)

theorem new_requestId
    (created : MirrorControlRequest.new requestId setupPacket data =
      .ok request) : request.requestId = requestId := by
  unfold MirrorControlRequest.new at created
  split at created
  · rw [← Except.ok.inj created]
  · cases created

theorem performed (forwarder : MirrorControlForwarder) (nowMs : UInt64)
    (call : ForwarderCall) : Performed forwarder nowMs call := by
  cases call with
  | begin setupPacket data =>
      cases pending : forwarder.pending with
      | some request =>
          have busy : forwarder.begin setupPacket data nowMs =
              (.error .busy, forwarder) := by
            rw [MirrorControlForwarder.begin, if_pos (by rw [pending]; rfl)]
          exact .nothing (by rw [begins, busy]) rfl (by rw [forwarded, busy])
      | none =>
          have free : ¬ forwarder.pending.isSome := by
            rw [pending]
            exact Bool.false_ne_true
          cases created : MirrorControlRequest.new forwarder.nextRequestId
              setupPacket data with
          | error error =>
              have invalid : forwarder.begin setupPacket data nowMs =
                  (.error .invalidMessage, { forwarder with
                    nextRequestId := MirrorControlForwarder.nextNonzero
                      forwarder.nextRequestId }) := by
                rw [MirrorControlForwarder.begin, if_neg free]
                dsimp only
                rw [created]
              exact .consumed ⟨_, _, rfl⟩ (by rw [begins, invalid]) rfl
                (by rw [forwarded, invalid])
          | ok request =>
              have accepted : forwarder.begin setupPacket data nowMs =
                  (.ok request, ⟨MirrorControlForwarder.nextNonzero
                    forwarder.nextRequestId, some ⟨forwarder.nextRequestId,
                      saturatingAddMs nowMs mirrorControlTimeoutMs⟩⟩) := by
                rw [MirrorControlForwarder.begin, if_neg free]
                dsimp only
                rw [created]
              refine .begun pending ⟨_, _, rfl⟩ ?_ rfl
                (by rw [forwarded, accepted])
              rw [begins, accepted, ← new_requestId created]
  | complete response =>
      cases pending : forwarder.pending with
      | none =>
          have stale : forwarder.complete response nowMs =
              (.error .staleResponse, forwarder) := by
            rw [MirrorControlForwarder.complete, pending]
          exact .nothing rfl (by rw [finishes, stale])
            (by rw [forwarded, stale])
      | some request =>
          by_cases foreign : request.requestId ≠ response.requestId ∨
              request.deadlineMs ≤ nowMs
          · have stale : forwarder.complete response nowMs =
                (.error .staleResponse, forwarder) := by
              rw [MirrorControlForwarder.complete, pending]
              exact if_pos foreign
            exact .nothing rfl (by rw [finishes, stale])
              (by rw [forwarded, stale])
          · have accepted : forwarder.complete response nowMs =
                (.ok response, { forwarder with pending := none }) := by
              rw [MirrorControlForwarder.complete, pending]
              exact if_neg foreign
            rw [not_or, not_not, UInt64.not_le] at foreign
            exact .finished request ⟨response.requestId, .response, nowMs⟩
              pending ⟨foreign.1.symm, foreign.2⟩ rfl
              (by rw [finishes, accepted]) (by rw [forwarded, accepted])
  | expire =>
      cases late : forwarder.pending.filter (·.deadlineMs ≤ nowMs) with
      | none =>
          have waits : forwarder.expire nowMs = (none, forwarder) := by
            rw [MirrorControlForwarder.expire, late]
          exact .nothing rfl (by rw [finishes, waits]; rfl)
            (by rw [forwarded, waits])
      | some request =>
          obtain ⟨pending, passed⟩ := Option.filter_eq_some_iff.mp late
          have expired : forwarder.expire nowMs =
              (some ⟨request.requestId, .timeout, ⟨[], Nat.zero_le _⟩⟩,
                { forwarder with pending := none }) := by
            rw [MirrorControlForwarder.expire, late]
            rfl
          exact .finished request ⟨request.requestId, .timeout, nowMs⟩
            pending ⟨rfl, of_decide_eq_true passed⟩ rfl
            (by rw [finishes, expired]; rfl) (by rw [forwarded, expired])
  | cancel =>
      cases pending : forwarder.pending with
      | none =>
          refine .nothing rfl ?_ ?_
          · rw [finishes, MirrorControlForwarder.cancel, pending]
            rfl
          · rw [forwarded, MirrorControlForwarder.cancel, ← pending]
      | some request =>
          refine .finished request ⟨request.requestId, .cancelled, nowMs⟩
            pending ⟨rfl, trivial⟩ rfl ?_ rfl
          rw [finishes, MirrorControlForwarder.cancel, pending]
          rfl

/-- What was begun is what was finished, in the same order, and after it what
is pending.  The numbers rise. -/
structure Sound (run : ControlRun) (consumed : Nat) : Prop where
  ends : ∃ done, run.begun = done ++ run.forwarder.pending.toList ∧
    List.Forall₂ Ends done run.finished
  next : run.forwarder.nextRequestId.toNat = consumed + 1
  numbers : ∀ request ∈ run.begun, 1 ≤ request.requestId.toNat ∧
    request.requestId.toNat ≤ consumed
  distinct : (run.begun.map PendingMirrorControl.requestId).Nodup

theorem sound_start : start.Sound 0 where
  ends := ⟨[], rfl, .nil⟩
  next := rfl
  numbers _ member := (List.not_mem_nil member).elim
  distinct := List.nodup_nil

def isBegin : ForwarderCall → Bool
  | .begin _ _ => true
  | _ => false

theorem nextNonzero_toNat (small : value.toNat < 4294967295)
    (positive : value.toNat ≠ 0) :
    (MirrorControlForwarder.nextNonzero value).toNat = value.toNat + 1 := by
  have wraps : ¬ (value = 0xffffffff ∨ value = 0) := by
    rintro (last | zero)
    · exact absurd small (by rw [last]; decide)
    · exact positive (by rw [zero]; rfl)
  rw [MirrorControlForwarder.nextNonzero, if_neg wraps, UInt32.toNat_add]
  exact Nat.mod_eq_of_lt (by change value.toNat + 1 < 4294967296; omega)

namespace Sound

variable {run : ControlRun} {consumed : Nat}

section

variable (sound : run.Sound consumed)

include sound

theorem fresh (member : request ∈ run.begun) :
    request.requestId ≠ run.forwarder.nextRequestId := by
  intro same
  have bounded := (sound.numbers request member).2
  rw [same, sound.next] at bounded
  omega

theorem numbers_grow :
    ∀ request ∈ run.begun, 1 ≤ request.requestId.toNat ∧
      request.requestId.toNat ≤ consumed + 1 := by
  intro request member
  have bounded := sound.numbers request member
  omega

theorem next_grows (few : consumed < 4294967294) :
    (MirrorControlForwarder.nextNonzero run.forwarder.nextRequestId).toNat =
      consumed + 1 + 1 := by
  have next := sound.next
  rw [nextNonzero_toNat (by omega) (by omega), next]

theorem perform (call : UInt64 × ForwarderCall)
    (few : consumed + (isBegin call.2).toNat ≤ 4294967294) :
    ∃ more ≤ (isBegin call.2).toNat,
      (run.perform call).Sound (consumed + more) := by
  obtain ⟨done, begun, ended⟩ := sound.ends
  cases performed run.forwarder call.1 call.2 with
  | begun free isBegin begins finishes next =>
      obtain ⟨setupPacket, data, called⟩ := isBegin
      have counted : (ControlRun.isBegin call.2).toNat = 1 := by
        rw [called]
        rfl
      rw [free, Option.toList_none, List.append_nil] at begun
      refine ⟨1, counted.ge, ⟨done, ?_, ?_⟩, ?_, ?_, ?_⟩
      · rw [perform_begun, perform_forwarder, begins, next, begun]
        rfl
      · rwa [perform_finished, finishes, List.append_nil]
      · rw [perform_forwarder, next]
        exact sound.next_grows (by omega)
      · intro request member
        rw [perform_begun, begins] at member
        rcases List.mem_append.mp member with old | latest
        · exact sound.numbers_grow request old
        · rw [List.mem_singleton.mp latest, sound.next]
          omega
      · rw [perform_begun, begins, List.map_append]
        refine sound.distinct.append (List.nodup_singleton _) ?_
        intro requestId old latest
        obtain ⟨request, member, rfl⟩ := List.mem_map.mp old
        exact sound.fresh member (List.mem_singleton.mp latest)
  | consumed isBegin begins finishes next =>
      obtain ⟨setupPacket, data, called⟩ := isBegin
      have counted : (ControlRun.isBegin call.2).toNat = 1 := by
        rw [called]
        rfl
      have same : (run.perform call).begun = run.begun := by
        rw [perform_begun, begins, List.append_nil]
      refine ⟨1, counted.ge, ⟨done, ?_, ?_⟩, ?_, ?_, ?_⟩
      · rw [same, begun, perform_forwarder, next]
      · rwa [perform_finished, finishes, List.append_nil]
      · rw [perform_forwarder, next]
        exact sound.next_grows (by omega)
      · rw [same]
        exact sound.numbers_grow
      · rw [same]
        exact sound.distinct
  | finished request last pending ends begins finishes next =>
      have same : (run.perform call).begun = run.begun := by
        rw [perform_begun, begins, List.append_nil]
      refine ⟨0, Nat.zero_le _, ⟨run.begun, ?_, ?_⟩, ?_, ?_, ?_⟩
      · rw [same, perform_forwarder, next]
        exact (List.append_nil _).symm
      · rw [perform_finished, finishes, begun, pending]
        exact List.rel_append ended (.cons ends .nil)
      · rw [perform_forwarder, next]
        exact sound.next
      · rw [same]
        exact sound.numbers
      · rw [same]
        exact sound.distinct
  | nothing begins finishes next =>
      have unchanged : run.perform call = run := by
        rw [ControlRun.perform, begins, finishes, next, List.append_nil,
          List.append_nil]
      exact ⟨0, Nat.zero_le _, by rwa [unchanged]⟩

end

end Sound

/-- The number of calls of `begin`. -/
def beginCount (calls : List (UInt64 × ForwarderCall)) : Nat :=
  (calls.map fun call => (isBegin call.2).toNat).sum

theorem Sound.performs (sound : run.Sound consumed)
    (calls : List (UInt64 × ForwarderCall))
    (few : consumed + beginCount calls ≤ 4294967294) :
    ∃ later, (calls.foldl ControlRun.perform run).Sound later := by
  induction calls generalizing run consumed with
  | nil => exact ⟨consumed, sound⟩
  | cons call calls step =>
      have counted : beginCount (call :: calls) =
          (isBegin call.2).toNat + beginCount calls := List.sum_cons
      obtain ⟨more, bounded, performed⟩ := sound.perform call (by omega)
      exact step performed (by omega)

theorem complete_stale {forwarder : MirrorControlForwarder}
    (stale : ∀ request, forwarder.pending = some request →
      request.requestId ≠ response.requestId ∨ request.deadlineMs ≤ nowMs) :
    forwarder.complete response nowMs = (.error .staleResponse, forwarder) := by
  rw [MirrorControlForwarder.complete]
  cases pending : forwarder.pending with
  | none => rfl
  | some request => exact if_pos (stale request pending)

end ControlRun

/-- The forwarder has one request in flight: it ends every request it began
but the pending one, each once and in order, and no number comes twice. -/
theorem mirrorControl_singleFlight (calls : List (UInt64 × ForwarderCall))
    (few : ControlRun.beginCount calls < 4294967295) :
    (∃ done, (ControlRun.after calls).begun =
        done ++ (ControlRun.after calls).forwarder.pending.toList ∧
      List.Forall₂ ControlRun.Ends done (ControlRun.after calls).finished) ∧
    (∀ request ∈ (ControlRun.after calls).begun, request.requestId ≠ 0) ∧
    ((ControlRun.after calls).begun.map PendingMirrorControl.requestId).Nodup ∧
    ∀ response nowMs,
      (∀ request, (ControlRun.after calls).forwarder.pending = some request →
        request.requestId ≠ response.requestId ∨
          request.deadlineMs ≤ nowMs) →
      (ControlRun.after calls).forwarder.complete response nowMs =
        (.error .staleResponse, (ControlRun.after calls).forwarder) := by
  obtain ⟨consumed, sound⟩ :=
    ControlRun.sound_start.performs calls (by omega)
  refine ⟨sound.ends, ?_, sound.distinct, ?_⟩
  · intro request member zero
    have positive := (sound.numbers request member).1
    rw [zero] at positive
    exact absurd positive (by decide)
  · intro response nowMs stale
    exact ControlRun.complete_stale stale

/-- A request that is answered, one that times out and one that waits. -/
theorem mirrorControl_singleFlight_three :
    let setup : Vector UInt8 8 := Vector.replicate 8 0
    let calls : List (UInt64 × ForwarderCall) :=
      [(0, .begin setup []), (10, .complete ⟨1, .success, ⟨[], Nat.zero_le _⟩⟩),
        (20, .begin setup []), (300, .expire), (310, .begin setup [])]
    (∃ done, (ControlRun.after calls).begun =
        done ++ (ControlRun.after calls).forwarder.pending.toList ∧
      List.Forall₂ ControlRun.Ends done (ControlRun.after calls).finished) ∧
    (ControlRun.after calls).begun.length = 3 ∧
    (ControlRun.after calls).finished.length = 2 := by
  intro setup calls
  exact ⟨(mirrorControl_singleFlight calls (by decide)).1, by decide, by decide⟩

end HidShift
