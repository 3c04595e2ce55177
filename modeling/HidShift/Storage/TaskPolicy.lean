import HidShift.Storage.Persistence

/-! When the storage task writes (`StorageTaskPolicy`).  The deadline of what
is staged is also the origin of the time after which a critical snapshot is
written in spite of active connections. -/

namespace HidShift

open Lib

structure StorageTaskPolicy where
  activeBleRetryMs : UInt64
  criticalForceQuiesceMs : UInt64

inductive StorageTaskAction
  | awaitCommand
  | waitForDeadline (delayMs : UInt64)
  | deferForActiveBle (delayMs : UInt64)
  | quiesceAndPersist (forced : Bool)
deriving DecidableEq, Repr

def saturatingSubMs (left right : UInt64) : UInt64 :=
  if right ≤ left then left - right else 0

namespace StoragePersistence

def remainingMs (persistence : StoragePersistence) (nowMs : UInt64) :
    Option UInt64 :=
  persistence.deadlineMs.map (saturatingSubMs · nowMs)

def overdueMs (persistence : StoragePersistence) (nowMs : UInt64) :
    Option UInt64 :=
  persistence.deadlineMs.map (saturatingSubMs nowMs ·)

end StoragePersistence

def StorageTaskPolicy.evaluateDue (policy : StorageTaskPolicy)
    (persistence : StoragePersistence) (nowMs : UInt64)
    (activeBleConnections : Nat) : StorageTaskAction :=
  if activeBleConnections = 0 then .quiesceAndPersist false
  else if persistence.pendingPriority = some .critical ∧
      policy.criticalForceQuiesceMs ≤ (persistence.overdueMs nowMs).getD 0 then
    .quiesceAndPersist true
  else
    .deferForActiveBle policy.activeBleRetryMs

def StorageTaskPolicy.evaluate (policy : StorageTaskPolicy)
    (persistence : StoragePersistence) (nowMs : UInt64)
    (activeBleConnections : Nat) : StorageTaskAction :=
  if persistence.pendingState.isNone then .awaitCommand
  else if persistence.retrySuspended then .awaitCommand
  else
    match persistence.remainingMs nowMs with
    | some delayMs =>
        if 0 < delayMs then .waitForDeadline delayMs
        else policy.evaluateDue persistence nowMs activeBleConnections
    | none => policy.evaluateDue persistence nowMs activeBleConnections

inductive StageCall
  | stage (state : StorageState) (priority : StoragePersistPriority)
      (nowMs : UInt64)
  | stageQuiesceSnapshot (state : StorageState) (nowMs : UInt64)

namespace StoragePersistence

def perform (persistence : StoragePersistence) :
    StageCall → StoragePersistence
  | .stage state priority nowMs => persistence.stage state priority nowMs
  | .stageQuiesceSnapshot state nowMs =>
      persistence.stageQuiesceSnapshot state nowMs

/-- The priority and the time a call stages its snapshot with.  A quiesce
snapshot of the pending generation only takes the place of the state. -/
def staged (persistence : StoragePersistence) :
    StageCall → Option (StoragePersistPriority × UInt64)
  | .stage _ priority nowMs => some (priority, nowMs)
  | .stageQuiesceSnapshot state nowMs =>
      if persistence.isNewSnapshot state then some (.critical, nowMs)
      else none

def after (normalDelayMs lazyDelayMs : UInt64) (calls : List StageCall) :
    StoragePersistence :=
  calls.foldl perform (new normalDelayMs lazyDelayMs)

/-- The call stages a snapshot of at least the pending priority when the
pending deadline has passed. -/
structure StagedLate (persistence : StoragePersistence) (call : StageCall)
    (priority : StoragePersistPriority) (nowMs deadlineMs : UInt64) :
    Prop where
  staged : persistence.staged call = some (priority, nowMs)
  covers : ∃ pending, persistence.pendingPriority = some pending ∧
    pending.rank ≤ priority.rank
  deadline : persistence.deadlineMs = some deadlineMs
  passed : deadlineMs ≤ nowMs

/-- Such a call does not move the deadline to a later time. -/
def NeverLater (persistence : StoragePersistence) (call : StageCall) :
    Prop :=
  ∀ priority nowMs deadlineMs,
    persistence.StagedLate call priority nowMs deadlineMs →
      ∃ next, (persistence.perform call).deadlineMs = some next ∧
        next ≤ deadlineMs

/-- Such a call comes at the very deadline, under a priority that is due at
once. -/
def InTime (persistence : StoragePersistence) (call : StageCall) : Prop :=
  ∀ priority nowMs deadlineMs,
    persistence.StagedLate call priority nowMs deadlineMs →
      deadlineMs = nowMs ∧
        saturatingAddMs nowMs (persistence.delayFor priority) = nowMs

variable {persistence : StoragePersistence} {call : StageCall}
  {priority : StoragePersistPriority} {nowMs : UInt64}

theorem le_saturatingAddMs (nowMs delayMs : UInt64) :
    nowMs ≤ saturatingAddMs nowMs delayMs := by
  have small := nowMs.toNat_lt
  have delaySmall := delayMs.toNat_lt
  have top : (UInt64.ofNat (UInt64.size - 1)).toNat =
      18446744073709551615 := rfl
  rw [saturatingAddMs]
  split
  · rename_i fits
    have room : (UInt64.ofNat (UInt64.size - 1) - delayMs).toNat =
        18446744073709551615 - delayMs.toNat := by
      rw [UInt64.toNat_sub_of_le, top]
      rw [UInt64.le_iff_toNat_le, top]
      omega
    rw [UInt64.le_iff_toNat_le, room] at fits
    rw [UInt64.le_iff_toNat_le, UInt64.toNat_add]
    omega
  · rw [UInt64.le_iff_toNat_le, top]
    omega

theorem saturatingAddMs_zero (nowMs : UInt64) :
    saturatingAddMs nowMs 0 = nowMs := by
  have small := nowMs.toNat_lt
  rw [saturatingAddMs, UInt64.sub_zero, UInt64.add_zero, if_pos]
  rw [UInt64.le_iff_toNat_le]
  change nowMs.toNat ≤ 18446744073709551615
  omega

theorem min_le_current (current other : UInt64) :
    min current other ≤ current := by
  change (if current ≤ other then current else other) ≤ current
  split
  · exact UInt64.le_refl _
  · rename_i larger
    exact UInt64.le_of_lt (UInt64.not_le.mp larger)

theorem stagedDeadline_of_covers
    (held : persistence.pendingPriority = some pending)
    (covers : pending.rank ≤ priority.rank) :
    persistence.stagedDeadline priority nowMs =
      saturatingAddMs nowMs (persistence.delayFor priority) := by
  have merged : persistence.mergedPriority priority = priority := by
    rw [mergedPriority, held]
    exact if_pos covers
  rw [stagedDeadline, merged]
  split
  · rfl
  · exact if_neg (not_not_intro rfl)

theorem perform_staged
    (staged : persistence.staged call = some (priority, nowMs)) :
    ∃ state, persistence.perform call =
      persistence.stage state priority nowMs := by
  cases call with
  | stage state own at_ =>
      cases staged
      exact ⟨state, rfl⟩
  | stageQuiesceSnapshot state at_ =>
      rw [StoragePersistence.staged] at staged
      split at staged
      · rename_i fresh
        cases staged
        exact ⟨state, if_pos fresh⟩
      · cases staged

theorem neverLater_iff :
    persistence.NeverLater call ↔ persistence.InTime call := by
  have restarted : ∀ priority nowMs deadlineMs,
      persistence.StagedLate call priority nowMs deadlineMs →
        (persistence.perform call).deadlineMs = some
          (saturatingAddMs nowMs (persistence.delayFor priority)) := by
    intro priority nowMs deadlineMs late
    obtain ⟨state, performed⟩ := perform_staged late.staged
    obtain ⟨pending, held, covers⟩ := late.covers
    rw [performed]
    exact congrArg some (stagedDeadline_of_covers held covers)
  constructor
  · intro never priority nowMs deadlineMs late
    obtain ⟨next, moved, notLater⟩ := never priority nowMs deadlineMs late
    rw [restarted _ _ _ late, Option.some.injEq] at moved
    have after := le_saturatingAddMs nowMs (persistence.delayFor priority)
    rw [← moved] at notLater
    have same := UInt64.le_antisymm late.passed (UInt64.le_trans after notLater)
    rw [same] at notLater
    exact ⟨same, UInt64.le_antisymm notLater after⟩
  · intro inTime priority nowMs deadlineMs late
    obtain ⟨same, atOnce⟩ := inTime priority nowMs deadlineMs late
    refine ⟨_, restarted _ _ _ late, ?_⟩
    rw [atOnce, same]
    exact UInt64.le_refl _

structure CriticalSince (persistence : StoragePersistence)
    (sinceMs : UInt64) : Prop where
  state : persistence.pendingState.isSome = true
  priority : persistence.pendingPriority = some .critical
  deadline : ∃ deadlineMs, persistence.deadlineMs = some deadlineMs ∧
    deadlineMs ≤ sinceMs
  retries : persistence.retrySuspended = false

theorem retries_perform (retries : persistence.retrySuspended = false)
    (call : StageCall) : (persistence.perform call).retrySuspended =
      false := by
  have stays : ∀ state priority nowMs,
      (persistence.stage state priority nowMs).retrySuspended = false := by
    intro state priority nowMs
    rw [stage]
    dsimp only
    split
    · rfl
    · exact retries
  cases call with
  | stage state priority nowMs => exact stays state priority nowMs
  | stageQuiesceSnapshot state nowMs =>
      rw [perform, stageQuiesceSnapshot]
      split
      · exact stays state .critical nowMs
      · exact retries

theorem criticalSince_staged (retries : persistence.retrySuspended = false)
    (staged : persistence.staged call = some (.critical, nowMs)) :
    (persistence.perform call).CriticalSince nowMs := by
  have kept := retries_perform retries call
  obtain ⟨state, performed⟩ := perform_staged staged
  rw [performed] at kept ⊢
  have merged : persistence.mergedPriority .critical = .critical := by
    rw [mergedPriority]
    cases persistence.pendingPriority with
    | none => rfl
    | some pending => cases pending <;> rfl
  refine ⟨rfl, congrArg some merged, ⟨_, rfl, ?_⟩, kept⟩
  have atOnce : persistence.stagedDeadline .critical nowMs = nowMs := by
    rw [stagedDeadline, merged]
    have delay : persistence.delayFor .critical = 0 := rfl
    rw [delay, saturatingAddMs_zero]
    split
    · rfl
    · exact if_neg (not_not_intro rfl)
  rw [atOnce]
  exact UInt64.le_refl _

theorem CriticalSince.perform (critical : persistence.CriticalSince sinceMs)
    (inTime : persistence.InTime call) :
    (persistence.perform call).CriticalSince sinceMs := by
  have kept := retries_perform critical.retries call
  obtain ⟨deadlineMs, deadline, due⟩ := critical.deadline
  cases found : persistence.staged call with
  | none =>
      cases call with
      | stage state priority nowMs => cases found
      | stageQuiesceSnapshot state nowMs =>
          rw [staged] at found
          split at found
          · cases found
          · rename_i known
            have same : persistence.perform (.stageQuiesceSnapshot state
                nowMs) = { persistence with pendingState := some state } :=
              if_neg known
            rw [same]
            exact ⟨rfl, critical.priority, critical.deadline, critical.retries⟩
  | some entry =>
      obtain ⟨priority, nowMs⟩ := entry
      obtain ⟨state, performed⟩ := perform_staged found
      by_cases covers : priority = .critical
      · subst covers
        by_cases passed : deadlineMs ≤ nowMs
        · have late : persistence.StagedLate call .critical nowMs
              deadlineMs :=
            ⟨found, ⟨.critical, critical.priority, Nat.le_refl _⟩, deadline,
              passed⟩
          obtain ⟨next, moved, notLater⟩ :=
            neverLater_iff.mpr inTime _ _ _ late
          have staged := criticalSince_staged critical.retries found
          exact ⟨staged.state, staged.priority,
            ⟨next, moved, UInt64.le_trans notLater due⟩, kept⟩
        · have staged := criticalSince_staged critical.retries found
          obtain ⟨next, moved, notLater⟩ := staged.deadline
          refine ⟨staged.state, staged.priority, ⟨next, moved, ?_⟩, kept⟩
          exact UInt64.le_trans notLater (UInt64.le_trans
            (UInt64.le_of_lt (UInt64.not_le.mp passed)) due)
      · have merged : persistence.mergedPriority priority = .critical := by
          rw [mergedPriority, critical.priority]
          cases priority with
          | critical => exact (covers rfl).elim
          | normal => rfl
          | lazy => rfl
        rw [performed] at kept ⊢
        refine ⟨rfl, congrArg some merged, ⟨_, rfl, ?_⟩, kept⟩
        rw [stagedDeadline, merged, deadline]
        dsimp only
        rw [if_pos (Ne.symm covers)]
        exact UInt64.le_trans (min_le_current _ _) due

theorem evaluate_critical (critical : persistence.CriticalSince sinceMs)
    (policy : StorageTaskPolicy)
    (late : sinceMs.toNat + policy.criticalForceQuiesceMs.toNat ≤
      nowMs.toNat) (activeBleConnections : Nat) :
    ∃ forced, policy.evaluate persistence nowMs activeBleConnections =
      .quiesceAndPersist forced := by
  obtain ⟨deadlineMs, deadline, due⟩ := critical.deadline
  rw [UInt64.le_iff_toNat_le] at due
  have passed : deadlineMs ≤ nowMs := by
    rw [UInt64.le_iff_toNat_le]
    omega
  have remaining : persistence.remainingMs nowMs = some 0 := by
    rw [remainingMs, deadline, Option.map_some, saturatingSubMs]
    split
    · rename_i exactly
      rw [UInt64.le_antisymm exactly passed, UInt64.sub_self]
    · rfl
  have overdue : persistence.overdueMs nowMs =
      some (nowMs - deadlineMs) := by
    rw [overdueMs, deadline, Option.map_some, saturatingSubMs, if_pos passed]
  have enough : policy.criticalForceQuiesceMs ≤ nowMs - deadlineMs := by
    rw [UInt64.le_iff_toNat_le, UInt64.toNat_sub_of_le _ _ passed]
    omega
  have pending : ¬ persistence.pendingState.isNone = true := by
    rw [Option.isNone_eq_false_iff.mpr critical.state]
    exact Bool.false_ne_true
  rw [StorageTaskPolicy.evaluate, if_neg pending, critical.retries,
    if_neg Bool.false_ne_true, remaining]
  dsimp only
  rw [if_neg (UInt64.lt_irrefl 0), StorageTaskPolicy.evaluateDue]
  by_cases idle : activeBleConnections = 0
  · exact ⟨false, if_pos idle⟩
  · rw [if_neg idle, overdue, Option.getD_some,
      if_pos ⟨critical.priority, enough⟩]
    exact ⟨true, rfl⟩

theorem retries_after (persistence : StoragePersistence)
    (retries : persistence.retrySuspended = false) (calls : List StageCall) :
    (calls.foldl perform persistence).retrySuspended = false := by
  induction calls generalizing persistence with
  | nil => exact retries
  | cons call rest ih => exact ih _ (retries_perform retries call)

end StoragePersistence

/-- A critical snapshot is staged 1.5 seconds after another.  Two seconds after
the first the task still waits for the connection to end. -/
def restaged : List StageCall :=
  [.stage (.new 1) .critical 0, .stage (.new 2) .critical 1500]

theorem restaged_critical_waits :
    ¬ Along StoragePersistence.perform StoragePersistence.NeverLater
        (.new 100 1000) restaged ∧
      (StoragePersistence.new 100 1000).staged (.stage (.new 1) .critical 0) =
        some (.critical, 0) ∧
      StorageTaskPolicy.evaluate ⟨250, 2000⟩
        (StoragePersistence.after 100 1000 restaged) 2000 1 =
          .deferForActiveBle 250 := by
  refine ⟨fun never => ?_, rfl, by decide +kernel⟩
  obtain ⟨next, moved, notLater⟩ := never.2.1 .critical 1500 0
    ⟨rfl, ⟨.critical, rfl, Nat.le_refl _⟩, rfl, by decide⟩
  have restarted : (((StoragePersistence.new 100 1000).stage (.new 1)
      .critical 0).stage (.new 2) .critical 1500).deadlineMs =
        some 1500 := by
    decide +kernel
  have same : next = 1500 :=
    Option.some.inj (moved.symm.trans restarted)
  rw [same] at notLater
  exact absurd notLater (by decide)

/-- Snapshots are staged in a run none of which comes late.  Then a deadline
that has passed stays, and a critical snapshot is written once its time is
up, whatever was staged since and however many connections there are. -/
theorem critical_not_starved (normalDelayMs lazyDelayMs : UInt64)
    (policy : StorageTaskPolicy) (calls : List StageCall)
    (inTime : Along StoragePersistence.perform StoragePersistence.InTime
      (.new normalDelayMs lazyDelayMs) calls) :
    Along StoragePersistence.perform StoragePersistence.NeverLater
        (.new normalDelayMs lazyDelayMs) calls ∧
      ∀ before call later sinceMs nowMs activeBleConnections,
        calls = before ++ call :: later →
        (StoragePersistence.after normalDelayMs lazyDelayMs before).staged
          call = some (.critical, sinceMs) →
        sinceMs.toNat + policy.criticalForceQuiesceMs.toNat ≤ nowMs.toNat →
        ∃ forced, policy.evaluate
          (StoragePersistence.after normalDelayMs lazyDelayMs calls) nowMs
            activeBleConnections = .quiesceAndPersist forced := by
  refine ⟨inTime.imp fun _ _ holds =>
    StoragePersistence.neverLater_iff.mpr holds, ?_⟩
  intro before call later sinceMs nowMs active split staged late
  rw [split] at inTime ⊢
  obtain ⟨_, rest⟩ := inTime.append
  have retries := StoragePersistence.retries_after
    (.new normalDelayMs lazyDelayMs) rfl before
  have critical := rest.2.invariant
    (fun persistence => persistence.CriticalSince sinceMs)
    (StoragePersistence.criticalSince_staged retries staged)
    fun persistence call held inTime => held.perform inTime
  rw [StoragePersistence.after, List.foldl_append, List.foldl_cons]
  exact StoragePersistence.evaluate_critical critical policy late active

/-- A lazy snapshot does not keep a critical one back. -/
theorem critical_not_starved_lazy :
    ∃ forced, StorageTaskPolicy.evaluate ⟨250, 2000⟩
      (StoragePersistence.after 100 1000
        [.stage (.new 1) .critical 0, .stage (.new 2) .lazy 1500]) 2000 1 =
          .quiesceAndPersist forced := by
  refine (critical_not_starved 100 1000 ⟨250, 2000⟩
    [.stage (.new 1) .critical 0, .stage (.new 2) .lazy 1500]
    ⟨?_, ?_, trivial⟩).2 [] (.stage (.new 1) .critical 0)
      [.stage (.new 2) .lazy 1500] 0 2000 1 rfl rfl (by decide)
  · intro priority nowMs deadlineMs late
    cases late.deadline
  · intro priority nowMs deadlineMs late
    obtain ⟨pending, held, covers⟩ := late.covers
    cases late.staged
    cases held
    exact absurd covers (by decide)

end HidShift
