import HidShift.Lib.InPlace

/-! Pre- and postconditions of fallible computations, with a condition of
their own for the states in which a computation fails. -/

namespace HidShift.Lib.InPlace

variable {ε ε' σ α β : Type}

/-- Started under `pre`, the computation finishes under `post` or stops under
`failed`. -/
structure Stops (program : InPlace ε σ α) (before : σ) (post : α → σ → Prop)
    (failed : σ → Prop) : Prop where
  finished : ∀ value after, program.run before = .ok value after →
    post value after
  stopped : ∀ error after, program.run before = .error error after →
    failed after

def Triple (pre : σ → Prop) (program : InPlace ε σ α) (post : α → σ → Prop)
    (failed : σ → Prop) : Prop :=
  ∀ before, pre before → Stops program before post failed

section

variable {pre : σ → Prop} {failed : σ → Prop}

variable {post : α → σ → Prop} {program : InPlace ε σ α}

theorem stops_of_ok (finished : program.run before = .ok value after)
    (holds : post value after) :
    Stops program before post failed := by
  refine ⟨fun _ _ same => ?_, fun _ _ impossible => ?_⟩
  · rw [finished] at same
    cases same
    exact holds
  · rw [finished] at impossible
    cases impossible

theorem stops_of_error (stopped : program.run before = .error error after)
    (holds : failed after) :
    Stops program before post failed := by
  refine ⟨fun _ _ impossible => ?_, fun _ _ same => ?_⟩
  · rw [stopped] at impossible
    cases impossible
  · rw [stopped] at same
    cases same
    exact holds

theorem triple_pure (holds : ∀ state, pre state → post value state) :
    Triple pre (pure value : InPlace ε σ α) post failed :=
  fun before start => stops_of_ok rfl (holds before start)

theorem triple_throw (holds : ∀ state, pre state → failed state) :
    Triple pre (throw error : InPlace ε σ α) post failed :=
  fun before start => stops_of_error rfl (holds before start)

theorem triple_modify {update : σ → σ} {post : PUnit → σ → Prop}
    (holds : ∀ state, pre state → post ⟨⟩ (update state)) :
    Triple pre (modify update : InPlace ε σ PUnit) post failed :=
  fun before start => stops_of_ok rfl (holds before start)

theorem triple_bind (firstTriple : Triple pre first middle failed)
    (secondTriple : ∀ value, Triple (middle value) (second value) post
      failed) : Triple pre (first >>= second) post failed := by
  intro before holds
  have run : (first >>= second).run before =
      EStateM.bind first second before := rfl
  cases reached : first.run before with
  | ok value between =>
      have rest := secondTriple value between
        ((firstTriple before holds).finished value between reached)
      simp only [EStateM.run] at reached
      have continued : (first >>= second).run before =
          (second value).run between := by
        rw [run, EStateM.bind, reached]
        rfl
      refine ⟨fun result after done => ?_, fun error after done => ?_⟩
      · exact rest.finished result after (continued.symm.trans done)
      · exact rest.stopped error after (continued.symm.trans done)
  | error error between =>
      have stopped := (firstTriple before holds).stopped error between reached
      simp only [EStateM.run] at reached
      have failing : (first >>= second).run before = .error error between := by
        rw [run, EStateM.bind, reached]
      exact stops_of_error failing stopped

theorem triple_lift_bind {convert : ε' → ε} {result : Except ε' α}
    {post : β → σ → Prop} {second : α → InPlace ε σ β}
    (finished : ∀ value, result = .ok value →
      Triple pre (second value) post failed)
    (stopped : ∀ error, result = .error error → ∀ state, pre state →
      failed state) :
    Triple pre (lift convert result >>= second) post failed := by
  cases result with
  | ok value =>
      intro before holds
      obtain ⟨done, failing⟩ := finished value rfl before holds
      exact ⟨done, failing⟩
  | error error =>
      intro before holds
      exact stops_of_error rfl (stopped error rfl before holds)

theorem triple_get_bind
    (read : ∀ state, pre state → Triple (· = state) (second state) post
      failed) : Triple pre (get >>= second) post failed := by
  intro before holds
  obtain ⟨finished, stopped⟩ := read before holds before rfl
  exact ⟨finished, stopped⟩

theorem triple_weaken (valid : Triple pre program post failed)
    (before : ∀ state, pre' state → pre state)
    (after : ∀ value state, post value state → post' value state)
    (stopped : ∀ state, failed state → failed' state) :
    Triple pre' program post' failed' := by
  intro state holds
  have reached := valid state (before state holds)
  refine ⟨fun value next done => ?_, fun error next done => ?_⟩
  · exact after value next (reached.finished value next done)
  · exact stopped next (reached.stopped error next done)

theorem triple_ite [Decidable condition]
    (taken : condition → Triple pre positive post failed)
    (skipped : ¬ condition → Triple pre negative post failed) :
    Triple pre (if condition then positive else negative) post failed := by
  split
  · exact taken ‹_›
  · exact skipped ‹_›

theorem triple_when {condition : Prop} [Decidable condition]
    {program : InPlace ε σ Unit} {post : Unit → σ → Prop}
    (taken : condition → Triple pre program post failed)
    (skipped : ¬ condition → ∀ state, pre state → post () state) :
    Triple pre (when condition program) post failed :=
  triple_ite taken fun otherwise => triple_pure (skipped otherwise)

theorem triple_of_state
    (each : ∀ state, pre state → Triple (· = state) program post failed) :
    Triple pre program post failed := by
  intro before holds
  exact each before holds before rfl

theorem triple_bind_exact (firstTriple : Triple pre first
      (fun result after => result = value ∧ after = middle) failed)
    (rest : Triple (· = middle) (second value) post failed) :
    Triple pre (first >>= second) post failed := by
  apply triple_bind firstTriple
  intro result
  apply triple_of_state
  intro state reached
  rw [reached.1, reached.2]
  exact rest

end

theorem Triple.finishes (valid : Triple pre program post fun _ => False)
    (holds : pre before) :
    ∃ value after, program.run before = .ok value after ∧
      post value after := by
  cases done : program.run before with
  | ok value after =>
      exact ⟨value, after, rfl, (valid before holds).finished value after done⟩
  | error error after =>
      exact ((valid before holds).stopped error after done).elim

end HidShift.Lib.InPlace
