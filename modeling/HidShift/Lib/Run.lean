import Mathlib.Data.List.Basic
import Mathlib.Data.List.Induction

/-! Runs of a labelled transition system, kept as the list of transitions
taken.  An output is whatever a step shows to its environment. -/

namespace HidShift.Lib

structure Transition (σ ε ω : Type) where
  before : σ
  event : ε
  output : ω
  after : σ

variable {σ ε ω γ : Type}

inductive Run (step : σ → ε → ω → σ → Prop) :
    σ → List (Transition σ ε ω) → σ → Prop
  | nil (state : σ) : Run step state [] state
  | cons {start next finish : σ} {event : ε} {output : ω}
      {history : List (Transition σ ε ω)}
      (taken : step start event output next)
      (rest : Run step next history finish) :
      Run step start (⟨start, event, output, next⟩ :: history) finish

namespace Run

variable {step : σ → ε → ω → σ → Prop}

theorem append_iff :
    Run step start (first ++ second) finish ↔
      ∃ middle, Run step start first middle ∧
        Run step middle second finish := by
  constructor
  · intro run
    induction first generalizing start with
    | nil => exact ⟨start, .nil start, run⟩
    | cons head tail ih =>
        cases run with
        | cons taken rest =>
            obtain ⟨middle, tailRun, secondRun⟩ := ih rest
            exact ⟨middle, .cons taken tailRun, secondRun⟩
  · rintro ⟨middle, firstRun, secondRun⟩
    induction firstRun with
    | nil => exact secondRun
    | cons taken _ ih => exact .cons taken (ih secondRun)

theorem singleton_iff :
    Run step start [taken] finish ↔
      start = taken.before ∧ finish = taken.after ∧
        step taken.before taken.event taken.output taken.after := by
  constructor
  · intro run
    cases run with
    | cons head rest =>
        cases rest
        exact ⟨rfl, rfl, head⟩
  · rintro ⟨rfl, rfl, head⟩
    exact .cons head (.nil _)

theorem step_of_mem (run : Run step start history finish)
    (member : taken ∈ history) :
    step taken.before taken.event taken.output taken.after := by
  induction run with
  | nil => cases member
  | cons head _ ih =>
      rcases List.mem_cons.mp member with rfl | later
      · exact head
      · exact ih later

/-- The invariant rule: what holds at the start and is kept by every step
holds at the end.  Steps may be restricted by what is known of each
transition of the run. -/
theorem invariant (run : Run step start history finish) (invariant : σ → Prop)
    (initially : invariant start)
    (kept : ∀ taken ∈ history,
      step taken.before taken.event taken.output taken.after →
        invariant taken.before → invariant taken.after) :
    invariant finish := by
  induction run with
  | nil => exact initially
  | cons head _ ih =>
      apply ih (kept _ (List.mem_cons_self ..) head initially)
      intro taken member
      exact kept taken (List.mem_cons_of_mem _ member)

/-- The invariant rule with an auxiliary value folded along the run. -/
theorem invariant_foldl (run : Run step start history finish)
    (update : γ → Transition σ ε ω → γ) (aux : γ) (invariant : σ → γ → Prop)
    (initially : invariant start aux)
    (kept : ∀ taken ∈ history, ∀ aux,
      step taken.before taken.event taken.output taken.after →
        invariant taken.before aux → invariant taken.after (update aux taken)) :
    invariant finish (history.foldl update aux) := by
  induction run generalizing aux with
  | nil => exact initially
  | cons head _ ih =>
      refine ih (update aux _)
        (kept _ (List.mem_cons_self ..) aux head initially) ?_
      intro taken member
      exact kept taken (List.mem_cons_of_mem _ member)

/-- The invariant rule for a statement about everything done so far. -/
theorem invariant_history (run : Run step start history finish)
    (invariant : List (Transition σ ε ω) → σ → Prop)
    (initially : invariant [] start)
    (kept : ∀ earlier taken later, history = earlier ++ taken :: later →
      step taken.before taken.event taken.output taken.after →
        invariant earlier taken.before →
          invariant (earlier ++ [taken]) taken.after) :
    invariant history finish := by
  induction history using List.reverseRecOn generalizing finish with
  | nil =>
      cases run
      exact initially
  | append_singleton earlier taken ih =>
      obtain ⟨middle, firstRun, lastRun⟩ := append_iff.mp run
      obtain ⟨rfl, rfl, last⟩ := singleton_iff.mp lastRun
      apply kept earlier taken [] rfl last
      apply ih firstRun
      intro before earlierTaken later split
      apply kept before earlierTaken (later ++ [taken])
      rw [split, List.append_assoc]
      rfl

theorem mono (run : Run step start history finish)
    (weaker : ∀ before event output after,
      step before event output after → other before event output after) :
    Run other start history finish := by
  induction run with
  | nil => exact .nil _
  | cons taken _ ih => exact .cons (weaker _ _ _ _ taken) ih

theorem split_at (run : Run step start (before ++ taken :: after) finish) :
    Run step start before taken.before ∧
      step taken.before taken.event taken.output taken.after ∧
        Run step taken.after after finish := by
  obtain ⟨middle, first, second⟩ := append_iff.mp run
  cases second with
  | cons head rest => exact ⟨first, head, rest⟩

section

variable (holds : Transition σ ε ω → Prop) [DecidablePred holds]

def lastWhere (history : List (Transition σ ε ω)) :
    Option (Transition σ ε ω) :=
  (history.filter fun taken => holds taken).getLast?

theorem lastWhere_append_pos (history : List (Transition σ ε ω))
    (found : holds taken) :
    lastWhere holds (history ++ [taken]) = some taken := by
  rw [lastWhere, List.filter_append, List.filter_singleton,
    decide_eq_true found]
  exact List.getLast?_concat

theorem lastWhere_append_neg (history : List (Transition σ ε ω))
    (other : ¬ holds taken) :
    lastWhere holds (history ++ [taken]) = lastWhere holds history := by
  rw [lastWhere, List.filter_append, List.filter_singleton,
    decide_eq_false other]
  exact congrArg List.getLast? (List.append_nil _)

theorem mem_of_lastWhere (found : lastWhere holds history = some last) :
    last ∈ history ∧ holds last := by
  obtain ⟨member, kind⟩ :=
    List.mem_filter.mp (List.mem_of_getLast? found)
  exact ⟨member, of_decide_eq_true kind⟩

end

section

variable (advance : σ → ε → σ × ω)

def trace : σ → List ε → List (Transition σ ε ω)
  | _, [] => []
  | state, event :: rest =>
      ⟨state, event, (advance state event).2, (advance state event).1⟩ ::
        trace (advance state event).1 rest

def final : σ → List ε → σ
  | state, [] => state
  | state, event :: rest => final (advance state event).1 rest

theorem event_mem_of_mem_trace (member : taken ∈ trace advance start events) :
    taken.event ∈ events := by
  induction events generalizing start with
  | nil => cases member
  | cons event rest ih =>
      rcases List.mem_cons.mp member with rfl | later
      · exact List.mem_cons_self
      · exact List.mem_cons_of_mem _ (ih later)

theorem of_trace (start : σ) (events : List ε) :
    Run (fun before event output after =>
        advance before event = (after, output))
      start (trace advance start events) (final advance start events) := by
  induction events generalizing start with
  | nil => exact .nil start
  | cons event rest ih => exact .cons rfl (ih _)

end

variable (advance : σ → ε → Option (σ × ω))

def attempt : σ → List ε → Option (σ × List ω)
  | state, [] => some (state, [])
  | state, event :: rest => do
      let (next, output) ← advance state event
      let (finish, outputs) ← attempt next rest
      return (finish, output :: outputs)

variable {advance} in
theorem attempt_cons (taken : advance start event = some (next, output))
    (later : attempt advance next rest = some (finish, outputs)) :
    attempt advance start (event :: rest) =
      some (finish, output :: outputs) := by
  simp only [attempt, taken, later, Option.bind_eq_bind, Option.bind_some,
    Option.pure_def]

theorem of_attempt
    (reached : attempt advance start events = some (finish, outputs)) :
    ∃ history, Run (fun before event output after =>
        advance before event = some (after, output))
      start history finish ∧ history.map Transition.event = events ∧
        history.map Transition.output = outputs := by
  induction events generalizing start outputs with
  | nil =>
      cases reached
      exact ⟨[], .nil finish, rfl, rfl⟩
  | cons event rest ih =>
      obtain ⟨⟨next, output⟩, taken, later⟩ :=
        Option.bind_eq_some_iff.mp reached
      obtain ⟨⟨last, others⟩, attempted, same⟩ :=
        Option.bind_eq_some_iff.mp later
      cases same
      obtain ⟨history, run, rfl, rfl⟩ := ih attempted
      exact ⟨_, .cons taken run, rfl, rfl⟩

def checked (check : σ → ε → Bool) (state : σ) (event : ε) :
    Option (σ × ω) :=
  if check state event then advance state event else none

theorem of_attempt_checked (check : σ → ε → Bool)
    (reached : attempt (checked advance check) start events =
      some (finish, outputs)) :
    ∃ history, Run (fun before event output after =>
        advance before event = some (after, output))
      start history finish ∧ history.map Transition.event = events ∧
        history.map Transition.output = outputs ∧
          ∀ taken ∈ history, check taken.before taken.event = true := by
  obtain ⟨history, run, same, shown⟩ := of_attempt _ reached
  refine ⟨history, run.mono fun before event output after taken => ?_, same,
    shown, fun taken member => ?_⟩
  · exact (Option.ite_none_right_eq_some.mp taken).2
  · exact (Option.ite_none_right_eq_some.mp (run.step_of_mem member)).1

end Run

/-- The condition holds of every event of the run, at the state it finds. -/
def Along (step : σ → ε → σ) (condition : σ → ε → Prop) : σ → List ε → Prop
  | _, [] => True
  | state, event :: events =>
      condition state event ∧ Along step condition (step state event) events

namespace Along

variable {step : σ → ε → σ} {condition : σ → ε → Prop}

theorem invariant (along : Along step condition start events)
    (invariant : σ → Prop) (initially : invariant start)
    (kept : ∀ state event, invariant state → condition state event →
      invariant (step state event)) :
    invariant (events.foldl step start) := by
  induction events generalizing start with
  | nil => exact initially
  | cons event events ih =>
      exact ih along.2 (kept start event initially along.1)

theorem of_forall (always : ∀ state event, condition state event) :
    Along step condition start events := by
  induction events generalizing start with
  | nil => trivial
  | cons event events ih => exact ⟨always start event, ih⟩

theorem imp (along : Along step condition start events)
    (weaker : ∀ state event, condition state event → other state event) :
    Along step other start events := by
  induction events generalizing start with
  | nil => trivial
  | cons event events ih =>
      exact ⟨weaker start event along.1, ih along.2⟩

theorem append {start : σ} {first second : List ε}
    (along : Along step condition start (first ++ second)) :
    Along step condition start first ∧
      Along step condition (first.foldl step start) second := by
  induction first generalizing start with
  | nil => exact ⟨trivial, along⟩
  | cons event first ih =>
      obtain ⟨front, back⟩ := ih along.2
      exact ⟨⟨along.1, front⟩, back⟩

theorem and (along : Along step condition start events)
    (also : Along step other start events) :
    Along step (fun state event => condition state event ∧ other state event)
      start events := by
  induction events generalizing start with
  | nil => trivial
  | cons event events ih => exact ⟨⟨along.1, also.1⟩, ih along.2 also.2⟩

end Along

end HidShift.Lib
