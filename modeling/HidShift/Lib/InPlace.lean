import Mathlib.Logic.Basic

/-! Fallible computations that update a state in place.  A failing computation
keeps the state it had reached, as a function behind `&mut self` does. -/

namespace HidShift.Lib

theorem bind_eq_ok {ε α β : Type} {first : Except ε α}
    {second : α → Except ε β} {result : β} :
    first >>= second = .ok result ↔
      ∃ value, first = .ok value ∧ second value = .ok result := by
  cases first <;> simp [bind, Except.bind]

theorem map_eq_ok {ε α β : Type} {result : Except ε α} {convert : α → β}
    {value : β} :
    convert <$> result = .ok value ↔
      ∃ original, result = .ok original ∧ convert original = value := by
  cases result <;> simp [Functor.map, Except.map]

theorem ok_bind {ε α β : Type} (value : α) (next : α → Except ε β) :
    (Except.ok value >>= next) = next value := rfl

def require {ε : Type} (condition : Prop) [Decidable condition]
    (error : ε) : Except ε Unit :=
  if condition then .ok () else .error error

theorem require_pos {ε : Type} [Decidable condition] (holds : condition)
    (error : ε) : require condition error = .ok () :=
  if_pos holds

@[simp] theorem require_eq_ok [Decidable condition] :
    require condition error = .ok done ↔ condition := by
  simp only [require]
  split <;> simp [*]

/-- The rule for a loop that an error ends: each turn keeps what holds of the
turns so far, or ends in what an error leaves. -/
theorem foldlM_keeps {ε σ β : Type} {step : σ → β → Except ε σ}
    (kept : List β → σ → Prop) (left : ε → Prop) {turns : List β} {start : σ}
    (initially : kept [] start)
    (turn : ∀ before next after state, turns = before ++ next :: after →
      kept before state →
        (∀ result, step state next = .ok result →
          kept (before ++ [next]) result) ∧
        ∀ error, step state next = .error error → left error) :
    (∀ result, turns.foldlM step start = .ok result → kept turns result) ∧
      ∀ error, turns.foldlM step start = .error error → left error := by
  have loop (before ahead : List β) (split : turns = before ++ ahead)
      (state : σ) (reached : kept before state) :
      (∀ result, ahead.foldlM step state = .ok result → kept turns result) ∧
        ∀ error, ahead.foldlM step state = .error error → left error := by
    induction ahead generalizing before state with
    | nil =>
        rw [List.append_nil] at split
        subst split
        refine ⟨fun result same => ?_, fun error same => (by cases same)⟩
        cases same
        exact reached
    | cons next after ih =>
        obtain ⟨finishes, fails⟩ := turn before next after state split reached
        rw [List.foldlM_cons]
        cases ran : step state next with
        | error error =>
            refine ⟨fun result same => (by cases same), fun other same => ?_⟩
            cases same
            exact fails error ran
        | ok middle =>
            exact ih (before ++ [next]) (by simpa using split) middle
              (finishes middle ran)
  exact loop [] turns rfl start initially

abbrev InPlace (ε σ : Type) := EStateM ε σ

namespace InPlace

variable {ε ε' σ α β : Type}

/-- The computation finished with a value in a state. -/
def Succeeds (program : InPlace ε σ α) (before : σ) (value : α)
    (after : σ) : Prop :=
  program.run before = .ok value after

/-- Runs a pure fallible computation without touching the state. -/
def lift (convert : ε' → ε) : Except ε' α → InPlace ε σ α
  | .ok value => pure value
  | .error error => throw (convert error)

/-- Runs a computation under a condition. -/
def when (condition : Prop) [Decidable condition]
    (program : InPlace ε σ Unit) : InPlace ε σ Unit :=
  if condition then program else pure ()

section

variable {before after : σ}

@[simp] theorem succeeds_pure :
    Succeeds (pure value : InPlace ε σ α) before result after ↔
      value = result ∧ before = after := by
  show EStateM.Result.ok value before = .ok result after ↔ _
  rw [EStateM.Result.ok.injEq]

@[simp] theorem succeeds_bind :
    Succeeds (first >>= second) before result after ↔
      ∃ value middle, Succeeds first before value middle ∧
        Succeeds (second value) middle result after := by
  show EStateM.bind first second before = .ok result after ↔ _
  simp only [Succeeds, EStateM.bind, EStateM.run]
  cases first before with
  | ok value middle =>
      constructor
      · exact fun finished => ⟨value, middle, rfl, finished⟩
      · rintro ⟨_, _, reached, finished⟩
        cases reached
        exact finished
  | error error middle => simp

@[simp] theorem succeeds_get :
    Succeeds (get : InPlace ε σ σ) before result after ↔
      before = result ∧ before = after := by
  show EStateM.Result.ok before before = .ok result after ↔ _
  rw [EStateM.Result.ok.injEq]

@[simp] theorem succeeds_modify :
    Succeeds (modify update : InPlace ε σ PUnit) before result after ↔
      after = update before := by
  show EStateM.Result.ok PUnit.unit (update before) = .ok result after ↔ _
  rw [EStateM.Result.ok.injEq, @eq_comm _ (update before)]
  exact ⟨And.right, fun same => ⟨rfl, same⟩⟩

@[simp] theorem succeeds_throw :
    ¬ Succeeds (throw error : InPlace ε σ α) before result after := by
  intro impossible
  cases impossible

@[simp] theorem succeeds_lift {outcome : Except ε' α} :
    Succeeds (lift convert outcome : InPlace ε σ α) before result after ↔
      outcome = .ok result ∧ before = after := by
  cases outcome with
  | ok value => simp [lift]
  | error error => simp [lift]

@[simp] theorem succeeds_set :
    Succeeds (set state : InPlace ε σ PUnit) before result after ↔
      after = state := by
  show EStateM.Result.ok PUnit.unit state = .ok result after ↔ _
  rw [EStateM.Result.ok.injEq, @eq_comm _ state]
  exact ⟨And.right, fun same => ⟨rfl, same⟩⟩

theorem succeeds_when [Decidable condition] :
    Succeeds (when condition program) before result after ↔
      (condition ∧ Succeeds program before result after) ∨
        (¬ condition ∧ before = after) := by
  simp only [when]
  split <;> simp [*]

theorem succeeds_ite [Decidable condition] :
    Succeeds (if condition then positive else negative) before result after ↔
      (condition ∧ Succeeds positive before result after) ∨
        (¬ condition ∧ Succeeds negative before result after) := by
  split <;> simp [*]

end

theorem error_of_lift_bind
    (failed : (lift convert result >>= second).run before =
      .error error after) :
    after = before ∨ ∃ value, result = .ok value ∧
      (second value).run before = .error error after := by
  cases result with
  | ok value => exact .inr ⟨value, rfl, failed⟩
  | error cause =>
      cases failed
      exact .inl rfl

/-- The computation does to the state what a function does, and one that fails
leaves the state as it was. -/
def Updates (program : InPlace ε σ Unit) (update : σ → Except ε σ) : Prop :=
  ∀ before,
    (∀ after, update before = .ok after → program.run before = .ok () after) ∧
    ∀ error, update before = .error error →
      program.run before = .error error before

theorem Updates.of_error {program : InPlace ε σ Unit}
    (updates : Updates program update)
    (failed : program.run before = .error error after) :
    after = before ∧ update before = .error error := by
  cases updated : update before with
  | ok result =>
      rw [(updates before).1 result updated] at failed
      cases failed
  | error cause =>
      rw [(updates before).2 cause updated] at failed
      cases failed
      exact ⟨rfl, rfl⟩

/-! What holds however a computation ends.  A failing computation leaves the
state it had reached, so the rules look at every state it may stop in. -/

/-- The state a computation ends in, finished or failed. -/
def outcome (program : InPlace ε σ α) (before : σ) : σ :=
  match program.run before with
  | .ok _ after => after
  | .error _ after => after

/-- Wherever the computation ends, the invariant still holds. -/
def Keeps (invariant : σ → Prop) (program : InPlace ε σ α) : Prop :=
  ∀ before, invariant before → invariant (program.outcome before)

section

variable {invariant : σ → Prop}

variable {program : InPlace ε σ α} {before after : σ} {first : InPlace ε σ α}

theorem outcome_of_ok (finished : program.run before = .ok value after) :
    program.outcome before = after := by
  simp only [outcome, finished]

theorem outcome_of_error (failed : program.run before = .error error after) :
    program.outcome before = after := by
  simp only [outcome, failed]

theorem outcome_bind_ok (finished : first.run before = .ok value middle)
    (second : α → InPlace ε σ β) :
    (first >>= second).outcome before = (second value).outcome middle := by
  show outcome (EStateM.bind first second) before = _
  simp only [EStateM.run] at finished
  simp only [outcome, EStateM.run, EStateM.bind, finished]

theorem outcome_bind_error (failed : first.run before = .error error middle)
    (second : α → InPlace ε σ β) :
    (first >>= second).outcome before = middle := by
  show outcome (EStateM.bind first second) before = _
  simp only [EStateM.run] at failed
  simp only [outcome, EStateM.run, EStateM.bind, failed]

theorem keeps_pure (value : α) : Keeps invariant (pure value : InPlace ε σ α) :=
  fun _ holds => holds

theorem keeps_throw (error : ε) :
    Keeps invariant (throw error : InPlace ε σ α) :=
  fun _ holds => holds

theorem keeps_lift (convert : ε' → ε) (result : Except ε' α) :
    Keeps invariant (lift convert result : InPlace ε σ α) := by
  cases result with
  | ok value => exact keeps_pure value
  | error error => exact keeps_throw (convert error)

theorem keeps_get : Keeps invariant (get : InPlace ε σ σ) :=
  fun _ holds => holds

theorem keeps_modify
    (kept : ∀ state, invariant state → invariant (update state)) :
    Keeps invariant (modify update : InPlace ε σ PUnit) :=
  kept

theorem outcome_bind (left : invariant (first.outcome before))
    (kept : ∀ value, Keeps invariant (second value)) :
    invariant ((first >>= second).outcome before) := by
  cases finished : first.run before with
  | ok value middle =>
      rw [outcome_of_ok finished] at left
      rw [outcome_bind_ok finished]
      exact kept value middle left
  | error error middle =>
      rw [outcome_of_error finished] at left
      rw [outcome_bind_error finished]
      exact left

theorem keeps_bind (firstKeeps : Keeps invariant first)
    (secondKeeps : ∀ value, Keeps invariant (second value)) :
    Keeps invariant (first >>= second) :=
  fun before holds => outcome_bind (firstKeeps before holds) secondKeeps

theorem keeps_get_bind {second : σ → InPlace ε σ α}
    (kept : ∀ state, invariant state →
      invariant ((second state).outcome state)) :
    Keeps invariant (get >>= second) :=
  kept

theorem keeps_ite [Decidable condition]
    (positiveKeeps : Keeps invariant positive)
    (negativeKeeps : Keeps invariant negative) :
    Keeps invariant (if condition then positive else negative) := by
  split
  · exact positiveKeeps
  · exact negativeKeeps

theorem keeps_when {condition : Prop} [Decidable condition]
    {program : InPlace ε σ Unit} (kept : Keeps invariant program) :
    Keeps invariant (when condition program) :=
  keeps_ite kept (keeps_pure ())

theorem run_tryCatch_ok (done : program.run before = .ok value after)
    (handle : ε → InPlace ε σ α) :
    (EStateM.tryCatch program handle).run before = .ok value after := by
  simp only [EStateM.run] at done
  delta EStateM.tryCatch
  simp only [EStateM.run, done]

theorem run_tryCatch_error (done : program.run before = .error error after)
    (handle : ε → InPlace ε σ α) :
    (EStateM.tryCatch program handle).run before =
      (handle error).run after := by
  simp only [EStateM.run] at done
  delta EStateM.tryCatch
  simp only [EStateM.run, done]
  rfl

theorem keeps_tryCatch (tried : Keeps invariant program)
    (handled : ∀ error, Keeps invariant (handle error)) :
    Keeps invariant (tryCatch program handle) := by
  intro before holds
  have left := tried before holds
  show invariant (outcome (EStateM.tryCatch program handle) before)
  cases done : program.run before with
  | ok value after =>
      rw [outcome_of_ok done] at left
      rw [outcome_of_ok (run_tryCatch_ok done handle)]
      exact left
  | error error after =>
      rw [outcome_of_error done] at left
      have ended := handled error after left
      simp only [outcome] at ended
      simp only [outcome, run_tryCatch_error done handle]
      exact ended

end

/-- Started under the first condition, a computation that finishes leaves the
second. -/
def Leads (pre : σ → Prop) (program : InPlace ε σ α) (post : σ → Prop) :
    Prop :=
  ∀ before value after, pre before → Succeeds program before value after →
    post after

section

variable {pre middle post : σ → Prop}

theorem leads_of_keeps (kept : Keeps pre program) : Leads pre program pre := by
  intro before value after holds finished
  have left := kept before holds
  rw [outcome_of_ok finished] at left
  exact left

theorem leads_weaken (leads : Leads middle program post)
    (weaker : ∀ state, pre state → middle state) : Leads pre program post :=
  fun before value after holds finished =>
    leads before value after (weaker before holds) finished

theorem leads_pure (holds : ∀ state, pre state → post state) :
    Leads pre (pure value : InPlace ε σ α) post := by
  intro before result after start finished
  obtain ⟨-, rfl⟩ := succeeds_pure.mp finished
  exact holds before start

theorem leads_throw : Leads pre (throw error : InPlace ε σ α) post :=
  fun _ _ _ _ finished => absurd finished succeeds_throw

theorem leads_lift (convert : ε' → ε) (result : Except ε' α) :
    Leads pre (lift convert result : InPlace ε σ α) pre := by
  intro before value after start finished
  obtain ⟨-, rfl⟩ := succeeds_lift.mp finished
  exact start

theorem leads_lift_bind {convert : ε' → ε} {result : Except ε' α}
    {second : α → InPlace ε σ β}
    (rest : ∀ value, result = .ok value → Leads pre (second value) post) :
    Leads pre (lift convert result >>= second) post := by
  intro before value after holds finished
  obtain ⟨taken, middle, lifted, ran⟩ := succeeds_bind.mp finished
  obtain ⟨ok, rfl⟩ := succeeds_lift.mp lifted
  exact rest taken ok before value after holds ran

theorem leads_ite [Decidable condition] (taken : Leads pre positive post)
    (skipped : Leads pre negative post) :
    Leads pre (if condition then positive else negative) post := by
  split
  · exact taken
  · exact skipped

theorem leads_bind (firstLeads : Leads pre first middle)
    (secondLeads : ∀ value, Leads middle (second value) post) :
    Leads pre (first >>= second) post := by
  intro before result after holds finished
  obtain ⟨value, between, reached, rest⟩ := succeeds_bind.mp finished
  exact secondLeads value between result after
    (firstLeads before value between holds reached) rest

theorem leads_get_bind (read : ∀ state, pre state →
      Leads (fun current => current = state) (second state) post) :
    Leads pre (get >>= second) post := by
  intro before result after holds finished
  exact read before holds before result after rfl finished

theorem leads_modify (reached : ∀ state, pre state → post (update state)) :
    Leads pre (modify update : InPlace ε σ PUnit) post := by
  intro before result after holds finished
  obtain rfl := succeeds_modify.mp finished
  exact reached before holds

theorem leads_when [Decidable condition]
    (taken : condition → Leads pre program post)
    (skipped : ¬ condition → ∀ state, pre state → post state) :
    Leads pre (when condition program) post := by
  intro before result after holds finished
  rcases succeeds_when.mp finished with ⟨holding, ran⟩ | ⟨failing, rfl⟩
  · exact taken holding before result after holds ran
  · exact skipped failing before holds

theorem leads_tryCatch {program : InPlace ε σ α} {handle : ε → InPlace ε σ α}
    (tried : Leads pre program post)
    (handled : ∀ error, Leads (fun _ => True) (handle error) post) :
    Leads pre (tryCatch program handle) post := by
  intro before value after holds finished
  change (EStateM.tryCatch program handle).run before = _ at finished
  cases done : program.run before with
  | ok result middle =>
      have reached := tried before result middle holds done
      rw [run_tryCatch_ok done] at finished
      cases finished
      exact reached
  | error error middle =>
      rw [run_tryCatch_error done] at finished
      exact handled error middle value after trivial finished

theorem leads_whenever [Decidable condition] (taken : Leads pre program pre) :
    Leads pre (when condition program) pre :=
  leads_when (fun _ => taken) fun _ _ holds => holds

end

/-- From this state the computation keeps the invariant if it finishes, and
under the condition also if it fails. -/
def KeepsAt (failed : Prop) (invariant : σ → Prop) (program : InPlace ε σ α)
    (before : σ) : Prop :=
  (∀ value after, program.run before = .ok value after → invariant after) ∧
    ∀ error after, program.run before = .error error after → failed →
      invariant after

def KeepsIf (failed : Prop) (invariant : σ → Prop)
    (program : InPlace ε σ α) : Prop :=
  ∀ before, invariant before → KeepsAt failed invariant program before

variable {failed condition : Prop} {invariant : σ → Prop} {before : σ}
  {program : InPlace ε σ α}

theorem keepsIf_of_keeps (kept : Keeps invariant program) :
    KeepsIf failed invariant program := by
  intro before holds
  have left := kept before holds
  refine ⟨fun value after finished => ?_, fun error after ended _ => ?_⟩
  · rw [← outcome_of_ok finished]
    exact left
  · rw [← outcome_of_error ended]
    exact left

theorem keepsIf_of_leads (leads : Leads invariant program invariant) :
    KeepsIf False invariant program :=
  fun before holds => ⟨fun value after finished =>
    leads before value after holds finished, fun _ _ _ => False.elim⟩

theorem KeepsIf.leads (kept : KeepsIf failed invariant program) :
    Leads invariant program invariant :=
  fun before value after holds finished =>
    (kept before holds).1 value after finished

theorem KeepsIf.keeps (kept : KeepsIf True invariant program) :
    Keeps invariant program := by
  intro before holds
  obtain ⟨finishes, fails⟩ := kept before holds
  cases ran : program.run before with
  | ok value after =>
      rw [outcome_of_ok ran]
      exact finishes value after ran
  | error error after =>
      rw [outcome_of_error ran]
      exact fails error after ran trivial

theorem keepsAt_bind (firstKeeps : KeepsAt failed invariant program before)
    (secondKeeps : ∀ value, KeepsIf failed invariant (second value)) :
    KeepsAt failed invariant (program >>= second) before := by
  obtain ⟨finishes, fails⟩ := firstKeeps
  show KeepsAt failed invariant (EStateM.bind program second) before
  cases ran : program.run before with
  | ok value middle =>
      have kept := secondKeeps value middle (finishes value middle ran)
      simp only [EStateM.run] at ran
      simp only [KeepsAt, EStateM.run, EStateM.bind, ran]
      exact kept
  | error error middle =>
      have left := fails error middle ran
      simp only [EStateM.run] at ran
      simp only [KeepsAt, EStateM.run, EStateM.bind, ran]
      constructor
      · intro value after impossible
        cases impossible
      · intro error after same
        cases same
        exact left

theorem keepsAt_modify (left : invariant (update before)) :
    KeepsAt failed invariant (modify update : InPlace ε σ PUnit) before := by
  constructor
  · intro value after finished
    cases finished
    exact left
  · intro error after impossible
    cases impossible

theorem keepsIf_bind (firstKeeps : KeepsIf failed invariant program)
    (secondKeeps : ∀ value, KeepsIf failed invariant (second value)) :
    KeepsIf failed invariant (program >>= second) :=
  fun before holds => keepsAt_bind (firstKeeps before holds) secondKeeps

theorem keepsIf_pure (value : α) :
    KeepsIf failed invariant (pure value : InPlace ε σ α) :=
  keepsIf_of_keeps (keeps_pure value)

theorem keepsIf_ite [Decidable condition]
    (positiveKeeps : KeepsIf failed invariant positive)
    (negativeKeeps : KeepsIf failed invariant negative) :
    KeepsIf failed invariant (if condition then positive else negative) := by
  split
  · exact positiveKeeps
  · exact negativeKeeps

theorem keepsIf_when [Decidable condition] {program : InPlace ε σ Unit}
    (kept : KeepsIf failed invariant program) :
    KeepsIf failed invariant (when condition program) :=
  keepsIf_ite kept (keepsIf_pure ())

end InPlace

end HidShift.Lib
