import HidShift.Lib.InPlace

namespace HidShift.Lib

inductive Agree {ε α β : Type} (related : α → β → Prop) :
    Except ε α → Except ε β → Prop
  | ok {left : α} {right : β} (values : related left right) :
      Agree related (.ok left) (.ok right)
  | error (error : ε) : Agree related (.error error) (.error error)

namespace Agree

variable {ε α β γ δ : Type} {related : α → β → Prop}

theorem refl {related : α → α → Prop}
    (same : ∀ value, related value value) (result : Except ε α) :
    Agree related result result := by
  cases result with
  | ok value => exact .ok (same value)
  | error error => exact .error error

theorem bind (agree : Agree related left right)
    (next : ∀ first second, related first second →
      Agree further (leftNext first) (rightNext second)) :
    Agree further (left >>= leftNext) (right >>= rightNext) := by
  cases agree with
  | ok values => exact next _ _ values
  | error error => exact .error error

theorem bind_same
    (next : ∀ value, Agree further (leftNext value) (rightNext value)) :
    Agree further (first >>= leftNext) (first >>= rightNext) := by
  cases first with
  | ok value => exact next value
  | error error => exact .error error

end Agree

namespace InPlace

variable {ε σ α β : Type}

def finish (program : InPlace ε σ α) (before : σ) : Except ε σ :=
  match program.run before with
  | .ok _ after => .ok after
  | .error error _ => .error error

variable {program : InPlace ε σ α} {before after : σ}

theorem finish_of_ok (finished : program.run before = .ok value after) :
    program.finish before = .ok after := by
  simp only [finish, finished]

theorem finish_of_error (failed : program.run before = .error error after) :
    program.finish before = .error error := by
  simp only [finish, failed]

theorem finish_eq_ok :
    program.finish before = .ok after ↔
      ∃ value, program.run before = .ok value after := by
  unfold finish
  cases program.run before <;> simp

theorem finish_eq_error :
    program.finish before = .error error ↔
      ∃ after, program.run before = .error error after := by
  unfold finish
  cases program.run before <;> simp

variable {first : InPlace ε σ α} {before middle : σ}

theorem run_bind_ok (reached : first.run before = .ok value middle)
    (second : α → InPlace ε σ β) :
    (first >>= second).run before = (second value).run middle := by
  rw [EStateM.run_bind, reached]

theorem run_bind_error (failed : first.run before = .error error middle)
    (second : α → InPlace ε σ β) :
    (first >>= second).run before = .error error middle := by
  rw [EStateM.run_bind, failed]

end InPlace

end HidShift.Lib
