import HidShift.Lib.CheckedWord

namespace HidShift.Lib.Checked

variable {ε ε' α β γ : Type}

def Ensures (program : Checked ε α) (post : α → Prop) : Prop :=
  ∃ outcome, Yields program outcome ∧
    ∀ value, outcome = .ok value → post value

namespace Ensures

variable {program : Checked ε α} {next : α → Checked ε β}
  {post : α → Prop} {last : β → Prop}

theorem finishes (ensures : Ensures program post) : Finishes program := by
  obtain ⟨outcome, yields, -⟩ := ensures
  exact yields.finishes

theorem of_yields (ensures : Ensures program post)
    (yields : Yields program (.ok value)) : post value := by
  obtain ⟨outcome, first, holds⟩ := ensures
  rw [Yields, show program.run = some outcome from first,
    Option.some.injEq] at yields
  exact holds value yields

theorem weaken (ensures : Ensures program post)
    (weaken : ∀ value, post value → weaker value) :
    Ensures program weaker := by
  obtain ⟨outcome, yields, holds⟩ := ensures
  exact ⟨outcome, yields, fun value same => weaken value (holds value same)⟩

theorem ofFinishes (finishes : Finishes program) :
    Ensures program fun value => Yields program (.ok value) := by
  obtain ⟨outcome, yields⟩ := finishes
  refine ⟨outcome, yields, fun value same => ?_⟩
  change Yields program (.ok value)
  rw [← same]
  exact yields

theorem pure (holds : post value) :
    Ensures (Pure.pure value : Checked ε α) post := by
  refine ⟨_, yields_pure value, fun other same => ?_⟩
  cases same
  exact holds

theorem throw : Ensures (throw error : Checked ε α) post :=
  ⟨_, yields_throw error, fun _ impossible => nomatch impossible⟩

theorem result {value : Except ε α}
    (holds : ∀ found, value = .ok found → post found) :
    Ensures (Checked.result value) post :=
  ⟨value, yields_result value, holds⟩

theorem bind (first : Ensures program post)
    (rest : ∀ value, post value → Ensures (next value) last) :
    Ensures (program >>= next) last := by
  obtain ⟨outcome, yields, holds⟩ := first
  cases outcome with
  | error error =>
      refine ⟨.error error, ?_, fun _ impossible => nomatch impossible⟩
      rw [Yields, ExceptT.run_bind,
        show program.run = some (.error error) from yields]
      rfl
  | ok value =>
      obtain ⟨final, ends, property⟩ := rest value (holds value rfl)
      exact ⟨final, yields_then yields ends, property⟩

theorem ite [Decidable condition] (whenTrue : condition → Ensures accept post)
    (whenFalse : ¬ condition → Ensures reject post) :
    Ensures (if condition then accept else reject) post := by
  split
  · exact whenTrue ‹_›
  · exact whenFalse ‹_›

theorem check {condition : Prop} [Decidable condition] {error : ε}
    {accept : Checked ε α} (whenFalse : ¬ condition → Ensures accept post) :
    Ensures (if condition then MonadExcept.throw error else accept) post :=
  ite (fun _ => throw) whenFalse

variable {bytes : List UInt8}

theorem indexed {index : Nat} {next : UInt8 → Checked ε β}
    (inRange : index < bytes.length)
    (rest : Ensures (next (bytes.getD index 0)) last) :
    Ensures (Checked.indexed bytes index >>= next) last := by
  obtain ⟨final, ends, property⟩ := rest
  exact ⟨final, yields_indexed inRange ends, property⟩

theorem sliced {start stop : Nat} {next : List UInt8 → Checked ε β}
    (inRange : start ≤ stop ∧ stop ≤ bytes.length)
    (rest : Ensures (next (slice bytes start (stop - start))) last) :
    Ensures (Checked.sliced bytes start stop >>= next) last := by
  obtain ⟨final, ends, property⟩ := rest
  exact ⟨final, yields_sliced inRange ends, property⟩

theorem field {start size : Nat} {next : List UInt8 → Checked ε β}
    (inRange : start + size ≤ bytes.length)
    (rest : Ensures (next (slice bytes start size)) last) :
    Ensures (Checked.field size bytes start >>= next) last := by
  obtain ⟨final, ends, property⟩ := rest
  exact ⟨final, yields_field inRange ends, property⟩

theorem mapError (ensures : Ensures program post) :
    Ensures (Checked.mapError convert program) post := by
  obtain ⟨outcome, yields, holds⟩ := ensures
  refine ⟨outcome.mapError convert, ?_, fun value same => ?_⟩
  · rw [Yields, Checked.mapError, ExceptT.run_mk,
      show program.run = some outcome from yields, Option.map_some]
  · cases outcome with
    | error error => cases same
    | ok found =>
        obtain rfl := Except.ok.inj same
        exact holds _ rfl

theorem foldlM (invariant : List γ → α → Prop) {round : α → γ → Checked ε α}
    {items done : List γ} {start : α} (holds : invariant done start)
    (kept : ∀ before item state, invariant before state →
      Ensures (round state item) (invariant (before ++ [item]))) :
    Ensures (items.foldlM round start) (invariant (done ++ items)) := by
  induction items generalizing done start with
  | nil =>
      rw [List.append_nil]
      exact pure holds
  | cons item rest ih =>
      rw [List.foldlM_cons]
      refine bind (kept done item start holds) fun state after => ?_
      have later := ih after
      rwa [List.append_assoc] at later

end Ensures

end HidShift.Lib.Checked
