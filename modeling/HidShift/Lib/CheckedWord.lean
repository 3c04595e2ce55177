import HidShift.Lib.Checked

/-! Arithmetic of a fixed width that stops the program when it leaves its
range, programs that nothing stops, and scans. -/

namespace HidShift.Lib.Checked

variable {ε α β : Type}

def below (limit value : Nat) : Checked ε Nat :=
  ExceptT.lift (if value < limit then some value else none)

def difference (left right : Nat) : Checked ε Nat :=
  ExceptT.lift (if right ≤ left then some (left - right) else none)

/-- A program that never comes back. -/
def endless : Checked ε α := ExceptT.lift none

/-- `bytes[index] = value` -/
def stored (bytes : List UInt8) (index : Nat) (value : UInt8) :
    Checked ε (List UInt8) :=
  ExceptT.lift
    (if index < bytes.length then some (bytes.set index value) else none)

/-- `bytes[start..stop].copy_from_slice(source)` -/
def placed (bytes : List UInt8) (start stop : Nat) (source : List UInt8) :
    Checked ε (List UInt8) :=
  ExceptT.lift
    (if start ≤ stop ∧ stop ≤ bytes.length ∧ source.length = stop - start then
      some (overwrite bytes start source)
    else
      none)

/-- The first `size` bytes of `&bytes[start..start + size]`, each by its
index. -/
def field (size : Nat) (bytes : List UInt8) (start : Nat) :
    Checked ε (List UInt8) := do
  firstBytes size (← sliced bytes start (start + size))

def Finishes (program : Checked ε α) : Prop :=
  ∃ value, Yields program value

variable {program : Checked ε α}

theorem Yields.finishes {value : Except ε α} (yields : Yields program value) :
    Finishes program := ⟨value, yields⟩

theorem not_finishes : ¬ Finishes program ↔ program.run = none := by
  rw [Finishes, Option.eq_none_iff_forall_ne_some, not_exists]
  rfl

@[simp] theorem finishes_pure (value : α) :
    Finishes (pure value : Checked ε α) := ⟨_, yields_pure value⟩

@[simp] theorem finishes_throw (error : ε) :
    Finishes (throw error : Checked ε α) := ⟨_, yields_throw error⟩

@[simp] theorem finishes_result (value : Except ε α) :
    Finishes (result value) := ⟨_, yields_result value⟩

theorem yields_field {bytes : List UInt8} {start size : Nat}
    {next : List UInt8 → Checked ε β} {rest : Except ε β}
    (inRange : start + size ≤ bytes.length)
    (restYields : Yields (next (slice bytes start size)) rest) :
    Yields (field size bytes start >>= next) rest := by
  rw [field, bind_assoc]
  apply yields_sliced ⟨Nat.le_add_right .., inRange⟩
  rw [Nat.add_sub_cancel_left]
  exact yields_firstBytes (length_slice inRange) restYields

theorem yields_placed {done old source : List UInt8} {start stop : Nat}
    {next : List UInt8 → Checked ε β} {rest : Except ε β}
    (before : done.length = start) (fits : start + source.length = stop)
    (room : source.length ≤ old.length)
    (restYields : Yields
      (next (done ++ (source ++ old.drop source.length))) rest) :
    Yields (placed (done ++ old) start stop source >>= next) rest := by
  refine yields_lift (if_pos ?_) ?_
  · rw [List.length_append]
    omega
  · rw [overwrite_append before room]
    exact restYields

theorem yields_stored {done old : List UInt8} {index : Nat} {value : UInt8}
    {next : List UInt8 → Checked ε β} {rest : Except ε β}
    (before : done.length = index) (room : 1 ≤ old.length)
    (restYields : Yields (next (done ++ (value :: old.drop 1))) rest) :
    Yields (stored (done ++ old) index value >>= next) rest := by
  refine yields_lift (if_pos ?_) ?_
  · rw [List.length_append]
    omega
  · subst before
    cases old with
    | nil => cases room
    | cons first later =>
        rw [List.set_append_right _ _ (Nat.le_refl _), Nat.sub_self]
        exact restYields

theorem finishes_then {value : α} {next : α → Checked ε β}
    (first : Yields program (.ok value)) :
    Finishes (program >>= next) ↔ Finishes (next value) := by
  unfold Finishes Yields
  rw [ExceptT.run_bind, show program.run = some (.ok value) from first]
  rfl

theorem finishes_bind {program : Checked ε α} {next : α → Checked ε β} :
    Finishes (program >>= next) ↔ Finishes program ∧
      ∀ value, Yields program (.ok value) → Finishes (next value) := by
  cases ran : program.run with
  | none =>
      have stops : ¬ Finishes program := not_finishes.mpr ran
      refine ⟨fun finishes => ?_, fun both => absurd both.1 stops⟩
      refine absurd finishes (not_finishes.mpr ?_)
      rw [ExceptT.run_bind, ran]
      rfl
  | some outcome =>
      have yields : Yields program outcome := ran
      cases outcome with
      | ok value =>
          rw [finishes_then yields]
          constructor
          · intro finishes
            refine ⟨yields.finishes, fun other same => ?_⟩
            cases ran.symm.trans same
            exact finishes
          · exact fun both => both.2 value yields
      | error error =>
          constructor
          · intro _
            refine ⟨yields.finishes, fun other same => ?_⟩
            cases ran.symm.trans same
          · intro _
            refine ⟨.error error, ?_⟩
            rw [Yields, ExceptT.run_bind, ran]
            rfl

def EndsIn (program : Checked ε α) (post : α → Prop) : Prop :=
  ∃ value, Yields program (.ok value) ∧ post value

theorem EndsIn.finishes {post : α → Prop} (ends : EndsIn program post) :
    Finishes program := by
  obtain ⟨value, yields, -⟩ := ends
  exact yields.finishes

section

variable {program : Checked ε α} {next : α → Checked ε β} {middle : α → Prop}
  {post : β → Prop}

theorem endsIn_pure {value : α} (holds : middle value) :
    EndsIn (pure value : Checked ε α) middle :=
  ⟨value, yields_pure value, holds⟩

theorem endsIn_bind (first : EndsIn program middle)
    (rest : ∀ value, middle value → EndsIn (next value) post) :
    EndsIn (program >>= next) post := by
  obtain ⟨value, yields, holds⟩ := first
  obtain ⟨last, ends, property⟩ := rest value holds
  exact ⟨last, yields_then yields ends, property⟩

theorem endsIn_lift {access : Option α} {value : α}
    (inRange : access = some value) (holds : middle value) :
    EndsIn (ExceptT.lift access : Checked ε α) middle := by
  subst inRange
  exact ⟨value, rfl, holds⟩

theorem endsIn_below {limit value : Nat} {next : Nat → Checked ε β}
    (inRange : value < limit) (rest : EndsIn (next value) post) :
    EndsIn (below limit value >>= next) post := by
  refine endsIn_bind (endsIn_lift (if_pos inRange) rfl) ?_
  rintro _ rfl
  exact rest

variable {bytes : List UInt8}

theorem endsIn_indexed_at {index : Nat} {next : UInt8 → Checked ε β}
    (inRange : index < bytes.length)
    (rest : EndsIn (next (bytes.getD index 0)) post) :
    EndsIn (indexed bytes index >>= next) post := by
  obtain ⟨last, ends, holds⟩ := rest
  exact ⟨last, yields_indexed inRange ends, holds⟩

theorem endsIn_indexed {index : Nat} {next : UInt8 → Checked ε β}
    (inRange : index < bytes.length) (rest : ∀ byte, EndsIn (next byte) post) :
    EndsIn (indexed bytes index >>= next) post :=
  endsIn_indexed_at inRange (rest _)

theorem endsIn_stored {index : Nat} {value : UInt8}
    (inRange : index < bytes.length) :
    EndsIn (stored bytes index value : Checked ε (List UInt8))
      fun written => written.length = bytes.length :=
  endsIn_lift (if_pos inRange) List.length_set

end

/-- The program ends in a value exactly under a condition, and is stopped
otherwise. -/
def Needs (program : Checked ε α) (condition : Prop) (post : α → Prop) :
    Prop :=
  (condition ∧ EndsIn program post) ∨ (¬ condition ∧ ¬ Finishes program)

namespace Needs

variable {program : Checked ε α} {condition : Prop} {middle : α → Prop}
  {post : β → Prop}

theorem finishes_iff (needs : Needs program condition middle) :
    Finishes program ↔ condition := by
  rcases needs with ⟨holds, ends⟩ | ⟨fails, stops⟩
  · exact iff_of_true ends.finishes holds
  · exact iff_of_false stops fails

theorem endsIn (needs : Needs program condition middle)
    (holds : condition) : EndsIn program middle := by
  rcases needs with ⟨-, ends⟩ | ⟨fails, -⟩
  · exact ends
  · exact absurd holds fails

theorem always (ends : EndsIn program middle) : Needs program True middle :=
  .inl ⟨trivial, ends⟩

theorem of_iff {other : Prop} (needs : Needs program condition middle)
    (same : condition ↔ other) : Needs program other middle := by
  rw [← propext same]
  exact needs

theorem forget (needs : Needs program condition middle) :
    Needs program condition fun _ => True := by
  rcases needs with ⟨holds, value, yields, -⟩ | stops
  · exact .inl ⟨holds, value, yields, trivial⟩
  · exact .inr stops

theorem bind {next : α → Checked ε β} {more : Prop}
    (needs : Needs program condition middle)
    (rest : ∀ value, middle value → Needs (next value) more post) :
    Needs (program >>= next) (condition ∧ more) post := by
  rcases needs with ⟨holds, value, yields, property⟩ | ⟨fails, stops⟩
  · rcases rest value property with ⟨moreHolds, last, ends⟩ | ⟨lacks, stops⟩
    · exact .inl ⟨⟨holds, moreHolds⟩, last, yields_then yields ends.1, ends.2⟩
    · refine .inr ⟨fun both => lacks both.2, ?_⟩
      rw [finishes_then yields]
      exact stops
  · refine .inr ⟨fun both => fails both.1, fun finishes => ?_⟩
    exact stops (finishes_bind.mp finishes).1

theorem bind_endsIn {next : α → Checked ε β}
    (needs : Needs program condition middle)
    (rest : ∀ value, middle value → EndsIn (next value) post) :
    Needs (program >>= next) condition post :=
  (needs.bind fun value holds => always (rest value holds)).of_iff
    (and_iff_left trivial)

theorem lift {access : Option α} {next : α → Checked ε β} {more : Prop}
    (inRange : access.isSome ↔ condition)
    (rest : ∀ value, access = some value → Needs (next value) more post) :
    Needs (ExceptT.lift access >>= next) (condition ∧ more) post := by
  cases access with
  | none =>
      refine .inr ⟨fun both => ?_, not_finishes.mpr rfl⟩
      exact absurd (inRange.mpr both.1) Bool.false_ne_true
  | some value =>
      have first : Needs (ExceptT.lift (some value) : Checked ε α)
          condition (· = value) :=
        .inl ⟨inRange.mp rfl, value, rfl, rfl⟩
      refine first.bind ?_
      rintro _ rfl
      exact rest _ rfl

theorem below {limit value : Nat} {next : Nat → Checked ε β} {more : Prop}
    (rest : Needs (next value) more post) :
    Needs (Checked.below limit value >>= next) (value < limit ∧ more)
      post := by
  refine lift (by split <;> simp [*]) fun other same => ?_
  split at same
  · cases same
    exact rest
  · cases same

end Needs

/-- `map_err` -/
def mapError {ε' : Type} (convert : ε → ε') (program : Checked ε α) :
    Checked ε' α :=
  ExceptT.mk (program.run.map (Except.mapError convert))

@[simp] theorem finishes_mapError {ε' : Type} {convert : ε → ε'} :
    Finishes (mapError convert program) ↔ Finishes program := by
  unfold Finishes Yields mapError
  rw [ExceptT.run_mk]
  cases program.run <;> simp

theorem run_bind_ok {program : Checked ε α} {next : α → Checked ε β}
    {value : β} (ran : (program >>= next).run = some (.ok value)) :
    ∃ first, program.run = some (.ok first) ∧
      (next first).run = some (.ok value) := by
  rw [ExceptT.run_bind] at ran
  cases outcome : program.run with
  | none => simp [outcome] at ran
  | some first =>
      rw [outcome] at ran
      cases first with
      | error error => cases ran
      | ok first => exact ⟨first, rfl, ran⟩

theorem yields_ok_bind {next : α → Checked ε β} {value : β} :
    Yields (program >>= next) (.ok value) ↔
      ∃ first, Yields program (.ok first) ∧
        Yields (next first) (.ok value) := by
  refine ⟨run_bind_ok, fun both => ?_⟩
  obtain ⟨first, ran, rest⟩ := both
  exact yields_then ran rest

theorem run_mapError_ok {ε' : Type} {convert : ε → ε'}
    {program : Checked ε α} {value : α} :
    (mapError convert program).run = some (.ok value) ↔
      program.run = some (.ok value) := by
  rw [mapError, ExceptT.run_mk]
  cases program.run with
  | none => simp
  | some outcome => cases outcome <;> simp [Except.mapError]

/-! Programs that go through items one after another and collect what they
find.  An item that does not fit stops the program, a full collection ends it
with an error; as long as there is room, every item is looked at. -/

variable {σ ι : Type} {fits : ι → Prop} {size : σ → Nat} {capacity : Nat}

structure Scan (fits : ι → Prop) (size : σ → Nat) (capacity : Nat)
    (items : List ι) (program : σ → Checked ε σ) : Prop where
  safe : (∀ item ∈ items, fits item) → ∀ state, Finishes (program state)
  thorough : ∀ state, size state + items.length ≤ capacity →
    Needs (program state) (∀ item ∈ items, fits item)
      fun next => size next ≤ size state + items.length

namespace Scan

theorem nothing :
    Scan fits size capacity [] (pure : σ → Checked ε σ) where
  safe _ state := finishes_pure state
  thorough state _ := by
    have same : EndsIn (pure state : Checked ε σ)
        fun next => size next ≤ size state + 0 := endsIn_pure (Nat.le_refl _)
    exact (Needs.always same).of_iff
      (iff_of_true trivial fun _ impossible => nomatch impossible)

theorem single {item : ι} {extract : Checked ε α}
    {add : σ → α → Checked ε σ}
    (needs : Needs extract (fits item) fun _ => True)
    (finishes : ∀ state value, Finishes (add state value))
    (adds : ∀ state value, size state < capacity →
      EndsIn (add state value) fun next => size next ≤ size state + 1) :
    Scan fits size capacity [item]
      fun state => extract >>= fun value => add state value where
  safe all state := by
    obtain ⟨value, yields, -⟩ := needs.endsIn (all item List.mem_cons_self)
    exact (finishes_then yields).mpr (finishes state value)
  thorough state room :=
    (needs.bind_endsIn fun value _ => adds state value room).of_iff
      List.forall_mem_singleton.symm

theorem append {items more : List ι} {first second : σ → Checked ε σ}
    (scan : Scan fits size capacity items first)
    (next : Scan fits size capacity more second) :
    Scan fits size capacity (items ++ more)
      fun state => first state >>= second where
  safe all state := by
    obtain ⟨early, late⟩ := List.forall_mem_append.mp all
    exact finishes_bind.mpr
      ⟨scan.safe early state, fun value _ => next.safe late value⟩
  thorough state room := by
    rw [List.length_append] at room ⊢
    refine (Needs.bind (scan.thorough state (by omega))
      fun middle grown => ?_).of_iff List.forall_mem_append.symm
    rcases next.thorough middle (by omega) with
      ⟨holds, last, ends, length⟩ | stops
    · exact .inl ⟨holds, last, ends, by omega⟩
    · exact .inr stops

theorem foldlM {list : List α} {itemsOf : α → List ι}
    {round : σ → α → Checked ε σ}
    (rounds : ∀ entry ∈ list,
      Scan fits size capacity (itemsOf entry) fun state => round state entry) :
    Scan fits size capacity (list.flatMap itemsOf)
      fun state => list.foldlM round state := by
  induction list with
  | nil => exact nothing
  | cons entry rest ih =>
      have later := ih fun other member =>
        rounds other (List.mem_cons_of_mem _ member)
      have both := (rounds entry List.mem_cons_self).append later
      simpa only [List.flatMap_cons, List.foldlM_cons] using both

theorem finishes_iff {items : List ι} {program : σ → Checked ε σ}
    (scan : Scan fits size capacity items program) (start : σ)
    (room : size start + items.length ≤ capacity) :
    Finishes (program start) ↔ ∀ item ∈ items, fits item :=
  (scan.thorough start room).finishes_iff

end Scan

end HidShift.Lib.Checked
