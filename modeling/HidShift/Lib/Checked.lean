import HidShift.Lib.Bytes
import HidShift.Lib.InPlace

/-! Programs that read a byte string and check every access.  `none` is an
access out of range, which stops the program for good; an error is a result
like any other. -/

namespace HidShift.Lib

abbrev Checked (ε α : Type) := ExceptT ε Option α

namespace Checked

variable {ε α β : Type}

/-- `bytes[index]` -/
def indexed (bytes : List UInt8) (index : Nat) : Checked ε UInt8 :=
  ExceptT.lift bytes[index]?

/-- `&bytes[start..stop]` -/
def sliced (bytes : List UInt8) (start stop : Nat) :
    Checked ε (List UInt8) :=
  ExceptT.lift
    (if start ≤ stop ∧ stop ≤ bytes.length then
      some (slice bytes start (stop - start))
    else
      none)

/-- `[bytes[0], …, bytes[count - 1]]` -/
def firstBytes : Nat → List UInt8 → Checked ε (List UInt8)
  | 0, _ => pure []
  | count + 1, bytes => do
      let earlier ← firstBytes count bytes
      let byte ← indexed bytes count
      return earlier ++ [byte]

/-- `copy_from_slice` of a source that must have the given length. -/
def copied (size : Nat) (source : List UInt8) : Checked ε (List UInt8) :=
  ExceptT.lift (if source.length = size then some source else none)

def result (value : Except ε α) : Checked ε α := ExceptT.mk (some value)

/-- Every access of the program is in range, and it gives the result. -/
def Yields (program : Checked ε α) (value : Except ε α) : Prop :=
  program.run = some value

theorem yields_result (value : Except ε α) : Yields (result value) value :=
  rfl

theorem yields_pure (value : α) :
    Yields (pure value : Checked ε α) (.ok value) := rfl

theorem yields_throw (error : ε) :
    Yields (throw error : Checked ε α) (.error error) := rfl

theorem yields_bind {program : Checked ε α} {next : α → Checked ε β}
    {first : Except ε α} {rest : α → Except ε β}
    (firstYields : Yields program first)
    (restYields : ∀ value, first = .ok value →
      Yields (next value) (rest value)) :
    Yields (program >>= next) (first >>= rest) := by
  rw [Yields, ExceptT.run_bind, show program.run = some first from firstYields]
  cases first with
  | error error => rfl
  | ok value => exact restYields value rfl

variable {rest : Except ε β} {next : List UInt8 → Checked ε β}

theorem yields_then {program : Checked ε α} {value : α} {next : α → Checked ε β}
    (first : Yields program (.ok value)) (restYields : Yields (next value) rest) :
    Yields (program >>= next) rest := by
  rw [Yields, ExceptT.run_bind, show program.run = some (.ok value) from first]
  exact restYields

theorem yields_ite {condition : Prop} [Decidable condition]
    {accept reject : Checked ε α} {accepted rejected : Except ε α}
    (whenTrue : condition → Yields accept accepted)
    (whenFalse : ¬ condition → Yields reject rejected) :
    Yields (if condition then accept else reject)
      (if condition then accepted else rejected) := by
  split
  · exact whenTrue ‹_›
  · exact whenFalse ‹_›

theorem yields_lift {access : Option α} {value : α} {next : α → Checked ε β}
    (inRange : access = some value) (restYields : Yields (next value) rest) :
    Yields (ExceptT.lift access >>= next) rest := by
  rw [inRange]
  exact restYields

variable {bytes : List UInt8}

theorem yields_indexed {index : Nat} {next : UInt8 → Checked ε β}
    (inRange : index < bytes.length)
    (restYields : Yields (next (bytes.getD index 0)) rest) :
    Yields (indexed bytes index >>= next) rest := by
  apply yields_lift _ restYields
  rw [List.getD_eq_getElem?_getD, List.getElem?_eq_getElem inRange]
  rfl

theorem yields_sliced {start stop : Nat}
    (inRange : start ≤ stop ∧ stop ≤ bytes.length)
    (restYields : Yields (next (slice bytes start (stop - start))) rest) :
    Yields (sliced bytes start stop >>= next) rest :=
  yields_lift (if_pos inRange) restYields

theorem firstBytes_yields {count : Nat} (inRange : count ≤ bytes.length) :
    Yields (firstBytes count bytes : Checked ε (List UInt8))
      (.ok (bytes.take count)) := by
  induction count with
  | zero => rfl
  | succ count ih =>
      rw [firstBytes]
      apply yields_then (ih (Nat.le_of_succ_le inRange))
      apply yields_indexed inRange
      rw [List.take_add_one, List.getD_eq_getElem?_getD,
        List.getElem?_eq_getElem inRange]
      rfl

theorem yields_firstBytes {count : Nat} (sized : bytes.length = count)
    (restYields : Yields (next bytes) rest) :
    Yields (firstBytes count bytes >>= next) rest := by
  have whole := @firstBytes_yields ε bytes count sized.ge
  rw [List.take_of_length_le sized.le] at whole
  exact yields_then whole restYields

theorem yields_copied {size : Nat} (sized : bytes.length = size)
    (restYields : Yields (next bytes) rest) :
    Yields (copied size bytes >>= next) rest :=
  yields_lift (if_pos sized) restYields

theorem yields_foldlM {γ : Type} {round : α → γ → Checked ε α}
    {step : α → γ → Except ε α} {items : List γ} (start : α)
    (rounds : ∀ state, ∀ item ∈ items, Yields (round state item)
      (step state item)) :
    Yields (items.foldlM round start) (items.foldlM step start) := by
  induction items generalizing start with
  | nil => rfl
  | cons item rest ih =>
      rw [List.foldlM_cons, List.foldlM_cons]
      refine yields_bind (rounds start item List.mem_cons_self) ?_
      intro next _
      exact ih next fun state later member =>
        rounds state later (List.mem_cons_of_mem _ member)

end Checked

end HidShift.Lib
