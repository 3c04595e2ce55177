import HidShift.Lib.FrontFilled
import HidShift.Lib.SwapRemove

/-! A fixed array of optional entries with a count of those in use.  Each
operation reads and writes the slots one by one, and gives nothing where it
would leave the array.  On an array that is filled from the front it does what
the list of its entries does. -/

namespace HidShift.Lib

structure CountedSlots (α : Type) where
  count : Nat
  slots : List (Option α)

namespace CountedSlots

variable {α : Type}

def empty (capacity : Nat) : CountedSlots α :=
  ⟨0, List.replicate capacity none⟩

/-- What the first `count` slots hold. -/
def entries (array : CountedSlots α) : List α :=
  (array.slots.take array.count).reduceOption

def push (array : CountedSlots α) (entry : α) : Option (CountedSlots α) :=
  if array.count < array.slots.length then
    some ⟨array.count + 1, array.slots.set array.count (some entry)⟩
  else
    none

/-- The place of the last slot in use, and what a slot and that one hold. -/
def lastInUse (array : CountedSlots α) (index : Nat) :
    Option (Nat × Option α × Option α) :=
  if array.count = 0 then
    none
  else do
    let entry ← array.slots[index]?
    let last ← array.slots[array.count - 1]?
    return (array.count - 1, entry, last)

/-- Swaps the slot with the last one in use and clears that one. -/
def swapOut (array : CountedSlots α) (index : Nat) :
    Option (CountedSlots α) := do
  let (count, entry, last) ← array.lastInUse index
  return ⟨count, ((array.slots.set index last).set count entry).set count none⟩

/-- Clears the slot, then copies the last one in use over it. -/
def takeOut (array : CountedSlots α) (index : Nat) :
    Option (CountedSlots α) := do
  let (count, _, last) ← lastInUse ⟨array.count, array.slots.set index none⟩
    index
  return ⟨count, ((array.slots.set index none).set index last).set count none⟩

/-- Moves every entry that passes the test to another array; the slot of one
that went is looked at again.  `left` bounds the turns. -/
def sweep (test : α → Bool) : (left : Nat) → CountedSlots α → (index : Nat) →
    CountedSlots α → Option (CountedSlots α × CountedSlots α)
  | 0, _, _, _ => none
  | left + 1, array, index, removed =>
      if index < array.count then
        match array.slots[index]? with
        | none => none
        | some none => sweep test left array (index + 1) removed
        | some (some entry) =>
            if test entry then do
              let removed ← removed.push entry
              let array ← array.swapOut index
              sweep test left array index removed
            else
              sweep test left array (index + 1) removed
      else
        some (array, removed)

/-- Moves the first entry that passes the test to another array. -/
def moveFirst (test : α → Bool) : (left : Nat) → CountedSlots α →
    (index : Nat) → CountedSlots α → Option (CountedSlots α × CountedSlots α)
  | 0, _, _, _ => none
  | left + 1, array, index, removed =>
      if index < array.count then
        match array.slots[index]? with
        | none => none
        | some none => moveFirst test left array (index + 1) removed
        | some (some entry) =>
            if test entry then do
              let removed ← removed.push entry
              let array ← array.swapOut index
              return (array, removed)
            else
              moveFirst test left array (index + 1) removed
      else
        some (array, removed)

/-- The entries are in the first slots, and the others are free. -/
structure Filled (capacity : Nat) (array : CountedSlots α)
    (entries : List α) : Prop where
  count : array.count = entries.length
  slots : array.slots = frontFilled capacity entries
  fits : entries.length ≤ capacity

variable {capacity room : Nat} {array removed : CountedSlots α}
  {entries gone : List α}

theorem filled_empty (capacity : Nat) :
    (empty capacity : CountedSlots α).Filled capacity [] :=
  ⟨rfl, FrontFilled.nil.symm, Nat.zero_le _⟩

theorem Filled.entries_eq (filled : array.Filled capacity entries) :
    array.entries = entries := by
  have inUse : (frontFilled capacity entries).take entries.length =
      entries.map some := by
    rw [frontFilled]
    exact List.take_left' (List.length_map some)
  have full := @FrontFilled.reduceOption _ entries.length entries
  rw [frontFilled, Nat.sub_self, List.replicate_zero, List.append_nil] at full
  rw [CountedSlots.entries, filled.count, filled.slots, inUse, full]

theorem length_frontFilled (fits : entries.length ≤ capacity) :
    (frontFilled capacity entries).length = capacity := by
  rw [frontFilled, List.length_append, List.length_map, List.length_replicate]
  omega

theorem Filled.push (filled : array.Filled capacity entries)
    (free : entries.length < capacity) (entry : α) :
    ∃ next, array.push entry = some next ∧
      next.Filled capacity (entries ++ [entry]) := by
  have inside : array.count < array.slots.length := by
    rw [filled.count, filled.slots, length_frontFilled filled.fits]
    exact free
  refine ⟨_, if_pos inside, ?_, ?_, ?_⟩
  · rw [List.length_append, filled.count]
    rfl
  · change array.slots.set array.count _ = _
    rw [filled.slots, filled.count, FrontFilled.fill_slot free]
  · rw [List.length_append]
    exact free

theorem set_here (before after : List α) (old new : α) :
    (before ++ old :: after).set before.length new =
      before ++ new :: after := by
  rw [List.set_append_right _ _ (Nat.le_refl _), Nat.sub_self,
    List.set_cons_zero]

theorem getElem?_here (before after : List α) (entry : α) :
    (before ++ entry :: after)[before.length]? = some entry := by
  rw [List.getElem?_append_right (Nat.le_refl _), Nat.sub_self,
    List.getElem?_cons_zero]

theorem frontFilled_split (before after : List α) (entry : α) :
    frontFilled capacity (before ++ entry :: after) =
      before.map some ++ some entry :: (after.map some ++
        List.replicate (capacity - (before ++ entry :: after).length)
          none) := by
  rw [frontFilled, List.map_append, List.map_cons, List.append_assoc]
  rfl

theorem close_gap (before after : List α) (entry : α) (last : Option α)
    (isLast : ∀ middle final, after = middle ++ [final] → last = some final)
    (fits : (before ++ entry :: after).length ≤ capacity) :
    ((frontFilled capacity (before ++ entry :: after)).set before.length
        last).set (before.length + after.length) none =
      frontFilled capacity (before ++ SwapRemove.lastFirst after) := by
  have place : before.length = (before.map some).length :=
    (List.length_map some).symm
  rw [frontFilled_split, place, set_here]
  rcases List.eq_nil_or_concat' after with rfl | ⟨middle, final, rfl⟩
  · have spare : capacity - before.length =
        capacity - (before ++ [entry]).length + 1 := by
      simp only [List.length_append, List.length_singleton] at fits ⊢
      omega
    rw [List.length_nil, Nat.add_zero, set_here]
    change _ = frontFilled capacity (before ++ [])
    rw [List.append_nil, frontFilled, spare, List.replicate_succ]
    rfl
  · have spare : capacity - (before ++ final :: middle).length =
        capacity - (before ++ entry :: (middle ++ [final])).length + 1 := by
      simp only [List.length_append, List.length_cons, List.length_nil]
        at fits ⊢
      omega
    have lastPlace : (before.map some).length + (middle ++ [final]).length =
        (before.map some ++ some final :: middle.map some).length := by
      simp only [List.length_append, List.length_cons, List.length_map,
        List.length_nil]
    have rotated : SwapRemove.lastFirst (middle ++ [final]) =
        final :: middle := by
      rw [SwapRemove.lastFirst, List.getLast?_concat, List.dropLast_concat]
      rfl
    have shape : before.map some ++ some final :: ((middle ++ [final]).map some
        ++ List.replicate (capacity -
          (before ++ entry :: (middle ++ [final])).length) none) =
        (before.map some ++ some final :: middle.map some) ++ some final ::
          List.replicate (capacity -
            (before ++ entry :: (middle ++ [final])).length) none := by
      simp
    rw [isLast middle final rfl, lastPlace, shape, set_here, rotated,
      frontFilled_split, spare, List.replicate_succ]
    simp

variable {before after : List α} {entry : α}

section

variable (filled : array.Filled capacity (before ++ entry :: after))

include filled

theorem Filled.here : array.slots[before.length]? = some (some entry) := by
  have place : before.length = (before.map some).length :=
    (List.length_map some).symm
  rw [filled.slots, frontFilled_split, place, getElem?_here]

theorem Filled.last :
    ∃ last, array.slots[before.length + after.length]? = some last ∧
      ∀ middle final, after = middle ++ [final] → last = some final := by
  rcases List.eq_nil_or_concat' after with rfl | ⟨middle, final, rfl⟩
  · exact ⟨some entry, filled.here, fun middle final same =>
      absurd same.symm (List.append_ne_nil_of_right_ne_nil _
        (List.cons_ne_nil _ _))⟩
  · have split : before ++ entry :: (middle ++ [final]) =
        (before ++ entry :: middle) ++ final :: [] := by
      rw [List.append_assoc]
      rfl
    have place : before.length + (middle ++ [final]).length =
        (before ++ entry :: middle).length := by
      simp only [List.length_append, List.length_cons, List.length_nil]
    rw [split] at filled
    refine ⟨some final, by rw [place]; exact filled.here, ?_⟩
    intro _ other same
    have finals := (List.append_inj' same rfl).2
    rw [List.singleton_inj.mp finals]

theorem Filled.count_split :
    array.count = before.length + after.length + 1 := by
  rw [filled.count, List.length_append, List.length_cons, Nat.add_assoc]

end

theorem lastInUse_eq {index last : Nat} {slot final : Option α}
    (count : array.count = last + 1) (here : array.slots[index]? = some slot)
    (there : array.slots[last]? = some final) :
    array.lastInUse index = some (last, slot, final) := by
  rw [lastInUse, if_neg (by omega), count, Nat.add_sub_cancel, here, there]
  rfl

theorem filled_closed {slots : List (Option α)}
    (fits : (before ++ entry :: after).length ≤ capacity)
    (closed : slots = frontFilled capacity
      (before ++ SwapRemove.lastFirst after)) :
    Filled capacity ⟨before.length + after.length, slots⟩
      (before ++ SwapRemove.lastFirst after) := by
  have length : (before ++ SwapRemove.lastFirst after).length =
      before.length + after.length := by
    rw [List.length_append, SwapRemove.length_lastFirst]
  rw [List.length_append, List.length_cons] at fits
  exact ⟨length.symm, closed, by omega⟩

theorem Filled.swapOut
    (filled : array.Filled capacity (before ++ entry :: after)) :
    ∃ next, array.swapOut before.length = some next ∧
      next.Filled capacity (before ++ SwapRemove.lastFirst after) := by
  obtain ⟨last, there, isLast⟩ := filled.last
  have found := lastInUse_eq filled.count_split filled.here there
  refine ⟨_, by rw [CountedSlots.swapOut, found]; rfl, ?_⟩
  apply filled_closed filled.fits
  rw [List.set_set, filled.slots, close_gap _ _ _ _ isLast filled.fits]

theorem Filled.takeOut
    (filled : array.Filled capacity (before ++ entry :: after)) :
    ∃ next, array.takeOut before.length = some next ∧
      next.Filled capacity (before ++ SwapRemove.lastFirst after) := by
  obtain ⟨last, there, isLast⟩ := filled.last
  have inside : before.length < array.slots.length :=
    (List.getElem?_eq_some_iff.mp filled.here).1
  have cleared : (array.slots.set before.length none)[before.length]? =
      some none := List.getElem?_set_self inside
  have kept : ∃ last,
      (array.slots.set before.length none)[before.length + after.length]? =
        some last ∧
      ∀ middle final, after = middle ++ [final] → last = some final := by
    cases after with
    | nil => exact ⟨none, cleared, fun middle final same =>
        absurd same.symm (List.append_ne_nil_of_right_ne_nil _
          (List.cons_ne_nil _ _))⟩
    | cons next rest =>
        refine ⟨last, ?_, isLast⟩
        rw [List.getElem?_set_ne (by rw [List.length_cons]; omega), there]
  obtain ⟨last, there, isLast⟩ := kept
  have found := @lastInUse_eq _
    ⟨array.count, array.slots.set before.length none⟩ before.length
    (before.length + after.length) none last filled.count_split cleared there
  refine ⟨_, by rw [CountedSlots.takeOut, found]; rfl, ?_⟩
  apply filled_closed filled.fits
  rw [List.set_set, filled.slots, close_gap _ _ _ _ isLast filled.fits]

theorem Filled.sweep (test : α → Bool)
    (filled : array.Filled capacity (done ++ ahead))
    (moved : removed.Filled room gone)
    (enough : gone.length + (ahead.filter test).length ≤ room)
    (turns : ahead.length < left) :
    ∃ next others,
      CountedSlots.sweep test left array done.length removed =
        some (next, others) ∧
      next.Filled capacity
        (done ++ (SwapRemove.sweep test ahead.length ahead).1) ∧
      others.Filled room
        (gone ++ (SwapRemove.sweep test ahead.length ahead).2) := by
  induction left generalizing done ahead array removed gone with
  | zero => omega
  | succ left ih =>
      cases ahead with
      | nil =>
          have ended : ¬ done.length < array.count := by
            rw [filled.count, List.append_nil]
            exact Nat.lt_irrefl _
          refine ⟨array, removed, ?_, filled, ?_⟩
          · rw [CountedSlots.sweep, if_neg ended]
          · rw [List.length_nil, SwapRemove.sweep, List.append_nil]
            exact moved
      | cons entry rest =>
          have inside : done.length < array.count := by
            rw [filled.count_split]
            omega
          rw [List.length_cons] at turns
          rw [CountedSlots.sweep, if_pos inside, filled.here]
          dsimp only
          cases passes : test entry with
          | true =>
              rw [List.filter_cons_of_pos passes, List.length_cons] at enough
              obtain ⟨grown, pushed, movedNext⟩ :=
                moved.push (by omega) entry
              obtain ⟨next, swapped, filledNext⟩ := filled.swapOut
              have rotated := (SwapRemove.lastFirst_perm rest).filter test
              have length := SwapRemove.length_lastFirst rest
              obtain ⟨last, others, swept, lastFilled, othersFilled⟩ :=
                ih filledNext movedNext
                  (by rw [rotated.length_eq, List.length_append,
                    List.length_singleton]; omega) (by omega)
              rw [length] at lastFilled othersFilled
              refine ⟨last, others, ?_, ?_, ?_⟩
              · rw [if_pos rfl, pushed, Option.bind_eq_bind,
                  Option.bind_some, swapped, Option.bind_some, swept]
              · rw [List.length_cons, SwapRemove.sweep, passes]
                exact lastFilled
              · rw [List.length_cons, SwapRemove.sweep, passes]
                rw [List.append_assoc] at othersFilled
                exact othersFilled
          | false =>
              rw [List.filter_cons_of_neg (by rw [passes]; simp)] at enough
              have split : done ++ entry :: rest = (done ++ [entry]) ++ rest :=
                (List.append_cons ..)
              rw [split] at filled
              obtain ⟨last, others, swept, lastFilled, othersFilled⟩ :=
                ih filled moved enough (by omega)
              rw [List.length_append, List.length_singleton] at swept
              refine ⟨last, others, ?_, ?_, ?_⟩
              · rw [if_neg Bool.false_ne_true, swept]
              · rw [List.length_cons, SwapRemove.sweep, passes]
                rw [List.append_assoc] at lastFilled
                exact lastFilled
              · rw [List.length_cons, SwapRemove.sweep, passes]
                exact othersFilled

theorem Filled.moveFirst (test : α → Bool)
    (filled : array.Filled capacity (done ++ ahead))
    (moved : removed.Filled room gone) (free : gone.length < room)
    (turns : ahead.length < left) :
    ∃ next others,
      CountedSlots.moveFirst test left array done.length removed =
        some (next, others) ∧
      next.Filled capacity (done ++ SwapRemove.removeFirst test ahead) ∧
      others.Filled room (gone ++ (ahead.find? test).toList) := by
  induction left generalizing done ahead with
  | zero => omega
  | succ left ih =>
      cases ahead with
      | nil =>
          have ended : ¬ done.length < array.count := by
            rw [filled.count, List.append_nil]
            exact Nat.lt_irrefl _
          refine ⟨array, removed, ?_, filled, ?_⟩
          · rw [CountedSlots.moveFirst, if_neg ended]
          · rw [List.find?_nil, Option.toList_none, List.append_nil]
            exact moved
      | cons entry rest =>
          have inside : done.length < array.count := by
            rw [filled.count_split]
            omega
          rw [List.length_cons] at turns
          rw [CountedSlots.moveFirst, if_pos inside, filled.here]
          dsimp only
          cases passes : test entry with
          | true =>
              obtain ⟨grown, pushed, movedNext⟩ := moved.push free entry
              obtain ⟨next, swapped, filledNext⟩ := filled.swapOut
              refine ⟨next, grown, ?_, ?_, ?_⟩
              · rw [if_pos rfl, pushed, Option.bind_eq_bind,
                  Option.bind_some, swapped]
                rfl
              · rw [SwapRemove.removeFirst, if_pos passes]
                exact filledNext
              · rw [List.find?_cons_of_pos passes]
                exact movedNext
          | false =>
              have fails : ¬ test entry = true := by
                rw [passes]
                exact Bool.false_ne_true
              have split : done ++ entry :: rest = (done ++ [entry]) ++ rest :=
                (List.append_cons ..)
              rw [split] at filled
              obtain ⟨last, others, walked, lastFilled, othersFilled⟩ :=
                ih filled (by omega)
              rw [List.length_append, List.length_singleton] at walked
              refine ⟨last, others, ?_, ?_, ?_⟩
              · rw [if_neg Bool.false_ne_true, walked]
              · rw [SwapRemove.removeFirst, if_neg fails]
                rw [List.append_assoc] at lastFilled
                exact lastFilled
              · rw [List.find?_cons_of_neg fails]
                exact othersFilled

end CountedSlots

end HidShift.Lib
