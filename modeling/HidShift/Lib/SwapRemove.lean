import Mathlib.Data.List.Induction
import Mathlib.Data.List.Perm.Basic
import Mathlib.Data.List.Nodup

namespace HidShift.Lib.SwapRemove

variable {α κ : Type}

/-- The rest of an array after its first entry went: the last one takes the
place. -/
def lastFirst (entries : List α) : List α :=
  entries.getLast?.toList ++ entries.dropLast

theorem lastFirst_perm (entries : List α) :
    (lastFirst entries).Perm entries := by
  induction entries using List.reverseRecOn with
  | nil => exact .nil
  | append_singleton entries last ih =>
      rw [lastFirst, List.getLast?_concat, List.dropLast_concat]
      exact List.perm_append_comm

theorem length_lastFirst (entries : List α) :
    (lastFirst entries).length = entries.length :=
  (lastFirst_perm entries).length_eq

/-- Removes the first entry that passes the test. -/
def removeFirst (test : α → Bool) : List α → List α
  | [] => []
  | entry :: rest =>
      if test entry then lastFirst rest else entry :: removeFirst test rest

theorem removeFirst_perm (test : α → Bool) (entries : List α) :
    (removeFirst test entries).Perm (entries.eraseP test) := by
  induction entries with
  | nil => exact .nil
  | cons entry rest ih =>
      rw [removeFirst, List.eraseP_cons]
      cases test entry with
      | true => exact lastFirst_perm rest
      | false => exact ih.cons entry

theorem removeFirst_split (earlier : ∀ other ∈ before, test other = false)
    (passes : test entry = true) :
    removeFirst test (before ++ entry :: after) =
      before ++ lastFirst after := by
  induction before with
  | nil => exact if_pos passes
  | cons head rest ih =>
      obtain ⟨fails, later⟩ := List.forall_mem_cons.mp earlier
      rw [List.cons_append, removeFirst, fails, if_neg Bool.false_ne_true,
        ih later, List.cons_append]

/-- Walks over an array and removes every entry that passes the test; the
entry that fills a gap is looked at next.  `left` bounds the entries ahead.
The removed entries come second. -/
def sweep (test : α → Bool) : (left : Nat) → List α → List α × List α
  | 0, entries => (entries, [])
  | _ + 1, [] => ([], [])
  | left + 1, entry :: rest =>
      if test entry then
        let (kept, removed) := sweep test left (lastFirst rest)
        (kept, entry :: removed)
      else
        let (kept, removed) := sweep test left rest
        (entry :: kept, removed)

theorem sweep_perm (test : α → Bool) (enough : entries.length ≤ left) :
    (sweep test left entries).1.Perm (entries.filter fun entry =>
        !test entry) ∧
      (sweep test left entries).2.Perm (entries.filter test) := by
  induction left generalizing entries with
  | zero =>
      rw [List.eq_nil_of_length_eq_zero (Nat.le_zero.mp enough)]
      exact ⟨.nil, .nil⟩
  | succ left ih =>
      cases entries with
      | nil => exact ⟨.nil, .nil⟩
      | cons entry rest =>
          have ahead : rest.length ≤ left := Nat.le_of_succ_le_succ enough
          cases passes : test entry with
          | true =>
              obtain ⟨kept, removed⟩ :=
                @ih (lastFirst rest) (by rwa [length_lastFirst])
              have moved := lastFirst_perm rest
              simp only [sweep, passes, ↓reduceIte, List.filter_cons,
                Bool.not_true, Bool.false_eq_true]
              exact ⟨kept.trans (moved.filter _),
                (removed.trans (moved.filter _)).cons entry⟩
          | false =>
              obtain ⟨kept, removed⟩ := ih ahead
              simp only [sweep, passes, List.filter_cons, Bool.not_false,
                ↓reduceIte, Bool.false_eq_true]
              exact ⟨kept.cons entry, removed⟩

variable {test : α → Bool} {entries : List α}

theorem mem_sweep_kept :
    entry ∈ (sweep test entries.length entries).1 ↔
      entry ∈ entries ∧ test entry = false := by
  rw [(sweep_perm test (Nat.le_refl _)).1.mem_iff, List.mem_filter,
    Bool.not_eq_true']

theorem mem_sweep_removed :
    entry ∈ (sweep test entries.length entries).2 ↔
      entry ∈ entries ∧ test entry = true := by
  rw [(sweep_perm test (Nat.le_refl _)).2.mem_iff, List.mem_filter]

variable {key : α → κ}

theorem distinct_removeFirst (distinct : (entries.map key).Nodup) :
    ((removeFirst test entries).map key).Nodup := by
  rw [((removeFirst_perm test entries).map key).nodup_iff]
  exact distinct.sublist (entries.eraseP_sublist.map key)

theorem distinct_sweep (distinct : (entries.map key).Nodup) :
    ((sweep test entries.length entries).1.map key).Nodup := by
  rw [((sweep_perm test (Nat.le_refl _)).1.map key).nodup_iff]
  exact distinct.sublist (List.filter_sublist.map key)

variable [DecidableEq κ]

theorem mem_removeFirst {entries : List α} {wanted : κ} {entry : α}
    (distinct : (entries.map key).Nodup) :
    entry ∈ removeFirst (fun entry => key entry = wanted) entries ↔
      entry ∈ entries ∧ key entry ≠ wanted := by
  rw [(removeFirst_perm _ _).mem_iff]
  induction entries with
  | nil => simp
  | cons head rest ih =>
      obtain ⟨fresh, distinct⟩ := List.nodup_cons.mp distinct
      by_cases here : key head = wanted
      · rw [List.eraseP_cons_of_pos (by simpa using here), List.mem_cons]
        constructor
        · intro member
          refine ⟨.inr member, fun same => fresh ?_⟩
          rw [here, ← same]
          exact List.mem_map_of_mem member
        · rintro ⟨rfl | member, differs⟩
          · exact absurd here differs
          · exact member
      · rw [List.eraseP_cons_of_neg (by simpa using here), List.mem_cons,
          ih distinct, List.mem_cons]
        constructor
        · rintro (rfl | ⟨member, differs⟩)
          · exact ⟨.inl rfl, here⟩
          · exact ⟨.inr member, differs⟩
        · rintro ⟨rfl | member, differs⟩
          · exact .inl rfl
          · exact .inr ⟨member, differs⟩

end HidShift.Lib.SwapRemove
