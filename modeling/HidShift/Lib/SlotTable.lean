import Mathlib.Data.List.Basic
import Mathlib.Data.List.Nodup
import Mathlib.Data.List.ReduceOption

/-! Fixed arrays of optional entries addressed by a key.  An entry is found by
scanning for its key, a fresh entry takes the first empty slot. -/

namespace HidShift.Lib

namespace SlotTable

variable {α κ : Type} [DecidableEq κ] (key : α → κ)

def slotIndex? (slots : List (Option α)) (wanted : κ) : Option Nat :=
  slots.findIdx? fun entry => entry.any fun stored => key stored = wanted

def freeIndex? (slots : List (Option α)) : Option Nat :=
  slots.findIdx? Option.isNone

def lookup (slots : List (Option α)) (wanted : κ) : Option α :=
  (slotIndex? key slots wanted).bind fun index => slots[index]?.join

def Distinct (slots : List (Option α)) : Prop :=
  (slots.reduceOption.map key).Nodup

theorem set_at_split (before after : List (Option α)) (old new : Option α) :
    (before ++ old :: after).set before.length new =
      before ++ new :: after := by
  rw [List.set_append_right before.length new (Nat.le_refl _), Nat.sub_self]
  rfl

theorem reduceOption_split (before after : List (Option α)) (entry : Option α) :
    (before ++ entry :: after).reduceOption =
      before.reduceOption ++ (entry.toList ++ after.reduceOption) := by
  rw [List.reduceOption_append]
  cases entry <;> rfl

variable {key}

variable {slots : List (Option α)} {index : Nat} {wanted : κ} {entry : α}

theorem split_of_findIdx? {β : Type} {values : List β} {test : β → Bool}
    (found : values.findIdx? test = some index) :
    ∃ before value after,
      values = before ++ value :: after ∧ before.length = index ∧
        test value = true ∧ ∀ other ∈ before, test other = false := by
  obtain ⟨bound, matched, earlier⟩ :=
    List.findIdx?_eq_some_iff_getElem.mp found
  refine ⟨values.take index, values[index], values.drop (index + 1), ?_, ?_,
    matched, ?_⟩
  · rw [List.getElem_cons_drop, List.take_append_drop]
  · rw [List.length_take]
    omega
  · intro other member
    obtain ⟨position, positionBound, rfl⟩ := List.mem_iff_getElem.mp member
    rw [List.length_take] at positionBound
    rw [List.getElem_take]
    simpa using earlier position (by omega)

theorem split_of_slotIndex? (found : slotIndex? key slots wanted = some index) :
    ∃ before entry after,
      slots = before ++ some entry :: after ∧ before.length = index ∧
        key entry = wanted ∧
          ∀ other ∈ before.reduceOption, key other ≠ wanted := by
  obtain ⟨before, slot, after, split, length, matched, earlier⟩ :=
    split_of_findIdx? found
  obtain ⟨entry, rfl, keyed⟩ :
      ∃ entry, slot = some entry ∧ key entry = wanted := by
    simpa [Option.any_eq_true] using matched
  refine ⟨before, entry, after, split, length, keyed, ?_⟩
  intro other member
  rw [List.reduceOption_mem_iff] at member
  simpa using earlier (some other) member

theorem not_mem_of_slotIndex?_none
    (missing : slotIndex? key slots wanted = none) :
    ∀ entry ∈ slots.reduceOption, key entry ≠ wanted := by
  intro entry member
  rw [List.reduceOption_mem_iff] at member
  have unmatched := List.findIdx?_eq_none_iff.mp missing (some entry) member
  simpa using unmatched

theorem split_of_freeIndex? (found : freeIndex? slots = some index) :
    ∃ before after, slots = before ++ none :: after ∧
      before.length = index := by
  obtain ⟨before, slot, after, split, length, empty, _⟩ :=
    split_of_findIdx? found
  rw [Option.isNone_iff_eq_none.mp empty] at split
  exact ⟨before, after, split, length⟩

private theorem find?_eq_none_of_keys {entries : List α}
    (absent : ∀ entry ∈ entries, key entry ≠ wanted) :
    entries.find? (fun entry => key entry = wanted) = none := by
  simpa using absent

theorem lookup_eq_find? (slots : List (Option α)) (wanted : κ) :
    lookup key slots wanted =
      slots.reduceOption.find? fun entry => key entry = wanted := by
  simp only [lookup]
  cases found : slotIndex? key slots wanted with
  | none =>
      exact (find?_eq_none_of_keys (not_mem_of_slotIndex?_none found)).symm
  | some index =>
      obtain ⟨before, entry, after, rfl, rfl, keyed, earlier⟩ :=
        split_of_slotIndex? found
      rw [reduceOption_split, List.find?_append, find?_eq_none_of_keys earlier]
      simp [keyed]

theorem lookup_isSome_iff :
    (∃ entry, lookup key slots wanted = some entry) ↔
      ∃ index, slotIndex? key slots wanted = some index := by
  constructor
  · rintro ⟨entry, found⟩
    cases scanned : slotIndex? key slots wanted with
    | none => simp [lookup, scanned] at found
    | some index => exact ⟨index, rfl⟩
  · rintro ⟨index, found⟩
    obtain ⟨before, entry, after, rfl, rfl, -, -⟩ := split_of_slotIndex? found
    exact ⟨entry, by simp [lookup, found]⟩

theorem key_of_lookup (found : lookup key slots wanted = some entry) :
    key entry = wanted := by
  rw [lookup_eq_find?] at found
  simpa using List.find?_some found

theorem mem_of_lookup (found : lookup key slots wanted = some entry) :
    entry ∈ slots.reduceOption := by
  rw [lookup_eq_find?] at found
  exact List.mem_of_find?_eq_some found

theorem lookup_split {before : List (Option α)} (wanted : κ)
    (earlier : ∀ other ∈ before.reduceOption, key other ≠ key entry)
    (replaced : ∀ other ∈ old, key other = key entry) :
    lookup key (before ++ some entry :: after) wanted =
      if wanted = key entry then some entry
      else lookup key (before ++ old :: after) wanted := by
  simp only [lookup_eq_find?, reduceOption_split, List.find?_append]
  split
  · rename_i same
    subst same
    rw [find?_eq_none_of_keys earlier]
    simp
  · rename_i differs
    cases old with
    | none => simp [Ne.symm differs]
    | some other =>
        have sameKey := replaced other rfl
        simp [Ne.symm differs, sameKey]

theorem lookup_replace (found : slotIndex? key slots (key entry) = some index)
    (wanted : κ) :
    lookup key (slots.set index (some entry)) wanted =
      if wanted = key entry then some entry
      else lookup key slots wanted := by
  obtain ⟨before, old, after, rfl, rfl, keyed, earlier⟩ :=
    split_of_slotIndex? found
  rw [set_at_split]
  exact lookup_split wanted earlier (by simpa using keyed)

theorem lookup_insert (missing : slotIndex? key slots (key entry) = none)
    (free : freeIndex? slots = some index) (wanted : κ) :
    lookup key (slots.set index (some entry)) wanted =
      if wanted = key entry then some entry
      else lookup key slots wanted := by
  obtain ⟨before, after, rfl, rfl⟩ := split_of_freeIndex? free
  rw [set_at_split]
  refine lookup_split wanted ?_ (by simp)
  intro other member
  refine not_mem_of_slotIndex?_none missing other ?_
  rw [reduceOption_split]
  exact List.mem_append_left _ member

theorem lookup_fill (free : freeIndex? slots = some index)
    (differs : key entry ≠ wanted) :
    lookup key (slots.set index (some entry)) wanted =
      lookup key slots wanted := by
  obtain ⟨before, after, rfl, rfl⟩ := split_of_freeIndex? free
  rw [set_at_split]
  simp only [lookup_eq_find?, reduceOption_split, List.find?_append]
  simp [differs]

theorem mem_fill (free : freeIndex? slots = some index) :
    other ∈ (slots.set index (some entry)).reduceOption ↔
      other = entry ∨ other ∈ slots.reduceOption := by
  obtain ⟨before, after, rfl, rfl⟩ := split_of_freeIndex? free
  rw [set_at_split]
  simp only [reduceOption_split, List.mem_append, Option.toList_some,
    Option.toList_none, List.mem_singleton, List.not_mem_nil, false_or]
  exact or_left_comm

theorem mem_replace (found : slotIndex? key slots wanted = some index)
    (member : other ∈ (slots.set index (some entry)).reduceOption) :
    other = entry ∨ other ∈ slots.reduceOption := by
  obtain ⟨before, old, after, rfl, rfl, -, -⟩ := split_of_slotIndex? found
  rw [set_at_split] at member
  simp only [reduceOption_split, List.mem_append, Option.toList_some,
    List.mem_singleton] at member ⊢
  rcases member with earlier | rfl | later
  · exact .inr (.inl earlier)
  · exact .inl rfl
  · exact .inr (.inr (.inr later))

theorem mem_replace_of_ne (found : slotIndex? key slots wanted = some index)
    (member : other ∈ slots.reduceOption) (differs : key other ≠ wanted) :
    other ∈ (slots.set index (some entry)).reduceOption := by
  obtain ⟨before, old, after, rfl, rfl, keyed, -⟩ :=
    split_of_slotIndex? found
  rw [set_at_split]
  simp only [reduceOption_split, List.mem_append, Option.toList_some,
    List.mem_singleton] at member ⊢
  rcases member with earlier | rfl | later
  · exact .inl earlier
  · exact absurd keyed differs
  · exact .inr (.inr later)

theorem reduceOption_map_filter (keep : α → Bool) (slots : List (Option α)) :
    (slots.map fun slot => slot.filter keep).reduceOption =
      slots.reduceOption.filter keep := by
  induction slots with
  | nil => rfl
  | cons slot rest ih =>
      cases slot with
      | none => simpa using ih
      | some entry =>
          rw [List.map_cons, List.reduceOption_cons_of_some]
          cases kept : keep entry with
          | true =>
              rw [Option.filter_some_pos kept,
                List.reduceOption_cons_of_some, ih,
                List.filter_cons_of_pos kept]
          | false =>
              rw [Option.filter_some_neg (by simp [kept]),
                List.reduceOption_cons_of_none, ih,
                List.filter_cons_of_neg (by simp [kept])]

theorem lookup_filter (slots : List (Option α))
    (kept : ∀ entry, key entry = wanted → keep entry = true) :
    lookup key (slots.map fun slot => slot.filter keep) wanted =
      lookup key slots wanted := by
  rw [lookup_eq_find?, lookup_eq_find?, reduceOption_map_filter,
    List.find?_filter]
  congr 1
  funext entry
  by_cases here : key entry = wanted
  · simp [here, kept entry here]
  · simp [here]

theorem lookup_remove (found : slotIndex? key slots removed = some index)
    (differs : wanted ≠ removed) :
    lookup key (slots.set index none) wanted = lookup key slots wanted := by
  obtain ⟨before, entry, after, rfl, rfl, rfl, earlier⟩ :=
    split_of_slotIndex? found
  rw [set_at_split]
  have filled : lookup key (before ++ some entry :: after) wanted =
      if wanted = key entry then some entry
      else lookup key (before ++ none :: after) wanted :=
    lookup_split wanted earlier (by simp)
  rw [filled, if_neg differs]

theorem lookup_eq_none :
    lookup key slots wanted = none ↔
      ∀ entry ∈ slots.reduceOption, key entry ≠ wanted := by
  rw [lookup_eq_find?, List.find?_eq_none]
  simp

theorem Distinct.fill (distinct : Distinct key (before ++ old :: after))
    (stored : lookup key (before ++ old :: after) (key entry) = old) :
    Distinct key (before ++ some entry :: after) := by
  cases old with
  | some other =>
      have sameKey := key_of_lookup stored
      simpa [Distinct, reduceOption_split, sameKey] using distinct
  | none =>
      have absent := lookup_eq_none.mp stored
      simp only [Distinct] at distinct ⊢
      rw [reduceOption_split] at distinct absent ⊢
      rw [Option.toList_none, List.nil_append] at distinct absent
      rw [Option.toList_some, List.singleton_append, List.map_append,
        List.map_cons, List.nodup_middle, ← List.map_append]
      refine List.nodup_cons.mpr ⟨?_, distinct⟩
      intro member
      obtain ⟨other, otherMember, sameKey⟩ := List.mem_map.mp member
      exact absent other otherMember sameKey

end SlotTable

end HidShift.Lib
