import Mathlib.Data.List.Basic

/-! A buffer that adds up what is put into it.  For each key it holds an amount
along every axis, and while it does, the mark that all of it was put in with;
an amount comes out in parts. -/

namespace HidShift.Lib

section

variable {α κ : Type} [DecidableEq κ]

def keyedSum (key : α → κ) (value : α → Int) : List α → κ → Int
  | [], _ => 0
  | item :: items, wanted =>
      (if key item = wanted then value item else 0) +
        keyedSum key value items wanted

namespace KeyedSum

variable {key : α → κ} {value : α → Int}

@[simp] theorem nil (wanted : κ) : keyedSum key value [] wanted = 0 := rfl

theorem cons (item : α) (items : List α) (wanted : κ) :
    keyedSum key value (item :: items) wanted =
      (if key item = wanted then value item else 0) +
        keyedSum key value items wanted := rfl

theorem append (first second : List α) (wanted : κ) :
    keyedSum key value (first ++ second) wanted =
      keyedSum key value first wanted + keyedSum key value second wanted := by
  induction first with
  | nil => rw [List.nil_append, nil, Int.zero_add]
  | cons item items ih => rw [List.cons_append, cons, cons, ih, Int.add_assoc]

theorem middle (before after : List α) (item : α) (wanted : κ) :
    keyedSum key value (before ++ item :: after) wanted =
      (if key item = wanted then value item else 0) +
        keyedSum key value (before ++ after) wanted := by
  rw [append, cons, append]
  omega

theorem eq_zero {items : List α} {wanted : κ}
    (absent : ∀ item ∈ items, key item ≠ wanted) :
    keyedSum key value items wanted = 0 := by
  induction items with
  | nil => rfl
  | cons item items ih =>
      rw [cons, if_neg (absent item List.mem_cons_self), ih fun other member =>
        absent other (List.mem_cons_of_mem _ member)]
      rfl

end KeyedSum

end

/-- What a buffer reads off an item, and how far a sum can go. -/
structure Coalescing (Item κ ι τ : Type) where
  key : Item → κ
  mark : Item → τ
  amount : Item → ι → Int
  clamp : Int → Int

/-- What can be seen of a buffer. -/
structure Coalesced (κ ι τ : Type) where
  held : κ → ι → Int
  mark : κ → Option τ

/-- What went in, and what came out together with the items it sums up.  A
batch is what went in since the key was last empty. -/
structure CoalescingLog (Item κ : Type) where
  accepted : List Item
  taken : List (Item × List Item)
  batch : κ → List Item

def CoalescingLog.empty {Item κ : Type} : CoalescingLog Item κ :=
  ⟨[], [], fun _ => []⟩

namespace Coalescing

variable {Item κ ι τ : Type} (rule : Coalescing Item κ ι τ)

/-- What belongs to the other keys is the same. -/
structure Elsewhere (key : κ) (before after : Coalesced κ ι τ) : Prop where
  held : ∀ other, other ≠ key → after.held other = before.held other
  mark : ∀ other, other ≠ key → after.mark other = before.mark other

/-- The item goes in, under the mark of what is held for its key. -/
structure Accepts (before after : Coalesced κ ι τ) (item : Item) : Prop where
  matching : ∀ mark, before.mark (rule.key item) = some mark →
    mark = rule.mark item
  marked : after.mark (rule.key item) = some (rule.mark item)
  added : ∀ axis, after.held (rule.key item) axis =
    rule.clamp (before.held (rule.key item) axis + rule.amount item axis)
  elsewhere : Elsewhere (rule.key item) before after

/-- The item is a part of what is held for its key. -/
structure Gives (before after : Coalesced κ ι τ) (item : Item) : Prop where
  marked : before.mark (rule.key item) = some (rule.mark item)
  left : after.mark (rule.key item) = none ∨
    after.mark (rule.key item) = some (rule.mark item)
  split : ∀ axis, rule.amount item axis + after.held (rule.key item) axis =
    before.held (rule.key item) axis
  elsewhere : Elsewhere (rule.key item) before after

/-- The sums are as they would be without a bound. -/
def Exact (before : Coalesced κ ι τ) (item : Item) : Prop :=
  ∀ axis,
    rule.clamp (before.held (rule.key item) axis + rule.amount item axis) =
      before.held (rule.key item) axis + rule.amount item axis

variable [DecidableEq κ]

def accept (log : CoalescingLog Item κ) (item : Item) :
    CoalescingLog Item κ where
  accepted := log.accepted ++ [item]
  taken := log.taken
  batch key :=
    if rule.key item = key then log.batch key ++ [item] else log.batch key

/-- The batch is done with when nothing is left of it. -/
def give (log : CoalescingLog Item κ) (item : Item) (left : Bool) :
    CoalescingLog Item κ where
  accepted := log.accepted
  taken := log.taken ++ [(item, log.batch (rule.key item))]
  batch key :=
    if rule.key item = key ∧ left = false then [] else log.batch key

def put (log : CoalescingLog Item κ) (key : κ) (axis : ι) : Int :=
  keyedSum rule.key (rule.amount · axis) log.accepted key

def got (log : CoalescingLog Item κ) (key : κ) (axis : ι) : Int :=
  keyedSum rule.key (rule.amount · axis) (log.taken.map Prod.fst) key

/-- What goes in comes out or is held. -/
def Balanced (buffer : Coalesced κ ι τ) (log : CoalescingLog Item κ) : Prop :=
  ∀ key axis, rule.put log key axis =
    rule.got log key axis + buffer.held key axis

/-- All items of a batch carry the mark that is held, and so did those that
are done with. -/
structure Marked (buffer : Coalesced κ ι τ) (log : CoalescingLog Item κ) :
    Prop where
  batch : ∀ key, ∀ item ∈ log.batch key,
    rule.key item = key ∧ buffer.mark key = some (rule.mark item)
  waits : ∀ key, (buffer.mark key).isSome → log.batch key ≠ []
  taken : ∀ entry ∈ log.taken, entry.2 ≠ [] ∧ ∀ item ∈ entry.2,
    rule.key item = rule.key entry.1 ∧ rule.mark item = rule.mark entry.1

variable {rule} {before after : Coalesced κ ι τ}
  {log : CoalescingLog Item κ} {item : Item}

theorem Balanced.accept (balanced : rule.Balanced before log)
    (accepts : rule.Accepts before after item)
    (exact : rule.Exact before item) :
    rule.Balanced after (rule.accept log item) := by
  intro key axis
  have balance := balanced key axis
  have sum : rule.put (rule.accept log item) key axis = rule.put log key axis +
      ((if rule.key item = key then rule.amount item axis else 0) + 0) :=
    KeyedSum.append log.accepted [item] key
  change _ = rule.got log key axis + _
  rw [sum, balance]
  by_cases own : rule.key item = key
  · subst own
    rw [if_pos rfl, accepts.added, exact axis]
    omega
  · rw [if_neg own, accepts.elsewhere.held key (Ne.symm own)]
    omega

theorem Balanced.give (balanced : rule.Balanced before log)
    (gives : rule.Gives before after item) (left : Bool) :
    rule.Balanced after (rule.give log item left) := by
  intro key axis
  have balance := balanced key axis
  have sum : rule.got (rule.give log item left) key axis =
      rule.got log key axis +
        ((if rule.key item = key then rule.amount item axis else 0) + 0) := by
    rw [got, Coalescing.give, List.map_append]
    exact KeyedSum.append _ [item] key
  change rule.put log key axis = _
  rw [sum, balance]
  by_cases own : rule.key item = key
  · subst own
    rw [if_pos rfl, ← gives.split axis]
    omega
  · rw [if_neg own, gives.elsewhere.held key (Ne.symm own)]
    omega

theorem Marked.accept (marked : rule.Marked before log)
    (accepts : rule.Accepts before after item) :
    rule.Marked after (rule.accept log item) where
  batch key other member := by
    change other ∈ ite _ _ _ at member
    by_cases own : rule.key item = key
    · subst own
      rw [if_pos rfl] at member
      rcases List.mem_append.mp member with old | latest
      · obtain ⟨same, held⟩ := marked.batch _ other old
        exact ⟨same, by rw [accepts.marked, accepts.matching _ held]⟩
      · rw [List.mem_singleton.mp latest]
        exact ⟨rfl, accepts.marked⟩
    · rw [if_neg own] at member
      rw [accepts.elsewhere.mark key (Ne.symm own)]
      exact marked.batch key other member
  waits key held := by
    change ite _ _ _ ≠ _
    by_cases own : rule.key item = key
    · rw [if_pos own]
      exact List.append_ne_nil_of_right_ne_nil _ (List.cons_ne_nil _ _)
    · rw [accepts.elsewhere.mark key (Ne.symm own)] at held
      rw [if_neg own]
      exact marked.waits key held
  taken := marked.taken

theorem Marked.give (marked : rule.Marked before log)
    (gives : rule.Gives before after item) :
    rule.Marked after
      (rule.give log item (after.mark (rule.key item)).isSome) where
  batch key other member := by
    change other ∈ ite _ _ _ at member
    by_cases own : rule.key item = key
    · subst own
      rcases gives.left with none | some
      · rw [none, if_pos ⟨rfl, rfl⟩] at member
        cases member
      · rw [some, if_neg (fun done => by cases done.2)] at member
        obtain ⟨same, held⟩ := marked.batch _ other member
        exact ⟨same, by rw [some, ← held, gives.marked]⟩
    · rw [if_neg (fun done => own done.1)] at member
      rw [gives.elsewhere.mark key (Ne.symm own)]
      exact marked.batch key other member
  waits key held := by
    change ite _ _ _ ≠ _
    by_cases own : rule.key item = key
    · subst own
      rw [if_neg (fun done => by rw [held] at done; cases done.2)]
      exact marked.waits _ (by rw [gives.marked]; rfl)
    · rw [if_neg (fun done => own done.1)]
      rw [gives.elsewhere.mark key (Ne.symm own)] at held
      exact marked.waits key held
  taken entry member := by
    rcases List.mem_append.mp member with old | latest
    · exact marked.taken entry old
    · rw [List.mem_singleton.mp latest]
      refine ⟨marked.waits _ (by rw [gives.marked]; rfl), ?_⟩
      intro other inBatch
      obtain ⟨same, held⟩ := marked.batch _ other inBatch
      rw [gives.marked] at held
      exact ⟨same, (Option.some.inj held).symm⟩

theorem balanced_empty (nothing : ∀ key axis, buffer.held key axis = 0) :
    rule.Balanced buffer .empty := by
  intro key axis
  rw [nothing]
  rfl

omit [DecidableEq κ] in
theorem marked_empty (nothing : ∀ key, buffer.mark key = none) :
    rule.Marked buffer .empty where
  batch _ _ member := (List.not_mem_nil member).elim
  waits key held := by
    rw [nothing] at held
    cases held
  taken _ member := (List.not_mem_nil member).elim

end Coalescing

end HidShift.Lib
