import Mathlib.Data.List.Perm.Subperm
import HidShift.Lib.InPlace
import HidShift.Input.Keyboard

namespace HidShift

open Lib OrderedUnion

theorem KeyboardSuppression.containsKey_iff
    {suppression : KeyboardSuppression} :
    suppression.containsKey key = true ↔ key ∈ suppression.keys.toList := by
  simp [containsKey, BoundedVec.mem_toList]

theorem mem_releaseKeys {released : List KeyUsage}
    {suppression : KeyboardSuppression} (held : key ∉ released) :
    key ∈ (released.foldl KeyboardSuppression.releaseKey
        suppression).keys.toList ↔ key ∈ suppression.keys.toList := by
  induction released generalizing suppression with
  | nil => rfl
  | cons head tail ih =>
      rw [List.mem_cons, not_or] at held
      rw [List.foldl_cons, ih held.2]
      exact List.mem_erase_of_ne held.1

theorem releaseKeys_subset {released : List KeyUsage}
    {suppression : KeyboardSuppression}
    (member : key ∈ (released.foldl KeyboardSuppression.releaseKey
      suppression).keys.toList) : key ∈ suppression.keys.toList := by
  induction released generalizing suppression with
  | nil => exact member
  | cons head tail ih => exact List.mem_of_mem_erase (ih member)

theorem modifiers_releaseKeys (released : List KeyUsage)
    (suppression : KeyboardSuppression) :
    (released.foldl KeyboardSuppression.releaseKey suppression).modifiers =
      suppression.modifiers := by
  induction released generalizing suppression with
  | nil => rfl
  | cons head tail ih => exact ih (suppression.releaseKey head)

/-- A snapshot leaves exactly its own keys held, in press order, and prunes
the suppression to what is still held. -/
structure SnapshotApplied (state : PhysicalKeyboardState)
    (suppression : KeyboardSuppression) (modifiers : ModifierState)
    (keysDown : List KeyUsage) (nextState : PhysicalKeyboardState)
    (nextSuppression : KeyboardSuppression) : Prop where
  nextModifiers : nextState.modifiers = modifiers
  nextKeys : nextState.keys.toList =
    unionInto (state.keys.toList.filter fun key => key ∈ keysDown) keysDown
  suppressedModifiers :
    nextSuppression.modifiers = suppression.modifiers &&& modifiers
  mem_suppressed : ∀ key, key ∈ nextSuppression.keys.toList ↔
    key ∈ suppression.keys.toList ∧ key ∈ keysDown

variable {state : PhysicalKeyboardState}
  {suppression next : KeyboardSuppression} {limit total : Nat}

theorem SnapshotApplied.mem_keys
    (applied : SnapshotApplied state suppression modifiers keysDown nextState
      nextSuppression) (key : KeyUsage) :
    key ∈ nextState.keys.toList ↔ key ∈ keysDown := by
  rw [applied.nextKeys, mem_unionInto, List.mem_filter]
  simp only [decide_eq_true_eq]
  tauto

theorem applySnapshot_spec {state : PhysicalKeyboardState}
    (success : state.applySnapshot modifiers keysDown suppression =
      .ok (nextState, nextSuppression)) :
    SnapshotApplied state suppression modifiers keysDown nextState
      nextSuppression := by
  unfold PhysicalKeyboardState.applySnapshot at success
  cases pressed : (PhysicalKeyboardState.mk modifiers
      (state.keys.retain fun key => key ∈ keysDown)).pressKeys keysDown with
  | error error => simp [pressed, bind, Except.bind] at success
  | ok held =>
      simp only [pressed, bind, Except.bind, pure, Except.pure,
        Except.ok.injEq, Prod.mk.injEq] at success
      obtain ⟨rfl, rfl⟩ := success
      obtain ⟨sameModifiers, keys⟩ :=
        PhysicalKeyboardState.pressKeys_eq_ok.mp pressed
      have members : ∀ key, key ∈ held.keys.toList ↔ key ∈ keysDown := by
        intro key
        rw [keys, mem_unionInto, BoundedVec.toList_retain, List.mem_filter]
        simp only [decide_eq_true_eq]
        tauto
      refine ⟨sameModifiers, keys, ?_, ?_⟩
      · show _ &&& held.modifiers = _
        rw [modifiers_releaseKeys, sameModifiers]
      · intro key
        show key ∈ List.filter _ _ ↔ _
        rw [List.mem_filter]
        simp only [BoundedVec.mem_toList, members, decide_eq_true_eq]
        constructor
        · rintro ⟨suppressed, down⟩
          exact ⟨releaseKeys_subset suppressed, down⟩
        · rintro ⟨suppressed, down⟩
          refine ⟨(mem_releaseKeys ?_).mpr suppressed, down⟩
          simp [down]

theorem releaseKeys_sublist (released : List KeyUsage)
    (suppression : KeyboardSuppression) :
    (released.foldl KeyboardSuppression.releaseKey
        suppression).keys.toList.Sublist suppression.keys.toList := by
  induction released generalizing suppression with
  | nil => exact List.Sublist.refl _
  | cons head tail ih =>
      exact (ih (suppression.releaseKey head)).trans (List.erase_sublist ..)

theorem applySnapshot_sublist
    (success : state.applySnapshot modifiers keysDown suppression =
      .ok (nextState, nextSuppression)) :
    nextSuppression.keys.toList.Sublist suppression.keys.toList := by
  obtain ⟨pressed, -, rest⟩ := bind_eq_ok.mp success
  cases rest
  exact List.filter_sublist.trans (releaseKeys_sublist _ suppression)

theorem suppressVisibleAfterLoop_spec (nodup : keys.Nodup)
    (success : KeyboardSuppression.suppressVisibleAfterLoop limit keys
      suppression visible added = .ok (next, total)) :
    next.modifiers = suppression.modifiers ∧
      next.keys.toList = suppression.keys.toList ++
        (keys.filter fun key => !suppression.containsKey key).drop
          (limit - visible) := by
  induction keys generalizing suppression visible added with
  | nil =>
      cases success
      simp
  | cons head tail ih =>
      obtain ⟨fresh, tailNodup⟩ := List.nodup_cons.mp nodup
      unfold KeyboardSuppression.suppressVisibleAfterLoop at success
      cases hidden : suppression.containsKey head with
      | true =>
          rw [hidden, if_pos rfl] at success
          rw [List.filter_cons_of_neg (by simp [hidden])]
          exact ih tailNodup success
      | false =>
          rw [hidden, if_neg Bool.false_ne_true] at success
          rw [List.filter_cons_of_pos (by simp [hidden])]
          split at success
          · rename_i room
            have shorter : limit - visible = limit - (visible + 1) + 1 := by
              omega
            rw [shorter, List.drop_succ_cons]
            exact ih tailNodup success
          · rename_i full
            have none_left : limit - visible = 0 := by omega
            cases pushed : suppression.keys.push? head with
            | none => simp [pushed] at success
            | some keys =>
                have lists := BoundedVec.push?_eq_some.mp pushed
                simp only [pushed] at success
                obtain ⟨modifiers, rest⟩ := ih tailNodup success
                refine ⟨modifiers, ?_⟩
                -- The suppressed head does not occur again in the tail.
                have unaffected : (tail.filter fun key =>
                    !KeyboardSuppression.containsKey
                      ⟨suppression.modifiers, keys⟩ key) =
                    tail.filter fun key =>
                      !suppression.containsKey key := by
                  apply List.filter_congr
                  intro key member
                  have differs : key ≠ head := fun same => fresh (same ▸ member)
                  simp [KeyboardSuppression.containsKey,
                    BoundedVec.mem_toList, lists, differs]
                rw [rest, unaffected, lists, none_left]
                simp

/-- After the window is enforced, the visible keys are the first `limit` of
those that were visible before. -/
theorem suppressVisibleAfter_spec (nodup : state.keys.toList.Nodup)
    (success : suppression.suppressVisibleAfter state limit = .ok (next, total)) :
    next.modifiers = suppression.modifiers ∧
      next.keys.toList = suppression.keys.toList ++
        (state.keys.toList.filter fun key =>
          !suppression.containsKey key).drop limit := by
  have looped := suppressVisibleAfterLoop_spec nodup success
  rwa [Nat.sub_zero] at looped

private theorem loop_subset
    (success : KeyboardSuppression.suppressVisibleAfterLoop limit keys
      suppression visible added = .ok (next, total)) :
    next.modifiers = suppression.modifiers ∧
      (∀ key ∈ suppression.keys.toList, key ∈ next.keys.toList) ∧
        ∀ key ∈ next.keys.toList,
          key ∈ suppression.keys.toList ∨ key ∈ keys := by
  induction keys generalizing suppression visible added with
  | nil =>
      cases success
      exact ⟨rfl, fun _ member => member, fun _ => Or.inl⟩
  | cons head tail ih =>
      unfold KeyboardSuppression.suppressVisibleAfterLoop at success
      have weaken : ∀ {key : KeyUsage}, key ∈ suppression.keys.toList ∨
          key ∈ tail → key ∈ suppression.keys.toList ∨ key ∈ head :: tail :=
        fun found => found.imp id (List.mem_cons_of_mem _)
      split at success
      · obtain ⟨modifiers, grows, bounded⟩ := ih success
        exact ⟨modifiers, grows, fun key member => weaken (bounded key member)⟩
      · split at success
        · obtain ⟨modifiers, grows, bounded⟩ := ih success
          exact ⟨modifiers, grows,
            fun key member => weaken (bounded key member)⟩
        · cases pushed : suppression.keys.push? head with
          | none => simp [pushed] at success
          | some keys =>
              have lists := BoundedVec.push?_eq_some.mp pushed
              simp only [pushed] at success
              obtain ⟨modifiers, grows, bounded⟩ := ih success
              refine ⟨modifiers, ?_, ?_⟩
              · intro key member
                exact grows key (by rw [lists]; simp [member])
              · intro key member
                have found := bounded key member
                rw [lists, List.mem_append, List.mem_singleton] at found
                simp only [List.mem_cons]
                tauto

theorem suppressVisibleAfter_subset
    (success : suppression.suppressVisibleAfter state limit = .ok (next, total)) :
    next.modifiers = suppression.modifiers ∧
      (∀ key ∈ suppression.keys.toList, key ∈ next.keys.toList) ∧
        ∀ key ∈ next.keys.toList,
          key ∈ suppression.keys.toList ∨ key ∈ state.keys.toList :=
  loop_subset success

private theorem loop_ok {held : List KeyUsage}
    {suppression : KeyboardSuppression} (visible added : Nat)
    (fits : held.length ≤ physicalKeyboardKeyCapacity)
    (nodup : suppression.keys.toList.Nodup)
    (within : ∀ key ∈ suppression.keys.toList, key ∈ held)
    (keysHeld : ∀ key ∈ keys, key ∈ held) :
    ∃ next total, KeyboardSuppression.suppressVisibleAfterLoop limit keys
      suppression visible added = .ok (next, total) := by
  induction keys generalizing suppression visible added with
  | nil => exact ⟨suppression, added, rfl⟩
  | cons head tail ih =>
      have tailHeld : ∀ key ∈ tail, key ∈ held := fun key member =>
        keysHeld key (List.mem_cons_of_mem _ member)
      unfold KeyboardSuppression.suppressVisibleAfterLoop
      split
      · exact ih visible added nodup within tailHeld
      · rename_i unhidden
        rw [KeyboardSuppression.containsKey_iff] at unhidden
        split
        · exact ih (visible + 1) added nodup within tailHeld
        · -- The suppressed keys and this one are distinct held keys.
          have grown : (head :: suppression.keys.toList).Nodup :=
            List.nodup_cons.mpr ⟨unhidden, nodup⟩
          have grownHeld : head :: suppression.keys.toList ⊆ held := by
            apply List.cons_subset.mpr
            exact ⟨keysHeld head (List.mem_cons_self ..), within⟩
          have room : (head :: suppression.keys.toList).length ≤
              physicalKeyboardKeyCapacity :=
            Nat.le_trans (grown.subperm grownHeld).length_le fits
          cases pushed : suppression.keys.push? head with
          | none =>
              have full := BoundedVec.push?_eq_none.mp pushed
              rw [List.length_cons] at room
              omega
          | some keys =>
              have lists := BoundedVec.push?_eq_some.mp pushed
              apply ih visible (added + 1)
              · rw [lists]
                exact (List.perm_append_singleton ..).nodup_iff.mpr grown
              · intro key member
                rw [lists, List.mem_append, List.mem_singleton] at member
                rcases member with old | rfl
                · exact within key old
                · exact keysHeld key (List.mem_cons_self ..)
              · exact tailHeld

theorem suppressVisibleAfter_ok {suppression : KeyboardSuppression}
    (limit : Nat) (nodup : suppression.keys.toList.Nodup)
    (within : ∀ key ∈ suppression.keys.toList, key ∈ state.keys.toList) :
    ∃ next total, suppression.suppressVisibleAfter state limit =
      .ok (next, total) :=
  loop_ok 0 0 state.keys.length_le nodup within fun _ member => member

theorem filter_not_mem_drop {keys : List KeyUsage} (nodup : keys.Nodup)
    (limit : Nat) :
    (keys.filter fun key => key ∉ keys.drop limit) = keys.take limit := by
  have split : keys.take limit ++ keys.drop limit = keys :=
    List.take_append_drop ..
  have apart := List.disjoint_of_nodup_append (split.symm ▸ nodup)
  conv_lhs => rw [← split]
  rw [List.filter_append, split]
  have none_dropped : (keys.take limit).filter
      (fun key => key ∉ keys.drop limit) = keys.take limit := by
    apply List.filter_eq_self.mpr
    intro key taken
    exact decide_eq_true (apart taken)
  have all_dropped : (keys.drop limit).filter
      (fun key => key ∉ keys.drop limit) = [] := by
    apply List.filter_eq_nil_iff.mpr
    intro key dropped
    simp [dropped]
  rw [none_dropped, all_dropped, List.append_nil]

theorem suppressVisibleAfter_visible (nodup : state.keys.toList.Nodup)
    (success : suppression.suppressVisibleAfter state limit = .ok (next, total)) :
    (state.keys.toList.filter fun key => !next.containsKey key) =
      (state.keys.toList.filter fun key =>
        !suppression.containsKey key).take limit := by
  obtain ⟨-, keys⟩ := suppressVisibleAfter_spec nodup success
  have visibleNodup := nodup.filter fun key => !suppression.containsKey key
  rw [← filter_not_mem_drop visibleNodup, List.filter_filter]
  apply List.filter_congr
  intro key _
  simp only [KeyboardSuppression.containsKey, BoundedVec.mem_toList, keys,
    List.mem_append, decide_not, Bool.decide_or, Bool.not_or,
    Bool.and_comm]

theorem suppressVisibleAfter_nodup (held : state.keys.toList.Nodup)
    (nodup : suppression.keys.toList.Nodup)
    (success : suppression.suppressVisibleAfter state limit = .ok (next, total)) :
    next.keys.toList.Nodup := by
  obtain ⟨-, keys⟩ := suppressVisibleAfter_spec held success
  rw [keys]
  refine List.nodup_append.mpr ⟨nodup,
    (held.filter _).sublist (List.drop_sublist ..), ?_⟩
  rintro key hidden _ dropped rfl
  have visible := (List.mem_filter.mp (List.mem_of_mem_drop dropped)).2
  rw [KeyboardSuppression.containsKey_iff.mpr hidden] at visible
  cases visible

private theorem visible_loop (suppression : KeyboardSuppression)
    (keys : List KeyUsage) (visible : VisibleKeyboardState)
    (room : visible.keys.toList.length + keys.length ≤
      physicalKeyboardKeyCapacity) :
    let result := keys.foldl
      (fun visible key =>
        if suppression.containsKey key then
          visible
        else
          match visible.keys.push? key with
          | some keys => { visible with keys := keys }
          | none => { visible with truncated := true })
      visible
    result.modifiers = visible.modifiers ∧
      result.truncated = visible.truncated ∧
        result.keys.toList = visible.keys.toList ++
          keys.filter fun key => !suppression.containsKey key := by
  induction keys generalizing visible with
  | nil => simp
  | cons head tail ih =>
      rw [List.length_cons] at room
      simp only [List.foldl_cons]
      cases hidden : suppression.containsKey head with
      | true =>
          rw [if_pos rfl, List.filter_cons_of_neg (by simp [hidden])]
          exact ih visible (by omega)
      | false =>
          rw [if_neg Bool.false_ne_true,
            List.filter_cons_of_pos (by simp [hidden])]
          cases pushed : visible.keys.push? head with
          | none =>
              have full := BoundedVec.push?_eq_none.mp pushed
              omega
          | some keys =>
              have lists := BoundedVec.push?_eq_some.mp pushed
              have shown := ih { visible with keys := keys } (by
                show keys.toList.length + _ ≤ _
                rw [lists, List.length_append, List.length_singleton]
                omega)
              simp only [lists] at shown
              simpa using shown

theorem visibleAgainst_spec (state : PhysicalKeyboardState)
    (suppression : KeyboardSuppression) :
    (state.visibleAgainst suppression).modifiers =
        state.modifiers &&& ~~~suppression.modifiers ∧
      (state.visibleAgainst suppression).truncated = false ∧
        (state.visibleAgainst suppression).keys.toList =
          state.keys.toList.filter fun key =>
            !suppression.containsKey key := by
  have shown := visible_loop suppression state.keys.toList
    ⟨state.modifiers &&& ~~~suppression.modifiers, .empty, false⟩
    (by simpa using state.keys.length_le)
  rw [BoundedVec.toList_empty, List.nil_append] at shown
  exact shown

private theorem toFrame_loop
    (success : keys.foldlM KeyboardFrame.pushKey frame = .ok result) :
    result.modifiers = frame.modifiers ∧
      result.keysDown.toList = unionInto frame.keysDown.toList keys := by
  induction keys generalizing frame with
  | nil =>
      cases success
      exact ⟨rfl, rfl⟩
  | cons head tail ih =>
      rw [List.foldlM_cons] at success
      cases first : frame.pushKey head with
      | error error => simp [first, bind, Except.bind] at success
      | ok middle =>
          simp only [first, bind, Except.bind] at success
          obtain ⟨modifiers, keys⟩ := ih success
          rw [unionInto_cons, keys, modifiers]
          unfold KeyboardFrame.pushKey at first
          split at first
          · rename_i absent
            split at first
            · rename_i pushed
              cases first
              exact ⟨rfl, by
                rw [BoundedVec.push?_eq_some.mp pushed, pushNew, if_neg absent]⟩
            · cases first
          · rename_i present
            cases first
            exact ⟨rfl, by rw [pushNew, if_pos (not_not.mp present)]⟩

theorem toFrame_spec (success : state.toFrame = .ok frame) :
    frame.modifiers = state.modifiers ∧
      ∀ key, key ∈ frame.keysDown.toList ↔ key ∈ state.keys.toList := by
  obtain ⟨modifiers, keys⟩ := toFrame_loop success
  refine ⟨modifiers, fun key => ?_⟩
  rw [keys, mem_unionInto]
  simp [KeyboardFrame.new]

theorem applyFrame_toFrame (built : state.toFrame = .ok frame)
    (applied : state.applyFrame frame suppression =
      .ok (nextState, nextSuppression)) :
    nextState = state ∧
      nextSuppression.modifiers = suppression.modifiers &&& state.modifiers ∧
        ∀ key, key ∈ nextSuppression.keys.toList ↔
          key ∈ suppression.keys.toList ∧ key ∈ state.keys.toList := by
  obtain ⟨sameModifiers, members⟩ := toFrame_spec built
  have snapshot := applySnapshot_spec applied
  refine ⟨PhysicalKeyboardState.ext_lists ?_ ?_, ?_, ?_⟩
  · rw [snapshot.nextModifiers, sameModifiers]
  · rw [snapshot.nextKeys, unionInto_of_subset]
    · exact List.filter_eq_self.mpr fun key member => by
        simpa using (members key).mpr member
    · intro key member
      exact List.mem_filter.mpr ⟨(members key).mp member, by simpa using member⟩
  · rw [snapshot.suppressedModifiers, sameModifiers]
  · intro key
    rw [snapshot.mem_suppressed, members]

end HidShift
