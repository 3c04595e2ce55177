import Mathlib.Data.List.Induction
import Mathlib.Data.List.Perm.Subperm
import HidShift.Input.Aggregator

namespace HidShift

open Lib OrderedUnion

def rebuildKeyboard (entries : List DeviceInputState) :
    Except InputError PhysicalKeyboardState :=
  entries.foldlM addKeyboard .new

def rebuildMouseButtons (entries : List DeviceInputState) : MouseButtons :=
  entries.foldl addMouseButtons .empty

def rebuildConsumer (entries : List DeviceInputState) : ConsumerState :=
  (entries.foldl addConsumer (.new, none)).1

private theorem rebuild_loop (entries : List DeviceInputState)
    (aggregate : PhysicalInputState) (newest : Option UInt64) :
    (entries.foldlM
      (fun (aggregate, newest) entry => do
        let keyboard ← addKeyboard aggregate.keyboard entry
        let buttons := addMouseButtons aggregate.mouse.buttons entry
        let (consumer, newest) :=
          addConsumer (aggregate.consumer, newest) entry
        return (⟨keyboard, ⟨buttons⟩, consumer⟩, newest))
      ((aggregate, newest) : PhysicalInputState × Option UInt64) :
      Except InputError (PhysicalInputState × Option UInt64)) =
    (entries.foldlM addKeyboard aggregate.keyboard).map fun keyboard =>
      let choice := entries.foldl addConsumer (aggregate.consumer, newest)
      (⟨keyboard, ⟨entries.foldl addMouseButtons aggregate.mouse.buttons⟩,
        choice.1⟩, choice.2) := by
  induction entries generalizing aggregate newest with
  | nil => rfl
  | cons head tail ih =>
      simp only [List.foldlM_cons, List.foldl_cons]
      cases addKeyboard aggregate.keyboard head with
      | error error => rfl
      | ok keyboard => exact ih _ _

theorem rebuildAggregate_eq (devices : DeviceSlots) :
    rebuildAggregate devices =
      (rebuildKeyboard devices.reduceOption).map fun keyboard =>
        ⟨keyboard, ⟨rebuildMouseButtons devices.reduceOption⟩,
          rebuildConsumer devices.reduceOption⟩ := by
  simp only [rebuildAggregate, rebuildKeyboard]
  rw [rebuild_loop, show PhysicalInputState.new.keyboard = .new from rfl]
  cases devices.reduceOption.foldlM addKeyboard .new with
  | error error => rfl
  | ok keyboard => rfl

theorem rebuildAggregate_eq_ok :
    rebuildAggregate devices = .ok aggregate ↔
      rebuildKeyboard devices.reduceOption = .ok aggregate.keyboard ∧
        aggregate.mouse.buttons = rebuildMouseButtons devices.reduceOption ∧
          aggregate.consumer = rebuildConsumer devices.reduceOption := by
  rw [rebuildAggregate_eq]
  obtain ⟨keyboard, ⟨buttons⟩, consumer⟩ := aggregate
  cases rebuildKeyboard devices.reduceOption with
  | error error => simp [Except.map]
  | ok rebuilt =>
      simp [Except.map, @eq_comm _ buttons, @eq_comm _ consumer]

def heldModifiers (entries : List DeviceInputState) : ModifierState :=
  entries.foldl (fun modifiers entry =>
    modifiers ||| entry.keyboard.modifiers) 0

def heldKeys (entries : List DeviceInputState) : List KeyUsage :=
  entries.flatMap fun entry => entry.keyboard.keys.toList

private theorem keyboard_loop :
    entries.foldlM addKeyboard keyboard = .ok next ↔
      next.modifiers = entries.foldl (fun modifiers entry =>
          modifiers ||| entry.keyboard.modifiers) keyboard.modifiers ∧
        next.keys.toList =
          unionInto keyboard.keys.toList (heldKeys entries) := by
  induction entries generalizing keyboard with
  | nil =>
      show keyboard.pressKeys [] = .ok next ↔ _
      exact PhysicalKeyboardState.pressKeys_eq_ok
  | cons head tail ih =>
      rw [List.foldlM_cons, List.foldl_cons, heldKeys, List.flatMap_cons,
        unionInto_append]
      constructor
      · intro rebuilt
        cases first : addKeyboard keyboard head with
        | error error => simp [first, bind, Except.bind] at rebuilt
        | ok middle =>
            obtain ⟨modifiers, keys⟩ :=
              PhysicalKeyboardState.pressKeys_eq_ok.mp first
            simp only [first, bind, Except.bind] at rebuilt
            obtain ⟨restModifiers, restKeys⟩ := ih.mp rebuilt
            rw [modifiers] at restModifiers
            rw [keys] at restKeys
            exact ⟨restModifiers, restKeys⟩
      · rintro ⟨modifiers, keys⟩
        have room : (unionInto keyboard.keys.toList
            head.keyboard.keys.toList).length ≤
              physicalKeyboardKeyCapacity := by
          refine Nat.le_trans ?_ next.keys.length_le
          rw [keys]
          exact (prefix_unionInto _ _).length_le
        have first : addKeyboard keyboard head =
            .ok ⟨keyboard.modifiers ||| head.keyboard.modifiers,
              ⟨unionInto keyboard.keys.toList head.keyboard.keys.toList,
                room⟩⟩ :=
          PhysicalKeyboardState.pressKeys_eq_ok.mpr ⟨rfl, rfl⟩
        simp only [first, bind, Except.bind]
        exact ih.mpr ⟨modifiers, keys⟩

theorem rebuildKeyboard_eq_ok :
    rebuildKeyboard entries = .ok keyboard ↔
      keyboard.modifiers = heldModifiers entries ∧
        keyboard.keys.toList = unionInto [] (heldKeys entries) :=
  keyboard_loop

theorem rebuildKeyboard_of_sublist
    (rebuilt : rebuildKeyboard entries = .ok keyboard)
    (sublist : List.Sublist fewer entries) :
    ∃ remaining, rebuildKeyboard fewer = .ok remaining := by
  obtain ⟨-, keys⟩ := rebuildKeyboard_eq_ok.mp rebuilt
  have subset : ∀ key ∈ unionInto [] (heldKeys fewer),
      key ∈ keyboard.keys.toList := by
    intro key member
    rw [keys]
    rw [mem_unionInto] at member ⊢
    apply member.imp id
    intro held
    obtain ⟨entry, entryMember, keyMember⟩ := List.mem_flatMap.mp held
    exact List.mem_flatMap.mpr ⟨entry, sublist.subset entryMember, keyMember⟩
  have room : (unionInto [] (heldKeys fewer)).length ≤
      physicalKeyboardKeyCapacity :=
    Nat.le_trans
      (List.subperm_of_subset (nodup_unionInto List.nodup_nil _)
        subset).length_le
      keyboard.keys.length_le
  exact ⟨⟨heldModifiers fewer, ⟨unionInto [] (heldKeys fewer), room⟩⟩,
    rebuildKeyboard_eq_ok.mpr ⟨rfl, rfl⟩⟩

private theorem filterMap_zipIdx_ne (slots : DeviceSlots) (start index : Nat)
    (replacement : DeviceInputState) (before : index < start) :
    (slots.zipIdx start).filterMap (fun (stored, position) =>
      if position = index then some replacement else stored) =
        slots.reduceOption := by
  induction slots generalizing start with
  | nil => rfl
  | cons head tail ih =>
      have elsewhere : start ≠ index := Nat.ne_of_gt before
      rw [List.zipIdx_cons, List.filterMap_cons,
        ih (start + 1) (Nat.lt_succ_of_lt before)]
      cases head <;> simp [elsewhere]

private theorem filterMap_zipIdx_split (before after : DeviceSlots)
    (old : Option DeviceInputState) (start : Nat)
    (replacement : DeviceInputState) :
    ((before ++ old :: after).zipIdx start).filterMap
      (fun (stored, position) =>
        if position = start + before.length then some replacement
        else stored) =
      before.reduceOption ++ replacement :: after.reduceOption := by
  induction before generalizing start with
  | nil =>
      rw [List.nil_append, List.zipIdx_cons, List.filterMap_cons]
      rw [filterMap_zipIdx_ne after (start + 1) _ replacement
        (by rw [List.length_nil]; omega)]
      simp
  | cons head tail ih =>
      rw [List.cons_append, List.zipIdx_cons, List.filterMap_cons]
      have shifted : start + (head :: tail).length =
          (start + 1) + tail.length := by
        rw [List.length_cons]
        omega
      have elsewhere : start ≠ (start + 1) + tail.length := by omega
      rw [shifted, ih (start + 1)]
      cases head <;> simp [elsewhere]

theorem entriesReplacing_split (before after : DeviceSlots)
    (old : Option DeviceInputState) (replacement : DeviceInputState) :
    entriesReplacing (before ++ old :: after) before.length replacement =
      before.reduceOption ++ replacement :: after.reduceOption := by
  have split := filterMap_zipIdx_split before after old 0 replacement
  rw [Nat.zero_add] at split
  exact split

section

variable {before after : List DeviceInputState} {next : DeviceInputState}
  (old : Option DeviceInputState)

theorem rebuildKeyboard_replace (same : ∀ keyboard, addKeyboard keyboard next =
      old.toList.foldlM addKeyboard keyboard) :
    rebuildKeyboard (before ++ next :: after) =
      rebuildKeyboard (before ++ (old.toList ++ after)) := by
  simp only [rebuildKeyboard]
  rw [List.foldlM_append, List.foldlM_append]
  congr 1
  funext keyboard
  rw [List.foldlM_cons, List.foldlM_append, same]

theorem rebuildMouseButtons_replace
    (same : ∀ buttons, addMouseButtons buttons next =
      old.toList.foldl addMouseButtons buttons) :
    rebuildMouseButtons (before ++ next :: after) =
      rebuildMouseButtons (before ++ (old.toList ++ after)) := by
  simp only [rebuildMouseButtons]
  rw [List.foldl_append, List.foldl_append, List.foldl_cons,
    List.foldl_append, same]

theorem rebuildConsumer_replace (same : ∀ choice, addConsumer choice next =
      old.toList.foldl addConsumer choice) :
    rebuildConsumer (before ++ next :: after) =
      rebuildConsumer (before ++ (old.toList ++ after)) := by
  simp only [rebuildConsumer]
  rw [List.foldl_append, List.foldl_append, List.foldl_cons,
    List.foldl_append, same]

end

section

variable (deviceId : DeviceId) (interfaceId : InterfaceId)

theorem addKeyboard_eq (same : left.keyboard = right.keyboard) :
    addKeyboard keyboard left = addKeyboard keyboard right := by
  simp only [addKeyboard]
  rw [same]

theorem addKeyboard_new (keyboard : PhysicalKeyboardState) :
    addKeyboard keyboard (.new deviceId interfaceId) = .ok keyboard :=
  PhysicalKeyboardState.pressKeys_eq_ok.mpr ⟨(BitVec.or_zero).symm, rfl⟩

theorem addMouseButtons_empty (buttons : MouseButtons)
    (released : entry.mouseButtons = .empty) :
    addMouseButtons buttons entry = buttons := by
  apply MouseButtons.ext
  simp only [addMouseButtons]
  rw [MouseButtons.bits_fromBitsTruncate_or, released]
  exact BitVec.or_zero

theorem addConsumer_none (choice : ConsumerChoice)
    (released : entry.consumer.active = none) :
    addConsumer choice entry = choice := by
  simp [addConsumer, released]

end

def NewestConsumer (entries : List DeviceInputState)
    (entry : DeviceInputState) : Prop :=
  entry ∈ entries ∧ entry.consumer.active.isSome ∧
    ∀ other ∈ entries, other.consumer.active.isSome → other = entry ∨
      (generationIsNewerOrEqual entry.consumerGeneration
          other.consumerGeneration = true ∧
        generationIsNewerOrEqual other.consumerGeneration
          entry.consumerGeneration = false)

theorem generationIsNewerOrEqual_self (generation : UInt64) :
    generationIsNewerOrEqual generation generation = true := by
  simp [generationIsNewerOrEqual]

theorem consumer_choice_cases (entries : List DeviceInputState) :
    ((entries.foldl addConsumer (.new, none)) = (.new, none) ∧
        ∀ entry ∈ entries, entry.consumer.active = none) ∨
      ∃ entry ∈ entries, entry.consumer.active.isSome ∧
        entries.foldl addConsumer (.new, none) =
          (entry.consumer, some entry.consumerGeneration) := by
  induction entries using List.reverseRecOn with
  | nil => exact Or.inl ⟨rfl, fun _ member => nomatch member⟩
  | append_singleton entries last ih =>
      rw [List.foldl_append, List.foldl_cons, List.foldl_nil]
      by_cases taken : (last.consumer.active.isSome &&
          (entries.foldl addConsumer (.new, none)).2.all
            (generationIsNewerOrEqual last.consumerGeneration)) = true
      · refine Or.inr ⟨last, by simp, ?_, if_pos taken⟩
        exact (Bool.and_eq_true_iff.mp taken).1
      · rw [addConsumer, if_neg taken]
        rcases ih with ⟨idle, released⟩ | ⟨entry, member, active, chosen⟩
        · refine Or.inl ⟨idle, ?_⟩
          rw [idle, Option.all_none, Bool.and_true, Bool.not_eq_true,
            Option.isSome_eq_false_iff, Option.isNone_iff_eq_none] at taken
          intro entry member
          rcases List.mem_append.mp member with earlier | later
          · exact released entry earlier
          · rw [List.mem_singleton.mp later]
            exact taken
        · exact Or.inr ⟨entry, List.mem_append_left _ member, active, chosen⟩

theorem rebuildConsumer_newest (newest : NewestConsumer entries entry) :
    rebuildConsumer entries = entry.consumer := by
  obtain ⟨member, active, older⟩ := newest
  obtain ⟨before, after, rfl⟩ := List.append_of_mem member
  -- Whatever was chosen before, the newest entry replaces it.
  have taken : (before ++ [entry]).foldl addConsumer (.new, none) =
      (entry.consumer, some entry.consumerGeneration) := by
    rw [List.foldl_append, List.foldl_cons, List.foldl_nil, addConsumer, if_pos]
    rw [active, Bool.true_and]
    rcases consumer_choice_cases before with
      ⟨idle, -⟩ | ⟨other, otherMember, otherActive, chosen⟩
    · rw [idle]
      rfl
    · rw [chosen, Option.all_some]
      rcases older other (List.mem_append_left _ otherMember) otherActive with
        rfl | ⟨newer, -⟩
      · exact generationIsNewerOrEqual_self _
      · exact newer
  have kept : ∀ rest : List DeviceInputState,
      (∀ other ∈ rest, other ∈ before ++ entry :: after) →
        rest.foldl addConsumer
          (entry.consumer, some entry.consumerGeneration) =
            (entry.consumer, some entry.consumerGeneration) := by
    intro rest
    induction rest with
    | nil => exact fun _ => rfl
    | cons head tail ih =>
        intro members
        have step : addConsumer
            (entry.consumer, some entry.consumerGeneration) head =
              (entry.consumer, some entry.consumerGeneration) := by
          simp only [addConsumer]
          split
          · rename_i replaced
            rw [Bool.and_eq_true_iff] at replaced
            rcases older head (members head (List.mem_cons_self ..))
                replaced.1 with rfl | ⟨-, stale⟩
            · rfl
            · rw [Option.all_some, stale] at replaced
              exact absurd replaced.2 Bool.false_ne_true
          · rfl
        rw [List.foldl_cons, step]
        exact ih fun other otherMember =>
          members other (List.mem_cons_of_mem _ otherMember)
  have split : before ++ entry :: after = (before ++ [entry]) ++ after := by
    simp
  rw [rebuildConsumer, split, List.foldl_append, taken, kept after]
  intro other otherMember
  exact List.mem_append_right _ (List.mem_cons_of_mem _ otherMember)

end HidShift
