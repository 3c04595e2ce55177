import HidShift.Input.Transform
import HidShift.UsbHid.Rollover
import Mathlib.Data.List.Infix

namespace HidShift

open Lib

def KeyboardShortcut.isHeld (shortcut : KeyboardShortcut)
    (keyboard : KeyboardFrame) : Bool :=
  shortcut.key ∈ keyboard.keysDown ||
    keyboard.modifiers &&& shortcut.modifiers != 0

def lastKeyboard (frames : List StandardInputFrame)
    (interfaceId : InterfaceId) : Option KeyboardFrame :=
  frames.foldl (fun last frame =>
    if frame.interfaceId = interfaceId then frame.keyboard.or last else last)
    none

def KeyboardShortcut.AllUp (shortcut : KeyboardShortcut)
    (frames : List StandardInputFrame) : Prop :=
  ∀ interfaceId keyboard, lastKeyboard frames interfaceId = some keyboard →
    shortcut.isHeld keyboard = false

def KeyboardShortcut.Hidden (shortcut : KeyboardShortcut)
    (frame : StandardInputFrame) : Prop :=
  ∀ keyboard, frame.keyboard = some keyboard → shortcut.isHeld keyboard = false

namespace InputProfile

def afterFrames (profile : InputProfile) (frames : List StandardInputFrame) :
    InputProfile :=
  frames.foldl (fun profile frame =>
    (profile.captureTargetSwitchShortcut frame).1) profile

def triggers (profile : InputProfile) (frame : StandardInputFrame) : Bool :=
  (profile.captureTargetSwitchShortcut frame).2.2

def passes (profile : InputProfile) (frame : StandardInputFrame) :
    StandardInputFrame :=
  (profile.captureTargetSwitchShortcut frame).2.1

/-- From a trigger until the whole chord is up there is no other trigger, and
no frame shows a part of the chord. -/
def OncePerPress (profile : InputProfile)
    (frames : List StandardInputFrame) : Prop :=
  ∀ before trigger, before ++ [trigger] <+: frames →
    (profile.afterFrames before).triggers trigger = true →
    profile.settings.targetSwitchShortcut.Hidden
      ((profile.afterFrames before).passes trigger) ∧
    ∀ middle frame, before ++ [trigger] ++ middle ++ [frame] <+: frames →
      (∀ part, part <+: middle ++ [frame] →
        ¬ profile.settings.targetSwitchShortcut.AllUp
          (before ++ [trigger] ++ part)) →
      (profile.afterFrames (before ++ [trigger] ++ middle)).triggers frame =
          false ∧
        profile.settings.targetSwitchShortcut.Hidden
          ((profile.afterFrames (before ++ [trigger] ++ middle)).passes frame)

/-- The frame does not arm the shortcut while another interface holds a part
of the chord. -/
def ArmsReleased (profile : InputProfile)
    (before : List StandardInputFrame) (frame : StandardInputFrame) : Prop :=
  ∀ keyboard, frame.keyboard = some keyboard →
    profile.settings.targetSwitchShortcut.isEnabled = true →
    (profile.afterFrames before).shortcutArmed = false →
    profile.settings.targetSwitchShortcut.isHeld keyboard = false →
    ∀ other keyboard, other ≠ frame.interfaceId →
      lastKeyboard before other = some keyboard →
        profile.settings.targetSwitchShortcut.isHeld keyboard = false

theorem mem_pushKeys {frame : KeyboardFrame}
    (member : key ∈ (frame.pushKeys keys).keysDown.toList) :
    key ∈ frame.keysDown.toList ∨ key ∈ keys := by
  induction keys generalizing frame with
  | nil => exact .inl member
  | cons first rest ih =>
      rw [KeyboardFrame.pushKeys, List.foldl_cons] at member
      rcases ih member with held | later
      · split at held
        · rename_i next pushed
          rcases (KeyboardFrame.mem_pushKey pushed key).mp held with old | new
          · exact .inl old
          · exact .inr (new ▸ List.mem_cons_self)
        · exact .inl held
      · exact .inr (List.mem_cons_of_mem _ later)

theorem modifiers_pushKeys (keys : List KeyUsage) (frame : KeyboardFrame) :
    (frame.pushKeys keys).modifiers = frame.modifiers := by
  induction keys generalizing frame with
  | nil => rfl
  | cons first rest ih =>
      rw [KeyboardFrame.pushKeys, List.foldl_cons]
      refine (ih _).trans ?_
      cases pushed : frame.pushKey first with
      | error error => rfl
      | ok next =>
          rw [KeyboardFrame.pushKey] at pushed
          split at pushed
          · split at pushed <;> cases pushed
            rfl
          · cases pushed
            rfl

theorem isHeld_filterShortcut (shortcut : KeyboardShortcut)
    (keyboard : KeyboardFrame) :
    shortcut.isHeld (filterShortcut shortcut keyboard) = false := by
  have key : shortcut.key ∉ (filterShortcut shortcut keyboard).keysDown := by
    intro held
    rcases mem_pushKeys held with none | kept
    · cases none
    · simp at kept
  have modifiers : (filterShortcut shortcut keyboard).modifiers &&&
      shortcut.modifiers = 0 := by
    rw [filterShortcut, modifiers_pushKeys]
    change (keyboard.modifiers &&& ~~~shortcut.modifiers) &&&
      shortcut.modifiers = 0
    rw [BitVec.and_assoc, BitVec.and_comm (~~~shortcut.modifiers),
      BitVec.and_not_self]
    exact BitVec.and_zero
  simp [KeyboardShortcut.isHeld, key, modifiers]

variable {profile : InputProfile} {frame : StandardInputFrame}

theorem capture_keyboard (carried : frame.keyboard = some keyboard)
    (enabled : profile.settings.targetSwitchShortcut.isEnabled = true) :
    ∃ armed triggered,
      armed = (!profile.settings.targetSwitchShortcut.isHeld keyboard ||
        profile.shortcutArmed) ∧
      (triggered = true → armed = true) ∧
      profile.triggers frame = triggered ∧
      (profile.captureTargetSwitchShortcut frame).1.shortcutArmed =
        (armed && !triggered) ∧
      (armed = false ∨ triggered = true → (profile.passes frame).keyboard =
        some (filterShortcut profile.settings.targetSwitchShortcut
          keyboard)) := by
  have released :
      (!profile.settings.targetSwitchShortcut.isHeld keyboard) =
        (!decide (profile.settings.targetSwitchShortcut.key ∈
            keyboard.keysDown) &&
          keyboard.modifiers &&&
            profile.settings.targetSwitchShortcut.modifiers == 0) := by
    rw [KeyboardShortcut.isHeld, Bool.not_or, bne, Bool.not_not]
  refine ⟨_, _, rfl, ?_, rfl, ?_, ?_⟩
  all_goals
    simp only [triggers, passes, captureTargetSwitchShortcut, carried,
      enabled, ↓reduceIte, released]
  · intro triggered
    simp only [Bool.and_eq_true] at triggered
    exact triggered.1.1.1
  · intro stopped
    rw [if_pos]
    rcases stopped with disarmed | triggered
    · rw [disarmed]
      rfl
    · rw [triggered]
      rfl

theorem settings_capture (profile : InputProfile) (frame : StandardInputFrame) :
    (profile.captureTargetSwitchShortcut frame).1.settings =
      profile.settings := by
  rw [captureTargetSwitchShortcut]
  cases frame.keyboard with
  | none => rfl
  | some keyboard =>
      dsimp only
      split <;> rfl

theorem settings_afterFrames (profile : InputProfile)
    (frames : List StandardInputFrame) :
    (profile.afterFrames frames).settings = profile.settings := by
  induction frames using List.reverseRecOn with
  | nil => rfl
  | append_singleton frames frame ih =>
      rw [afterFrames, List.foldl_concat]
      exact (settings_capture _ frame).trans ih

theorem afterFrames_append (profile : InputProfile)
    (frames : List StandardInputFrame) (frame : StandardInputFrame) :
    profile.afterFrames (frames ++ [frame]) =
      ((profile.afterFrames frames).captureTargetSwitchShortcut frame).1 :=
  List.foldl_concat ..

theorem capture_triggered (triggered : profile.triggers frame = true) :
    profile.settings.targetSwitchShortcut.isEnabled = true ∧
      (profile.captureTargetSwitchShortcut frame).1.shortcutArmed = false ∧
      profile.settings.targetSwitchShortcut.Hidden (profile.passes frame) := by
  have enabled : profile.settings.targetSwitchShortcut.isEnabled = true := by
    by_contra disabled
    simp only [triggers, captureTargetSwitchShortcut] at triggered
    split at triggered
    · cases triggered
    · rw [if_neg disabled] at triggered
      cases triggered
  refine ⟨enabled, ?_⟩
  cases carried : frame.keyboard with
  | none =>
      simp only [triggers, captureTargetSwitchShortcut, carried] at triggered
      cases triggered
  | some keyboard =>
      obtain ⟨armed, fired, _, _, same, disarms, filtered⟩ :=
        capture_keyboard carried enabled
      rw [same] at triggered
      subst triggered
      refine ⟨by rw [disarms, Bool.not_true, Bool.and_false], ?_⟩
      intro shown found
      rw [filtered (.inr rfl), Option.some.injEq] at found
      rw [← found, isHeld_filterShortcut]

theorem capture_disarmed
    (enabled : profile.settings.targetSwitchShortcut.isEnabled = true)
    (disarmed : profile.shortcutArmed = false)
    (held : ∀ keyboard, frame.keyboard = some keyboard →
      profile.settings.targetSwitchShortcut.isHeld keyboard = true) :
    (profile.captureTargetSwitchShortcut frame).1.shortcutArmed = false ∧
      profile.triggers frame = false ∧
      profile.settings.targetSwitchShortcut.Hidden (profile.passes frame) := by
  cases carried : frame.keyboard with
  | none =>
      simp only [triggers, passes, captureTargetSwitchShortcut, carried]
      refine ⟨disarmed, trivial, ?_⟩
      intro shown found
      rw [carried] at found
      cases found
  | some keyboard =>
      obtain ⟨armed, fired, same, arms, fires, disarms, filtered⟩ :=
        capture_keyboard carried enabled
      rw [held keyboard carried, disarmed] at same
      have quiet : fired = false := by
        rw [same] at arms
        exact Bool.eq_false_iff.mpr fun fired => by cases arms fired
      refine ⟨by rw [disarms, same]; rfl, fires.trans quiet, ?_⟩
      intro shown found
      rw [filtered (.inl same), Option.some.injEq] at found
      rw [← found, isHeld_filterShortcut]

theorem lastKeyboard_append (frames : List StandardInputFrame)
    (frame : StandardInputFrame) (interfaceId : InterfaceId) :
    lastKeyboard (frames ++ [frame]) interfaceId =
      if frame.interfaceId = interfaceId then
        frame.keyboard.or (lastKeyboard frames interfaceId)
      else
        lastKeyboard frames interfaceId :=
  List.foldl_concat ..

/-- While the chord is not up on all interfaces, a frame that would arm the
shortcut has a part of the chord in it. -/
theorem held_of_armsReleased (arms : profile.ArmsReleased before frame)
    (enabled : profile.settings.targetSwitchShortcut.isEnabled = true)
    (disarmed : (profile.afterFrames before).shortcutArmed = false)
    (notUp : ¬ profile.settings.targetSwitchShortcut.AllUp
      (before ++ [frame])) :
    ∀ keyboard, frame.keyboard = some keyboard →
      profile.settings.targetSwitchShortcut.isHeld keyboard = true := by
  intro keyboard carried
  by_contra released
  rw [Bool.not_eq_true] at released
  apply notUp
  intro interfaceId shown last
  rw [lastKeyboard_append] at last
  by_cases own : frame.interfaceId = interfaceId
  · rw [if_pos own, carried, Option.some_or, Option.some.injEq] at last
    rw [← last]
    exact released
  · rw [if_neg own] at last
    exact arms keyboard carried enabled disarmed released interfaceId shown
      (fun same => own same.symm) last

theorem disarmed_since_trigger (arms : ∀ earlier frame,
      earlier ++ [frame] <+: before ++ [trigger] ++ part →
        profile.ArmsReleased earlier frame)
    (triggered : (profile.afterFrames before).triggers trigger = true)
    (notUp : ∀ seen, seen <+: part →
      ¬ profile.settings.targetSwitchShortcut.AllUp
        (before ++ [trigger] ++ seen)) :
    (profile.afterFrames (before ++ [trigger] ++ part)).shortcutArmed =
      false := by
  obtain ⟨enabled, disarms, _⟩ := capture_triggered triggered
  rw [settings_afterFrames] at enabled
  induction part using List.reverseRecOn with
  | nil =>
      rw [List.append_nil, afterFrames_append]
      exact disarms
  | append_singleton part frame ih =>
      have longer : before ++ [trigger] ++ part <+:
          before ++ [trigger] ++ (part ++ [frame]) :=
        (List.prefix_append_right_inj _).mpr (List.prefix_append _ _)
      have disarmed := ih
        (fun earlier frame here => arms earlier frame (here.trans longer))
        (fun seen here => notUp seen (here.trans (List.prefix_append _ _)))
      have last := notUp (part ++ [frame]) (List.prefix_refl _)
      rw [← List.append_assoc] at last ⊢
      have held := held_of_armsReleased (arms _ frame ⟨[], by simp⟩)
        enabled disarmed last
      rw [afterFrames_append]
      exact (capture_disarmed (by rwa [settings_afterFrames]) disarmed
        (by rwa [settings_afterFrames])).1

theorem lastKeyboard_none
    (silent : ∀ frame ∈ frames, frame.interfaceId ≠ interfaceId) :
    lastKeyboard frames interfaceId = none := by
  induction frames using List.reverseRecOn with
  | nil => rfl
  | append_singleton frames frame ih =>
      rw [lastKeyboard_append, if_neg (silent frame
        (List.mem_append_right _ List.mem_cons_self))]
      exact ih fun other member =>
        silent other (List.mem_append_left _ member)

/-- `ArmsReleased` as a check on the interfaces that were heard. -/
def armsQuietly (profile : InputProfile) (before : List StandardInputFrame)
    (frame : StandardInputFrame) : Bool :=
  frame.keyboard.all fun keyboard =>
    (profile.afterFrames before).shortcutArmed ||
      profile.settings.targetSwitchShortcut.isHeld keyboard ||
        before.all fun earlier =>
          earlier.interfaceId = frame.interfaceId ||
            (lastKeyboard before earlier.interfaceId).all fun keyboard =>
              !profile.settings.targetSwitchShortcut.isHeld keyboard

theorem armsReleased_of_armsQuietly
    (quietly : profile.armsQuietly before frame = true) :
    profile.ArmsReleased before frame := by
  intro keyboard carried _ disarmed released other last different found
  simp only [armsQuietly, carried, Option.all_some, disarmed, released,
    Bool.false_or] at quietly
  by_cases heard : ∃ earlier ∈ before, earlier.interfaceId = other
  · obtain ⟨earlier, member, rfl⟩ := heard
    have quiet := List.all_eq_true.mp quietly earlier member
    simpa [different, found] using quiet
  · rw [lastKeyboard_none fun earlier member same =>
      heard ⟨earlier, member, same⟩] at found
    cases found

def allArmQuietly (profile : InputProfile)
    (frames : List StandardInputFrame) : Bool :=
  frames.inits.all fun seen =>
    seen.getLast?.all (profile.armsQuietly seen.dropLast)

theorem armsReleased_of_allArmQuietly
    (quietly : profile.allArmQuietly frames = true)
    (reached : before ++ [frame] <+: frames) :
    profile.ArmsReleased before frame := by
  apply armsReleased_of_armsQuietly
  have here := List.all_eq_true.mp quietly _ ((List.mem_inits _ _).mpr reached)
  simpa using here

end InputProfile

theorem firstId_inRange :
    1 ≤ (1 : UInt8) ∧ (1 : UInt8).toNat ≤ inputProfileCapacity := by
  decide

def chordProfile : InputProfile :=
  .restored ⟨1, firstId_inRange⟩ ⟨1, 2, 3⟩ 0
    { InputSettings.default with targetSwitchShortcut := ⟨1, ⟨0x2a⟩⟩ }

def keyboardFrame (interfaceId : InterfaceId) (modifiers : ModifierState)
    (keys : List UInt8) : StandardInputFrame :=
  ⟨⟨1⟩, interfaceId, some ((KeyboardFrame.new modifiers).pushKeys
    (keys.map KeyUsage.mk)), none, none⟩

/-- The chord is held on one interface while the other reports that it has no
key down; then the same report comes again. -/
theorem held_chord_triggers_twice :
    ¬ chordProfile.OncePerPress [keyboardFrame ⟨1⟩ 1 [0x2a],
      keyboardFrame ⟨2⟩ 0 [], keyboardFrame ⟨1⟩ 1 [0x2a]] := by
  intro once
  have first := once [] (keyboardFrame ⟨1⟩ 1 [0x2a]) ⟨_, rfl⟩
    (by decide +kernel)
  have second := first.2 [keyboardFrame ⟨2⟩ 0 []]
    (keyboardFrame ⟨1⟩ 1 [0x2a]) ⟨[], rfl⟩ fun part reached up => ?_
  · exact absurd second.1 (by decide +kernel)
  · have held : lastKeyboard ([] ++ [keyboardFrame ⟨1⟩ 1 [0x2a]] ++ part)
        ⟨1⟩ = (keyboardFrame ⟨1⟩ 1 [0x2a]).keyboard := by
      have parts := (List.mem_inits _ _).mpr reached
      simp only [List.cons_append, List.nil_append, List.inits_cons,
        List.inits, List.map_cons, List.map_nil, List.mem_cons,
        List.not_mem_nil, or_false] at parts
      rcases parts with rfl | rfl | rfl <;> decide +kernel
    exact absurd (up ⟨1⟩ _ held) (by decide +kernel)

/-- In a run where no frame arms the shortcut while another interface holds a
part of the chord, the chord triggers once per press and stays hidden. -/
theorem shortcut_once_per_press (profile : InputProfile)
    (frames : List StandardInputFrame)
    (arms : ∀ before frame, before ++ [frame] <+: frames →
      profile.ArmsReleased before frame) :
    profile.OncePerPress frames := by
  intro before trigger reached triggered
  obtain ⟨enabled, _, hidden⟩ := InputProfile.capture_triggered triggered
  rw [InputProfile.settings_afterFrames] at enabled hidden
  refine ⟨hidden, ?_⟩
  intro middle frame later notUp
  have disarmed := InputProfile.disarmed_since_trigger
    (fun earlier frame here => arms earlier frame
      (here.trans ((List.prefix_append _ _).trans later)))
    triggered
    (fun seen here => notUp seen (here.trans (List.prefix_append _ _)))
  have last := notUp (middle ++ [frame]) (List.prefix_refl _)
  rw [← List.append_assoc] at last
  have held := InputProfile.held_of_armsReleased (arms _ frame later) enabled
    disarmed last
  have quiet := InputProfile.capture_disarmed
    (by rwa [InputProfile.settings_afterFrames]) disarmed
    (by rwa [InputProfile.settings_afterFrames])
  rw [InputProfile.settings_afterFrames] at quiet
  exact quiet.2

/-- The chord is pressed and released on one keyboard while the mouse moves,
then pressed on another while a part of it goes down on the first. -/
def twoPresses : List StandardInputFrame :=
  [keyboardFrame ⟨1⟩ 1 [0x2a],
    ⟨⟨1⟩, ⟨3⟩, none, some ⟨.fromBitsTruncate 1, .neutral⟩, none⟩,
    keyboardFrame ⟨1⟩ 1 [0x2a, 4], keyboardFrame ⟨1⟩ 0 [],
    keyboardFrame ⟨2⟩ 1 [0x2a], keyboardFrame ⟨1⟩ 1 [5]]

theorem shortcut_once_per_press_twoPresses :
    (chordProfile.afterFrames (twoPresses.take 4)).triggers
        (keyboardFrame ⟨2⟩ 1 [0x2a]) = true ∧
      chordProfile.OncePerPress twoPresses :=
  ⟨by decide +kernel, shortcut_once_per_press chordProfile _ fun _ _ reached =>
    InputProfile.armsReleased_of_allArmQuietly (by decide +kernel) reached⟩

end HidShift
