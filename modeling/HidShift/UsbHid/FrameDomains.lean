import HidShift.UsbHid.ReportEvents
import Mathlib.Data.List.Induction

namespace HidShift

open Lib Lib.Checked

namespace HidReportDomains

def join (left right : HidReportDomains) : HidReportDomains :=
  ⟨left.keyboard || right.keyboard, left.mouse || right.mouse,
    left.consumer || right.consumer⟩

def Within (left right : HidReportDomains) : Prop :=
  (left.keyboard = true → right.keyboard = true) ∧
    (left.mouse = true → right.mouse = true) ∧
      (left.consumer = true → right.consumer = true)

variable {left right bound : HidReportDomains}

theorem join_empty : left.join .empty = left := by
  simp [join, empty]

theorem join_assoc (third : HidReportDomains) :
    (left.join right).join third = left.join (right.join third) := by
  simp [join, Bool.or_assoc]

theorem empty_within : empty.Within bound := by
  simp [Within, empty]

theorem within_refl : left.Within left := ⟨id, id, id⟩

theorem join_within :
    (left.join right).Within bound ↔
      left.Within bound ∧ right.Within bound := by
  simp only [join, Within, Bool.or_eq_true]
  tauto

theorem join_eq_right : left.join right = right ↔ left.Within right := by
  obtain ⟨keyboard, mouse, consumer⟩ := left
  obtain ⟨otherKeyboard, otherMouse, otherConsumer⟩ := right
  simp only [join, Within, mk.injEq, Bool.or_eq_right_iff_imp]

def all {ι : Type} (domains : ι → HidReportDomains) (items : List ι) :
    HidReportDomains :=
  items.foldl (fun joined item => joined.join (domains item)) .empty

section

variable {ι : Type} {domains : ι → HidReportDomains} {items : List ι}

include ι

theorem foldl_join :
    items.foldl (fun joined item => joined.join (domains item)) left =
      left.join (all domains items) := by
  induction items using List.reverseRecOn with
  | nil => exact join_empty.symm
  | append_singleton items item ih =>
      rw [all, List.foldl_append, List.foldl_append, ih, ← all,
        List.foldl_cons, List.foldl_nil, List.foldl_cons, List.foldl_nil,
        join_assoc]

theorem all_within :
    (all domains items).Within bound ↔
      ∀ item ∈ items, (domains item).Within bound := by
  induction items using List.reverseRecOn with
  | nil => exact iff_of_true empty_within fun _ absurd => by simp at absurd
  | append_singleton items item ih =>
      rw [all, List.foldl_append, ← all, List.foldl_cons, List.foldl_nil,
        join_within, ih, List.forall_mem_append, List.forall_mem_singleton]

theorem all_mouse :
    (all domains items).mouse = true ↔
      ∃ item ∈ items, (domains item).mouse = true := by
  induction items using List.reverseRecOn with
  | nil => simp [all, empty]
  | append_singleton items item ih =>
      rw [all, List.foldl_append, ← all, List.foldl_cons, List.foldl_nil, join,
        Bool.or_eq_true, ih]
      simp [or_and_right, exists_or]

end

end HidReportDomains

def StandardInputFrame.domains (frame : StandardInputFrame) :
    HidReportDomains :=
  ⟨frame.keyboard.isSome, frame.mouse.isSome, frame.consumer.isSome⟩

/-- The part an event belongs to. -/
def HidReportEvent.domains : HidReportEvent → HidReportDomains
  | .keyboardUsageDown _ => ⟨true, false, false⟩
  | .consumerUsageDown _ => ⟨false, false, true⟩
  | _ => ⟨false, true, false⟩

namespace FrameParts

def domains (parts : FrameParts) : HidReportDomains :=
  ⟨parts.hasKeyboard, parts.hasMouse, parts.consumer.isSome⟩

theorem domains_add {parts next : FrameParts} {event : HidReportEvent}
    (added : parts.add event = .ok next) :
    next.domains = parts.domains.join event.domains := by
  cases event with
  | keyboardUsageDown usage =>
      rw [add, addKey] at added
      cases modifier : modifierFromKeyboardUsage usage with
      | some modifier =>
          rw [modifier] at added
          cases added
          simp [domains, HidReportDomains.join, HidReportEvent.domains]
      | none =>
          rw [modifier] at added
          dsimp only at added
          split at added
          · obtain ⟨keyboard, -, same⟩ := bind_eq_ok.mp added
            cases same
            simp [domains, HidReportDomains.join, HidReportEvent.domains]
          · cases added
            simp [domains, HidReportDomains.join, HidReportEvent.domains]
  | consumerUsageDown usage =>
      cases added
      simp [domains, HidReportDomains.join, HidReportEvent.domains]
  | _ =>
      cases added
      simp [domains, move, HidReportDomains.join, HidReportEvent.domains]

theorem domains_addAll {events : List HidReportEvent}
    {parts next : FrameParts} (added : events.foldlM add parts = .ok next) :
    next.domains = parts.domains.join
      (HidReportDomains.all HidReportEvent.domains events) := by
  rw [← HidReportDomains.foldl_join]
  induction events generalizing parts with
  | nil =>
      cases added
      rfl
  | cons event rest ih =>
      rw [List.foldlM_cons] at added
      obtain ⟨middle, now, later⟩ := bind_eq_ok.mp added
      rw [ih later, domains_add now, List.foldl_cons]

theorem domains_frame (parts : FrameParts) (deviceId : DeviceId)
    (interfaceId : InterfaceId) :
    (parts.frame deviceId interfaceId).domains = parts.domains := by
  cases keyboard : parts.hasKeyboard <;> cases mouse : parts.hasMouse <;>
    simp [StandardInputFrame.domains, frame, domains, keyboard, mouse]

end FrameParts

theorem StandardInputFrame.domains_withDomains (frame : StandardInputFrame)
    (domains : HidReportDomains) :
    (frame.withDomains domains).domains = frame.domains.join domains := by
  obtain ⟨deviceId, interfaceId, keyboard, mouse, consumer⟩ := frame
  obtain ⟨hasKeyboard, hasMouse, hasConsumer⟩ := domains
  simp only [withDomains, StandardInputFrame.domains, HidReportDomains.join,
    HidReportDomains.mk.injEq]
  refine ⟨?_, ?_, ?_⟩
  · cases hasKeyboard <;> cases keyboard <;> rfl
  · cases hasMouse <;> cases mouse <;> rfl
  · cases hasConsumer <;> cases consumer <;> rfl

def ReportField.domains (field : ReportField) : HidReportDomains :=
  HidReportDescriptor.addDomain .empty field

theorem addDomain_join (domains : HidReportDomains) (field : ReportField) :
    HidReportDescriptor.addDomain domains field =
      domains.join field.domains := by
  obtain ⟨keyboard, mouse, consumer⟩ := domains
  unfold ReportField.domains HidReportDescriptor.addDomain
  split
  · simp [HidReportDomains.join, HidReportDomains.empty]
  split
  · simp [HidReportDomains.join, HidReportDomains.empty]
  split
  · split
    · simp [HidReportDomains.join, HidReportDomains.empty]
    · simp [HidReportDomains.join, HidReportDomains.empty]
  split
  · simp [HidReportDomains.join, HidReportDomains.empty]
  · simp [HidReportDomains.join, HidReportDomains.empty]

def ReportField.IsMouse (field : ReportField) : Prop :=
  field.usagePage = usagePageButton ∨
    field.usagePage = usagePageGenericDesktop ∧
      ((field.indexOfUsage usageX).isSome = true ∨
        (field.indexOfUsage usageY).isSome = true ∨
        (field.indexOfUsage usageWheel).isSome = true) ∨
    field.usagePage = usagePageConsumer ∧ field.isVariable = true ∧
      field.usageMin = usageAcPan ∧ field.usageMax = usageAcPan ∧
        field.count = 1

theorem ReportField.domains_mouse (field : ReportField) :
    field.domains.mouse = true ↔ field.IsMouse := by
  unfold ReportField.domains HidReportDescriptor.addDomain ReportField.IsMouse
  by_cases keyboard : field.usagePage = usagePageKeyboard
  · rw [if_pos keyboard, keyboard]
    simp [HidReportDomains.empty, usagePageKeyboard, usagePageButton,
      usagePageGenericDesktop, usagePageConsumer]
  rw [if_neg keyboard]
  by_cases button : field.usagePage = usagePageButton
  · rw [if_pos button]
    exact iff_of_true rfl (.inl button)
  rw [if_neg button]
  by_cases desktop : field.usagePage = usagePageGenericDesktop
  · rw [if_pos desktop, desktop]
    split
    · rename_i axis
      exact iff_of_true rfl (.inr (.inl ⟨rfl, axis⟩))
    · rename_i axis
      simp [HidReportDomains.empty, usagePageGenericDesktop, usagePageButton,
        usagePageConsumer, axis]
  rw [if_neg desktop]
  by_cases consumer : field.usagePage = usagePageConsumer
  · rw [if_pos consumer, consumer]
    simp [HidReportDomains.empty, usagePageConsumer, usagePageButton,
      usagePageGenericDesktop, and_assoc]
  · rw [if_neg consumer]
    simp [HidReportDomains.empty, button, desktop, consumer]

variable {event : HidReportEvent} {field : ReportField}

theorem ReportField.domains_keyboard
    (page : field.usagePage = usagePageKeyboard) :
    field.domains = ⟨true, false, false⟩ :=
  if_pos page

theorem ReportField.domains_consumer
    (page : field.usagePage = usagePageConsumer) :
    field.domains.consumer = true ↔
      ¬ (field.usageMin = usageAcPan ∧ field.usageMax = usageAcPan) ∨
        1 < field.count ∨ ¬ field.isVariable = true := by
  rw [ReportField.domains, HidReportDescriptor.addDomain, if_neg (by
    rw [page]; decide), if_neg (by rw [page]; decide), if_neg (by
    rw [page]; decide), if_pos page]
  simp [HidReportDomains.empty, imp_iff_not_or]

theorem keyAt_eq_some (shown : keyAt field index down = some event) :
    down = some true ∧ ∃ usage, field.usageAt index = some usage ∧
      usage ≤ 255 ∧ event = .keyboardUsageDown usage.toUInt8 := by
  unfold keyAt at shown
  split at shown
  · rename_i isDown
    obtain ⟨usage, found, kept⟩ := Option.bind_eq_some_iff.mp shown
    split at kept
    · rename_i small
      exact ⟨isDown, usage, found, small, (Option.some.inj kept).symm⟩
    · cases kept
  · cases shown

theorem keyNamed_eq_some (shown : keyNamed usage = some event) :
    ∃ named, usage = some named ∧ 4 ≤ named ∧ named ≤ 255 ∧
      event = .keyboardUsageDown named.toUInt8 := by
  obtain ⟨named, same, kept⟩ := Option.bind_eq_some_iff.mp shown
  split at kept
  · rename_i inside
    exact ⟨named, same, inside.1, inside.2, (Option.some.inj kept).symm⟩
  · cases kept

theorem consumerAt_eq_some (shown : consumerAt field index down = some event) :
    ∃ usage, field.usageAt index = some usage ∧ usage ≠ usageAcPan ∧
      event = .consumerUsageDown usage := by
  unfold consumerAt at shown
  split at shown
  · obtain ⟨usage, found, kept⟩ := Option.bind_eq_some_iff.mp shown
    split at kept
    · rename_i other
      exact ⟨usage, found, other, (Option.some.inj kept).symm⟩
    · cases kept
  · cases shown

theorem consumerNamed_eq_some (shown : consumerNamed usage = some event) :
    ∃ named, event = .consumerUsageDown named := by
  obtain ⟨named, -, kept⟩ := Option.bind_eq_some_iff.mp shown
  split at kept
  · exact ⟨_, (Option.some.inj kept).symm⟩
  · cases kept

theorem ReportField.ShowsKey.keyboard (shown : field.ShowsKey payload event) :
    ∃ usage, event = .keyboardUsageDown usage := by
  unfold ReportField.ShowsKey at shown
  split at shown
  · obtain ⟨index, -, value, -, named⟩ := shown
    obtain ⟨-, usage, -, -, same⟩ := keyAt_eq_some named
    exact ⟨_, same⟩
  split at shown
  · obtain ⟨index, -, value, -, named⟩ := shown
    obtain ⟨usage, -, -, -, same⟩ := keyNamed_eq_some named
    exact ⟨_, same⟩
  · exact shown.elim

theorem ReportField.ShowsConsumer.flagged
    (page : field.usagePage = usagePageConsumer)
    (shown : field.ShowsConsumer payload event) :
    field.domains.consumer = true ∧
      ∃ usage, event = .consumerUsageDown usage := by
  rw [ReportField.domains_consumer page]
  unfold ReportField.ShowsConsumer at shown
  split at shown
  · obtain ⟨index, inside, value, -, named⟩ := shown
    obtain ⟨usage, found, other, same⟩ := consumerAt_eq_some named
    refine ⟨?_, usage, same⟩
    by_contra single
    simp only [not_or, not_not] at single
    obtain ⟨⟨low, high⟩, few, -⟩ := single
    rw [UInt16.lt_iff_toNat_lt] at few
    change ¬ 1 < field.count.toNat at few
    obtain rfl : index = 0 := by omega
    unfold ReportField.usageAt at found
    rw [if_neg (by omega)] at found
    dsimp only at found
    split at found
    · refine other ?_
      rw [← Option.some.inj found, low]
      rfl
    · cases found
  · rename_i array
    obtain ⟨index, -, value, -, named⟩ := shown
    exact ⟨.inr (.inr array), consumerNamed_eq_some named⟩

section

variable {fieldCapacity : Nat}
  (descriptor : HidReportDescriptor fieldCapacity) (reportId : UInt8)

def HidReportDescriptor.inputFields : List ReportField :=
  descriptor.fields.toList.filter fun field =>
    field.reportId = reportId ∧ !field.isConstant

theorem reportDomains_eq :
    descriptor.reportDomains reportId =
      HidReportDomains.all ReportField.domains
        (descriptor.inputFields reportId) := by
  rw [HidReportDescriptor.reportDomains, ← HidReportDescriptor.inputFields,
    HidReportDomains.all]
  congr 1
  funext domains field
  exact addDomain_join domains field

variable {field : ReportField}

theorem field_within (member : field ∈ descriptor.inputFields reportId) :
    field.domains.Within (descriptor.reportDomains reportId) := by
  rw [reportDomains_eq]
  exact HidReportDomains.all_within.mp HidReportDomains.within_refl field
    member

theorem mem_inputFields_of_fieldsOf
    (member : field ∈ descriptor.fieldsOf reportId usagePage) :
    field ∈ descriptor.inputFields reportId ∧
      field.usagePage = usagePage := by
  rw [HidReportDescriptor.fieldsOf, List.mem_filter] at member
  rw [HidReportDescriptor.inputFields, List.mem_filter]
  simp only [decide_eq_true_eq] at member ⊢
  obtain ⟨held, sameId, active, samePage⟩ := member
  exact ⟨⟨held, sameId, active⟩, samePage⟩

theorem fieldOf_found (found :
      descriptor.fieldOf reportId usagePage usage = some (field, index)) :
    field ∈ descriptor.inputFields reportId ∧ field.usagePage = usagePage ∧
      field.isVariable = true ∧ field.indexOfUsage usage = some index := by
  obtain ⟨held, member, here⟩ := List.exists_of_findSome?_eq_some found
  split at here
  · cases here
  · rename_i fits
    simp only [not_or, not_not, ne_eq] at fits
    obtain ⟨sameId, active, isVariable, samePage⟩ := fits
    obtain ⟨place, stands, same⟩ := Option.map_eq_some_iff.mp here
    cases same
    refine ⟨?_, samePage, ?_, stands⟩
    · rw [HidReportDescriptor.inputFields, List.mem_filter]
      refine ⟨member, ?_⟩
      simp [sameId, active]
    · simpa using isVariable

/-- A report with AC Pan motion has a field that is known to be of a mouse. -/
def HidReportDescriptor.PanFlagged (payload : List UInt8) : Prop :=
  ∀ pan, Yields (descriptor.extractI32 payload reportId usagePageConsumer
      usageAcPan) (.ok (some pan)) → pan ≠ 0 →
    ∃ field ∈ descriptor.inputFields reportId, field.IsMouse

variable {descriptor reportId}

theorem reportDomains_mouse :
    (descriptor.reportDomains reportId).mouse = true ↔
      ∃ field ∈ descriptor.inputFields reportId, field.IsMouse := by
  rw [reportDomains_eq, HidReportDomains.all_mouse]
  simp only [ReportField.domains_mouse]

theorem mouse_within (mouse : event.domains = ⟨false, true, false⟩) :
    event.domains.Within (descriptor.reportDomains reportId) ↔
      ∃ field ∈ descriptor.inputFields reportId, field.IsMouse := by
  rw [← reportDomains_mouse, mouse]
  simp [HidReportDomains.Within]

theorem axis_within
    (axis : usage = usageX ∨ usage = usageY ∨ usage = usageWheel)
    (shown : Yields (descriptor.extractI32 payload reportId
      usagePageGenericDesktop usage) (.ok (some value))) :
    ∃ field ∈ descriptor.inputFields reportId, field.IsMouse := by
  unfold HidReportDescriptor.extractI32 at shown
  cases found : descriptor.fieldOf reportId usagePageGenericDesktop usage with
  | none =>
      rw [found] at shown
      cases shown
  | some place =>
      obtain ⟨member, page, -, stands⟩ := fieldOf_found descriptor reportId found
      refine ⟨place.1, member, .inr (.inl ⟨page, ?_⟩)⟩
      rcases axis with rfl | rfl | rfl
      · exact .inl (Option.isSome_of_eq_some stands)
      · exact .inr (.inl (Option.isSome_of_eq_some stands))
      · exact .inr (.inr (Option.isSome_of_eq_some stands))

theorem button_within (shown : Yields (descriptor.extractBool payload reportId
      usagePageButton usage) (.ok (some down))) :
    ∃ field ∈ descriptor.inputFields reportId, field.IsMouse := by
  unfold HidReportDescriptor.extractBool at shown
  cases found : descriptor.fieldOf reportId usagePageButton usage with
  | none =>
      rw [found] at shown
      cases shown
  | some place =>
      obtain ⟨member, page, -⟩ := fieldOf_found descriptor reportId found
      exact ⟨place.1, member, .inl page⟩

theorem key_within (shown : descriptor.ShowsKey reportId payload event) :
    event.domains.Within (descriptor.reportDomains reportId) := by
  obtain ⟨field, member, shows⟩ := shown
  obtain ⟨active, page⟩ := mem_inputFields_of_fieldsOf _ _ member
  have within := field_within descriptor reportId active
  obtain ⟨usage, rfl⟩ := shows.keyboard
  rwa [ReportField.domains_keyboard page] at within

theorem shown_within (flagged : descriptor.PanFlagged reportId payload)
    (shown : descriptor.ShowsKey reportId payload event ∨
      descriptor.ShowsMouse reportId payload event ∨
      descriptor.ShowsConsumer reportId payload event) :
    event.domains.Within (descriptor.reportDomains reportId) := by
  rcases shown with key | mouse | consumer
  · exact key_within key
  · rcases mouse with x | y | wheel | pan | button
    · obtain ⟨value, read, -, rfl⟩ := x
      exact (mouse_within rfl).mpr (axis_within (.inl rfl) read)
    · obtain ⟨value, read, -, rfl⟩ := y
      exact (mouse_within rfl).mpr (axis_within (.inr (.inl rfl)) read)
    · obtain ⟨value, read, -, rfl⟩ := wheel
      exact (mouse_within rfl).mpr (axis_within (.inr (.inr rfl)) read)
    · obtain ⟨value, read, moved, rfl⟩ := pan
      exact (mouse_within rfl).mpr (flagged value read moved)
    · obtain ⟨button, -, read, rfl⟩ := button
      exact (mouse_within rfl).mpr (button_within read)
  · obtain ⟨field, member, shows⟩ := consumer
    obtain ⟨active, page⟩ := mem_inputFields_of_fieldsOf _ _ member
    have within := field_within descriptor reportId active
    obtain ⟨flag, usage, rfl⟩ := shows.flagged page
    refine ⟨?_, ?_, fun _ => within.2.2 flag⟩
    · exact fun impossible => nomatch impossible
    · exact fun impossible => nomatch impossible

theorem events_within_iff {report : List UInt8}
    (matched : descriptor.matchingPayload report = .ok (reportId, payload))
    (decoded : Yields (decodeReport descriptor capacity report) (.ok events)) :
    (∀ event ∈ events.toList,
        event.domains.Within (descriptor.reportDomains reportId)) ↔
      descriptor.PanFlagged reportId payload := by
  have members := mem_decodeReport descriptor reportId payload matched decoded
  constructor
  · intro within pan read moved
    have emitted := (members (.mousePan pan)).mpr
      (.inr (.inl (.inr (.inr (.inr (.inl ⟨pan, read, moved, rfl⟩))))))
    exact (mouse_within rfl).mp (within _ emitted)
  · intro flagged event member
    exact shown_within flagged ((members event).mp member)

end

variable {fieldCapacity capacity : Nat}
  {descriptor : HidReportDescriptor fieldCapacity} {report : List UInt8}
  {deviceId : DeviceId} {interfaceId : InterfaceId}
  {frame : StandardInputFrame}

theorem decodeStandardInputFrame_ok
    (decoded : Yields (decodeStandardInputFrame capacity deviceId interfaceId
      descriptor report) (.ok frame)) :
    ∃ reportId payload events parts,
      descriptor.matchingPayload report = .ok (reportId, payload) ∧
      Yields (decodeReport descriptor capacity report) (.ok events) ∧
      events.toList.foldlM FrameParts.add .new = .ok parts ∧
      frame = (parts.frame deviceId interfaceId).withDomains
        (descriptor.reportDomains reportId) := by
  obtain ⟨⟨reportId, payload⟩, matched, decoded⟩ := yields_ok_bind.mp decoded
  obtain ⟨events, collected, decoded⟩ := yields_ok_bind.mp decoded
  obtain ⟨standard, summed, decoded⟩ := yields_ok_bind.mp decoded
  cases decoded
  obtain ⟨parts, added, made⟩ :=
    bind_eq_ok.mp (Option.some.inj (run_mapError_ok.mp summed))
  cases made
  exact ⟨reportId, payload, events, parts,
    Option.some.inj (run_mapError_ok.mp matched),
    run_mapError_ok.mp collected, added, rfl⟩

theorem frame_domains {events : List HidReportEvent} {parts : FrameParts}
    (added : events.foldlM FrameParts.add .new = .ok parts)
    (domains : HidReportDomains) :
    ((parts.frame deviceId interfaceId).withDomains domains).domains = domains ↔
      ∀ event ∈ events, event.domains.Within domains := by
  have start : FrameParts.new.domains = .empty := rfl
  rw [StandardInputFrame.domains_withDomains, FrameParts.domains_frame,
    FrameParts.domains_addAll added, start, HidReportDomains.join_eq_right,
    HidReportDomains.join_within, HidReportDomains.all_within]
  exact and_iff_right HidReportDomains.empty_within

/-- The parts of a frame are the domains of its report exactly if AC Pan motion
only comes in reports that are known to be of a mouse. -/
theorem frame_domains_iff {reportId : UInt8} {payload : List UInt8}
    (matched : descriptor.matchingPayload report = .ok (reportId, payload))
    (decoded : Yields (decodeStandardInputFrame capacity deviceId interfaceId
      descriptor report) (.ok frame)) :
    (frame.domains = descriptor.reportDomains reportId ↔
      descriptor.PanFlagged reportId payload) ∧
    ∃ events, Yields (decodeReport descriptor capacity report) (.ok events) ∧
      ((∀ event ∈ events.toList,
          event.domains.Within (descriptor.reportDomains reportId)) ↔
        descriptor.PanFlagged reportId payload) := by
  obtain ⟨foundId, foundPayload, events, parts, found, collected, added,
    rfl⟩ := decodeStandardInputFrame_ok decoded
  rw [matched] at found
  cases found
  have within := events_within_iff matched collected
  exact ⟨(frame_domains added _).trans within, events, collected, within⟩

def panRange : HidReportDescriptor 1 :=
  ⟨⟨[⟨0, usagePageConsumer, usageAcPan, 0x0239, 0, 8, 2, fieldFlagVariable,
    -127, 127⟩], Nat.le_refl 1⟩, false⟩

/-- The frame of a report has a mouse, and the frame of the next one has none
that could stop it. -/
theorem pan_range_unflagged :
    panRange.reportDomains 0 = ⟨false, false, true⟩ ∧
      Yields (decodeStandardInputFrame 4 ⟨1⟩ ⟨1⟩ panRange [5, 0])
        (.ok ⟨⟨1⟩, ⟨1⟩, none, some ⟨.empty, ⟨0, 0, 0, 5⟩⟩, some ⟨none⟩⟩) ∧
      Yields (decodeStandardInputFrame 4 ⟨1⟩ ⟨1⟩ panRange [0, 0])
        (.ok ⟨⟨1⟩, ⟨1⟩, none, none, some ⟨none⟩⟩) := by
  refine ⟨by decide, ?_, ?_⟩
  · unfold Yields
    decide +kernel
  · unfold Yields
    decide +kernel

theorem pan_at_rest_agrees :
    StandardInputFrame.domains ⟨⟨1⟩, ⟨1⟩, none, none, some ⟨none⟩⟩ =
        panRange.reportDomains 0 ↔
      panRange.PanFlagged 0 [0, 0] :=
  (@frame_domains_iff 1 4 panRange [0, 0] ⟨1⟩ ⟨1⟩ _ 0 [0, 0] rfl (by
    unfold Yields
    decide +kernel)).1

end HidShift
