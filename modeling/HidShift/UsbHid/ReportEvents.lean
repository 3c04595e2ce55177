import HidShift.UsbHid.Frame

namespace HidShift

open Lib Lib.Checked

section

variable {capacity : Nat} {α ι : Type}

def Collects (program : HidReportEvents capacity →
      HidChecked (HidReportEvents capacity))
    (shows : HidReportEvent → Prop) : Prop :=
  ∀ events next, Yields (program events) (.ok next) →
    ∃ added, next.toList = events.toList ++ added ∧
      ∀ event, event ∈ added ↔ shows event

namespace Collects

variable {first second : HidReportEvents capacity →
    HidChecked (HidReportEvents capacity)}
  {shows more : HidReportEvent → Prop}

theorem nothing (none : ∀ event, ¬ shows event) :
    @Collects capacity pure shows := by
  intro events next yields
  cases yields
  refine ⟨[], (List.append_nil _).symm, fun event => ?_⟩
  exact iff_of_false List.not_mem_nil (none event)

theorem congr (collects : Collects first shows)
    (same : ∀ event, shows event ↔ more event) : Collects first more := by
  intro events next yields
  obtain ⟨added, appended, members⟩ := collects events next yields
  exact ⟨added, appended, fun event => (members event).trans (same event)⟩

theorem append (collects : Collects first shows) (later : Collects second more) :
    Collects (fun events => first events >>= second)
      fun event => shows event ∨ more event := by
  intro events next yields
  obtain ⟨middle, front, back⟩ := yields_ok_bind.mp yields
  obtain ⟨added, appended, members⟩ := collects events middle front
  obtain ⟨rest, extended, others⟩ := later middle next back
  refine ⟨added ++ rest, ?_, fun event => ?_⟩
  · rw [extended, appended, List.append_assoc]
  · rw [List.mem_append, members, others]

theorem foldlM {items : List ι}
    {round : HidReportEvents capacity → ι →
      HidChecked (HidReportEvents capacity)}
    {shown : ι → HidReportEvent → Prop}
    (rounds : ∀ item ∈ items,
      Collects (fun events => round events item) (shown item)) :
    Collects (fun events => items.foldlM round events)
      fun event => ∃ item ∈ items, shown item event := by
  induction items with
  | nil => exact nothing fun event impossible => by simp at impossible
  | cons item rest ih =>
      obtain ⟨now, later⟩ := List.forall_mem_cons.mp rounds
      refine (now.append (ih later)).congr fun event => ?_
      simp

theorem pushSome {extract : HidChecked α} {event : α → Option HidReportEvent} :
    @Collects capacity
      (fun events => extract >>= fun value => pushSome events (event value))
      fun shown => ∃ value, Yields extract (.ok value) ∧
        event value = some shown := by
  intro events next yields
  obtain ⟨value, read, pushed⟩ := yields_ok_bind.mp yields
  have alone : ∀ other, Yields extract (.ok other) → other = value := by
    intro other again
    have same := again.symm.trans read
    cases same
    rfl
  cases found : event value with
  | none =>
      rw [found] at pushed
      cases pushed
      refine ⟨[], (List.append_nil _).symm, fun shown => ?_⟩
      refine iff_of_false List.not_mem_nil ?_
      intro impossible
      obtain ⟨other, again, same⟩ := impossible
      rw [alone other again, found] at same
      cases same
  | some one =>
      rw [found, HidShift.pushSome, pushEvent] at pushed
      cases room : events.push? one with
      | none =>
          rw [room] at pushed
          cases pushed
      | some held =>
          rw [room] at pushed
          cases pushed
          refine ⟨[one], BoundedVec.push?_eq_some.mp room, fun shown => ?_⟩
          rw [List.mem_singleton]
          constructor
          · intro same
            exact ⟨value, read, by rw [found, same]⟩
          · intro some
            obtain ⟨other, again, same⟩ := some
            rw [alone other again, found] at same
            exact (Option.some.inj same).symm

end Collects

end

def ShowsValue {α : Type} (extract : Nat → HidChecked α)
    (event : Nat → α → Option HidReportEvent) (count : Nat)
    (shown : HidReportEvent) : Prop :=
  ∃ index < count, ∃ value, Yields (extract index) (.ok value) ∧
    event index value = some shown

def ReportField.ShowsKey (field : ReportField) (payload : List UInt8)
    (shown : HidReportEvent) : Prop :=
  if field.isVariable ∧ field.bitSize = 1 then
    ShowsValue (field.extractBool payload) (keyAt field) field.count.toNat
      shown
  else if !field.isVariable then
    ShowsValue (field.extractU32 payload) (fun _ => keyNamed)
      field.count.toNat shown
  else False

def ReportField.ShowsConsumer (field : ReportField) (payload : List UInt8)
    (shown : HidReportEvent) : Prop :=
  if field.isVariable then
    ShowsValue (field.extractBool payload) (consumerAt field)
      field.count.toNat shown
  else
    ShowsValue (field.extractU32 payload) (fun _ => consumerNamed)
      field.count.toNat shown

variable {fieldCapacity : Nat}
  (descriptor : HidReportDescriptor fieldCapacity) (reportId : UInt8)
  (payload : List UInt8)

namespace HidReportDescriptor

def ShowsKey (shown : HidReportEvent) : Prop :=
  ∃ field ∈ descriptor.fieldsOf reportId usagePageKeyboard,
    field.ShowsKey payload shown

def ShowsAxis (usagePage usage : UInt16) (event : Int32 → HidReportEvent)
    (shown : HidReportEvent) : Prop :=
  ∃ value, Yields (descriptor.extractI32 payload reportId usagePage usage)
    (.ok (some value)) ∧ value ≠ 0 ∧ event value = shown

def ShowsButton (shown : HidReportEvent) : Prop :=
  ∃ button ∈ mouseButtonUsages,
    Yields (descriptor.extractBool payload reportId usagePageButton button.1)
      (.ok (some true)) ∧ .mouseButtonDown button.2 = shown

def ShowsMouse (shown : HidReportEvent) : Prop :=
  descriptor.ShowsAxis reportId payload usagePageGenericDesktop usageX
      .mouseX shown ∨
    descriptor.ShowsAxis reportId payload usagePageGenericDesktop usageY
      .mouseY shown ∨
    descriptor.ShowsAxis reportId payload usagePageGenericDesktop usageWheel
      .mouseWheel shown ∨
    descriptor.ShowsAxis reportId payload usagePageConsumer usageAcPan
      .mousePan shown ∨
    descriptor.ShowsButton reportId payload shown

def ShowsConsumer (shown : HidReportEvent) : Prop :=
  ∃ field ∈ descriptor.fieldsOf reportId usagePageConsumer,
    field.ShowsConsumer payload shown

end HidReportDescriptor

variable {capacity : Nat}

theorem decodeValues_collects {α : Type} {extract : Nat → HidChecked α}
    {event : Nat → α → Option HidReportEvent} {count : Nat} :
    @Collects capacity (decodeValues extract event count)
      (ShowsValue extract event count) := by
  refine (Collects.foldlM fun index _ => Collects.pushSome).congr fun shown => ?_
  simp only [List.mem_range]
  exact Iff.rfl

theorem decodeKeyboardField_collects (field : ReportField) :
    @Collects capacity (fun events => decodeKeyboardField payload events field)
      (field.ShowsKey payload) := by
  unfold decodeKeyboardField ReportField.ShowsKey
  split
  · exact decodeValues_collects
  · split
    · exact decodeValues_collects
    · exact Collects.nothing fun event => not_false

theorem decodeConsumerField_collects (field : ReportField) :
    @Collects capacity (fun events => decodeConsumerField payload events field)
      (field.ShowsConsumer payload) := by
  unfold decodeConsumerField ReportField.ShowsConsumer
  split
  · exact decodeValues_collects
  · exact decodeValues_collects

theorem decodeAxis_collects (usagePage usage : UInt16)
    (event : Int32 → HidReportEvent) :
    @Collects capacity
      (decodeAxis descriptor reportId payload usagePage usage event)
      (descriptor.ShowsAxis reportId payload usagePage usage event) := by
  refine Collects.pushSome.congr fun shown => ?_
  constructor
  · intro read
    obtain ⟨value, yields, mapped⟩ := read
    obtain ⟨moved, kept, same⟩ := Option.map_eq_some_iff.mp mapped
    obtain ⟨read, away⟩ := Option.filter_eq_some_iff.mp kept
    rw [read] at yields
    exact ⟨moved, yields, of_decide_eq_true away, same⟩
  · intro away
    obtain ⟨value, yields, moved, same⟩ := away
    refine ⟨some value, yields, ?_⟩
    rw [Option.filter_some, if_pos (decide_eq_true moved), Option.map_some,
      same]

theorem decodeButton_collects (button : UInt16 × MouseButton) :
    @Collects capacity
      (fun events => decodeButton descriptor reportId payload events button)
      fun shown =>
        Yields (descriptor.extractBool payload reportId usagePageButton
          button.1) (.ok (some true)) ∧ .mouseButtonDown button.2 = shown := by
  refine Collects.pushSome.congr fun shown => ?_
  constructor
  · intro read
    obtain ⟨down, yields, pushed⟩ := read
    split at pushed
    · rename_i isDown
      rw [isDown] at yields
      exact ⟨yields, Option.some.inj pushed⟩
    · cases pushed
  · intro down
    obtain ⟨yields, same⟩ := down
    exact ⟨some true, yields, by rw [if_pos rfl, same]⟩

theorem decodeMouse_collects :
    @Collects capacity (decodeMouse descriptor reportId payload)
      (descriptor.ShowsMouse reportId payload) := by
  refine (decodeAxis_collects descriptor reportId payload _ _ _).append ?_
  refine (decodeAxis_collects descriptor reportId payload _ _ _).append ?_
  refine (decodeAxis_collects descriptor reportId payload _ _ _).append ?_
  refine (decodeAxis_collects descriptor reportId payload _ _ _).append ?_
  exact Collects.foldlM fun button _ =>
    decodeButton_collects descriptor reportId payload button

theorem mem_decodeReport {report : List UInt8}
    (matched : descriptor.matchingPayload report = .ok (reportId, payload))
    (decoded : Yields (decodeReport descriptor capacity report) (.ok events))
    (event : HidReportEvent) :
    event ∈ events.toList ↔
      descriptor.ShowsKey reportId payload event ∨
        descriptor.ShowsMouse reportId payload event ∨
        descriptor.ShowsConsumer reportId payload event := by
  have parts := (@Collects.foldlM capacity _ _ _ _ fun field
    (_ : field ∈ descriptor.fieldsOf reportId usagePageKeyboard) =>
      decodeKeyboardField_collects payload field).append
        ((decodeMouse_collects descriptor reportId payload).append
          (Collects.foldlM fun field
            (_ : field ∈ descriptor.fieldsOf reportId usagePageConsumer) =>
              decodeConsumerField_collects payload field))
  rw [decodeReport, matched] at decoded
  obtain ⟨added, same, members⟩ := parts .empty events decoded
  rw [same, show (BoundedVec.empty : HidReportEvents capacity).toList = []
    from rfl, List.nil_append, members]
  exact Iff.rfl

end HidShift
