import HidShift.UsbHid.Frame

namespace HidShift

open Lib Lib.Checked

section

variable {payload : List UInt8} {start count : Nat}

theorem readBits_ends (inside : start + count ≤ payload.length * 8)
    (small : payload.length * 8 < usizeCount) :
    EndsIn (readBits payload start count) fun _ => True := by
  induction count with
  | zero => exact endsIn_pure trivial
  | succ count ih =>
      refine endsIn_bind (ih (by omega)) fun value _ => ?_
      refine endsIn_below (by omega) ?_
      exact endsIn_indexed (by omega) fun byte => endsIn_pure trivial

theorem writeBits_ends (inside : start + count ≤ payload.length * 8)
    (small : payload.length * 8 < usizeCount) :
    EndsIn (writeBits raw start count payload)
      fun written => written.length = payload.length := by
  induction count with
  | zero => exact endsIn_pure rfl
  | succ count ih =>
      refine endsIn_bind (ih (by omega)) fun written same => ?_
      rw [← same]
      refine endsIn_below (by omega) ?_
      refine endsIn_indexed (by omega) fun byte => ?_
      exact endsIn_stored (by omega)

end

namespace ReportField

variable (field : ReportField) (payload : List UInt8) (index : Nat)

def HasValue : Prop :=
  field.bitSize ≠ 0 ∧ field.bitSize ≤ 32 ∧ index < field.count.toNat

def startOf : Nat := field.bitOffset.toNat + index * field.bitSize.toNat

/-- The position of the value and the size of the payload fit in 32 bits. -/
def Addressable : Prop :=
  field.HasValue index → field.startOf index < usizeCount ∧
    (field.startOf index + field.bitSize.toNat < usizeCount →
      payload.length * 8 < usizeCount)

def Inside : Prop :=
  field.HasValue index ∧
    field.startOf index + field.bitSize.toNat < usizeCount ∧
    field.startOf index + field.bitSize.toNat ≤ payload.length * 8

variable {field payload index}

theorem HasValue.offset_small (value : field.HasValue index) :
    index * field.bitSize.toNat < usizeCount := by
  obtain ⟨-, size, below⟩ := value
  have small : field.bitSize.toNat ≤ 32 := UInt8.le_iff_toNat_le.mp size
  have few : field.count.toNat < 65536 := field.count.toNat_lt
  calc index * field.bitSize.toNat
      ≤ 65536 * 32 := Nat.mul_le_mul (by omega) small
    _ < usizeCount := by decide

theorem hasValue_iff : field.HasValue index ↔
    ¬ (field.bitSize = 0 ∨ 32 < field.bitSize ∨
      field.count.toNat ≤ index) := by
  unfold HasValue
  rw [not_or, not_or, UInt8.not_lt, Nat.not_le]

variable (field payload index)

theorem position_needs :
    Needs (field.position payload index) (field.Addressable payload index)
      fun start => ∀ bits, start = some bits ↔
        field.Inside payload index ∧ bits = field.startOf index := by
  unfold position
  split
  · rename_i absent
    have noValue : ¬ field.HasValue index :=
      fun value => hasValue_iff.mp value absent
    refine (Needs.always (endsIn_pure fun bits => ?_)).of_iff
      (iff_of_true trivial fun value => absurd value noValue)
    exact iff_of_false nofun fun inside => noValue inside.1.1
  · rename_i present
    have value : field.HasValue index := hasValue_iff.mpr present
    have small := value.offset_small
    by_cases fits : field.startOf index + field.bitSize.toNat < usizeCount
    · refine (Needs.below (Needs.below (?_ : Needs _
        (payload.length * 8 < usizeCount ∧ True) _))).of_iff ?_
      · change Needs (if field.startOf index + field.bitSize.toNat <
          usizeCount then _ else _) _ _
        rw [if_pos fits]
        refine Needs.below (.always ?_)
        split
        · rename_i inside
          refine endsIn_pure fun bits => ?_
          constructor
          · intro same
            cases same
            exact ⟨⟨value, fits, inside⟩, rfl⟩
          · rintro ⟨-, rfl⟩
            rfl
        · rename_i outside
          refine endsIn_pure fun bits => ?_
          exact iff_of_false nofun fun inside => outside inside.1.2.2
      · constructor
        · rintro ⟨-, start, length, -⟩ -
          exact ⟨start, fun _ => length⟩
        · intro addressable
          obtain ⟨start, length⟩ := addressable value
          exact ⟨small, start, length fits, trivial⟩
    · refine (Needs.below (Needs.below (?_ : Needs _ True _))).of_iff ?_
      · change Needs (if field.startOf index + field.bitSize.toNat <
          usizeCount then _ else _) _ _
        rw [if_neg fits]
        refine .always (endsIn_pure fun bits => ?_)
        exact iff_of_false nofun fun inside => fits inside.1.2.1
      · constructor
        · rintro ⟨-, start, -⟩ -
          exact ⟨start, fun below => absurd below fits⟩
        · exact fun addressable => ⟨small, (addressable value).1, trivial⟩

variable {field payload index}

theorem Inside.bounds (inside : field.Inside payload index)
    (addressable : field.Addressable payload index) :
    field.startOf index + field.bitSize.toNat ≤ payload.length * 8 ∧
      payload.length * 8 < usizeCount :=
  ⟨inside.2.2, (addressable inside.1).2 inside.2.1⟩

variable (field payload index)

theorem extractU32_needs :
    Needs (field.extractU32 payload index) (field.Addressable payload index)
      fun raw => raw.isSome → field.HasValue index := by
  by_cases addressable : field.Addressable payload index
  · refine .inl ⟨addressable, ?_⟩
    refine endsIn_bind ((field.position_needs payload index).endsIn
      addressable) fun start found => ?_
    cases start with
    | none => exact endsIn_pure (fun impossible => nomatch impossible)
    | some start =>
        obtain ⟨inside, rfl⟩ := (found start).mp rfl
        obtain ⟨bits, small⟩ := inside.bounds addressable
        exact endsIn_bind (readBits_ends bits small)
          fun value _ => endsIn_pure fun _ => inside.1
  · refine .inr ⟨addressable, fun finishes => addressable ?_⟩
    exact (field.position_needs payload index).finishes_iff.mp
      (finishes_bind.mp finishes).1

theorem extractBool_needs :
    Needs (field.extractBool payload index) (field.Addressable payload index)
      fun _ => True :=
  (field.extractU32_needs payload index).bind_endsIn
    fun _ _ => endsIn_pure trivial

theorem extractI32_needs :
    Needs (field.extractI32 payload index) (field.Addressable payload index)
      fun _ => True := by
  refine (field.extractU32_needs payload index).bind_endsIn fun raw value => ?_
  cases raw with
  | none => exact endsIn_pure trivial
  | some raw =>
      obtain ⟨positive, -, -⟩ := value rfl
      dsimp only
      split
      · rename_i signed
        have size : 1 ≤ field.bitSize.toNat := by
          by_contra zero
          exact positive (UInt8.toNat_inj.mp (by
            rw [UInt8.toNat_zero]
            omega))
        have narrow : field.bitSize.toNat < 32 :=
          UInt8.lt_iff_toNat_lt.mp signed.2
        have sign : EndsIn (difference field.bitSize.toNat 1 :
            HidChecked Nat) fun _ => True :=
          endsIn_lift (if_pos size) trivial
        refine endsIn_bind sign fun sign _ => ?_
        refine endsIn_below narrow ?_
        split
        · exact endsIn_pure trivial
        · exact endsIn_pure trivial
      · exact endsIn_pure trivial

theorem writeI32_needs (value : Int32) :
    Needs (field.writeI32 payload index value)
      (field.Addressable payload index ∧ (field.Inside payload index →
        field.logicalMin ≤ field.logicalMax))
      fun written => written.1.length = payload.length := by
  by_cases addressable : field.Addressable payload index
  · refine (Needs.bind (field.position_needs payload index)
      fun start found => ?_)
    cases start with
    | none =>
        have outside : ¬ field.Inside payload index := fun inside =>
          nomatch (found _).mpr ⟨inside, rfl⟩
        have unchanged : EndsIn (pure (payload, false) :
            HidChecked (List UInt8 × Bool))
              fun written => written.1.length = payload.length :=
          endsIn_pure rfl
        exact (Needs.always unchanged).of_iff
          (iff_of_true trivial fun inside => absurd inside outside)
    | some start =>
        obtain ⟨inside, rfl⟩ := (found start).mp rfl
        obtain ⟨bits, small⟩ := inside.bounds addressable
        refine (Needs.lift (?_ : _ ↔ field.logicalMin ≤ field.logicalMax)
          fun value _ => .always ?_).of_iff
            ⟨fun ordered _ => ordered.1,
              fun ordered => ⟨ordered inside, trivial⟩⟩
        · split <;> simp [*]
        · exact endsIn_bind (writeBits_ends bits small)
            fun written same => endsIn_pure same
  · refine .inr ⟨fun both => addressable both.1, fun finishes => ?_⟩
    exact addressable ((field.position_needs payload index).finishes_iff.mp
      (finishes_bind.mp finishes).1)

end ReportField

abbrev FieldRead := ReportField × Nat

def FieldRead.Fits (payload : List UInt8) (read : FieldRead) : Prop :=
  read.1.Addressable payload read.2

namespace ReportField

def reads (field : ReportField) : List FieldRead :=
  (List.range field.count.toNat).map fun index => (field, index)

def keyboardReads (field : ReportField) : List FieldRead :=
  if field.isVariable ∧ field.bitSize ≠ 1 then [] else field.reads

end ReportField

namespace HidReportDescriptor

variable {fieldCapacity : Nat}
  (descriptor : HidReportDescriptor fieldCapacity) (reportId : UInt8)

def motionReads : List FieldRead :=
  (descriptor.fieldOf reportId usagePageGenericDesktop usageX).toList ++
    ((descriptor.fieldOf reportId usagePageGenericDesktop usageY).toList ++
      ((descriptor.fieldOf reportId usagePageGenericDesktop
          usageWheel).toList ++
        (descriptor.fieldOf reportId usagePageConsumer usageAcPan).toList))

def buttonReads : List FieldRead :=
  mouseButtonUsages.flatMap fun button =>
    (descriptor.fieldOf reportId usagePageButton button.1).toList

def reads : List FieldRead :=
  (descriptor.fieldsOf reportId usagePageKeyboard).flatMap
      ReportField.keyboardReads ++
    ((descriptor.motionReads reportId ++ descriptor.buttonReads reportId) ++
      (descriptor.fieldsOf reportId usagePageConsumer).flatMap
        ReportField.reads)

/-- The decoding of a report computes nothing out of range. -/
structure DecodesSafely (report : List UInt8) : Prop where
  reads : ∀ reportId payload,
    descriptor.matchingPayload report = .ok (reportId, payload) →
      ∀ read ∈ descriptor.reads reportId, read.Fits payload
  ordered : ∀ reportId payload,
    descriptor.matchingPayload report = .ok (reportId, payload) →
      ∀ read ∈ descriptor.motionReads reportId,
        read.1.Inside payload read.2 → read.1.logicalMin ≤ read.1.logicalMax

end HidReportDescriptor

section

variable {fieldCapacity capacity : Nat}
  (descriptor : HidReportDescriptor fieldCapacity) (reportId : UInt8)
  (payload : List UInt8)

def EventScan (capacity : Nat) (payload : List UInt8) (items : List FieldRead)
    (program : HidReportEvents capacity →
      HidChecked (HidReportEvents capacity)) : Prop :=
  Scan (FieldRead.Fits payload) (fun events => events.toList.length) capacity
    items program

theorem pushSome_finishes (events : HidReportEvents capacity)
    (event : Option HidReportEvent) : Finishes (pushSome events event) := by
  unfold pushSome pushEvent
  cases event with
  | none => exact finishes_pure events
  | some event =>
      dsimp only
      split
      · exact finishes_pure _
      · exact finishes_throw _

theorem pushSome_ends {events : HidReportEvents capacity}
    (event : Option HidReportEvent)
    (room : events.toList.length < capacity) :
    EndsIn (pushSome events event)
      fun next => next.toList.length ≤ events.toList.length + 1 := by
  unfold pushSome pushEvent
  cases event with
  | none => exact endsIn_pure (Nat.le_succ _)
  | some event =>
      obtain ⟨next, pushed, now⟩ := BoundedVec.push?_room event room
      simp only [pushed]
      refine endsIn_pure ?_
      rw [now, List.length_append]
      exact Nat.le_refl _

theorem eventScan_single {α : Type} {read : FieldRead}
    {extract : HidChecked α} {event : α → Option HidReportEvent}
    (needs : Needs extract (read.Fits payload) fun _ => True) :
    EventScan capacity payload [read] fun events =>
      extract >>= fun value => pushSome events (event value) :=
  Scan.single needs (fun events _ => pushSome_finishes events _)
    fun _ _ room => pushSome_ends _ room

theorem decodeValues_scan {α : Type} {field : ReportField}
    {extract : Nat → HidChecked α} {event : Nat → α → Option HidReportEvent}
    (needs : ∀ index,
      Needs (extract index) (field.Addressable payload index) fun _ => True) :
    EventScan capacity payload field.reads
      (decodeValues extract event field.count.toNat) := by
  have rounds := @Scan.foldlM _ _ _ _ (FieldRead.Fits payload)
    (fun events : HidReportEvents capacity => events.toList.length) capacity
    (List.range field.count.toNat) (fun index => [((field, index) : FieldRead)])
    (fun events index => extract index >>= fun value =>
      pushSome events (event index value))
    fun index _ => eventScan_single payload (needs index)
  have singles : field.reads = (List.range field.count.toNat).flatMap
      fun index => [(field, index)] := List.map_eq_flatMap
  rw [EventScan, singles]
  exact rounds

theorem decodeKeyboardField_scan (field : ReportField) :
    EventScan capacity payload field.keyboardReads
      fun events => decodeKeyboardField payload events field := by
  unfold ReportField.keyboardReads decodeKeyboardField
  by_cases variable_ : field.isVariable = true
  · by_cases bit : field.bitSize = 1
    · simp only [variable_, bit, ne_eq, not_true_eq_false, and_false, if_false,
        and_self, if_true]
      exact decodeValues_scan payload (field.extractBool_needs payload)
    · simp only [variable_, bit, ne_eq, not_false_eq_true, and_self, if_true,
        and_false, if_false, Bool.not_true, Bool.false_eq_true]
      exact Scan.nothing
  · rw [Bool.not_eq_true] at variable_
    simp only [variable_, Bool.false_eq_true, false_and, if_false,
      Bool.not_false, if_true]
    exact decodeValues_scan payload fun index =>
      (field.extractU32_needs payload index).forget

theorem decodeConsumerField_scan (field : ReportField) :
    EventScan capacity payload field.reads
      fun events => decodeConsumerField payload events field := by
  unfold decodeConsumerField
  split
  · exact decodeValues_scan payload (field.extractBool_needs payload)
  · exact decodeValues_scan payload fun index =>
      (field.extractU32_needs payload index).forget

theorem decodeAxis_scan (usagePage usage : UInt16)
    (event : Int32 → HidReportEvent) :
    EventScan capacity payload
      (descriptor.fieldOf reportId usagePage usage).toList
      (decodeAxis descriptor reportId payload usagePage usage event) := by
  unfold decodeAxis HidReportDescriptor.extractI32
  cases descriptor.fieldOf reportId usagePage usage with
  | none => exact Scan.nothing
  | some read =>
      exact eventScan_single payload (read.1.extractI32_needs payload read.2)

theorem decodeButton_scan (button : UInt16 × MouseButton) :
    EventScan capacity payload
      (descriptor.fieldOf reportId usagePageButton button.1).toList
      fun events => decodeButton descriptor reportId payload events button := by
  unfold decodeButton HidReportDescriptor.extractBool
  cases descriptor.fieldOf reportId usagePageButton button.1 with
  | none => exact Scan.nothing
  | some read =>
      exact eventScan_single payload (read.1.extractBool_needs payload read.2)

theorem decodeMouse_scan :
    EventScan capacity payload
      (descriptor.motionReads reportId ++ descriptor.buttonReads reportId)
      (decodeMouse descriptor reportId payload) := by
  unfold HidReportDescriptor.motionReads
  rw [List.append_assoc, List.append_assoc, List.append_assoc]
  refine (decodeAxis_scan descriptor reportId payload _ _ _).append ?_
  refine (decodeAxis_scan descriptor reportId payload _ _ _).append ?_
  refine (decodeAxis_scan descriptor reportId payload _ _ _).append ?_
  refine (decodeAxis_scan descriptor reportId payload _ _ _).append ?_
  exact Scan.foldlM fun button _ =>
    decodeButton_scan descriptor reportId payload button

/-- The three parts of `decode_report`. -/
def decodePayload (events : HidReportEvents capacity) :
    HidChecked (HidReportEvents capacity) := do
  let events ← decodeKeyboard descriptor reportId payload events
  let events ← decodeMouse descriptor reportId payload events
  decodeConsumer descriptor reportId payload events

theorem decodePayload_scan :
    EventScan capacity payload (descriptor.reads reportId)
      (decodePayload descriptor reportId payload) := by
  refine Scan.append (Scan.foldlM fun field _ =>
    decodeKeyboardField_scan payload field) (Scan.append
      (decodeMouse_scan descriptor reportId payload) ?_)
  exact Scan.foldlM fun field _ => decodeConsumerField_scan payload field

theorem decodeReport_eq (report : List UInt8) :
    decodeReport descriptor capacity report =
      result (descriptor.matchingPayload report) >>= fun matched =>
        decodePayload descriptor matched.1 matched.2 .empty := rfl

end

section

variable {fieldCapacity : Nat}
  (descriptor : HidReportDescriptor fieldCapacity) (report : List UInt8)

theorem finishes_result_bind {α β : Type} {value : Except HidReportError α}
    {next : α → HidChecked β} :
    Finishes (result value >>= next) ↔
      ∀ matched, value = .ok matched → Finishes (next matched) := by
  rw [finishes_bind]
  constructor
  · rintro ⟨-, rest⟩ matched same
    exact rest matched (by rw [same]; exact yields_result _)
  · intro rest
    refine ⟨finishes_result value, fun matched yields => rest matched ?_⟩
    exact Option.some.inj yields

theorem decodeReport_finishes_iff :
    (∀ capacity, Finishes (decodeReport descriptor capacity report)) ↔
      ∀ reportId payload,
        descriptor.matchingPayload report = .ok (reportId, payload) →
          ∀ read ∈ descriptor.reads reportId, read.Fits payload := by
  constructor
  · intro finishes reportId payload matched
    obtain ⟨capacity, room⟩ : ∃ capacity,
        (descriptor.reads reportId).length ≤ capacity := ⟨_, Nat.le_refl _⟩
    have decoded := finishes capacity
    rw [decodeReport_eq, finishes_result_bind] at decoded
    have scan := @decodePayload_scan _ capacity descriptor reportId payload
    have small : (BoundedVec.empty : HidReportEvents capacity).toList.length +
        (descriptor.reads reportId).length ≤ capacity :=
      (Nat.zero_add _).le.trans room
    exact (Scan.finishes_iff scan .empty small).mp
      (decoded (reportId, payload) matched)
  · intro fits capacity
    rw [decodeReport_eq, finishes_result_bind]
    intro matched same
    have scan := @decodePayload_scan _ capacity descriptor matched.1 matched.2
    exact Scan.safe scan (fits matched.1 matched.2 same) .empty

theorem decodeStandardInputFrame_finishes (deviceId : DeviceId)
    (interfaceId : InterfaceId)
    (decoded : Finishes (decodeReport descriptor capacity report)) :
    Finishes (decodeStandardInputFrame capacity deviceId interfaceId
      descriptor report) := by
  unfold decodeStandardInputFrame
  refine finishes_bind.mpr
    ⟨finishes_mapError.mpr (finishes_result _), fun matched _ => ?_⟩
  refine finishes_bind.mpr ⟨finishes_mapError.mpr decoded, fun events _ => ?_⟩
  exact finishes_bind.mpr ⟨finishes_mapError.mpr (finishes_result _),
    fun frame _ => finishes_pure _⟩

end

section

variable {fieldCapacity : Nat}
  {descriptor : HidReportDescriptor fieldCapacity} {reportId : UInt8}
  {report : List UInt8}

def FieldRead.Writable (payload : List UInt8) (read : FieldRead) : Prop :=
  read.Fits payload ∧ (read.1.Inside payload read.2 →
    read.1.logicalMin ≤ read.1.logicalMax)

theorem FieldRead.writable_of_length (same : other.length = payload.length)
    (read : FieldRead) : read.Writable other ↔ read.Writable payload := by
  unfold Writable Fits ReportField.Addressable ReportField.Inside
  rw [same]

theorem rewriteAxis_needs (progress : List UInt8 × Bool)
    (axis : UInt16 × UInt16 × Int32) :
    Needs (descriptor.rewriteAxis reportId progress axis)
      (∀ read ∈ (descriptor.fieldOf reportId axis.1 axis.2.1).toList,
        FieldRead.Writable progress.1 read)
      fun next => next.1.length = progress.1.length := by
  unfold HidReportDescriptor.rewriteAxis
  cases descriptor.fieldOf reportId axis.1 axis.2.1 with
  | none =>
      have unchanged : EndsIn (pure progress :
          HidChecked (List UInt8 × Bool))
            fun next => next.1.length = progress.1.length := endsIn_pure rfl
      exact (Needs.always unchanged).of_iff
        (iff_of_true trivial fun _ impossible => nomatch impossible)
  | some read =>
      refine ((read.1.writeI32_needs progress.1 read.2 axis.2.2).bind_endsIn
        fun written same => endsIn_pure same).of_iff ?_
      exact (List.forall_mem_singleton
        (p := FieldRead.Writable progress.1)).symm

theorem rewriteAxes_needs (axes : List (UInt16 × UInt16 × Int32))
    (progress : List UInt8 × Bool) :
    Needs (axes.foldlM (descriptor.rewriteAxis reportId) progress)
      (∀ read ∈ axes.flatMap fun axis =>
        (descriptor.fieldOf reportId axis.1 axis.2.1).toList,
          FieldRead.Writable progress.1 read)
      fun next => next.1.length = progress.1.length := by
  induction axes generalizing progress with
  | nil =>
      have unchanged : EndsIn (pure progress :
          HidChecked (List UInt8 × Bool))
            fun next => next.1.length = progress.1.length := endsIn_pure rfl
      exact (Needs.always unchanged).of_iff
        (iff_of_true trivial fun _ impossible => nomatch impossible)
  | cons axis rest ih =>
      rw [List.foldlM_cons, List.flatMap_cons]
      refine (Needs.bind (rewriteAxis_needs progress axis)
        fun next same => ?_).of_iff List.forall_mem_append.symm
      have later := ih next
      simp only [FieldRead.writable_of_length same, same] at later
      exact later

theorem motionReads_eq (movement : MouseMovement) :
    ((HidReportDescriptor.motionAxes movement).flatMap fun axis =>
      (descriptor.fieldOf reportId axis.1 axis.2.1).toList) =
        descriptor.motionReads reportId := by
  simp only [HidReportDescriptor.motionAxes, List.flatMap_cons,
    List.flatMap_nil, List.append_nil]
  rfl

theorem matchingPayload_drop
    (matched : descriptor.matchingPayload report = .ok (reportId, payload)) :
    descriptor.hasReportIds.toNat ≤ report.length ∧
      report.drop descriptor.hasReportIds.toNat = payload := by
  unfold HidReportDescriptor.matchingPayload at matched
  cases ids : descriptor.hasReportIds with
  | false =>
      rw [ids] at matched
      cases matched
      exact ⟨Nat.zero_le _, rfl⟩
  | true =>
      rw [ids] at matched
      cases report with
      | nil => cases matched
      | cons first rest =>
          cases matched
          exact ⟨Nat.le_add_left _ _, rfl⟩

theorem sliced_payload {payload : List UInt8} (out : List UInt8)
    (matched : descriptor.matchingPayload report = .ok (reportId, payload)) :
    Yields (sliced (report ++ out.drop report.length)
      descriptor.hasReportIds.toNat report.length :
        HidChecked (List UInt8)) (.ok payload) := by
  obtain ⟨offset, rest⟩ := matchingPayload_drop matched
  have whole : report.length ≤ (report ++ out.drop report.length).length := by
    rw [List.length_append]
    exact Nat.le_add_right _ _
  have cut : slice (report ++ out.drop report.length)
      descriptor.hasReportIds.toNat
        (report.length - descriptor.hasReportIds.toNat) = payload := by
    rw [slice, List.drop_append_of_le_length offset, rest,
      List.take_left' (by rw [← rest, List.length_drop])]
  unfold sliced
  rw [if_pos ⟨offset, whole⟩, cut]
  rfl

theorem rewriteRelativeMotion_room {out : List UInt8}
    (room : report.length ≤ out.length) (movement : MouseMovement) :
    Finishes (descriptor.rewriteRelativeMotion report movement out) ↔
      ∀ reportId payload,
        descriptor.matchingPayload report = .ok (reportId, payload) →
          ∀ read ∈ descriptor.motionReads reportId,
            FieldRead.Writable payload read := by
  unfold HidReportDescriptor.rewriteRelativeMotion
  rw [if_neg (Nat.not_lt.mpr room), finishes_result_bind, Prod.forall]
  refine forall_congr' fun reportId => forall_congr' fun payload =>
    forall_congr' fun matched => ?_
  dsimp only
  rw [finishes_then (sliced_payload out matched), finishes_bind]
  have axes := @rewriteAxes_needs _ descriptor reportId
    (HidReportDescriptor.motionAxes movement) (payload, false)
  rw [motionReads_eq] at axes
  rw [axes.finishes_iff, and_iff_left_iff_imp]
  intro _ written _
  split
  · exact finishes_pure _
  · exact finishes_throw _

theorem rewriteRelativeMotion_finishes_iff :
    (∀ movement out, Finishes
      (descriptor.rewriteRelativeMotion report movement out)) ↔
      ∀ reportId payload,
        descriptor.matchingPayload report = .ok (reportId, payload) →
          ∀ read ∈ descriptor.motionReads reportId,
            FieldRead.Writable payload read := by
  constructor
  · intro finishes
    exact (rewriteRelativeMotion_room (Nat.le_refl _) .neutral).mp
      (finishes .neutral report)
  · intro writable movement out
    by_cases room : report.length ≤ out.length
    · exact (rewriteRelativeMotion_room room movement).mpr writable
    · unfold HidReportDescriptor.rewriteRelativeMotion
      rw [if_pos (Nat.lt_of_not_le room)]
      exact finishes_throw _

end

/-- The three decoding functions stop on no report of a descriptor, whatever
the room for events, the movement and the output buffer, exactly if the fields
they use are safe for it. -/
theorem decoding_finishes_iff {fieldCapacity : Nat}
    (descriptor : HidReportDescriptor fieldCapacity) (report : List UInt8) :
    (∀ capacity deviceId interfaceId movement out,
      Finishes (decodeReport descriptor capacity report) ∧
        Finishes (decodeStandardInputFrame capacity deviceId interfaceId
          descriptor report) ∧
        Finishes (descriptor.rewriteRelativeMotion report movement out)) ↔
      descriptor.DecodesSafely report := by
  constructor
  · intro finishes
    refine ⟨(decodeReport_finishes_iff descriptor report).mp fun capacity =>
      (finishes capacity ⟨0⟩ ⟨0⟩ .neutral []).1, ?_⟩
    intro reportId payload matched read member
    have writable := rewriteRelativeMotion_finishes_iff.mp
      (fun movement out => (finishes 0 ⟨0⟩ ⟨0⟩ movement out).2.2)
      reportId payload matched read member
    exact writable.2
  · intro safe capacity deviceId interfaceId movement out
    have decoded := (decodeReport_finishes_iff descriptor report).mpr
      safe.reads capacity
    refine ⟨decoded, decodeStandardInputFrame_finishes descriptor report _ _
      decoded, ?_⟩
    refine rewriteRelativeMotion_finishes_iff.mpr ?_ movement out
    intro reportId payload matched read member
    refine ⟨safe.reads reportId payload matched read ?_,
      safe.ordered reportId payload matched read member⟩
    exact List.mem_append_right _ (List.mem_append_left _
      (List.mem_append_left _ member))

theorem singleField_fits (field : ReportField) : [field].length ≤ 1 :=
  Nat.le_refl 1

def HidReportDescriptor.ofField (field : ReportField) :
    HidReportDescriptor 1 :=
  ⟨⟨[field], singleField_fits field⟩, false⟩

def reversedAxis : HidReportDescriptor 1 :=
  .ofField ⟨0, usagePageGenericDesktop, usageX, usageX, 0, 8, 1,
    fieldFlagVariable, 1, 0⟩

/-- The rewrite of its report stops the program. -/
theorem reversed_axis_stops :
    ¬ Finishes (reversedAxis.rewriteRelativeMotion [0] ⟨5, 0, 0, 0⟩ [0]) :=
  not_finishes.mpr (by decide +kernel)

end HidShift
