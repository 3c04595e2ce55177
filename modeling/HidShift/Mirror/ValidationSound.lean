import HidShift.Mirror.PlanSound

namespace HidShift

open Lib Lib.Checked InPlace

structure InterfaceSection.PlannedIn (part : InterfaceSection)
    (image : MirrorImage) (plan : UsbDevicePlan)
    (interface : HidInterfacePlan) : Prop where
  number : interface.interfaceNumber = part.number
  subclass : interface.subclass = byteAt part.interface 6
  protocol : interface.protocol = byteAt part.interface 7
  endpoints : (plan.endpoints.toList.filter fun endpoint =>
    endpoint.interfaceNumber = part.number) = part.endpoints
  count : part.endpoints.length = (byteAt part.interface 4).toNat
  interrupt : ∀ descriptor ∈ part.endpointDescriptors,
    byteAt descriptor 3 &&& 0x03 = 0x03
  hid : part.hidDescriptors = [interface.hidDescriptor]
  declares : declaredLengths interface.hidDescriptor ≠ []
  report : (image.hidReports.filter fun record =>
    record.interfaceNumber = part.number) =
      [{ interfaceNumber := part.number
         descriptor := interface.reportDescriptor }]

/-- The configuration is a chain of descriptors with such interfaces, and the
plan lists them. -/
structure UsbDevicePlan.Lists (plan : UsbDevicePlan) (image : MirrorImage)
    (before : List (List UInt8)) (parts : List InterfaceSection) : Prop where
  configuration : plan.configurationDescriptor = image.configurationDescriptor
  header : byteAt plan.configurationDescriptor 0 = 9 ∧
    byteAt plan.configurationDescriptor 1 = 0x02
  total : (readU16 (slice plan.configurationDescriptor 2 2)).toNat =
    plan.configurationDescriptor.length
  chain : IsChain (plan.configurationDescriptor.take 9 ::
      (before ++ parts.flatMap InterfaceSection.descriptors))
    plan.configurationDescriptor
  plain : ∀ descriptor ∈ before, PlainDescriptor descriptor
  kinds : ∀ part ∈ parts, descriptorType part.interface = 0x04 ∧
    ∀ descriptor ∈ part.members, descriptorType descriptor ≠ 0x02 ∧
      descriptorType descriptor ≠ 0x04
  interfaces : List.Forall₂ (fun part interface =>
    part.PlannedIn image plan interface) parts plan.interfaces.toList
  numbers : (parts.map InterfaceSection.number).Nodup
  count : parts.length = (byteAt plan.configurationDescriptor 4).toNat
  endpoints : plan.endpoints.toList = parts.flatMap InterfaceSection.endpoints
  addresses : (plan.endpoints.toList.map EndpointPlan.address).Nodup
  perDirection : ∀ direction, (plan.endpoints.toList.filter fun endpoint =>
    endpoint.address &&& 0x80 = direction).length ≤ 4

/-- Report descriptors are as long as the HID descriptors declare. -/
def UsbDevicePlan.LengthsDeclared (plan : UsbDevicePlan) : Prop :=
  ∀ interface ∈ plan.interfaces.toList,
    ∀ length ∈ declaredLengths interface.hidDescriptor,
      interface.reportDescriptor.length = length

def UsbDevicePlan.Sound (plan : UsbDevicePlan) (image : MirrorImage) : Prop :=
  (∃ before parts, plan.Lists image before parts) ∧ plan.LengthsDeclared

/-- In every HID descriptor of the configuration, the lengths declared for a
report are that of the first entry. -/
def MirrorImage.FirstEntryCounts (image : MirrorImage) : Prop :=
  ∀ chain, IsChain chain image.configurationDescriptor →
    ∀ descriptor ∈ chain, descriptorType descriptor = 0x21 →
      ∀ length ∈ declaredLengths descriptor,
        length = (readU16 (slice descriptor 7 2)).toNat

theorem validateBos_ensures (descriptor : List UInt8) :
    Ensures (validateBos descriptor) fun _ => True := by
  rw [validateBos]
  refine Ensures.ite (fun _ => Ensures.pure trivial) fun _ => ?_
  refine Ensures.check fun long => ?_
  refine Ensures.indexed (by omega) (Ensures.indexed (by omega) ?_)
  refine Ensures.field (by omega) (Ensures.check fun _ => ?_)
  exact walkDescriptors_ensures (by omega)

theorem validateString_ensures (records : List StringRecord)
    (record : StringRecord) :
    Ensures (validateString records record) fun _ => True := by
  rw [validateString]
  refine Ensures.check fun long => ?_
  rw [not_or] at long
  refine Ensures.indexed (by omega) (Ensures.indexed (by omega) ?_)
  exact Ensures.check fun _ => Ensures.check fun _ => Ensures.pure trivial

theorem validateStrings_ensures (image : MirrorImage) :
    Ensures (validateStrings image) fun _ => True :=
  @Ensures.foldlM _ _ _ (fun _ _ => True) _ _ [] _ trivial
    fun _ record _ _ => validateString_ensures image.strings record

structure ReportTable.Holds (records : List HidReportRecord)
    (reports : ReportTable) : Prop where
  entries : reports.toList = records.map fun record =>
    (record.interfaceNumber, record.descriptor)
  distinct : (records.map HidReportRecord.interfaceNumber).Nodup

theorem collectReport_ok {records : List HidReportRecord}
    (holds : reports.Holds records)
    (collected : collectReport reports record = .ok longer) :
    longer.Holds (records ++ [record]) := by
  obtain ⟨entries, distinct⟩ := holds
  rw [collectReport] at collected
  split at collected
  · cases collected
  split at collected
  · cases collected
  rename_i fresh
  constructor
  · rw [pushPlan_ok collected, entries, List.map_append]
    rfl
  · rw [List.map_append]
    refine List.Nodup.append distinct (List.nodup_singleton _) ?_
    intro number old new
    rw [List.map_singleton, List.mem_singleton] at new
    subst new
    obtain ⟨other, listed, same⟩ := List.mem_map.mp old
    refine fresh (List.any_eq_true.mpr
      ⟨(other.interfaceNumber, other.descriptor), ?_, decide_eq_true same⟩)
    rw [entries]
    exact List.mem_map_of_mem listed

variable {image : MirrorImage}

theorem collectReports_ok (collected : collectReports image = .ok reports) :
    reports.Holds image.hidReports := by
  refine (foldlM_keeps (fun done reports => ReportTable.Holds done reports)
    (fun _ => True) ⟨rfl, List.nodup_nil⟩ ?_).1 reports collected
  intro before next after state _ holds
  exact ⟨fun result ran => collectReport_ok holds ran, fun _ _ => trivial⟩

theorem ReportTable.Holds.record {records : List HidReportRecord}
    {reports : ReportTable} (holds : reports.Holds records) {number : UInt8}
    {descriptor : List UInt8} (entry : (number, descriptor) ∈ reports.toList) :
    (records.filter fun record => record.interfaceNumber = number) =
      [{ interfaceNumber := number, descriptor }] := by
  obtain ⟨entries, distinct⟩ := holds
  rw [entries] at entry
  obtain ⟨record, listed, same⟩ := List.mem_map.mp entry
  cases same
  clear entries entry
  induction records with
  | nil => cases listed
  | cons first rest ih =>
      rw [List.map_cons, List.nodup_cons] at distinct
      rcases List.mem_cons.mp listed with same | later
      · subst same
        have none : (rest.filter fun other =>
            other.interfaceNumber = record.interfaceNumber) = [] := by
          refine List.filter_eq_nil_iff.mpr fun other member same => ?_
          rw [decide_eq_true_eq] at same
          refine distinct.1 ?_
          rw [← same]
          exact List.mem_map_of_mem member
        rw [List.filter_cons_of_pos, none]
        exact decide_eq_true rfl
      · have other : first.interfaceNumber ≠ record.interfaceNumber := by
          intro same
          refine distinct.1 ?_
          rw [same]
          exact List.mem_map_of_mem later
        rw [List.filter_cons_of_neg, ih distinct.2 later]
        rw [decide_eq_true_eq]
        exact other

theorem endpoints_of_number {parts : List InterfaceSection}
    (numbers : (parts.map InterfaceSection.number).Nodup)
    {part : InterfaceSection} (listed : part ∈ parts) :
    ((parts.flatMap InterfaceSection.endpoints).filter fun endpoint =>
      endpoint.interfaceNumber = part.number) = part.endpoints := by
  have own : ∀ other : InterfaceSection, ∀ endpoint ∈ other.endpoints,
      endpoint.interfaceNumber = other.number := by
    intro other endpoint member
    obtain ⟨descriptor, -, rfl⟩ := List.mem_map.mp member
    rfl
  have foreign : ∀ others : List InterfaceSection,
      part.number ∉ others.map InterfaceSection.number →
        ((others.flatMap InterfaceSection.endpoints).filter fun endpoint =>
          endpoint.interfaceNumber = part.number) = [] := by
    intro others absent
    refine List.filter_eq_nil_iff.mpr fun endpoint member same => ?_
    obtain ⟨other, otherListed, ofOther⟩ := List.mem_flatMap.mp member
    rw [decide_eq_true_eq, own other endpoint ofOther] at same
    exact absent (same ▸ List.mem_map_of_mem otherListed)
  induction parts with
  | nil => cases listed
  | cons first rest ih =>
      rw [List.map_cons, List.nodup_cons] at numbers
      rw [List.flatMap_cons, List.filter_append]
      rcases List.mem_cons.mp listed with same | later
      · subst same
        rw [foreign rest numbers.1, List.append_nil]
        refine List.filter_eq_self.mpr fun endpoint member => ?_
        exact decide_eq_true (own part endpoint member)
      · rw [ih numbers.2 later]
        have none : (first.endpoints.filter fun endpoint =>
            endpoint.interfaceNumber = part.number) = [] := by
          refine List.filter_eq_nil_iff.mpr fun endpoint member same => ?_
          rw [decide_eq_true_eq, own first endpoint member] at same
          refine numbers.1 ?_
          rw [same]
          exact List.mem_map_of_mem later
        rw [none, List.nil_append]

theorem chain_cons_header {config : List UInt8} {chain : List (List UInt8)}
    (long : 9 ≤ config.length) (first : byteAt config 0 = 9)
    (rest : IsChain chain (config.drop 9)) :
    IsChain (config.take 9 :: chain) config := by
  obtain ⟨whole, formed⟩ := rest
  have nine : (config.take 9).length = 9 := by
    rw [List.length_take]
    omega
  constructor
  · rw [List.flatten_cons, whole, List.take_append_drop]
  · refine List.forall_mem_cons.mpr ⟨⟨by omega, ?_⟩, formed⟩
    rw [nine, byteAt_take (by decide), first]
    rfl

theorem related_of_mem {α β : Type} {related : α → β → Prop} {left : List α}
    {right : List β} (both : List.Forall₂ related left right) {value : β}
    (listed : value ∈ right) : ∃ other ∈ left, related other value := by
  induction both with
  | nil => cases listed
  | cons first _ ih =>
      rcases List.mem_cons.mp listed with same | later
      · subst same
        exact ⟨_, List.mem_cons_self, first⟩
      · obtain ⟨other, member, holds⟩ := ih later
        exact ⟨other, List.mem_cons_of_mem _ member, holds⟩

section

variable {image : MirrorImage} {reports : ReportTable}

theorem planOf_ensures {walk : ConfigurationWalk}
    {chain : List (List UInt8)} (holds : reports.Holds image.hidReports)
    (long : 9 ≤ image.configurationDescriptor.length)
    (header : byteAt image.configurationDescriptor 0 = 9 ∧
      byteAt image.configurationDescriptor 1 = 0x02)
    (total : (readU16 (slice image.configurationDescriptor 2 2)).toNat =
      image.configurationDescriptor.length)
    (rest : IsChain chain (image.configurationDescriptor.drop 9))
    (stands : walk.Over reports.toList chain) :
    Ensures (planOf image reports walk) fun plan =>
      ∃ before parts, plan.Lists image before parts ∧
        ∀ interface ∈ plan.interfaces.toList,
          readU16 (slice interface.hidDescriptor 7 2) =
            UInt16.ofNat interface.reportDescriptor.length ∧
          ⟨interface.interfaceNumber, interface.reportDescriptor⟩ ∈
            image.hidReports := by
  obtain ⟨before, closed, opened, read, rfl⟩ := stands
  refine Ensures.bind (finishInterface_ensures read)
    fun interfaces planned => ?_
  refine Ensures.indexed (by omega) (Ensures.check fun counted => ?_)
  obtain ⟨counted, -⟩ := not_or.mp counted
  refine Ensures.check fun _ => Ensures.pure ?_
  refine ⟨before, closed ++ opened.toList, ?_, ?_⟩
  · refine ⟨rfl, header, total, ?_, read.plain, read.kinds, ?_, read.numbers,
      ?_, read.endpoints, ?_, read.perDirection⟩
    · exact chain_cons_header long header.1 rest
    · have known := (List.forall₂_and_left _ _).mpr
        ⟨fun part (listed : part ∈ closed ++ opened.toList) => listed, planned⟩
      refine known.imp fun part interface both => ?_
      obtain ⟨listed, made⟩ := both
      have found := endpoints_of_number read.numbers listed
      rw [← read.endpoints] at found
      refine ⟨made.number, made.subclass, made.protocol, found, ?_,
        read.interrupt part listed, made.hid, made.declares,
        holds.record made.report⟩
      rw [InterfaceSection.endpoints, List.length_map]
      exact made.endpoints
    · rw [planned.length_eq]
      exact not_not.mp counted
    · rw [← read.addresses]
      exact read.distinct
  · intro interface listed
    obtain ⟨part, -, made⟩ := related_of_mem planned listed
    refine ⟨made.firstEntry, ?_⟩
    have entry := made.report
    rw [holds.entries] at entry
    obtain ⟨record, member, same⟩ := List.mem_map.mp entry
    obtain ⟨number, descriptor⟩ := Prod.mk.inj same
    rw [made.number, ← number, ← descriptor]
    exact member

theorem validateConfiguration_ensures (holds : reports.Holds image.hidReports) :
    Ensures (validateConfiguration image reports) fun plan =>
      ∃ before parts, plan.Lists image before parts ∧
        ∀ interface ∈ plan.interfaces.toList,
          readU16 (slice interface.hidDescriptor 7 2) =
            UInt16.ofNat interface.reportDescriptor.length ∧
          ⟨interface.interfaceNumber, interface.reportDescriptor⟩ ∈
            image.hidReports := by
  rw [validateConfiguration]
  refine Ensures.check fun short => ?_
  have long := Nat.le_of_not_lt short
  refine Ensures.indexed (by omega) (Ensures.indexed (by omega)
    (Ensures.field (by omega) (Ensures.indexed (by omega)
      (Ensures.indexed (by omega) ?_))))
  refine Ensures.check fun header => Ensures.check fun total => ?_
  refine Ensures.check fun _ => ?_
  rw [not_or] at header
  have start : ConfigurationWalk.new.Over reports.toList [] := by
    refine ⟨[], [], none, ?_, rfl⟩
    exact ⟨List.forall_mem_nil _, fun _ => rfl, List.forall_mem_nil _, .nil,
      .none, List.nodup_nil, rfl, List.forall_mem_nil _, rfl, List.nodup_nil,
      fun _ => Nat.zero_le _⟩
  refine Ensures.bind (forDescriptors_ensures
    (fun done descriptor walk formed stands => visit_ensures formed stands)
    (Nat.le_add_left _ _) start) fun walk walked => ?_
  obtain ⟨chain, rest, stands⟩ := walked
  exact planOf_ensures holds long ⟨not_not.mp header.1, not_not.mp header.2⟩
    (not_not.mp total) rest stands

theorem validateMirrorImage_ensures (bytes : List UInt8) :
    Ensures (validateMirrorImage bytes) fun plan =>
      ∃ image, Yields (parseMirrorImage bytes) (.ok image) ∧
        ∃ before parts, plan.Lists image before parts ∧
          ∀ interface ∈ plan.interfaces.toList,
            (readU16 (slice interface.hidDescriptor 7 2)).toNat =
              interface.reportDescriptor.length := by
  have parsed := MirrorImageSource.parse_ensures bytes
  refine Ensures.bind (Ensures.mapError
    (Ensures.ofFinishes parsed.finishes)) fun image read => ?_
  refine Ensures.bind (Ensures.result fun done _ => trivial) fun _ _ => ?_
  refine Ensures.bind (validateBos_ensures _) fun _ _ => ?_
  refine Ensures.bind (validateStrings_ensures _) fun _ _ => ?_
  refine Ensures.bind (Ensures.result fun reports collected =>
    collectReports_ok collected) fun reports holds => ?_
  refine (validateConfiguration_ensures holds).weaken fun plan listed => ?_
  obtain ⟨before, parts, lists, matching⟩ := listed
  refine ⟨image, read, before, parts, lists, ?_⟩
  intro interface member
  obtain ⟨first, record⟩ := matching interface member
  obtain ⟨source, fits, -, rfl⟩ := parsed.of_yields read
  rw [MirrorImageSource.image_hidReports fits] at record
  have small := (MirrorImageSource.descriptors_small fits).2 _ record
  rw [first]
  exact UInt16.toNat_ofNat_of_lt' small

end

theorem UsbDevicePlan.Lists.hid_of_chain {plan : UsbDevicePlan}
    {before : List (List UInt8)} {parts : List InterfaceSection}
    (lists : plan.Lists image before parts) {chain : List (List UInt8)}
    (chained : IsChain chain image.configurationDescriptor)
    (descriptor : List UInt8) :
    descriptor ∈ chain ∧ descriptorType descriptor = 0x21 ↔
      ∃ interface ∈ plan.interfaces.toList,
        interface.hidDescriptor = descriptor := by
  have own := lists.chain
  rw [lists.configuration] at own
  rw [chain_unique chained own]
  constructor
  · intro found
    obtain ⟨member, kind⟩ := found
    rcases List.mem_cons.mp member with header | rest
    · have second := lists.header.2
      rw [lists.configuration] at second
      rw [header, descriptorType, byteAt_take (by decide), second] at kind
      exact absurd kind (by decide)
    rcases List.mem_append.mp rest with early | late
    · exact absurd kind (lists.plain descriptor early).2.2.2
    obtain ⟨part, listed, inside⟩ := List.mem_flatMap.mp late
    rcases List.mem_cons.mp inside with same | inside
    · rw [same, (lists.kinds part listed).1] at kind
      exact absurd kind (by decide)
    obtain ⟨interface, planned, made⟩ :=
      related_of_mem lists.interfaces.flip listed
    have hid : descriptor ∈ part.hidDescriptors :=
      List.mem_filter.mpr ⟨inside, decide_eq_true kind⟩
    rw [made.hid, List.mem_singleton] at hid
    exact ⟨interface, planned, hid.symm⟩
  · intro found
    obtain ⟨interface, listed, rfl⟩ := found
    obtain ⟨part, member, made⟩ := related_of_mem lists.interfaces listed
    have hid : interface.hidDescriptor ∈ part.hidDescriptors := by
      rw [made.hid]
      exact List.mem_singleton.mpr rfl
    obtain ⟨inside, kind⟩ := List.mem_filter.mp hid
    refine ⟨List.mem_cons_of_mem _ (List.mem_append_right _ ?_),
      of_decide_eq_true kind⟩
    exact List.mem_flatMap.mpr ⟨part, member, List.mem_cons_of_mem _ inside⟩

/-- Whatever the bytes, validation comes to an end, and the plan it accepts is
sound exactly when in every HID descriptor of the configuration the lengths
declared for a report are that of the first entry. -/
theorem validation_sound_iff (bytes : List UInt8) :
    Finishes (validateMirrorImage bytes) ∧
      ∀ image plan, Yields (parseMirrorImage bytes) (.ok image) →
        Yields (validateMirrorImage bytes) (.ok plan) →
          (plan.Sound image ↔ image.FirstEntryCounts) := by
  have ensures := validateMirrorImage_ensures bytes
  refine ⟨ensures.finishes, fun image plan parsed accepted => ?_⟩
  obtain ⟨other, read, before, parts, lists, first⟩ :=
    ensures.of_yields accepted
  cases read.symm.trans parsed
  have chained := lists.chain
  rw [lists.configuration] at chained
  constructor
  · intro sound chain other descriptor member kind length declared
    obtain ⟨interface, listed, same⟩ :=
      (lists.hid_of_chain other descriptor).mp ⟨member, kind⟩
    subst same
    rw [← sound.2 interface listed length declared, first interface listed]
  · intro counts
    refine ⟨⟨before, parts, lists⟩, fun interface listed length declared => ?_⟩
    obtain ⟨member, kind⟩ := (lists.hid_of_chain chained _).mpr
      ⟨interface, listed, rfl⟩
    rw [← first interface listed]
    exact (counts _ chained _ member kind length declared).symm

/-- The image of a device with one interface, whose HID descriptor first lists
a class descriptor of another type. -/
def otherEntryFirst : List UInt8 :=
  [0x48, 0x53, 0x4d, 0x49, 0x01, 0x00, 0x20, 0x00, 0x5c, 0x00, 0x00, 0x00,
    0xd7, 0x98, 0x14, 0x5d, 0x00, 0x00, 0x00, 0x00, 0x12, 0x00, 0x25, 0x00,
    0x00, 0x00, 0x00, 0x01, 0x00, 0x00, 0x00, 0x00, 0x12, 0x01, 0x00, 0x02,
    0x00, 0x00, 0x00, 0x40, 0xfe, 0xca, 0x01, 0x40, 0x00, 0x01, 0x00, 0x00,
    0x00, 0x01, 0x09, 0x02, 0x25, 0x00, 0x01, 0x01, 0x00, 0x80, 0x32, 0x09,
    0x04, 0x00, 0x00, 0x01, 0x03, 0x01, 0x01, 0x00, 0x0c, 0x21, 0x11, 0x01,
    0x00, 0x02, 0x23, 0x02, 0x00, 0x22, 0x05, 0x00, 0x07, 0x05, 0x81, 0x03,
    0x08, 0x00, 0x01, 0x00, 0x02, 0x00, 0x05, 0x01]

/-- Some interface of the plan has a report descriptor of a length its HID
descriptor does not declare. -/
def UsbDevicePlan.misdeclares (plan : UsbDevicePlan) : Bool :=
  plan.interfaces.toList.any fun interface =>
    (declaredLengths interface.hidDescriptor).any fun length =>
      interface.reportDescriptor.length ≠ length

theorem UsbDevicePlan.not_sound {plan : UsbDevicePlan}
    (wrong : plan.misdeclares = true) : ¬ plan.Sound image := by
  intro sound
  obtain ⟨interface, listed, found⟩ := List.any_eq_true.mp wrong
  obtain ⟨length, declared, differs⟩ := List.any_eq_true.mp found
  exact of_decide_eq_true differs (sound.2 interface listed length declared)

theorem unsound_plan_accepted :
    ∃ image plan, Yields (parseMirrorImage otherEntryFirst) (.ok image) ∧
      Yields (validateMirrorImage otherEntryFirst) (.ok plan) ∧
        ¬ plan.Sound image := by
  have computed : (validateMirrorImage otherEntryFirst).run.any
      (fun outcome => outcome.toOption.any UsbDevicePlan.misdeclares) =
        true := by
    decide +kernel
  obtain ⟨outcome, ran, wrong⟩ := (Option.any_eq_true _ _).mp computed
  cases outcome with
  | error reason => cases wrong
  | ok plan =>
      obtain ⟨image, parsed, -⟩ :=
        (validateMirrorImage_ensures otherEntryFirst).of_yields ran
      exact ⟨image, plan, parsed, ran, UsbDevicePlan.not_sound wrong⟩

end HidShift
