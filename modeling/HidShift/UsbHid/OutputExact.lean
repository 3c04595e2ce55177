import HidShift.Lib.Bits
import HidShift.Lib.Ensures
import HidShift.UsbHid.Output

namespace HidShift

open Lib Lib.Checked

inductive Led
  | numLock
  | capsLock
  | scrollLock
deriving DecidableEq, Repr

namespace Led

def usage : Led → UInt16
  | .numLock => ledUsageNumLock
  | .capsLock => ledUsageCapsLock
  | .scrollLock => ledUsageScrollLock

def isOn : Led → KeyboardLedState → Bool
  | .numLock, leds => leds.getLsbD 0
  | .capsLock, leds => leds.getLsbD 1
  | .scrollLock, leds => leds.getLsbD 2

theorem usage_injective {led other : Led} (same : led.usage = other.usage) :
    led = other := by
  cases led <;> cases other <;> first | rfl | exact absurd same (by decide)

end Led

namespace BitPos

def bit (position : BitPos) : Nat :=
  position.byteIndex * 8 + position.bitIndex.toNat

theorem fromBitOffset_small (offset : Nat) :
    (fromBitOffset offset).bitIndex.toNat = offset % 8 :=
  UInt8.toNat_ofNat_of_lt' (by rw [UInt8.size]; omega)

@[simp] theorem fromBitOffset_bit (offset : Nat) :
    (fromBitOffset offset).bit = offset := by
  rw [bit, fromBitOffset_small]
  exact Nat.div_add_mod' offset 8

end BitPos

namespace OutputReportState

def position (report : OutputReportState) : Led → Option BitPos
  | .numLock => report.numLockBit
  | .capsLock => report.capsLockBit
  | .scrollLock => report.scrollLockBit

structure Placed (report : OutputReportState) (limit : Nat) : Prop where
  below : ∀ led place, report.position led = some place →
    place.bit < limit ∧ place.bitIndex.toNat < 8
  apart : ∀ led other place otherPlace, report.position led = some place →
    report.position other = some otherPlace →
    place.bit = otherPlace.bit → led = other

variable {report : OutputReportState} {limit : Nat}

theorem Placed.weaken (placed : report.Placed limit) (above : limit ≤ higher) :
    report.Placed higher where
  below led place found := by
    obtain ⟨below, small⟩ := placed.below led place found
    exact ⟨Nat.lt_of_lt_of_le below above, small⟩
  apart := placed.apart

theorem empty_placed : OutputReportState.empty.Placed limit where
  below led place found := by cases led <;> cases found
  apart led other place otherPlace found := by cases led <;> cases found

theorem position_setUsage (usage : UInt16) (bit : BitPos) (led : Led) :
    (report.setUsage usage bit).position led =
      if usage = led.usage then some bit else report.position led := by
  have different : ledUsageNumLock ≠ ledUsageCapsLock ∧
      ledUsageNumLock ≠ ledUsageScrollLock ∧
      ledUsageCapsLock ≠ ledUsageScrollLock := by decide
  cases led <;> grind [setUsage, position, Led.usage]

theorem Placed.setUsage (placed : report.Placed limit) (usage : UInt16) :
    (report.setUsage usage (.fromBitOffset limit)).Placed (limit + 1) where
  below led place found := by
    rw [position_setUsage] at found
    split at found
    · obtain rfl := Option.some.inj found
      rw [BitPos.fromBitOffset_bit, BitPos.fromBitOffset_small]
      omega
    · obtain ⟨below, small⟩ := placed.below led place found
      exact ⟨Nat.lt_succ_of_lt below, small⟩
  apart led other place otherPlace found otherFound same := by
    rw [position_setUsage] at found otherFound
    split at found <;> split at otherFound
    · rename_i isLed isOther
      exact Led.usage_injective (isLed.symm.trans isOther)
    · obtain rfl := Option.some.inj found
      obtain ⟨below, -⟩ := placed.below other otherPlace otherFound
      rw [BitPos.fromBitOffset_bit] at same
      omega
    · obtain rfl := Option.some.inj otherFound
      obtain ⟨below, -⟩ := placed.below led place found
      rw [BitPos.fromBitOffset_bit] at same
      omega
    · exact placed.apart led other place otherPlace found otherFound same

/-- A length that saturated says nothing about the LEDs.  Such a report is
too long to be used. -/
def Sound (report : OutputReportState) : Prop :=
  report.bitLen < usizeCount - 1 → report.Placed report.bitLen

theorem saturated_sum
    (small : saturated (first + saturated second) < usizeCount - 1) :
    saturated (first + saturated second) = first + second := by
  unfold saturated at small ⊢
  omega

theorem Sound.lengthened (sound : report.Sound) (bits : Nat) :
    Sound { report with
      bitLen := saturated (report.bitLen + saturated bits) } := by
  intro small
  have sum := saturated_sum small
  have longer : report.bitLen ≤
      saturated (report.bitLen + saturated bits) := by omega
  obtain ⟨below, apart⟩ :=
    (sound (Nat.lt_of_le_of_lt longer small)).weaken longer
  exact ⟨below, apart⟩

theorem setUsage_bitLen (usage : UInt16) (bit : BitPos) :
    (report.setUsage usage bit).bitLen = report.bitLen := by
  unfold setUsage
  split_ifs <;> rfl

end OutputReportState

section

variable {α : Type} {size : Nat} {values : Vector α size}

theorem elementAt_ends (inRange : index < size) :
    EndsIn (elementAt values index) fun value => value ∈ values.toList := by
  have inList : index < values.toList.length := by
    rwa [Vector.length_toList]
  refine endsIn_lift (List.getElem?_eq_getElem inList) ?_
  exact List.getElem_mem inList

theorem replaced_ends (inRange : index < size) :
    EndsIn (replaced values index value) fun written =>
      ∀ element ∈ written.toList, element ∈ values.toList ∨
        element = value := by
  refine endsIn_lift (if_pos inRange) fun element member => ?_
  rw [Vector.toList_setIfInBounds] at member
  exact (List.mem_or_eq_of_mem_set member)

theorem firstOf_ends {count : Nat} (inRange : count ≤ size) :
    EndsIn (firstOf values count) fun first =>
      first = values.toList.take count :=
  endsIn_lift (if_pos inRange) rfl

end

theorem LocalState.usageAt_ends {locals : LocalState} (index : Nat)
    (counted : locals.usageCount ≤ maxLocalUsages) :
    EndsIn (locals.usageAt index) fun _ => True := by
  unfold usageAt
  by_cases range : locals.hasUsageRange
  · rw [if_pos range]
    dsimp only
    split <;> exact endsIn_pure trivial
  · rw [if_neg range]
    by_cases listed : index < locals.usageCount
    · rw [if_pos listed]
      have room := Nat.lt_of_lt_of_le listed counted
      refine endsIn_bind (elementAt_ends room) fun usage _ => ?_
      exact endsIn_pure trivial
    · rw [if_neg listed]
      exact endsIn_pure trivial

namespace OutputReportParser

section

variable {locals : LocalState} {bitOffset : Nat} {report : OutputReportState}

theorem placeUsage_ends (counted : locals.usageCount ≤ maxLocalUsages)
    (sized : report.bitLen = length)
    (placed : bitOffset + index < length → length < usizeCount - 1 →
      report.Placed (bitOffset + index)) :
    EndsIn (placeUsage locals bitOffset report index) fun next =>
      next.bitLen = length ∧ (bitOffset + index < length →
        length < usizeCount - 1 → next.Placed (bitOffset + (index + 1))) := by
  refine endsIn_bind (locals.usageAt_ends index counted) fun found _ => ?_
  cases found with
  | none =>
      refine endsIn_pure ⟨sized, fun inside small => ?_⟩
      exact (placed inside small).weaken (by omega)
  | some usage =>
      refine endsIn_pure ⟨?_, fun inside small => ?_⟩
      · rw [OutputReportState.setUsage_bitLen, sized]
      · rw [Nat.mod_eq_of_lt (by omega)]
        exact (placed inside small).setUsage usage

theorem placeUsages_ends (counted : locals.usageCount ≤ maxLocalUsages)
    (sized : report.bitLen = length)
    (placed : length < usizeCount - 1 → report.Placed bitOffset) (count : Nat)
    (inside : length < usizeCount - 1 → bitOffset + count ≤ length) :
    EndsIn ((List.range count).foldlM (placeUsage locals bitOffset) report)
      fun next => next.bitLen = length ∧
        (length < usizeCount - 1 → next.Placed (bitOffset + count)) := by
  induction count with
  | zero => exact endsIn_pure ⟨sized, placed⟩
  | succ count ih =>
      rw [List.range_succ, List.foldlM_append]
      refine endsIn_bind (ih fun small => by have := inside small; omega) ?_
      intro earlier ⟨sized, placed⟩
      rw [List.foldlM_cons]
      refine endsIn_bind
        (placeUsage_ends counted sized fun _ small => placed small) ?_
      intro later ⟨sized, placed⟩
      refine endsIn_pure ⟨sized, fun small => placed ?_ small⟩
      have := inside small
      omega

end

structure Sound (parser : OutputReportParser) : Prop where
  stack : parser.globalStackLen ≤ maxGlobalStackDepth
  usages : parser.locals.usageCount ≤ maxLocalUsages
  counted : parser.reportCount ≤ maxOutputReports
  reports : ∀ report ∈ parser.reports.toList, report.Sound

def Keeps (parser next : OutputReportParser) : Prop :=
  next.Sound ∧ next.hasReportIds = parser.hasReportIds

variable {parser : OutputReportParser}

theorem new_sound : new.Sound where
  stack := by decide
  usages := by decide
  counted := by decide
  reports report member := by
    rw [new, Vector.toList_replicate] at member
    rw [List.eq_of_mem_replicate member]
    exact fun _ => OutputReportState.empty_placed

theorem Sound.reported (sound : parser.Sound) {report : OutputReportState}
    (same : report.Sound) {reports : Vector OutputReportState maxOutputReports}
    (written : ∀ element ∈ reports.toList,
      element ∈ parser.reports.toList ∨ element = report) :
    ∀ element ∈ reports.toList, element.Sound := by
  intro element member
  rcases written element member with old | new
  · exact sound.reports element old
  · rw [new]
    exact same

theorem reportIndex_ends (sound : parser.Sound) (reportId : UInt8) :
    EndsIn (parser.reportIndex reportId) fun found =>
      parser.Keeps found.2 ∧ ∀ index, found.1 = some index →
        index < maxOutputReports := by
  have counted := sound.counted
  refine endsIn_bind (firstOf_ends counted) fun first same => ?_
  subst same
  cases known : (parser.reports.toList.take parser.reportCount).findIdx?
      fun report => report.reportId = reportId with
  | some index =>
      refine endsIn_pure ⟨⟨sound, rfl⟩, fun other same => ?_⟩
      obtain rfl := Option.some.inj same
      obtain ⟨inside, -⟩ := List.findIdx?_eq_some_iff_getElem.mp known
      rw [List.length_take] at inside
      omega
  | none =>
      by_cases full : parser.reportCount = maxOutputReports
      · simp only [if_pos full]
        exact endsIn_pure ⟨⟨sound, rfl⟩, fun _ impossible => nomatch impossible⟩
      · simp only [if_neg full]
        have room : parser.reportCount < maxOutputReports := by omega
        refine endsIn_bind (elementAt_ends room) fun report member => ?_
        refine endsIn_bind (replaced_ends room) fun reports written => ?_
        have named : OutputReportState.Sound
            { report with reportId := reportId } := by
          intro small
          obtain ⟨below, apart⟩ := sound.reports report member small
          exact ⟨below, apart⟩
        refine endsIn_pure ⟨⟨⟨sound.stack, sound.usages, room, ?_⟩, rfl⟩, ?_⟩
        · exact sound.reported named written
        · intro index same
          obtain rfl := Option.some.inj same
          exact room

theorem no_usages : LocalState.empty.usageCount ≤ maxLocalUsages := by
  decide

section

variable (sound : parser.Sound)

include sound

/-- An output item makes its report longer.  The LEDs before it stay where
they are, and those of the item are placed in the new part. -/
theorem parseOutput_ends (flags : UInt8) :
    EndsIn (parser.parseOutput flags) parser.Keeps := by
  refine endsIn_bind (reportIndex_ends sound _) ?_
  intro ⟨found, middle⟩ ⟨⟨sound, same⟩, inRange⟩
  cases found with
  | none =>
      refine endsIn_pure ⟨⟨sound.stack, no_usages, sound.counted, ?_⟩, same⟩
      exact sound.reports
  | some index =>
      have room := inRange index rfl
      refine endsIn_bind (elementAt_ends room) fun report member => ?_
      have old := sound.reports report member
      have written (placed : OutputReportState) (known : placed.Sound) :
          EndsIn (do
            let reports ← replaced middle.reports index placed
            return { middle with reports := reports, locals := .empty })
            parser.Keeps := by
        refine endsIn_bind (replaced_ends room) fun reports written => ?_
        refine endsIn_pure ⟨⟨sound.stack, no_usages, sound.counted, ?_⟩, same⟩
        exact sound.reported known written
      dsimp only
      split
      · rename_i isLeds
        obtain ⟨-, -, single, -⟩ := isLeds
        obtain ⟨length, isLength⟩ : ∃ length, length =
            saturated (report.bitLen + saturated
              (parser.globals.reportSize.toNat *
                parser.globals.reportCount.toNat)) := ⟨_, rfl⟩
        have sum (small : length < usizeCount - 1) :
            length = report.bitLen + parser.globals.reportCount.toNat := by
          rw [isLength] at small ⊢
          rw [OutputReportState.saturated_sum small, single, Nat.one_mul]
        refine endsIn_bind
          (placeUsages_ends sound.usages isLength.symm ?_ _ ?_) ?_
        · intro small
          obtain ⟨below, apart⟩ := old (by have := sum small; omega)
          exact ⟨below, apart⟩
        · exact fun small => (sum small).ge
        · intro placed ⟨sized, known⟩
          refine written placed fun small => ?_
          rw [sized] at small ⊢
          exact (known small).weaken (sum small).ge
      · refine endsIn_bind (endsIn_pure rfl) ?_
        rintro _ rfl
        exact written _ (old.lengthened _)

theorem beginCollection_ends (collectionType : UInt8) :
    EndsIn (parser.beginCollection collectionType) parser.Keeps := by
  unfold beginCollection
  dsimp only
  split
  · refine endsIn_bind (parser.locals.usageAt_ends 0 sound.usages) ?_
    intro usage _
    exact endsIn_pure
      ⟨⟨sound.stack, no_usages, sound.counted, sound.reports⟩, rfl⟩
  · exact endsIn_pure
      ⟨⟨sound.stack, no_usages, sound.counted, sound.reports⟩, rfl⟩

theorem pushGlobals_ends : EndsIn parser.pushGlobals parser.Keeps := by
  unfold pushGlobals
  split
  · rename_i room
    refine endsIn_bind (replaced_ends room) fun globalStack _ => ?_
    exact endsIn_pure ⟨⟨room, sound.usages, sound.counted, sound.reports⟩, rfl⟩
  · exact endsIn_pure ⟨sound, rfl⟩

theorem popGlobals_ends : EndsIn parser.popGlobals parser.Keeps := by
  have stack := sound.stack
  unfold popGlobals
  split
  · have inRange : parser.globalStackLen - 1 < maxGlobalStackDepth := by omega
    refine endsIn_bind (elementAt_ends inRange) fun globals _ => ?_
    exact endsIn_pure
      ⟨⟨inRange.le, sound.usages, sound.counted, sound.reports⟩, rfl⟩
  · exact endsIn_pure ⟨sound, rfl⟩

theorem addUsage_ends (usage : UInt16) :
    EndsIn (parser.addUsage usage) parser.Keeps := by
  unfold addUsage
  split
  · rename_i room
    refine endsIn_bind (replaced_ends room) fun usages _ => ?_
    exact endsIn_pure ⟨⟨sound.stack, room, sound.counted, sound.reports⟩, rfl⟩
  · exact endsIn_pure ⟨sound, rfl⟩

theorem parseItem_ends (itemType tag : UInt8) (data : UInt32) :
    EndsIn (parser.parseItem itemType tag data) fun next =>
      next.Sound ∧ (next.hasReportIds ↔
        parser.hasReportIds ∨ itemType = 1 ∧ tag = 8) := by
  have kept {program : LedChecked OutputReportParser}
      (keeps : EndsIn program parser.Keeps)
      (other : ¬ (itemType = 1 ∧ tag = 8)) :
      EndsIn program fun next => next.Sound ∧ (next.hasReportIds ↔
        parser.hasReportIds ∨ itemType = 1 ∧ tag = 8) := by
    obtain ⟨next, yields, sound, same⟩ := keeps
    refine ⟨next, yields, sound, ?_⟩
    rw [same, or_iff_left other]
  have globals (globals : GlobalState) :
      EndsIn (pure { parser with globals := globals } :
        LedChecked OutputReportParser) parser.Keeps :=
    endsIn_pure ⟨⟨sound.stack, sound.usages, sound.counted, sound.reports⟩, rfl⟩
  have locals (locals : LocalState)
      (counted : locals.usageCount ≤ maxLocalUsages) :
      EndsIn (pure { parser with locals := locals } :
        LedChecked OutputReportParser) parser.Keeps :=
    endsIn_pure ⟨⟨sound.stack, counted, sound.counted, sound.reports⟩, rfl⟩
  have unchanged : EndsIn (pure parser : LedChecked OutputReportParser)
      parser.Keeps := endsIn_pure ⟨sound, rfl⟩
  unfold parseItem
  by_cases globalItem : itemType = 1
  · rw [if_pos globalItem]
    by_cases reportId : tag = 8
    · subst reportId
      refine endsIn_pure ⟨⟨sound.stack, sound.usages, sound.counted,
        sound.reports⟩, ?_⟩
      exact iff_of_true rfl (.inr ⟨globalItem, rfl⟩)
    · refine kept ?_ fun both => reportId both.2
      rw [if_neg reportId]
      split_ifs
      · exact globals _
      · exact globals _
      · exact globals _
      · exact pushGlobals_ends sound
      · exact popGlobals_ends sound
      · exact unchanged
  · refine kept ?_ fun both => globalItem both.1
    rw [if_neg globalItem]
    split_ifs
    · exact addUsage_ends sound _
    · exact locals _ sound.usages
    · exact locals _ sound.usages
    · exact unchanged
    · exact parseOutput_ends sound _
    · exact beginCollection_ends sound _
    · exact endsIn_pure
        ⟨⟨sound.stack, no_usages, sound.counted, sound.reports⟩, rfl⟩
    · exact locals _ no_usages
    · exact unchanged
    · exact unchanged

end

variable {descriptor : List UInt8}

theorem nextItem_ends (inside : offset < descriptor.length) :
    EndsIn (nextItem descriptor offset) fun found =>
      ∀ next item, found = some (next, item) → offset < next := by
  refine endsIn_indexed inside fun itemPrefix => ?_
  dsimp only
  split
  · split
    · exact endsIn_pure fun _ _ impossible => nomatch impossible
    · refine endsIn_indexed (by omega) fun length => ?_
      split
      · exact endsIn_pure fun _ _ impossible => nomatch impossible
      · refine endsIn_pure fun next item same => ?_
        obtain ⟨rfl, -⟩ := Prod.mk.inj (Option.some.inj same)
        omega
  · generalize (if itemPrefix &&& 0x03 = 3 then 4
      else (itemPrefix &&& 0x03).toNat) = size
    split
    · exact endsIn_pure fun _ _ impossible => nomatch impossible
    · rename_i fits
      refine endsIn_bind (endsIn_lift (if_pos ⟨Nat.le_add_right _ _,
        Nat.le_of_not_lt fits⟩) rfl) fun bytes _ => ?_
      refine endsIn_pure fun next item same => ?_
      obtain ⟨rfl, -⟩ := Prod.mk.inj (Option.some.inj same)
      omega

/-- An item that is met on the way through a descriptor.  A long item has no
type. -/
inductive HasItem (descriptor : List UInt8)
    (item : Option (UInt8 × UInt8 × UInt32)) : Nat → Prop
  | here {offset next : Nat} (inside : offset < descriptor.length)
      (found : Yields (nextItem descriptor offset) (.ok (some (next, item)))) :
      HasItem descriptor item offset
  | later {offset next : Nat} {other : Option (UInt8 × UInt8 × UInt32)}
      (inside : offset < descriptor.length)
      (found : Yields (nextItem descriptor offset) (.ok (some (next, other))))
      (rest : HasItem descriptor item next) : HasItem descriptor item offset

def UsesReportIds (descriptor : List UInt8) (offset : Nat) : Prop :=
  ∃ data, HasItem descriptor (some (1, 8, data)) offset

theorem parseNext_ends (sound : parser.Sound)
    (item : Option (UInt8 × UInt8 × UInt32)) :
    EndsIn (parser.parseNext item) fun next =>
      next.Sound ∧ (next.hasReportIds ↔
        parser.hasReportIds ∨ ∃ data, item = some (1, 8, data)) := by
  cases item with
  | none =>
      refine endsIn_pure ⟨sound, ?_⟩
      simp
  | some short =>
      obtain ⟨itemType, tag, data⟩ := short
      obtain ⟨next, yields, kept, same⟩ := parseItem_ends sound itemType tag data
      refine ⟨next, yields, kept, ?_⟩
      simp [same]

theorem not_usesReportIds (ended : ¬ offset < descriptor.length ∨
      Yields (nextItem descriptor offset) (.ok none)) :
    ¬ UsesReportIds descriptor offset := by
  intro ⟨data, uses⟩
  have stops (next : Nat) (item : Option (UInt8 × UInt8 × UInt32))
      (inside : offset < descriptor.length) :
      ¬ Yields (nextItem descriptor offset) (.ok (some (next, item))) := by
    intro found
    rcases ended with outside | none
    · exact outside inside
    · cases found.symm.trans none
  cases uses with
  | here inside found => exact stops _ _ inside found
  | later inside found => exact stops _ _ inside found

theorem usesReportIds_iff (inside : offset < descriptor.length)
    (first : Yields (nextItem descriptor offset) (.ok (some (next, item)))) :
    UsesReportIds descriptor offset ↔
      (∃ data, item = some (1, 8, data)) ∨ UsesReportIds descriptor next := by
  constructor
  · intro ⟨data, uses⟩
    cases uses with
    | here _ found =>
        cases found.symm.trans first
        exact .inl ⟨data, rfl⟩
    | later _ found rest =>
        cases found.symm.trans first
        exact .inr ⟨data, rest⟩
  · intro uses
    rcases uses with ⟨data, rfl⟩ | ⟨data, rest⟩
    · exact ⟨data, .here inside first⟩
    · exact ⟨data, .later inside first rest⟩

theorem parseFrom_ends (sound : parser.Sound) {fuel offset : Nat}
    (enough : descriptor.length ≤ offset + fuel) :
    EndsIn (parseFrom descriptor fuel offset parser) fun last =>
      last.Sound ∧ (last.hasReportIds ↔
        parser.hasReportIds ∨ UsesReportIds descriptor offset) := by
  induction fuel generalizing offset parser with
  | zero =>
      have outside : ¬ offset < descriptor.length := by omega
      rw [parseFrom, if_neg outside]
      refine endsIn_pure ⟨sound, ?_⟩
      rw [or_iff_left (not_usesReportIds (.inl outside))]
  | succ fuel ih =>
      rw [parseFrom]
      by_cases inside : offset < descriptor.length
      · rw [if_pos inside]
        obtain ⟨found, yields, further⟩ := nextItem_ends inside
        cases found with
        | none =>
            refine ⟨parser, yields_then yields (yields_pure parser), sound, ?_⟩
            rw [or_iff_left (not_usesReportIds (.inr yields))]
        | some item =>
            obtain ⟨next, item⟩ := item
            have behind := further next item rfl
            obtain ⟨middle, parsed, kept, ids⟩ := parseNext_ends sound item
            have rest := @ih middle kept next (by omega)
            obtain ⟨last, ends, lastSound, lastIds⟩ := rest
            refine ⟨last, yields_then yields (yields_then parsed ends),
              lastSound, ?_⟩
            rw [lastIds, ids, usesReportIds_iff inside yields, or_assoc]
      · rw [if_neg inside]
        refine endsIn_pure ⟨sound, ?_⟩
        rw [or_iff_left (not_usesReportIds (.inl inside))]

theorem parse_ends (descriptor : List UInt8) :
    EndsIn (new.parse descriptor) fun parser =>
      parser.Sound ∧ (parser.hasReportIds ↔ UsesReportIds descriptor 0) := by
  obtain ⟨last, yields, sound, ids⟩ := @parseFrom_ends new descriptor new_sound
    descriptor.length 0 (by omega)
  refine ⟨last, yields, sound, ?_⟩
  rw [ids, or_iff_right]
  exact Bool.false_ne_true

end OutputReportParser

namespace ParsedLedOutput

def position (report : ParsedLedOutput) : Led → Option BitPos
  | .numLock => report.numLockBit
  | .capsLock => report.capsLockBit
  | .scrollLock => report.scrollLockBit

def dataOffset (report : ParsedLedOutput) : Nat :=
  report.reportId.isSome.toNat

def ledBit (report : ParsedLedOutput) (led : Led) : Option Nat :=
  (report.position led).map fun place => report.dataOffset * 8 + place.bit

structure Fits (report : ParsedLedOutput) : Prop where
  short : report.byteLen ≤ maxKeyboardLedOutputReportLen
  dataInside : report.dataOffset ≤ report.byteLen
  inside : ∀ led place, report.position led = some place →
    place.bitIndex.toNat < 8 ∧
      report.dataOffset + place.byteIndex < report.byteLen
  apart : ∀ led other bit, report.ledBit led = some bit →
    report.ledBit other = some bit → led = other

theorem fits_of_placed {report : ParsedLedOutput} {data : OutputReportState}
    (placed : data.Placed data.bitLen)
    (sized : report.byteLen = (data.bitLen + 7) / 8 + report.dataOffset)
    (short : report.byteLen ≤ maxKeyboardLedOutputReportLen)
    (same : report.position = data.position) : report.Fits where
  short := short
  dataInside := by omega
  inside led place found := by
    rw [same] at found
    obtain ⟨below, small⟩ := placed.below led place found
    rw [BitPos.bit] at below
    omega
  apart led other bit found otherFound := by
    obtain ⟨place, isPlace, rfl⟩ := Option.map_eq_some_iff.mp found
    obtain ⟨otherPlace, isOther, equal⟩ :=
      Option.map_eq_some_iff.mp otherFound
    rw [same] at isPlace isOther
    apply placed.apart led other place otherPlace isPlace isOther
    omega

end ParsedLedOutput

theorem OutputReportParser.keyboardLedReport_ensures
    {parser : OutputReportParser} (sound : parser.Sound) :
    Ensures parser.keyboardLedReport fun report =>
      report.Fits ∧ report.reportId.isSome = parser.hasReportIds := by
  obtain ⟨first, yields, rfl⟩ :=
    @firstOf_ends _ _ parser.reports _ sound.counted
  unfold keyboardLedReport
  have counted : Ensures
      (firstOf parser.reports parser.reportCount) fun first =>
        first = parser.reports.toList.take parser.reportCount :=
    ⟨_, yields, fun _ same => (Except.ok.inj same).symm⟩
  refine counted.bind ?_
  rintro _ rfl
  cases found : (parser.reports.toList.take parser.reportCount).find?
      OutputReportState.hasKeyboardLeds with
  | none => exact Ensures.throw
  | some report =>
      refine Ensures.check fun short => ?_
      have member := List.mem_of_mem_take (List.mem_of_find?_eq_some found)
      have short : (report.bitLen + 7) / 8 + parser.hasReportIds.toNat ≤
          maxKeyboardLedOutputReportLen := Nat.le_of_not_lt short
      have placed : report.Placed report.bitLen := by
        apply sound.reports report member
        have : (report.bitLen + 7) / 8 ≤ 8 := Nat.le_of_add_right_le short
        rw [usizeCount]
        omega
      have hasId : (if parser.hasReportIds then some report.reportId
          else none).isSome = parser.hasReportIds := by
        cases parser.hasReportIds <;> rfl
      refine Ensures.pure ⟨?_, hasId⟩
      refine ParsedLedOutput.fits_of_placed placed ?_ short ?_
      · rw [ParsedLedOutput.dataOffset, hasId]
      · funext led
        cases led <;> rfl

namespace ParsedLedOutput

variable {report : ParsedLedOutput}

theorem setLedBit_ends {dataOffset : Nat} (enabled : Bool)
    (inside : ∀ place, bitPos = some place →
      place.bitIndex.toNat < 8 ∧ dataOffset + place.byteIndex < bytes.length) :
    EndsIn (setLedBit bytes dataOffset bitPos enabled) fun written =>
      written.length = bytes.length ∧
        (0 < dataOffset → written.head? = bytes.head?) ∧
        ∀ bit, bitAt written bit =
          if bitPos.map (fun place => dataOffset * 8 + place.bit) = some bit
          then enabled else bitAt bytes bit := by
  cases bitPos with
  | none => exact endsIn_pure ⟨rfl, fun _ => rfl, fun _ => rfl⟩
  | some place =>
      obtain ⟨small, inRange⟩ := inside place rfl
      have byteOf : (dataOffset * 8 + place.bit) / 8 =
          dataOffset + place.byteIndex := by rw [BitPos.bit]; omega
      have bitOf : ((dataOffset * 8 + place.bit) % 8).toUInt8 =
          place.bitIndex := by
        rw [show (dataOffset * 8 + place.bit) % 8 = place.bitIndex.toNat by
          rw [BitPos.bit]; omega]
        exact UInt8.ofNat_toNat
      refine endsIn_indexed_at inRange (endsIn_lift (if_pos inRange) ?_)
      refine ⟨List.length_set, fun behind => ?_, fun bit => ?_⟩
      · rw [List.head?_eq_getElem?, List.head?_eq_getElem?,
          List.getElem?_set_ne (by omega)]
      · rw [← byteOf] at inRange ⊢
        rw [← bitOf]
        have set := bitAt_set inRange enabled bit
        rw [set]
        simp only [Option.map_some, Option.some.injEq, eq_comm]

structure Shows (report : ParsedLedOutput) (leds : KeyboardLedState)
    (bytes : List UInt8) : Prop where
  sized : bytes.length = report.byteLen
  named : ∀ id, report.reportId = some id → bytes.head? = some id
  shown : ∀ led bit, report.ledBit led = some bit →
    bitAt bytes bit = led.isOn leds
  clear : ∀ bit, report.dataOffset * 8 ≤ bit →
    (∀ led, report.ledBit led ≠ some bit) → bitAt bytes bit = false

theorem Fits.ledBit_inside (fits : report.Fits)
    (found : report.ledBit led = some bit) : bit < report.byteLen * 8 := by
  obtain ⟨place, isPlace, rfl⟩ := Option.map_eq_some_iff.mp found
  obtain ⟨small, inRange⟩ := fits.inside led place isPlace
  rw [BitPos.bit]
  omega

theorem setLeds_ends (fits : report.Fits) (leds : KeyboardLedState)
    {start : List UInt8} (length : start.length = maxKeyboardLedOutputReportLen)
    (named : ∀ id, report.reportId = some id → start.head? = some id)
    (cleared : ∀ bit, report.dataOffset * 8 ≤ bit → bitAt start bit = false) :
    EndsIn (do
      let bytes ← setLedBit start report.dataOffset report.numLockBit
        (leds.getLsbD 0)
      let bytes ← setLedBit bytes report.dataOffset report.capsLockBit
        (leds.getLsbD 1)
      let bytes ← setLedBit bytes report.dataOffset report.scrollLockBit
        (leds.getLsbD 2)
      sliced bytes 0 report.byteLen) (report.Shows leds) := by
  have short := fits.short
  have inside (led : Led) {bytes : List UInt8}
      (sized : bytes.length = maxKeyboardLedOutputReportLen) :
      ∀ place, report.position led = some place →
        place.bitIndex.toNat < 8 ∧
          report.dataOffset + place.byteIndex < bytes.length := by
    intro place found
    obtain ⟨small, inRange⟩ := fits.inside led place found
    exact ⟨small, by omega⟩
  refine endsIn_bind (setLedBit_ends (leds.getLsbD 0)
    (inside .numLock length)) ?_
  intro first ⟨firstLength, firstHead, firstBits⟩
  rw [length] at firstLength
  refine endsIn_bind (setLedBit_ends (leds.getLsbD 1)
    (inside .capsLock firstLength)) ?_
  intro second ⟨secondLength, secondHead, secondBits⟩
  rw [firstLength] at secondLength
  refine endsIn_bind (setLedBit_ends (leds.getLsbD 2)
    (inside .scrollLock secondLength)) ?_
  intro third ⟨thirdLength, thirdHead, thirdBits⟩
  rw [secondLength] at thirdLength
  refine endsIn_lift (if_pos ⟨Nat.zero_le _, short.trans thirdLength.ge⟩) ?_
  have whole : slice third 0 (report.byteLen - 0) =
      third.take report.byteLen := rfl
  rw [whole]
  -- Each LED keeps its own bit, since the later ones have other bits.
  have bits (bit : Nat) : bitAt third bit =
      if report.ledBit .scrollLock = some bit then leds.getLsbD 2
      else if report.ledBit .capsLock = some bit then leds.getLsbD 1
      else if report.ledBit .numLock = some bit then leds.getLsbD 0
      else bitAt start bit := by
    rw [thirdBits, secondBits, firstBits]
    rfl
  have beyond (bit : Nat) (outside : report.byteLen * 8 ≤ bit) :
      bitAt (third.take report.byteLen) bit = false := by
    have none : (third.take report.byteLen)[bit / 8]? = none := by
      rw [List.getElem?_eq_none_iff, List.length_take]
      omega
    rw [bitAt, List.getD_eq_getElem?_getD, none]
    exact BitVec.getLsbD_zero
  refine ⟨?_, ?_, ?_, ?_⟩
  · rw [List.length_take, thirdLength]
    omega
  · intro id isId
    have offset : report.dataOffset = 1 := by rw [dataOffset, isId]; rfl
    have dataInside := fits.dataInside
    rw [List.head?_take, if_neg (by omega), thirdHead (by omega),
      secondHead (by omega), firstHead (by omega)]
    exact named id isId
  · intro led bit found
    have inBytes : bit < report.byteLen * 8 := fits.ledBit_inside found
    rw [bitAt_take inBytes, bits]
    have others (other : Led) (different : led ≠ other) :
        report.ledBit other ≠ some bit :=
      fun same => different (fits.apart led other bit found same)
    cases led with
    | numLock =>
        rw [if_neg (others .scrollLock (by decide)),
          if_neg (others .capsLock (by decide)), if_pos found]
        rfl
    | capsLock =>
        rw [if_neg (others .scrollLock (by decide)), if_pos found]
        rfl
    | scrollLock =>
        rw [if_pos found]
        rfl
  · intro bit behind free
    by_cases inBytes : bit < report.byteLen * 8
    · rw [bitAt_take inBytes, bits, if_neg (free .scrollLock),
        if_neg (free .capsLock), if_neg (free .numLock)]
      exact cleared bit behind
    · exact beyond bit (Nat.le_of_not_lt inBytes)

theorem build_ends (fits : report.Fits) (leds : KeyboardLedState) :
    EndsIn (report.build leds) (report.Shows leds) := by
  have zeros (bit : Nat) : bitAt
      (List.replicate maxKeyboardLedOutputReportLen 0) bit = false := by
    rw [bitAt, List.getD_eq_getElem?_getD, List.getElem?_replicate]
    split <;> exact BitVec.getLsbD_zero
  unfold build
  rw [if_neg (Nat.not_lt_of_le fits.short)]
  dsimp only
  cases named : report.reportId with
  | none =>
      have noOffset : report.dataOffset = 0 := by rw [dataOffset, named]; rfl
      have shown := @setLeds_ends _ fits leds _ List.length_replicate
        (by rw [named]; exact fun _ impossible => nomatch impossible)
        fun bit _ => zeros bit
      rw [noOffset] at shown
      exact shown
  | some reportId =>
      have offset : report.dataOffset = 1 := by rw [dataOffset, named]; rfl
      refine endsIn_bind (endsIn_lift (if_pos (by decide)) rfl) ?_
      rintro _ rfl
      have shown := @setLeds_ends _ fits leds
        ((List.replicate maxKeyboardLedOutputReportLen 0).set 0 reportId)
        List.length_set (by rw [named]; exact fun _ same => same) ?_
      · rw [offset] at shown
        exact shown
      · intro bit behind
        rw [bitAt, List.getD_eq_getElem?_getD, List.getElem?_set_ne (by omega),
          ← List.getD_eq_getElem?_getD]
        exact zeros bit

theorem fromReportDescriptor_ensures (descriptor : List UInt8) :
    Ensures (fromReportDescriptor descriptor) fun report => report.Fits ∧
      (report.reportId.isSome ↔
        OutputReportParser.UsesReportIds descriptor 0) := by
  obtain ⟨parser, yields, sound, ids⟩ :=
    OutputReportParser.parse_ends descriptor
  have parsed := (OutputReportParser.keyboardLedReport_ensures sound)
  obtain ⟨outcome, gives, holds⟩ := parsed
  refine ⟨outcome, yields_then yields gives, fun report same => ?_⟩
  obtain ⟨fits, hasId⟩ := holds report same
  refine ⟨fits, ?_⟩
  rw [hasId]
  exact ids

end ParsedLedOutput

/-- Every descriptor is parsed to its end.  The report it may give builds for
all states of the LEDs: the id first if there are ids, every LED in a bit of
its own, and no other bit. -/
theorem ledOutput_exact (descriptor : List UInt8) :
    Finishes (ParsedLedOutput.fromReportDescriptor descriptor) ∧
      ∀ report, Yields (ParsedLedOutput.fromReportDescriptor descriptor)
          (.ok report) →
        (report.reportId.isSome ↔
          OutputReportParser.UsesReportIds descriptor 0) ∧
        (∀ led other bit, report.ledBit led = some bit →
          report.ledBit other = some bit → led = other) ∧
        (∀ led bit, report.ledBit led = some bit →
          report.dataOffset * 8 ≤ bit ∧ bit < report.byteLen * 8) ∧
        report.byteLen ≤ 8 ∧
        ∀ leds, ∃ bytes, Yields (report.build leds) (.ok bytes) ∧
          bytes.length = report.byteLen ∧
          (∀ id, report.reportId = some id → bytes.head? = some id) ∧
          (∀ led bit, report.ledBit led = some bit →
            bitAt bytes bit = led.isOn leds) ∧
          ∀ bit, report.dataOffset * 8 ≤ bit →
            (∀ led, report.ledBit led ≠ some bit) →
              bitAt bytes bit = false := by
  have parsed := ParsedLedOutput.fromReportDescriptor_ensures descriptor
  refine ⟨parsed.finishes, fun report yields => ?_⟩
  obtain ⟨fits, ids⟩ := parsed.of_yields yields
  refine ⟨ids, fits.apart, ?_, fits.short, fun leds => ?_⟩
  · intro led bit found
    refine ⟨?_, fits.ledBit_inside found⟩
    obtain ⟨place, -, rfl⟩ := Option.map_eq_some_iff.mp found
    exact Nat.le_add_right _ _
  · obtain ⟨bytes, built, shows⟩ := ParsedLedOutput.build_ends fits leds
    exact ⟨bytes, built, shows.sized, shows.named, shows.shown, shows.clear⟩

/-- Three LEDs and five constant bits in report 2. -/
def threeLeds : List UInt8 :=
  [0x05, 0x01, 0x09, 0x06, 0xa1, 0x01, 0x85, 0x02, 0x05, 0x08, 0x19, 0x01,
    0x29, 0x03, 0x15, 0x00, 0x25, 0x01, 0x75, 0x01, 0x95, 0x03, 0x91, 0x02,
    0x75, 0x05, 0x95, 0x01, 0x91, 0x01, 0xc0]

def threeLedReport : ParsedLedOutput :=
  ⟨some 2, 2, some ⟨0, 0⟩, some ⟨0, 1⟩, some ⟨0, 2⟩⟩

theorem ledOutput_exact_threeLeds :
    OutputReportParser.UsesReportIds threeLeds 0 ∧
      ∀ leds, ∃ bytes, Yields (threeLedReport.build leds) (.ok bytes) ∧
        bytes.length = 2 ∧ bytes.head? = some 2 ∧
        (∀ led bit, threeLedReport.ledBit led = some bit →
          bitAt bytes bit = led.isOn leds) ∧
        bitAt bytes 11 = false := by
  have parsed : Yields (ParsedLedOutput.fromReportDescriptor threeLeds)
      (.ok threeLedReport) := by
    unfold Yields
    decide +kernel
  obtain ⟨ids, -, -, -, builds⟩ := (ledOutput_exact threeLeds).2 _ parsed
  refine ⟨ids.mp rfl, fun leds => ?_⟩
  obtain ⟨bytes, built, sized, named, shown, clear⟩ := builds leds
  exact ⟨bytes, built, sized, named 2 rfl, shown,
    clear 11 (by decide) fun led => by cases led <;> decide⟩

end HidShift
