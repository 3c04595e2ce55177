import Mathlib.Data.List.Forall2
import HidShift.Mirror.ImageRoundTrip
import HidShift.Mirror.Validator

namespace HidShift

open Lib Lib.Checked

def DescriptorFormed (descriptor : List UInt8) : Prop :=
  2 ≤ descriptor.length ∧ (byteAt descriptor 0).toNat = descriptor.length

def descriptorType (descriptor : List UInt8) : UInt8 := byteAt descriptor 1

structure IsChain (descriptors : List (List UInt8)) (bytes : List UInt8) :
    Prop where
  whole : descriptors.flatten = bytes
  formed : ∀ descriptor ∈ descriptors, DescriptorFormed descriptor

theorem byteAt_append (inside : index < front.length) :
    byteAt (front ++ back) index = byteAt front index := by
  rw [byteAt, byteAt, List.getD_eq_getElem?_getD, List.getD_eq_getElem?_getD,
    List.getElem?_append_left inside]

theorem chain_unique (first : IsChain left bytes)
    (second : IsChain right bytes) : left = right := by
  obtain ⟨rfl, formed⟩ := first
  obtain ⟨same, otherFormed⟩ := second
  induction left generalizing right with
  | nil =>
      cases right with
      | nil => rfl
      | cons descriptor rest =>
          obtain ⟨long, -⟩ := otherFormed descriptor List.mem_cons_self
          have lengths := congrArg List.length same
          rw [List.flatten_cons, List.length_append] at lengths
          rw [List.flatten_nil, List.length_nil] at lengths
          omega
  | cons descriptor rest ih =>
      obtain ⟨long, sized⟩ := formed descriptor List.mem_cons_self
      cases right with
      | nil =>
          have lengths := congrArg List.length same
          rw [List.flatten_cons, List.length_append] at lengths
          rw [List.flatten_nil, List.length_nil] at lengths
          omega
      | cons other later =>
          obtain ⟨otherLong, otherSized⟩ :=
            otherFormed other List.mem_cons_self
          rw [List.flatten_cons, List.flatten_cons] at same
          have begins : (byteAt (other ++ later.flatten) 0).toNat =
              (byteAt (descriptor ++ rest.flatten) 0).toNat := by rw [same]
          rw [byteAt_append (by omega), byteAt_append (by omega), sized,
            otherSized] at begins
          obtain ⟨rfl, tail⟩ := List.append_inj same begins
          rw [ih (fun descriptor member =>
              formed descriptor (List.mem_cons_of_mem _ member)) tail
            fun descriptor member =>
              otherFormed descriptor (List.mem_cons_of_mem _ member)]

theorem descriptorLength_ensures :
    Ensures (descriptorLength bytes offset) fun length =>
      2 ≤ length ∧ offset + length ≤ bytes.length ∧
        length = (byteAt bytes offset).toNat := by
  rw [descriptorLength]
  refine Ensures.check fun room => ?_
  refine Ensures.indexed (by omega) ?_
  refine Ensures.check fun fits => ?_
  rw [not_or, Nat.not_lt, Nat.not_lt] at fits
  exact Ensures.pure ⟨fits.1, fits.2, rfl⟩

theorem walkDescriptors_ensures (enough : bytes.length ≤ offset + fuel) :
    Ensures (walkDescriptors bytes fuel offset) fun _ => True := by
  induction fuel generalizing offset with
  | zero =>
      rw [walkDescriptors, if_neg (by omega)]
      exact Ensures.pure trivial
  | succ fuel ih =>
      rw [walkDescriptors]
      refine Ensures.ite (fun _ => ?_) fun _ => Ensures.pure trivial
      refine Ensures.bind descriptorLength_ensures fun length bounds => ?_
      exact ih (by omega)

theorem forDescriptors_ensures {σ : Type}
    {visit : σ → List UInt8 → MirrorCheck σ}
    {invariant : List (List UInt8) → σ → Prop}
    (kept : ∀ done descriptor state, DescriptorFormed descriptor →
      invariant done state →
        Ensures (visit state descriptor) (invariant (done ++ [descriptor])))
    {bytes : List UInt8} {fuel offset : Nat} {state : σ}
    {done : List (List UInt8)} (enough : bytes.length ≤ offset + fuel)
    (holds : invariant done state) :
    Ensures (forDescriptors visit bytes fuel offset state) fun last =>
      ∃ chain, IsChain chain (bytes.drop offset) ∧
        invariant (done ++ chain) last := by
  induction fuel generalizing offset state done with
  | zero =>
      rw [forDescriptors, if_neg (by omega)]
      refine Ensures.pure ⟨[], ⟨?_, List.forall_mem_nil _⟩, ?_⟩
      · rw [List.drop_of_length_le (by omega)]
        rfl
      · rw [List.append_nil]
        exact holds
  | succ fuel ih =>
      rw [forDescriptors]
      refine Ensures.ite (fun more => ?_) fun ended => ?_
      · refine Ensures.bind descriptorLength_ensures fun length bounds => ?_
        obtain ⟨long, inside, sized⟩ := bounds
        refine Ensures.sliced ⟨by omega, inside⟩ ?_
        rw [Nat.add_sub_cancel_left]
        have formed : DescriptorFormed (slice bytes offset length) := by
          have size : (slice bytes offset length).length = length :=
            length_slice inside
          refine ⟨by omega, ?_⟩
          rw [size, byteAt_slice _ _ _ _ (by omega), sized]
          rfl
        refine Ensures.bind (kept done _ state formed holds)
          fun next after => ?_
        refine (ih (by omega) after).weaken fun last rest => ?_
        obtain ⟨chain, ⟨whole, allFormed⟩, reached⟩ := rest
        refine ⟨slice bytes offset length :: chain, ⟨?_, ?_⟩, ?_⟩
        · rw [List.flatten_cons, whole, slice_append_drop]
        · exact List.forall_mem_cons.mpr ⟨formed, allFormed⟩
        · rw [List.append_assoc] at reached
          exact reached
      · refine Ensures.pure ⟨[], ⟨?_, List.forall_mem_nil _⟩, ?_⟩
        · rw [List.drop_of_length_le (by omega)]
          rfl
        · rw [List.append_nil]
          exact holds

/-- The descriptor of an interface, and what follows it up to the next one. -/
structure InterfaceSection where
  interface : List UInt8
  members : List (List UInt8)

namespace InterfaceSection

variable (part : InterfaceSection)

def descriptors : List (List UInt8) := part.interface :: part.members

def number : UInt8 := byteAt part.interface 2

def hidDescriptors : List (List UInt8) :=
  part.members.filter fun descriptor => descriptorType descriptor = 0x21

def endpointDescriptors : List (List UInt8) :=
  part.members.filter fun descriptor => descriptorType descriptor = 0x05

def endpointPlan (number : UInt8) (descriptor : List UInt8) :
    EndpointPlan where
  interfaceNumber := number
  address := byteAt descriptor 2
  maxPacketSize := readU16 [byteAt descriptor 4, byteAt descriptor 5]
  interval := byteAt descriptor 6

def endpoints : List EndpointPlan :=
  part.endpointDescriptors.map (endpointPlan part.number)

def add (descriptor : List UInt8) : InterfaceSection :=
  { part with members := part.members ++ [descriptor] }

theorem add_hidDescriptors (descriptor : List UInt8) :
    (part.add descriptor).hidDescriptors = part.hidDescriptors ++
      if descriptorType descriptor = 0x21 then [descriptor] else [] := by
  rw [hidDescriptors, hidDescriptors, add, List.filter_append]
  split <;> simp [*]

theorem add_endpointDescriptors (descriptor : List UInt8) :
    (part.add descriptor).endpointDescriptors = part.endpointDescriptors ++
      if descriptorType descriptor = 0x05 then [descriptor] else [] := by
  rw [endpointDescriptors, endpointDescriptors, add, List.filter_append]
  split <;> simp [*]

theorem add_endpoints (descriptor : List UInt8) :
    (part.add descriptor).endpoints = part.endpoints ++
      if descriptorType descriptor = 0x05 then
        [endpointPlan part.number descriptor] else [] := by
  rw [endpoints, endpoints, add_endpointDescriptors, List.map_append]
  split <;> rfl

end InterfaceSection

/-- The entries of an HID descriptor from `offset` on: the type of a class
descriptor and its length. -/
def classEntries (descriptor : List UInt8) : Nat → Nat → List (UInt8 × Nat)
  | 0, _ => []
  | count + 1, offset =>
      (byteAt descriptor offset,
        (readU16 [byteAt descriptor (offset + 1),
          byteAt descriptor (offset + 2)]).toNat) ::
        classEntries descriptor count (offset + 3)

def reportLengths (entries : List (UInt8 × Nat)) : List Nat :=
  (entries.filter fun entry => entry.1 = 0x22).map Prod.snd

/-- The lengths an HID descriptor declares for a report descriptor. -/
def declaredLengths (descriptor : List UInt8) : List Nat :=
  reportLengths (classEntries descriptor (byteAt descriptor 5).toNat 6)

namespace InterfaceSection

variable (part : InterfaceSection)

structure ReadAs (current : ParsedInterface) : Prop where
  number : current.number = part.number
  subclass : current.subclass = byteAt part.interface 6
  protocol : current.protocol = byteAt part.interface 7
  expected : current.expectedEndpoints = byteAt part.interface 4
  actual : current.actualEndpoints = part.endpointDescriptors.length
  hid : part.hidDescriptors = current.hidDescriptor.toList
  long : ∀ hid ∈ current.hidDescriptor, 9 ≤ hid.length
  declares : ∀ hid ∈ current.hidDescriptor, declaredLengths hid ≠ []

structure Planned (reports : List (UInt8 × List UInt8))
    (plan : HidInterfacePlan) : Prop where
  number : plan.interfaceNumber = part.number
  subclass : plan.subclass = byteAt part.interface 6
  protocol : plan.protocol = byteAt part.interface 7
  endpoints : part.endpointDescriptors.length = (byteAt part.interface 4).toNat
  hid : part.hidDescriptors = [plan.hidDescriptor]
  declares : declaredLengths plan.hidDescriptor ≠ []
  report : (part.number, plan.reportDescriptor) ∈ reports
  firstEntry : readU16 (slice plan.hidDescriptor 7 2) =
    UInt16.ofNat plan.reportDescriptor.length

end InterfaceSection

/-- A descriptor without meaning for the plan. -/
def PlainDescriptor (descriptor : List UInt8) : Prop :=
  descriptorType descriptor ≠ 0x02 ∧ descriptorType descriptor ≠ 0x04 ∧
    descriptorType descriptor ≠ 0x05 ∧ descriptorType descriptor ≠ 0x21

/-- What the walk has found in a part of the configuration: descriptors before
the first interface, interfaces that are finished, and the current one. -/
structure ConfigurationWalk.Read (reports : List (UInt8 × List UInt8))
    (before : List (List UInt8)) (closed : List InterfaceSection)
    (opened : Option InterfaceSection) (walk : ConfigurationWalk) :
    Prop where
  plain : ∀ descriptor ∈ before, PlainDescriptor descriptor
  started : opened = none → closed = []
  kinds : ∀ part ∈ closed ++ opened.toList,
    descriptorType part.interface = 0x04 ∧
      ∀ descriptor ∈ part.members, descriptorType descriptor ≠ 0x02 ∧
        descriptorType descriptor ≠ 0x04
  planned : List.Forall₂ (InterfaceSection.Planned · reports) closed
    walk.interfaces.toList
  current : Option.Rel InterfaceSection.ReadAs opened walk.currentInterface
  numbers :
    ((closed ++ opened.toList).map InterfaceSection.number).Nodup
  endpoints : walk.endpoints.toList =
    (closed ++ opened.toList).flatMap InterfaceSection.endpoints
  interrupt : ∀ part ∈ closed ++ opened.toList,
    ∀ descriptor ∈ part.endpointDescriptors, byteAt descriptor 3 &&& 0x03 = 0x03
  addresses : walk.endpointAddresses.toList =
    walk.endpoints.toList.map EndpointPlan.address
  distinct : walk.endpointAddresses.toList.Nodup
  perDirection : ∀ direction, (walk.endpoints.toList.filter fun endpoint =>
    endpoint.address &&& 0x80 = direction).length ≤ 4

def ConfigurationWalk.Over (reports : List (UInt8 × List UInt8))
    (done : List (List UInt8)) (walk : ConfigurationWalk) : Prop :=
  ∃ before closed opened, walk.Read reports before closed opened ∧
    done = before ++
      (closed ++ opened.toList).flatMap InterfaceSection.descriptors

theorem pushPlan_ok {α : Type} {capacity : Nat}
    {items longer : BoundedVec α capacity} {item : α}
    (pushed : pushPlan items item = .ok longer) :
    longer.toList = items.toList ++ [item] := by
  simp only [pushPlan] at pushed
  split at pushed
  · rename_i next same
    cases pushed
    exact BoundedVec.push?_eq_some.mp same
  · cases pushed

theorem rel_none {α β : Type} {related : α → β → Prop} {other : Option β}
    (both : Option.Rel related none other) : other = none := by
  cases both
  rfl

theorem rel_some {α β : Type} {related : α → β → Prop} {value : α}
    {other : Option β} (both : Option.Rel related (some value) other) :
    ∃ found, other = some found ∧ related value found := by
  cases both with
  | some holds => exact ⟨_, rfl, holds⟩

variable {reports : ReportTable} {before : List (List UInt8)}
  {closed : List InterfaceSection} {opened : Option InterfaceSection}
  {walk : ConfigurationWalk}

theorem finishInterface_ensures
    (read : walk.Read reports.toList before closed opened) :
    Ensures (finishInterface walk.interfaces reports walk.currentInterface)
      fun interfaces => List.Forall₂ (InterfaceSection.Planned · reports.toList)
        (closed ++ opened.toList) interfaces.toList := by
  have planned := read.planned
  cases opened with
  | none =>
      rw [rel_none read.current, finishInterface, Option.toList_none,
        List.append_nil]
      exact Ensures.pure planned
  | some part =>
      obtain ⟨parsed, currently, readAs⟩ := rel_some read.current
      rw [currently, finishInterface, finishParsed]
      refine Ensures.check fun counted => ?_
      cases found : reports.toList.find? fun entry =>
          entry.1 = parsed.number with
      | none => exact Ensures.throw
      | some entry =>
          cases hid : parsed.hidDescriptor with
          | none => exact Ensures.throw
          | some hidDescriptor =>
              have long := readAs.long hidDescriptor hid
              have pair : [byteAt hidDescriptor 7, byteAt hidDescriptor 8] =
                  slice hidDescriptor 7 2 := pair_byteAt (by omega)
              refine Ensures.indexed (by omega) (Ensures.indexed (by omega) ?_)
              refine Ensures.check fun matching => ?_
              refine Ensures.result fun interfaces pushed => ?_
              rw [pushPlan_ok pushed]
              refine List.rel_append planned (.cons ?_ .nil)
              have number : entry.1 = part.number := by
                have same := List.find?_some found
                rw [decide_eq_true_eq] at same
                rw [same, readAs.number]
              refine ⟨readAs.number, readAs.subclass, readAs.protocol, ?_, ?_,
                readAs.declares hidDescriptor hid, ?_, ?_⟩
              · rw [← readAs.actual, ← readAs.expected]
                exact (not_not.mp counted).symm
              · rw [readAs.hid, hid]
                rfl
              · rw [← number]
                exact List.mem_of_find?_eq_some found
              · rw [← pair]
                exact not_not.mp matching

theorem planned_numbers
    (planned : List.Forall₂ (InterfaceSection.Planned · table) parts plans) :
    plans.map HidInterfacePlan.interfaceNumber =
      parts.map InterfaceSection.number := by
  induction planned with
  | nil => rfl
  | cons first _ ih => rw [List.map_cons, List.map_cons, first.number, ih]

theorem visitInterface_ensures {descriptor : List UInt8}
    (read : walk.Read reports.toList before closed opened)
    (kind : descriptorType descriptor = 0x04) :
    Ensures (walk.visitInterface reports descriptor) fun next =>
      next.Read reports.toList before (closed ++ opened.toList)
        (some ⟨descriptor, []⟩) := by
  refine Ensures.bind (finishInterface_ensures read)
    fun interfaces planned => ?_
  refine Ensures.check fun long => ?_
  refine Ensures.indexed (by omega) (Ensures.indexed (by omega)
    (Ensures.indexed (by omega) (Ensures.indexed (by omega)
      (Ensures.indexed (by omega) (Ensures.indexed (by omega) ?_)))))
  refine Ensures.check fun first => Ensures.check fun hid => ?_
  refine Ensures.check fun fresh => Ensures.pure ?_
  have unused : byteAt descriptor 2 ∉
      (closed ++ opened.toList).map InterfaceSection.number := by
    rw [← planned_numbers planned]
    intro member
    obtain ⟨plan, listed, same⟩ := List.mem_map.mp member
    exact fresh (List.any_eq_true.mpr ⟨plan, listed, decide_eq_true same⟩)
  refine ⟨read.plain, fun none => (Option.some_ne_none _ none).elim, ?_,
    planned, .some ?_, ?_, ?_, ?_,
    read.addresses, read.distinct, read.perDirection⟩
  · intro part member
    rcases List.mem_append.mp member with old | new
    · exact read.kinds part old
    · rw [Option.toList_some, List.mem_singleton] at new
      subst new
      exact ⟨kind, List.forall_mem_nil _⟩
  · exact ⟨rfl, rfl, rfl, rfl, rfl, rfl,
      fun hid found => (Option.some_ne_none hid found.symm).elim,
      fun hid found => (Option.some_ne_none hid found.symm).elim⟩
  · rw [List.map_append]
    refine List.Nodup.append read.numbers (List.nodup_singleton _) ?_
    intro number old new
    rw [Option.toList_some, List.map_singleton, List.mem_singleton] at new
    subst new
    exact unused old
  · rw [read.endpoints]
    simp [InterfaceSection.endpoints, InterfaceSection.endpointDescriptors]
  · intro part member
    rcases List.mem_append.mp member with old | new
    · exact read.interrupt part old
    · rw [Option.toList_some, List.mem_singleton] at new
      subst new
      exact List.forall_mem_nil _

theorem ConfigurationWalk.Read.extend {part : InterfaceSection}
    {descriptor : List UInt8} {next : ConfigurationWalk}
    {parsed : ParsedInterface}
    (read : walk.Read reports.toList before closed (some part))
    (kind : descriptorType descriptor ≠ 0x02 ∧
      descriptorType descriptor ≠ 0x04)
    (interfaces : next.interfaces = walk.interfaces)
    (current : next.currentInterface = some parsed)
    (readAs : (part.add descriptor).ReadAs parsed)
    (endpoints : next.endpoints.toList = walk.endpoints.toList ++
      if descriptorType descriptor = 0x05 then
        [InterfaceSection.endpointPlan part.number descriptor] else [])
    (interrupt : descriptorType descriptor = 0x05 →
      byteAt descriptor 3 &&& 0x03 = 0x03)
    (addresses : next.endpointAddresses.toList =
      next.endpoints.toList.map EndpointPlan.address)
    (distinct : next.endpointAddresses.toList.Nodup)
    (perDirection : ∀ direction,
      (next.endpoints.toList.filter fun endpoint =>
        endpoint.address &&& 0x80 = direction).length ≤ 4) :
    next.Read reports.toList before closed (some (part.add descriptor)) := by
  refine ⟨read.plain, fun none => (Option.some_ne_none _ none).elim, ?_, ?_,
    ?_, ?_, ?_, ?_, addresses, distinct, perDirection⟩
  · intro other member
    rcases List.mem_append.mp member with old | new
    · exact read.kinds other (List.mem_append_left _ old)
    · rw [Option.toList_some, List.mem_singleton] at new
      subst new
      obtain ⟨first, members⟩ := read.kinds part (by simp)
      refine ⟨first, List.forall_mem_append.mpr ⟨members, ?_⟩⟩
      exact List.forall_mem_singleton.mpr kind
  · rw [interfaces]
    exact read.planned
  · rw [current]
    exact .some readAs
  · have numbers := read.numbers
    rw [List.map_append] at numbers ⊢
    exact numbers
  · rw [endpoints, read.endpoints, List.flatMap_append, List.flatMap_append,
      List.append_assoc]
    simp [InterfaceSection.add_endpoints]
  · intro other member
    rcases List.mem_append.mp member with old | new
    · exact read.interrupt other (List.mem_append_left _ old)
    · rw [Option.toList_some, List.mem_singleton] at new
      subst new
      rw [InterfaceSection.add_endpointDescriptors]
      refine List.forall_mem_append.mpr ⟨read.interrupt part (by simp), ?_⟩
      split
      · rename_i endpoint
        exact List.forall_mem_singleton.mpr (interrupt endpoint)
      · exact List.forall_mem_nil _

theorem declaredReport_ensures {descriptor : List UInt8}
    {count offset : Nat} {declared : Option UInt16} :
    Ensures (ConfigurationWalk.declaredReport descriptor count offset declared)
      fun last => last ≠ none → declared ≠ none ∨
        reportLengths (classEntries descriptor count offset) ≠ [] := by
  induction count generalizing offset declared with
  | zero => exact Ensures.pure .inl
  | succ count ih =>
      rw [ConfigurationWalk.declaredReport]
      refine Ensures.check fun room => ?_
      refine Ensures.indexed (by omega) (Ensures.indexed (by omega)
        (Ensures.indexed (by omega) ?_))
      refine ih.weaken fun last holds found => ?_
      by_cases kind : byteAt descriptor offset = 0x22
      · right
        rw [classEntries, reportLengths, List.filter_cons_of_pos]
        · exact List.cons_ne_nil _ _
        · exact decide_eq_true kind
      · have skipped : reportLengths
            (classEntries descriptor (count + 1) offset) =
              reportLengths (classEntries descriptor count (offset + 3)) := by
          rw [classEntries, reportLengths, List.filter_cons_of_neg,
            reportLengths]
          rw [decide_eq_true_eq]
          exact kind
        rw [skipped]
        have rest := holds found
        change (if byteAt descriptor offset = 0x22 then _ else declared) ≠
          none ∨ _ at rest
        rwa [if_neg kind] at rest

theorem visitHid_ensures {descriptor : List UInt8}
    (read : walk.Read reports.toList before closed opened)
    (kind : descriptorType descriptor = 0x21) :
    Ensures (walk.visitHid descriptor) fun next => ∃ part, opened = some part ∧
      next.Read reports.toList before closed (some (part.add descriptor)) := by
  cases opened with
  | none =>
      rw [ConfigurationWalk.visitHid, rel_none read.current]
      exact Ensures.throw
  | some part =>
      obtain ⟨parsed, currently, readAs⟩ := rel_some read.current
      rw [ConfigurationWalk.visitHid, currently]
      refine Ensures.check fun long => ?_
      refine Ensures.indexed (by omega) (Ensures.check fun some => ?_)
      refine Ensures.bind declaredReport_ensures fun declared holds => ?_
      refine Ensures.check fun accepted => Ensures.pure ⟨part, rfl, ?_⟩
      obtain ⟨declares, first⟩ := not_or.mp accepted
      have lengths : declaredLengths descriptor ≠ [] :=
        (holds declares).resolve_left fun impossible => impossible rfl
      have nothing : part.hidDescriptors = [] := by
        rw [readAs.hid, not_not.mp first]
        rfl
      have notEndpoint : descriptorType descriptor ≠ 0x05 := by
        rw [kind]
        decide
      refine read.extend ?_ rfl rfl ?_ ?_ ?_ read.addresses read.distinct
        read.perDirection
      · rw [kind]
        decide
      · refine ⟨readAs.number, readAs.subclass, readAs.protocol,
          readAs.expected, ?_, ?_, ?_, ?_⟩
        · rw [InterfaceSection.add_endpointDescriptors, if_neg notEndpoint,
            List.append_nil]
          exact readAs.actual
        · rw [InterfaceSection.add_hidDescriptors, nothing, if_pos kind]
          rfl
        · intro hid found
          cases found
          omega
        · intro hid found
          cases found
          exact lengths
      · rw [if_neg notEndpoint, List.append_nil]
      · exact fun endpoint => absurd endpoint notEndpoint

theorem visitEndpoint_ensures {descriptor : List UInt8}
    (read : walk.Read reports.toList before closed opened)
    (kind : descriptorType descriptor = 0x05) :
    Ensures (walk.visitEndpoint descriptor) fun next =>
      ∃ part, opened = some part ∧
        next.Read reports.toList before closed
          (some (part.add descriptor)) := by
  cases opened with
  | none =>
      rw [ConfigurationWalk.visitEndpoint, rel_none read.current]
      exact Ensures.throw
  | some part =>
      obtain ⟨parsed, currently, readAs⟩ := rel_some read.current
      rw [ConfigurationWalk.visitEndpoint, currently]
      refine Ensures.check fun long => ?_
      refine Ensures.indexed (by omega) (Ensures.indexed (by omega)
        (Ensures.indexed (by omega) (Ensures.indexed (by omega)
          (Ensures.indexed (by omega) ?_))))
      refine Ensures.check fun interrupt => Ensures.check fun wellFormed => ?_
      refine Ensures.check fun fresh => Ensures.check fun packet => ?_
      refine Ensures.check fun interval => Ensures.check fun direction => ?_
      refine Ensures.bind (Ensures.result fun addresses pushed =>
        pushPlan_ok pushed) fun addresses addresses_eq => ?_
      refine Ensures.bind (Ensures.result fun endpoints pushed =>
        pushPlan_ok pushed) fun endpoints endpoints_eq => ?_
      refine Ensures.pure ⟨part, rfl, ?_⟩
      have notHid : descriptorType descriptor ≠ 0x21 := by
        rw [kind]
        decide
      refine read.extend ?_ rfl rfl ?_ ?_ ?_ ?_ ?_ ?_
      · rw [kind]
        decide
      · refine ⟨readAs.number, readAs.subclass, readAs.protocol,
          readAs.expected, ?_, ?_, readAs.long, readAs.declares⟩
        · rw [InterfaceSection.add_endpointDescriptors, if_pos kind,
            List.length_append, ← readAs.actual]
          rfl
        · rw [InterfaceSection.add_hidDescriptors, if_neg notHid,
            List.append_nil]
          exact readAs.hid
      · rw [if_pos kind, endpoints_eq, readAs.number]
        rfl
      · exact fun _ => not_not.mp interrupt
      · rw [addresses_eq, endpoints_eq, List.map_append, read.addresses]
        rfl
      · rw [addresses_eq]
        refine List.Nodup.append read.distinct (List.nodup_singleton _) ?_
        intro address old new
        rw [List.mem_singleton] at new
        subst new
        exact fresh old
      · intro wanted
        rw [endpoints_eq, List.filter_append, List.length_append]
        by_cases same : byteAt descriptor 2 &&& 0x80 = wanted
        · subst same
          have room := Nat.lt_of_not_le direction
          change (walk.endpoints.toList.filter fun endpoint =>
            endpoint.address &&& 0x80 = byteAt descriptor 2 &&& 0x80).length < 4
              at room
          have one := List.length_filter_le (fun endpoint : EndpointPlan =>
            endpoint.address &&& 0x80 = byteAt descriptor 2 &&& 0x80)
            [{ interfaceNumber := parsed.number
               address := byteAt descriptor 2
               maxPacketSize := readU16 [byteAt descriptor 4,
                 byteAt descriptor 5]
               interval := byteAt descriptor 6 }]
          exact Nat.le_trans (Nat.add_le_add_left one _) room
        · have none : [InterfaceSection.endpointPlan parsed.number
              descriptor].filter (fun endpoint =>
                endpoint.address &&& 0x80 = wanted) = [] := by
            rw [List.filter_cons_of_neg, List.filter_nil]
            rw [decide_eq_true_eq]
            exact same
          exact (congrArg (fun rest => _ + List.length rest) none).trans_le
            (read.perDirection wanted)

theorem visit_ensures {done : List (List UInt8)} {descriptor : List UInt8}
    (formed : DescriptorFormed descriptor)
    (stands : walk.Over reports.toList done) :
    Ensures (walk.visit reports descriptor) fun next =>
      next.Over reports.toList (done ++ [descriptor]) := by
  obtain ⟨before, closed, opened, read, rfl⟩ := stands
  obtain ⟨long, -⟩ := formed
  have added : ∀ (next : ConfigurationWalk) (part : InterfaceSection),
      opened = some part →
        next.Read reports.toList before closed
          (some (part.add descriptor)) →
            next.Over reports.toList (before ++
              (closed ++ opened.toList).flatMap
                InterfaceSection.descriptors ++ [descriptor]) := by
    intro next part same after
    refine ⟨before, closed, _, after, ?_⟩
    subst same
    simp only [Option.toList_some, List.flatMap_append,
      List.flatMap_singleton, List.append_assoc]
    rfl
  refine Ensures.indexed long ?_
  refine Ensures.check fun configuration => ?_
  refine Ensures.ite (fun kind => ?_) fun notInterface => ?_
  · refine (visitInterface_ensures read kind).weaken fun next after => ?_
    refine ⟨before, closed ++ opened.toList, _, after, ?_⟩
    simp [InterfaceSection.descriptors]
  refine Ensures.ite (fun kind => ?_) fun notHid => ?_
  · refine (visitHid_ensures read kind).weaken fun next after => ?_
    obtain ⟨part, same, after⟩ := after
    exact added next part same after
  refine Ensures.ite (fun kind => ?_) fun notEndpoint => ?_
  · refine (visitEndpoint_ensures read kind).weaken fun next after => ?_
    obtain ⟨part, same, after⟩ := after
    exact added next part same after
  refine Ensures.pure ?_
  cases opened with
  | none =>
      have none := read.started rfl
      subst none
      refine ⟨before ++ [descriptor], [], none, ?_, ?_⟩
      · refine ⟨?_, read.started, read.kinds, read.planned, read.current,
          read.numbers, read.endpoints, read.interrupt, read.addresses,
          read.distinct, read.perDirection⟩
        exact List.forall_mem_append.mpr ⟨read.plain,
          List.forall_mem_singleton.mpr
            ⟨configuration, notInterface, notEndpoint, notHid⟩⟩
      · simp
  | some part =>
      obtain ⟨parsed, currently, readAs⟩ := rel_some read.current
      refine added walk part rfl ?_
      have plainType : descriptorType descriptor ≠ 0x05 := notEndpoint
      have plainHid : descriptorType descriptor ≠ 0x21 := notHid
      refine read.extend ⟨configuration, notInterface⟩ rfl currently ?_ ?_ ?_
        read.addresses read.distinct read.perDirection
      · refine ⟨readAs.number, readAs.subclass, readAs.protocol,
          readAs.expected, ?_, ?_, readAs.long, readAs.declares⟩
        · rw [InterfaceSection.add_endpointDescriptors, if_neg plainType,
            List.append_nil]
          exact readAs.actual
        · rw [InterfaceSection.add_hidDescriptors, if_neg plainHid,
            List.append_nil]
          exact readAs.hid
      · rw [if_neg plainType, List.append_nil]
      · exact fun endpoint => absurd endpoint plainType

end HidShift
