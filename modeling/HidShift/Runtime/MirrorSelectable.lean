import HidShift.Runtime.Pairing

namespace HidShift

open Lib InPlace

namespace MirrorCandidateRegistry

variable {registry next : MirrorCandidateRegistry}
  {candidate other : MirrorCandidateId}

theorem get_setEntry (stored : registry.setEntry candidate entry = some next) :
    next.get other = if other = candidate then entry else registry.get other := by
  unfold setEntry at stored
  split at stored
  · rename_i inside
    obtain rfl := Option.some.inj stored
    unfold get
    by_cases same : other = candidate
    · subst same
      simp [inside]
    · have apart : candidate.val.toNat ≠ other.val.toNat := by
        intro equal
        apply same
        cases other
        cases candidate
        exact congrArg MirrorCandidateId.mk (UInt8.toNat_inj.mp equal.symm)
      simp [same, List.getElem?_set_ne apart]
  · cases stored

theorem register_isSome (metadata : MirrorCandidateMetadata) :
    (registry.register metadata).isSome =
      decide (metadata.candidate.val.toNat < mirrorCandidateCapacity) := by
  unfold register setEntry
  split <;> simp [*]

theorem get_register (listed : registry.register metadata = some next) :
    next.get other =
      if other = metadata.candidate then some metadata
      else registry.get other :=
  get_setEntry listed

theorem get_clearSource (deviceId : DeviceId) :
    (registry.clearSource deviceId).get candidate =
      (registry.get candidate).filter (·.sourceDevice ≠ some deviceId) := by
  unfold clearSource get
  simp only [Vector.toList_map, List.getElem?_map]
  cases registry.entries.toList[candidate.val.toNat]? with
  | none => rfl
  | some entry =>
      cases entry with
      | none => rfl
      | some metadata =>
          by_cases gone : metadata.sourceDevice = some deviceId
          · simp [gone, Option.filter]
          · simp [gone, Option.filter]

end MirrorCandidateRegistry

def MirrorCandidateMetadata.registration (metadata : MirrorCandidateMetadata) :
    RuntimeInput .dual :=
  .mirrorCandidateRegistered metadata.candidate metadata.stableId
    (some metadata.profileHash) metadata.synthetic metadata.sourceDevice

namespace RuntimeInput

def Names (candidate : MirrorCandidateId) : RuntimeInput .dual → Prop
  | .mirrorCandidateRegistered other _ _ _ _ => other = candidate
  | _ => False

/-- The device leaves: it says so, or its last interface is removed. -/
def Disconnects (runtime : BridgeRuntime) (deviceId : DeviceId) :
    RuntimeInput .dual → Prop
  | .mirrorSourceDisconnected gone => gone = deviceId
  | .usbHidInterfaceDisconnected interfaceId =>
      (∃ removed, runtime.usbHidInterface interfaceId = some removed ∧
        removed.deviceId = deviceId) ∧
      ((runtime.dropUsbHidInterface interfaceId).interfacesOf deviceId).isEmpty
  | _ => False

/-- The candidate that waits is forgotten: another one is cleared, waits
itself or is listed. -/
def Displaces (runtime : BridgeRuntime) : RuntimeInput .dual → Prop
  | .mirrorCandidateRegistered _ _ none _ _ => True
  | .mirrorCandidateRegistered candidate _ (some profileHash) _ _ =>
      ¬ (runtime.profileStored profileHash = true ∧
        mirrorCandidateCapacity ≤ candidate.val.toNat)
  | _ => False

end RuntimeInput

abbrev MirrorStep :=
  Transition BridgeRuntime (RuntimeCall .dual) (List RuntimeCommand)

namespace MirrorStep

variable (taken : MirrorStep) (metadata : MirrorCandidateMetadata)

def Handled : Prop :=
  taken.event.Handled taken.before

/-- The candidate is cleared, registered anew or disconnected. -/
def Touches : Prop :=
  taken.Handled ∧ (taken.event.input.Names metadata.candidate ∨
    ∃ deviceId, metadata.sourceDevice = some deviceId ∧
      taken.event.input.Disconnects taken.before deviceId)

def Decides : Prop :=
  taken.Handled ∧ ∃ result, taken.event.input = .deviceProfileResult result ∧
    result.profileHash = metadata.profileHash

def Stores : Prop :=
  taken.Handled ∧ ∃ result, taken.event.input = .deviceProfileResult result ∧
    result.profileHash = metadata.profileHash ∧
      result.status.isStored = true

def Displaces : Prop :=
  taken.Handled ∧ taken.event.input.Displaces taken.before

end MirrorStep

namespace MirrorCandidateMetadata

variable (metadata : MirrorCandidateMetadata) (books next : RuntimeBooks)

def Listed : Prop :=
  books.mirrorCandidates.get metadata.candidate = some metadata

def Waits : Prop :=
  ¬ metadata.Listed books ∧ books.pendingMirrorCandidate = some metadata

def Lost : Prop :=
  ¬ metadata.Listed books ∧ ∀ waiting,
    books.pendingMirrorCandidate = some waiting →
      waiting.candidate ≠ metadata.candidate

def Stays : Prop :=
  metadata.Listed books ∧ ∀ waiting,
    books.pendingMirrorCandidate = some waiting →
      waiting.candidate = metadata.candidate → waiting = metadata

/-- What an input about other things does: a candidate that waits goes on
waiting, and one that is listed stays so. -/
structure Unconcerned : Prop where
  listed : metadata.Listed next ↔ metadata.Listed books
  pending : next.pendingMirrorCandidate = books.pendingMirrorCandidate ∨
    next.pendingMirrorCandidate = none ∧
      books.pendingMirrorCandidate ≠ some metadata

structure GivesWay : Prop where
  listed : metadata.Listed next ↔ metadata.Listed books
  pending : ∀ waiting, next.pendingMirrorCandidate = some waiting →
    waiting.candidate ≠ metadata.candidate

variable {metadata books next}

theorem unconcerned_same
    (candidates : next.mirrorCandidates = books.mirrorCandidates)
    (pending : next.pendingMirrorCandidate = books.pendingMirrorCandidate) :
    metadata.Unconcerned books next := by
  refine ⟨?_, .inl pending⟩
  unfold Listed
  rw [candidates]

theorem listed_clearSource (other : metadata.sourceDevice ≠ some deviceId)
    (candidates : next.mirrorCandidates =
      books.mirrorCandidates.clearSource deviceId) :
    metadata.Listed next ↔ metadata.Listed books := by
  unfold Listed
  rw [candidates, MirrorCandidateRegistry.get_clearSource]
  constructor
  · intro kept
    exact (Option.filter_eq_some_iff.mp kept).1
  · intro listed
    rw [listed]
    simp [other, Option.filter]

theorem listed_register {registered : MirrorCandidateMetadata}
    (other : registered.candidate ≠ metadata.candidate)
    (inside : books.mirrorCandidates.register registered = some listed)
    (candidates : next.mirrorCandidates = listed) :
    metadata.Listed next ↔ metadata.Listed books := by
  unfold Listed
  rw [candidates, MirrorCandidateRegistry.get_register inside,
    if_neg (Ne.symm other)]

theorem unconcerned_unplug
    (kept : ∀ deviceId, metadata.sourceDevice = some deviceId →
      ¬ (RuntimeInput.usbHidInterfaceDisconnected interfaceId).Disconnects
        runtime deviceId) :
    metadata.Unconcerned runtime.books
      (runtime.books.unplug .dual interfaceId) := by
  unfold RuntimeBooks.unplug
  have dropped : (runtime.books.drop interfaceId).mirrorCandidates =
      runtime.books.mirrorCandidates ∧
      (runtime.books.drop interfaceId).pendingMirrorCandidate =
        runtime.books.pendingMirrorCandidate := by
    unfold RuntimeBooks.drop
    split <;> exact ⟨rfl, rfl⟩
  have left : (runtime.books.drop interfaceId).interfaces =
      (runtime.dropUsbHidInterface interfaceId).usbInterfaces := by
    rw [← dropUsbHidInterface_books]
    rfl
  cases found : SlotTable.lookup UsbHidInterfaceRuntimeState.interfaceId
      runtime.books.interfaces interfaceId with
  | none => exact unconcerned_same dropped.1 dropped.2
  | some removed =>
      dsimp only
      unfold RuntimeBooks.finishRemoval
      rw [left]
      split
      · rename_i last
        have disconnected : ∀ books : RuntimeBooks,
            books.mirrorCandidates = runtime.books.mirrorCandidates →
            books.pendingMirrorCandidate =
              runtime.books.pendingMirrorCandidate →
            metadata.Unconcerned runtime.books
              (books.forgetSource .dual removed.deviceId) := by
          intro books candidates pending
          refine ⟨listed_clearSource (fun source => kept removed.deviceId source
            ⟨⟨removed, found, rfl⟩, last⟩) ?_, .inl pending⟩
          rw [← candidates]
          rfl
        cases removed.inputProfileId with
        | none => exact disconnected _ dropped.1 dropped.2
        | some profileId =>
            dsimp only
            unfold RuntimeBooks.disconnect
            split
            · exact disconnected _ dropped.1 dropped.2
            · exact disconnected _ dropped.1 dropped.2
      · exact unconcerned_same dropped.1 dropped.2

theorem unconcerned_sourceGone (other : metadata.sourceDevice ≠ some deviceId) :
    metadata.Unconcerned books (books.sourceGone deviceId) := by
  refine ⟨listed_clearSource other rfl, ?_⟩
  show Option.filter _ _ = _ ∨ Option.filter _ _ = none ∧ _
  cases waiting : books.pendingMirrorCandidate with
  | none => exact .inl rfl
  | some pending =>
      by_cases gone : pending.sourceDevice = some deviceId
      · refine .inr ⟨by simp [gone, Option.filter], ?_⟩
        intro same
        obtain rfl := Option.some.inj same
        exact other gone
      · exact .inl (by simp [gone, Option.filter])

theorem unconcerned_input {runtime : BridgeRuntime} {input : RuntimeInput .dual}
    (unsettled : ∀ result, input ≠ .deviceProfileResult result)
    (unregistered : ∀ candidate stableId profileHash synthetic sourceDevice,
      input ≠ .mirrorCandidateRegistered candidate stableId profileHash
        synthetic sourceDevice)
    (connected : ∀ deviceId, metadata.sourceDevice = some deviceId →
      ¬ input.Disconnects runtime deviceId) :
    metadata.Unconcerned runtime.books (runtime.booksAfter input) := by
  cases about : input.aboutDevices with
  | false =>
      obtain ⟨candidates, pending⟩ :=
        (@onlyPairing_input .dual runtime input about).mirrors
      exact unconcerned_same candidates pending
  | true =>
      cases input with
      | usbHidInterfaceConnected interfaceId deviceId ledOutput =>
          show metadata.Unconcerned runtime.books (RuntimeBooks.plugIn _ _)
          unfold RuntimeBooks.plugIn
          split <;> exact unconcerned_same rfl rfl
      | usbHidInterfaceDisconnected interfaceId =>
          exact unconcerned_unplug connected
      | usbDeviceMetadataUpdated deviceId identity name flags =>
          show metadata.Unconcerned runtime.books
            (runtime.describedBooks deviceId identity name flags)
          unfold BridgeRuntime.describedBooks
          split <;> exact unconcerned_same rfl rfl
      | deviceProfileResult result => exact absurd rfl (unsettled result)
      | mirrorCandidateRegistered candidate stableId profileHash synthetic
          sourceDevice => exact absurd rfl (unregistered _ _ _ _ _)
      | mirrorSourceDisconnected deviceId =>
          exact unconcerned_sourceGone fun source =>
            connected deviceId source rfl
      | restoreStorage storage => exact unconcerned_same rfl rfl
      | _ => cases about

theorem registered_other {candidate : MirrorCandidateId}
    {stableId : MirrorStableId} {profileHash : Option UInt32} {synthetic : Bool}
    {sourceDevice : Option DeviceId} (other : candidate ≠ metadata.candidate) :
    (RuntimeInput.Displaces runtime (.mirrorCandidateRegistered candidate
        stableId profileHash synthetic sourceDevice) ∧
      metadata.GivesWay runtime.books (runtime.booksAfter
        (.mirrorCandidateRegistered candidate stableId profileHash synthetic
          sourceDevice))) ∨
    (¬ RuntimeInput.Displaces runtime (.mirrorCandidateRegistered candidate
        stableId profileHash synthetic sourceDevice) ∧
      runtime.booksAfter (.mirrorCandidateRegistered candidate stableId
        profileHash synthetic sourceDevice) = runtime.books) := by
  cases profileHash with
  | none =>
      refine .inl ⟨trivial, ⟨?_, fun _ impossible => nomatch impossible⟩⟩
      show metadata.Listed (runtime.books.clearCandidate candidate) ↔ _
      unfold Listed RuntimeBooks.clearCandidate
      dsimp only
      cases cleared : runtime.books.mirrorCandidates.clear candidate with
      | none => exact Iff.rfl
      | some next =>
          rw [Option.getD_some, MirrorCandidateRegistry.get_setEntry cleared,
            if_neg (Ne.symm other)]
  | some profileHash =>
      have known : runtime.books.profileStored profileHash =
          runtime.profileStored profileHash := rfl
      cases stored : runtime.profileStored profileHash with
      | false =>
          refine .inl ⟨fun outside => ?_, ?_⟩
          · rw [stored] at outside
            exact absurd outside.1 Bool.false_ne_true
          · have waits := @RuntimeBooks.registerCandidate_waits runtime.books
              ⟨candidate, stableId, profileHash, synthetic, sourceDevice⟩
              (known.trans stored)
            show metadata.GivesWay _ (runtime.books.registerCandidate _)
            rw [waits]
            refine ⟨Iff.rfl, fun waiting is => ?_⟩
            obtain rfl := Option.some.inj is
            exact other
      | true =>
          cases inside : runtime.books.mirrorCandidates.register
              ⟨candidate, stableId, profileHash, synthetic, sourceDevice⟩ with
          | none =>
              have outside := congrArg Option.isSome inside
              rw [MirrorCandidateRegistry.register_isSome] at outside
              refine .inr ⟨fun displaces => displaces ⟨stored,
                Nat.le_of_not_lt (of_decide_eq_false outside)⟩, ?_⟩
              exact RuntimeBooks.registerCandidate_outside
                (known.trans stored) inside
          | some listed =>
              have within := congrArg Option.isSome inside
              rw [MirrorCandidateRegistry.register_isSome] at within
              refine .inl ⟨fun outside => absurd (of_decide_eq_true within)
                (Nat.not_lt.mpr outside.2), ?_⟩
              have lists := RuntimeBooks.registerCandidate_listed
                (known.trans stored) inside
              show metadata.GivesWay _ (runtime.books.registerCandidate _)
              rw [lists]
              exact ⟨listed_register other inside rfl,
                fun _ impossible => nomatch impossible⟩

end MirrorCandidateMetadata

namespace MirrorStep

variable {taken : MirrorStep} {metadata : MirrorCandidateMetadata}

inductive Turn (taken : MirrorStep) (metadata : MirrorCandidateMetadata) :
    Prop
  | unconcerned (waits : ¬ taken.Decides metadata ∧ ¬ taken.Displaces)
      (turned : metadata.Unconcerned taken.before.books taken.after.books)
  | givesWay (displaces : taken.Displaces) (decides : ¬ taken.Stores metadata)
      (turned : metadata.GivesWay taken.before.books taken.after.books)
  | result (result : ProfileResult) (handled : taken.Handled)
      (input : taken.event.input = .deviceProfileResult result)
      (turned : taken.after.books = taken.before.books.profileResult result)

theorem turn_of_performed (agrees : taken.before.books.Agrees)
    (performed : RuntimePerforms .dual taken.before taken.event taken.output
      taken.after) (untouched : ¬ taken.Touches metadata) :
    Turn taken metadata := by
  rcases performed_books agrees performed with
    ⟨refused, same, -⟩ | ⟨handled, turned, -⟩
  · refine .unconcerned ⟨fun decides => refused decides.1,
      fun displaces => refused displaces.1⟩ ?_
    rw [same]
    exact MirrorCandidateMetadata.unconcerned_same rfl rfl
  · by_cases settles : ∃ result, taken.event.input = .deviceProfileResult result
    · obtain ⟨result, input⟩ := settles
      refine .result result handled input ?_
      rw [turned, input]
      rfl
    · have undecided : ¬ taken.Decides metadata := by
        rintro ⟨-, result, input, -⟩
        exact settles ⟨result, input⟩
      by_cases registers : ∃ candidate stableId profileHash synthetic
          sourceDevice, taken.event.input = .mirrorCandidateRegistered candidate
            stableId profileHash synthetic sourceDevice
      · obtain ⟨candidate, stableId, profileHash, synthetic, sourceDevice,
          input⟩ := registers
        have other : candidate ≠ metadata.candidate := by
          intro same
          refine untouched ⟨handled, .inl ?_⟩
          rw [input]
          exact same
        rcases MirrorCandidateMetadata.registered_other other with
          ⟨displaces, way⟩ | ⟨stays, same⟩
        · refine .givesWay ⟨handled, ?_⟩ ?_ ?_
          · rw [input]
            exact displaces
          · rintro ⟨-, result, impossible, -⟩
            exact settles ⟨result, impossible⟩
          · rw [turned, input]
            exact way
        · refine .unconcerned ⟨undecided, ?_⟩ ?_
          · rintro ⟨-, displaces⟩
            rw [input] at displaces
            exact stays displaces
          · rw [turned, input, same]
            exact MirrorCandidateMetadata.unconcerned_same rfl rfl
      · refine .unconcerned ⟨undecided, ?_⟩ ?_
        · rintro ⟨-, displaces⟩
          cases input : taken.event.input with
          | mirrorCandidateRegistered candidate stableId profileHash synthetic
              sourceDevice =>
              exact registers ⟨_, _, _, _, _, input⟩
          | _ =>
              rw [input] at displaces
              exact displaces
        · rw [turned]
          apply MirrorCandidateMetadata.unconcerned_input
          · exact fun result input => settles ⟨result, input⟩
          · exact fun candidate stableId profileHash synthetic sourceDevice
              input => registers ⟨_, _, _, _, _, input⟩
          · exact fun deviceId source disconnects =>
              untouched ⟨handled, .inr ⟨deviceId, source, disconnects⟩⟩

theorem profileResult_cases (books : RuntimeBooks) (result : ProfileResult) :
    (books.profileResult result =
        { books with lastProfileResult := some result } ∧
      ∀ waiting, books.pendingMirrorCandidate = some waiting →
        waiting.profileHash ≠ result.profileHash) ∨
    ∃ waiting, books.pendingMirrorCandidate = some waiting ∧
      waiting.profileHash = result.profileHash ∧
      (books.profileResult result).pendingMirrorCandidate = none ∧
      (books.profileResult result).mirrorCandidates =
        if result.status.isStored then
          (books.mirrorCandidates.register waiting).getD books.mirrorCandidates
        else
          books.mirrorCandidates := by
  by_cases matched : books.pendingMirrorCandidate.any
      (·.profileHash = result.profileHash) = true
  · obtain ⟨waiting, is, same⟩ := (Option.any_eq_true _ _).mp matched
    refine .inr ⟨waiting, is, of_decide_eq_true same, ?_⟩
    rw [RuntimeBooks.profileResult_settled is (of_decide_eq_true same)]
    split
    · exact ⟨rfl, rfl⟩
    · exact ⟨rfl, rfl⟩
  · refine .inl ⟨RuntimeBooks.profileResult_noted
      (Bool.eq_false_iff.mpr matched), fun waiting is same => matched ?_⟩
    exact (Option.any_eq_true _ _).mpr ⟨waiting, is, decide_eq_true same⟩

theorem listed_getD (candidates : next.mirrorCandidates =
      (books.mirrorCandidates.register waiting).getD books.mirrorCandidates)
    (inRange : metadata.candidate.val.toNat < mirrorCandidateCapacity) :
    metadata.Listed next ↔
      waiting = metadata ∨
        waiting.candidate ≠ metadata.candidate ∧ metadata.Listed books := by
  unfold MirrorCandidateMetadata.Listed
  rw [candidates]
  by_cases same : waiting.candidate = metadata.candidate
  · have inside := @MirrorCandidateRegistry.register_isSome
      books.mirrorCandidates waiting
    rw [same, decide_eq_true inRange] at inside
    obtain ⟨listed, is⟩ := Option.isSome_iff_exists.mp inside
    rw [is, Option.getD_some, MirrorCandidateRegistry.get_register is,
      if_pos same.symm, Option.some.injEq]
    exact ⟨.inl, fun either => either.resolve_right fun other => other.1 same⟩
  · have other : waiting ≠ metadata := fun equal => same (equal ▸ rfl)
    cases is : books.mirrorCandidates.register waiting with
    | none => simp [same, other]
    | some listed =>
        rw [Option.getD_some, MirrorCandidateRegistry.get_register is,
          if_neg (Ne.symm same)]
        simp [same, other]

section

variable (inRange : metadata.candidate.val.toNat < mirrorCandidateCapacity)
    (turn : Turn taken metadata)

include inRange turn

theorem stays_turn (stays : metadata.Stays taken.before.books) :
    metadata.Stays taken.after.books := by
  obtain ⟨listed, alone⟩ := stays
  cases turn with
  | unconcerned waits turned =>
      refine ⟨turned.listed.mpr listed, ?_⟩
      rcases turned.pending with same | ⟨nothing, -⟩
      · rw [same]
        exact alone
      · rw [nothing]
        exact fun _ impossible => nomatch impossible
  | givesWay displaces decides turned =>
      exact ⟨turned.listed.mpr listed, fun waiting is same =>
        absurd same (turned.pending waiting is)⟩
  | result result handled input turned =>
      rw [turned]
      rcases profileResult_cases taken.before.books result with
        ⟨noted, -⟩ | ⟨waiting, is, -, nothing, candidates⟩
      · rw [noted]
        exact ⟨listed, alone⟩
      · refine ⟨?_, fun other impossible => ?_⟩
        · cases stored : result.status.isStored with
          | false =>
              rw [stored] at candidates
              unfold MirrorCandidateMetadata.Listed
              rw [candidates]
              exact listed
          | true =>
              rw [stored] at candidates
              refine (listed_getD candidates inRange).mpr ?_
              by_cases same : waiting.candidate = metadata.candidate
              · exact .inl (alone waiting is same)
              · exact .inr ⟨same, listed⟩
        · rw [nothing] at impossible
          cases impossible

theorem lost_turn (lost : metadata.Lost taken.before.books) :
    metadata.Lost taken.after.books := by
  obtain ⟨unlisted, others⟩ := lost
  cases turn with
  | unconcerned waits turned =>
      refine ⟨fun listed => unlisted (turned.listed.mp listed), ?_⟩
      rcases turned.pending with same | ⟨nothing, -⟩
      · rw [same]
        exact others
      · rw [nothing]
        exact fun _ impossible => nomatch impossible
  | givesWay displaces decides turned =>
      exact ⟨fun listed => unlisted (turned.listed.mp listed), turned.pending⟩
  | result result handled input turned =>
      rw [turned]
      rcases profileResult_cases taken.before.books result with
        ⟨noted, -⟩ | ⟨waiting, is, -, nothing, candidates⟩
      · rw [noted]
        exact ⟨unlisted, others⟩
      · refine ⟨fun listed => ?_, fun other impossible => ?_⟩
        · cases stored : result.status.isStored with
          | false =>
              rw [stored] at candidates
              unfold MirrorCandidateMetadata.Listed at listed
              rw [candidates] at listed
              exact unlisted listed
          | true =>
              rw [stored] at candidates
              rcases (listed_getD candidates inRange).mp listed with
                same | ⟨-, before⟩
              · exact others waiting is (same ▸ rfl)
              · exact unlisted before
        · rw [nothing] at impossible
          cases impossible

theorem waits_turn (waits : metadata.Waits taken.before.books) :
    (taken.Stores metadata ∧ metadata.Stays taken.after.books) ∨
    (¬ taken.Stores metadata ∧ (taken.Decides metadata ∨ taken.Displaces) ∧
      metadata.Lost taken.after.books) ∨
    (¬ taken.Decides metadata ∧ ¬ taken.Displaces ∧
      metadata.Waits taken.after.books) := by
  obtain ⟨unlisted, pending⟩ := waits
  cases turn with
  | unconcerned passes turned =>
      refine .inr (.inr ⟨passes.1, passes.2,
        fun listed => unlisted (turned.listed.mp listed), ?_⟩)
      rcases turned.pending with same | ⟨-, impossible⟩
      · exact same.trans pending
      · exact absurd pending impossible
  | givesWay displaces decides turned =>
      exact .inr (.inl ⟨decides, .inr displaces,
        fun listed => unlisted (turned.listed.mp listed), turned.pending⟩)
  | result result handled input turned =>
      have undisplaced : ¬ taken.Displaces := by
        rintro ⟨-, displaces⟩
        rw [input] at displaces
        exact displaces
      rw [turned]
      rcases profileResult_cases taken.before.books result with
        ⟨noted, other⟩ | ⟨waiting, is, same, nothing, candidates⟩
      · refine .inr (.inr ⟨?_, undisplaced, ?_⟩)
        · rintro ⟨-, decided, decides, same⟩
          rw [input] at decides
          cases decides
          exact other metadata pending same.symm
        · rw [noted]
          exact ⟨unlisted, pending⟩
      · obtain rfl := Option.some.inj (is.symm.trans pending)
        have emptied : ∀ other : MirrorCandidateMetadata,
            (taken.before.books.profileResult
              result).pendingMirrorCandidate ≠ some other := by
          intro other impossible
          rw [nothing] at impossible
          cases impossible
        cases stored : result.status.isStored with
        | false =>
            rw [stored] at candidates
            refine .inr (.inl ⟨?_, .inl ⟨handled, result, input, same.symm⟩,
              fun listed => ?_, fun other impossible =>
                absurd impossible (emptied other)⟩)
            · rintro ⟨-, decided, decides, -, accepted⟩
              rw [input] at decides
              cases decides
              rw [stored] at accepted
              cases accepted
            · unfold MirrorCandidateMetadata.Listed at listed
              rw [candidates] at listed
              exact unlisted listed
        | true =>
            rw [stored] at candidates
            exact .inl ⟨⟨handled, result, input, same.symm, stored⟩,
              (listed_getD candidates inRange).mpr (.inl rfl),
              fun other impossible => absurd impossible (emptied other)⟩

end

end MirrorStep

section

variable {start finish : BridgeRuntime} {later : List MirrorStep}
  {metadata : MirrorCandidateMetadata}

theorem kept_run {kept : RuntimeBooks → Prop}
    (turn : ∀ taken, MirrorStep.Turn taken metadata →
      kept taken.before.books → kept taken.after.books)
    (run : RuntimeRun .dual start later finish) (agrees : start.books.Agrees)
    (untouched : ∀ taken ∈ later, ¬ MirrorStep.Touches taken metadata)
    (holds : kept start.books) : kept finish.books := by
  induction run with
  | nil => exact holds
  | cons performed rest ih =>
      exact ih (performed_agrees agrees performed)
        (fun taken member => untouched taken (List.mem_cons_of_mem _ member))
        (turn _ (MirrorStep.turn_of_performed agrees performed
          (untouched _ List.mem_cons_self)) holds)

/-- The next result for the profile is that it is stored, and no other
candidate takes the place of the waiting one before. -/
def StoredNext (metadata : MirrorCandidateMetadata) (later : List MirrorStep) :
    Prop :=
  ∃ waiting deciding rest, later = waiting ++ deciding :: rest ∧
    MirrorStep.Stores deciding metadata ∧
    ∀ taken ∈ waiting, ¬ MirrorStep.Decides taken metadata ∧
      ¬ MirrorStep.Displaces taken

theorem storedNext_cons_iff :
    StoredNext metadata (taken :: later) ↔
      MirrorStep.Stores taken metadata ∨
        (¬ MirrorStep.Decides taken metadata ∧ ¬ MirrorStep.Displaces taken) ∧
          StoredNext metadata later := by
  constructor
  · rintro ⟨waiting, deciding, rest, split, stores, quiet⟩
    cases waiting with
    | nil =>
        cases split
        exact .inl stores
    | cons first waiting =>
        cases split
        exact .inr ⟨quiet _ List.mem_cons_self, waiting, deciding, rest, rfl,
          stores, fun taken member => quiet taken
            (List.mem_cons_of_mem _ member)⟩
  · rintro (stores | ⟨quiet, waiting, deciding, rest, rfl, stores, others⟩)
    · exact ⟨[], taken, later, rfl, stores, fun _ impossible =>
        absurd impossible List.not_mem_nil⟩
    · refine ⟨taken :: waiting, deciding, rest, rfl, stores, ?_⟩
      intro other member
      rcases List.mem_cons.mp member with rfl | inside
      · exact quiet
      · exact others other inside

theorem waits_run (run : RuntimeRun .dual start later finish)
    (agrees : start.books.Agrees)
    (inRange : metadata.candidate.val.toNat < mirrorCandidateCapacity)
    (untouched : ∀ taken ∈ later, ¬ MirrorStep.Touches taken metadata)
    (waits : metadata.Waits start.books) :
    metadata.Listed finish.books ↔ StoredNext metadata later := by
  induction run with
  | nil =>
      refine ⟨fun listed => absurd listed waits.1, ?_⟩
      rintro ⟨waiting, deciding, rest, impossible, -⟩
      exact absurd impossible.symm (List.append_ne_nil_of_right_ne_nil _
        (List.cons_ne_nil _ _))
  | cons performed rest ih =>
      have next := performed_agrees agrees performed
      have others := fun taken member =>
        untouched taken (List.mem_cons_of_mem _ member)
      rw [storedNext_cons_iff]
      rcases MirrorStep.waits_turn inRange (MirrorStep.turn_of_performed agrees
        performed (untouched _ List.mem_cons_self)) waits with
          ⟨stores, stays⟩ | ⟨unstored, ends, lost⟩ | ⟨undecided, kept, waits⟩
      · exact ⟨fun _ => .inl stores, fun _ =>
          (kept_run (fun _ => MirrorStep.stays_turn inRange) rest next others
            stays).1⟩
      · refine ⟨fun listed =>
          absurd listed (kept_run (fun _ => MirrorStep.lost_turn inRange) rest
            next others lost).1, ?_⟩
        rintro (stores | ⟨⟨undecided, kept⟩, -⟩)
        · exact absurd stores unstored
        · exact (ends.elim undecided kept).elim
      · rw [ih next others waits]
        refine ⟨fun stored => .inr ⟨⟨undecided, kept⟩, stored⟩, ?_⟩
        rintro (stores | ⟨-, stored⟩)
        · obtain ⟨handled, result, input, same, -⟩ := stores
          exact absurd ⟨handled, result, input, same⟩ undecided
        · exact stored

/-- A registered candidate becomes selectable exactly when its profile is the
one of the last result at its registration, when it was listed already, or
when the next result for its profile says it is stored and no other candidate
takes its place before. -/
theorem candidate_selectable_iff {hosts usbInterfaces : Nat}
    {storageGeneration : UInt32} {earlier : List MirrorStep}
    {entry : MirrorStep}
    (run : RuntimeRun .dual (.new hosts usbInterfaces storageGeneration)
      (earlier ++ entry :: later) finish)
    (registers : entry.event.input = metadata.registration)
    (handled : entry.Handled)
    (inRange : metadata.candidate.val.toNat < mirrorCandidateCapacity)
    (untouched : ∀ taken ∈ later, ¬ MirrorStep.Touches taken metadata) :
    finish.mirrorCandidates.get metadata.candidate = some metadata ↔
      entry.before.profileStored metadata.profileHash = true ∨
      entry.before.mirrorCandidates.get metadata.candidate = some metadata ∨
      StoredNext metadata later := by
  obtain ⟨reached, performed, rest⟩ := run.split_at
  have agrees := run_agrees reached
  have agreed := performed_agrees agrees performed
  have turned : entry.after.books =
      entry.before.books.registerCandidate metadata := by
    rcases performed_books agrees performed with
      ⟨refused, -⟩ | ⟨-, turned, -⟩
    · exact absurd handled refused
    · rw [turned, registers]
      rfl
  have ended : metadata.Stays entry.after.books →
      finish.mirrorCandidates.get metadata.candidate = some metadata :=
    fun stays => (kept_run (fun _ => MirrorStep.stays_turn inRange) rest
      agreed untouched stays).1
  have known : entry.before.books.profileStored metadata.profileHash =
      entry.before.profileStored metadata.profileHash := rfl
  cases stored : entry.before.profileStored metadata.profileHash with
  | true =>
      have inside := @MirrorCandidateRegistry.register_isSome
        entry.before.books.mirrorCandidates metadata
      rw [decide_eq_true inRange] at inside
      obtain ⟨listed, is⟩ := Option.isSome_iff_exists.mp inside
      rw [RuntimeBooks.registerCandidate_listed (known.trans stored) is]
        at turned
      refine ⟨fun _ => .inl rfl, fun _ => ended ⟨?_, ?_⟩⟩
      · rw [turned]
        exact (MirrorCandidateRegistry.get_register is).trans (if_pos rfl)
      · rw [turned]
        exact fun _ impossible => nomatch impossible
  | false =>
      rw [RuntimeBooks.registerCandidate_waits (known.trans stored)] at turned
      by_cases held : metadata.Listed entry.before.books
      · refine ⟨fun _ => .inr (.inl held), fun _ => ended ⟨?_, ?_⟩⟩
        · rw [turned]
          exact held
        · rw [turned]
          exact fun waiting is _ => (Option.some.inj is).symm
      · have waits : metadata.Waits entry.after.books := by
          rw [turned]
          exact ⟨held, rfl⟩
        have iff := waits_run rest agreed inRange untouched waits
        refine ⟨fun selectable => .inr (.inr (iff.mp selectable)), ?_⟩
        rintro (impossible | listed | next)
        · exact absurd impossible Bool.false_ne_true
        · exact absurd listed held
        · exact iff.mpr next

end

namespace RuntimeScenario

def performed (runtime : BridgeRuntime) (input : RuntimeInput .dual) :
    MirrorStep :=
  ⟨runtime, call input, (runtime.perform (call input)).2,
    (runtime.perform (call input)).1⟩

def serial (hash : UInt32) : MirrorStableId :=
  ⟨1, 1, some hash, 0, .empty, .inl (Option.some_ne_none hash)⟩

def firstDevice : MirrorCandidateMetadata :=
  ⟨⟨0⟩, serial 7, 1, false, some ⟨1⟩⟩

def secondDevice : MirrorCandidateMetadata :=
  ⟨⟨1⟩, serial 8, 2, false, some ⟨2⟩⟩

def accepted (profileHash : UInt32) : RuntimeInput .dual :=
  .deviceProfileResult ⟨1, profileHash, .accepted, 0, 0⟩

def registered : MirrorStep :=
  performed (.new storedHostsMax runtimeUsbInterfacesMax 0)
    firstDevice.registration

def stored : MirrorStep := performed registered.after (accepted 1)

def between : MirrorStep := performed registered.after secondDevice.registration

def firstStored : MirrorStep := performed between.after (accepted 1)

def secondStored : MirrorStep := performed firstStored.after (accepted 2)

end RuntimeScenario

open RuntimeScenario in
theorem single_candidate_selectable :
    stored.after.mirrorCandidates.get ⟨0⟩ = some firstDevice := by
  have run : RuntimeRun .dual _ ([] ++ registered :: [stored]) stored.after :=
    .cons rfl (.cons rfl (.nil _))
  have handled : registered.Handled := by
    unfold MirrorStep.Handled RuntimeCall.Handled
    decide +kernel
  have accepts : stored.Handled := by
    unfold MirrorStep.Handled RuntimeCall.Handled
    decide +kernel
  have untouched : ∀ taken ∈ [stored],
      ¬ MirrorStep.Touches taken firstDevice := by
    intro taken member
    obtain rfl := List.mem_singleton.mp member
    rintro ⟨-, impossible | ⟨deviceId, -, impossible⟩⟩
    · exact impossible
    · exact impossible
  exact (candidate_selectable_iff run rfl handled (by decide) untouched).mpr
    (.inr (.inr ⟨[], stored, [], rfl, ⟨accepts, _, rfl, rfl, rfl⟩,
      fun _ impossible => absurd impossible List.not_mem_nil⟩))

open RuntimeScenario in
/-- A second device registers before the profile of the first is stored: the
first never becomes selectable, though both are stored. -/
theorem interleaved_candidate_lost :
    RuntimeRun .dual (.new storedHostsMax runtimeUsbInterfacesMax 0)
      [registered, between, firstStored, secondStored] secondStored.after ∧
    registered.event.input = firstDevice.registration ∧ registered.Handled ∧
    firstDevice.candidate.val.toNat < mirrorCandidateCapacity ∧
    (∀ taken ∈ [between, firstStored, secondStored],
      ¬ MirrorStep.Touches taken firstDevice) ∧
    firstStored.Stores firstDevice ∧ ¬ secondStored.Decides firstDevice ∧
    secondStored.after.mirrorCandidates.get ⟨0⟩ = none := by
  have handled : registered.Handled ∧ firstStored.Handled := by
    unfold MirrorStep.Handled RuntimeCall.Handled
    decide +kernel
  refine ⟨.cons rfl (.cons rfl (.cons rfl (.cons rfl (.nil _)))), rfl,
    handled.1, by decide, ?_, ⟨handled.2, _, rfl, rfl, rfl⟩, ?_, ?_⟩
  · intro taken member
    simp only [List.mem_cons, List.not_mem_nil, or_false] at member
    rcases member with rfl | rfl | rfl
    · rintro ⟨-, impossible | ⟨deviceId, -, impossible⟩⟩
      · exact absurd impossible
          (show secondDevice.candidate ≠ firstDevice.candidate by decide)
      · exact impossible
    · rintro ⟨-, impossible | ⟨deviceId, -, impossible⟩⟩
      · exact impossible
      · exact impossible
    · rintro ⟨-, impossible | ⟨deviceId, -, impossible⟩⟩
      · exact impossible
      · exact impossible
  · rintro ⟨-, result, is, same⟩
    cases is
    exact absurd same (by decide)
  · decide +kernel

end HidShift
