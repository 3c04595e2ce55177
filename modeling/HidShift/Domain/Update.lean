import HidShift.Lib.Run

/-! Firmware updates of the two boards (`domain/update.rs`). -/

namespace HidShift

open Lib

inductive FirmwareNode
  | host
  | device
deriving DecidableEq

def FirmwareNode.slot {α : Type} (node : FirmwareNode) (host device : α) : α :=
  match node with
  | .host => host
  | .device => device

inductive UpdateTarget
  | host
  | device
  | both

def UpdateTarget.requires : UpdateTarget → FirmwareNode → Bool
  | .both, _ => true
  | .host, node => node = .host
  | .device, node => node = .device

structure ImageMetadata where
  node : FirmwareNode
  size : UInt32
  sha256 : Vector UInt8 32
  version : Vector UInt8 3
deriving DecidableEq

inductive FirmwareUpdatePhase
  | idle
  | staging
  | ready
  | rebootPending
  | healthCheck
  | committed
  | rolledBack
deriving DecidableEq

inductive FirmwareUpdateError
  | invalidPhase
  | wrongOffset
  | imageTooLarge
  | hashMismatch
  | missingNode
  | bundleMismatch
deriving DecidableEq

structure FirmwareUpdate where
  phase : FirmwareUpdatePhase
  target : UpdateTarget
  bundleId : Vector UInt8 16
  host : Option ImageMetadata
  device : Option ImageMetadata
  hostReceived : UInt32
  deviceReceived : UInt32

abbrev UpdateAnswer := FirmwareUpdate × Except FirmwareUpdateError Unit

namespace FirmwareUpdate

def maxImageSize : UInt32 := 0x180000

def new : FirmwareUpdate :=
  ⟨.idle, .host, .replicate 16 0, none, none, 0, 0⟩

def image (update : FirmwareUpdate) (node : FirmwareNode) :
    Option ImageMetadata :=
  node.slot update.host update.device

def received (update : FirmwareUpdate) (node : FirmwareNode) : UInt32 :=
  node.slot update.hostReceived update.deviceReceived

def setReceived (update : FirmwareUpdate) (node : FirmwareNode)
    (total : UInt32) : FirmwareUpdate :=
  node.slot { update with hostReceived := total }
    { update with deviceReceived := total }

def tooLarge (image : ImageMetadata) : Bool := maxImageSize < image.size

def begin (update : FirmwareUpdate) (target : UpdateTarget)
    (bundleId : Vector UInt8 16) (host device : Option ImageMetadata) :
    UpdateAnswer :=
  if update.phase ≠ .idle ∧ update.phase ≠ .committed ∧
      update.phase ≠ .rolledBack then
    (update, .error .invalidPhase)
  else if target.requires .host ≠ host.isSome ∨
      target.requires .device ≠ device.isSome then
    (update, .error .missingNode)
  else if host.any tooLarge ∨ device.any tooLarge then
    (update, .error .imageTooLarge)
  else
    (⟨.staging, target, bundleId, host, device, 0, 0⟩, .ok ())

/-- `checked_add`, then the bound on the total. -/
def extended (received length size : UInt32) : Option UInt32 :=
  if received.toNat + length.toNat < UInt32.size ∧
      received + length ≤ size then
    some (received + length)
  else
    none

def acceptChunk (update : FirmwareUpdate) (node : FirmwareNode)
    (offset length : UInt32) : UpdateAnswer :=
  if update.phase ≠ .staging then
    (update, .error .invalidPhase)
  else
    match update.image node with
    | none => (update, .error .missingNode)
    | some metadata =>
        if offset ≠ update.received node then
          (update, .error .wrongOffset)
        else
          match extended (update.received node) length metadata.size with
          | none => (update, .error .imageTooLarge)
          | some total => (update.setReceived node total, .ok ())

/-- An image that is not complete or has another hash. -/
def unverified (update : FirmwareUpdate) (node : FirmwareNode)
    (hash : Option (Vector UInt8 32)) : Bool :=
  (update.image node).any fun image =>
    update.received node ≠ image.size ∨ hash ≠ some image.sha256

def verify (update : FirmwareUpdate)
    (hostHash deviceHash : Option (Vector UInt8 32)) : UpdateAnswer :=
  if update.phase ≠ .staging then
    (update, .error .invalidPhase)
  else if update.unverified .host hostHash ∨
      update.unverified .device deviceHash then
    (update, .error .hashMismatch)
  else
    ({ update with phase := .ready }, .ok ())

def requestReboot (update : FirmwareUpdate) : UpdateAnswer :=
  if update.phase ≠ .ready then
    (update, .error .invalidPhase)
  else
    ({ update with phase := .rebootPending }, .ok ())

def startHealthCheck (update : FirmwareUpdate)
    (bundleId : Vector UInt8 16) : UpdateAnswer :=
  if update.phase ≠ .rebootPending then
    (update, .error .invalidPhase)
  else if bundleId ≠ update.bundleId then
    ({ update with phase := .rolledBack }, .error .bundleMismatch)
  else
    ({ update with phase := .healthCheck }, .ok ())

def finishHealthCheck (update : FirmwareUpdate) (healthy : Bool) :
    UpdateAnswer :=
  if update.phase ≠ .healthCheck then
    (update, .error .invalidPhase)
  else
    ({ update with phase := if healthy then .committed else .rolledBack },
      .ok ())

end FirmwareUpdate

inductive UpdateCall
  | begin (target : UpdateTarget) (bundleId : Vector UInt8 16)
      (host device : Option ImageMetadata)
  | acceptChunk (node : FirmwareNode) (offset length : UInt32)
  | verify (hostHash deviceHash : Option (Vector UInt8 32))
  | requestReboot
  | startHealthCheck (bundleId : Vector UInt8 16)
  | finishHealthCheck (healthy : Bool)

def FirmwareUpdate.perform (update : FirmwareUpdate) :
    UpdateCall → UpdateAnswer
  | .begin target bundleId host device =>
      update.begin target bundleId host device
  | .acceptChunk node offset length => update.acceptChunk node offset length
  | .verify hostHash deviceHash => update.verify hostHash deviceHash
  | .requestReboot => update.requestReboot
  | .startHealthCheck bundleId => update.startHealthCheck bundleId
  | .finishHealthCheck healthy => update.finishHealthCheck healthy

namespace FirmwareUpdate

abbrev UpdateStep :=
  Transition FirmwareUpdate UpdateCall (Except FirmwareUpdateError Unit)

/-- The chunk of a node that a call brought. -/
def UpdateStep.chunk (node : FirmwareNode) (taken : UpdateStep) :
    Option (UInt32 × UInt32) :=
  match taken.event, taken.output with
  | .acceptChunk other offset length, .ok () =>
      if other = node then some (offset, length) else none
  | _, _ => none

def Contiguous : Nat → List (UInt32 × UInt32) → Nat → Prop
  | start, [], finish => start = finish
  | start, (offset, length) :: rest, finish =>
      offset.toNat = start ∧ Contiguous (start + length.toNat) rest finish

def Succeeded (history : List UpdateStep) (call : UpdateCall) : Prop :=
  ∃ taken ∈ history, taken.event = call ∧ taken.output = .ok ()

/-- The calls since the last `begin` that succeeded: the one that chose the
target and the images. -/
def Since (history : List UpdateStep) (update : FirmwareUpdate)
    (later : List UpdateStep) : Prop :=
  ∃ earlier began, history = earlier ++ began :: later ∧
    began.event =
      .begin update.target update.bundleId update.host update.device ∧
    began.output = .ok () ∧
    ∀ target bundleId host device,
      ¬ Succeeded later (.begin target bundleId host device)

/-- The image came whole, and then its hash was right. -/
def Verified (later : List UpdateStep) (node : FirmwareNode)
    (image : ImageMetadata) : Prop :=
  ∃ before verified after hostHash deviceHash,
    later = before ++ verified :: after ∧
    Contiguous 0 (before.filterMap (·.chunk node)) image.size.toNat ∧
    verified.event = .verify hostHash deviceHash ∧
    verified.output = .ok () ∧
    node.slot hostHash deviceHash = some image.sha256

/-- The bundle was checked and then found healthy. -/
def Checked (later : List UpdateStep) (bundleId : Vector UInt8 16) : Prop :=
  ∃ before after, later = before ++ after ∧
    Succeeded before (.startHealthCheck bundleId) ∧
      Succeeded after (.finishHealthCheck true)

/-- Every image is there and verified. -/
def staged (update : FirmwareUpdate) : Bool :=
  update.phase matches .ready | .rebootPending | .healthCheck | .committed

/-- What a run must have done to come into its phase. -/
def Justified (history : List UpdateStep) (update : FirmwareUpdate) : Prop :=
  update.staged = true →
    ∃ later, Since history update later ∧
      (∀ node, update.target.requires node = true →
        ∃ image, update.image node = some image ∧ image.node = node ∧
          Verified later node image) ∧
      (update.phase = .committed → Checked later update.bundleId)

/-- The checks of `begin`. -/
structure Accepts (update : FirmwareUpdate) (target : UpdateTarget)
    (host device : Option ImageMetadata) : Prop where
  resting : update.phase = .idle ∨ update.phase = .committed ∨
    update.phase = .rolledBack
  wanted : ∀ node, target.requires node =
    (FirmwareNode.slot node host device).isSome
  small : ¬ (host.any tooLarge ∨ device.any tooLarge)

/-- The images of a `begin` that passes its checks name their nodes. -/
def Named (update : FirmwareUpdate) : UpdateCall → Prop
  | .begin target _ host device =>
      update.Accepts target host device → ∀ node image,
        FirmwareNode.slot node host device = some image → image.node = node
  | _ => True

variable {update after : FirmwareUpdate} {history later : List UpdateStep}
  {taken : UpdateStep} {call : UpdateCall}

theorem begin_ok {target : UpdateTarget} {bundleId : Vector UInt8 16}
    {host device : Option ImageMetadata}
    (done : update.begin target bundleId host device = (after, .ok ())) :
    update.Accepts target host device ∧
      after = ⟨.staging, target, bundleId, host, device, 0, 0⟩ := by
  rw [begin] at done
  split_ifs at done with phase wanted large
  · cases done
  · cases done
  · cases done
  · cases done
    refine ⟨⟨?_, fun node => ?_, large⟩, rfl⟩
    · tauto
    · cases node
      · exact not_not.mp (not_or.mp wanted).1
      · exact not_not.mp (not_or.mp wanted).2

theorem acceptChunk_ok
    (done : update.acceptChunk node offset length = (after, .ok ())) :
    update.phase = .staging ∧ offset = update.received node ∧
      ∃ total, after = update.setReceived node total ∧
        total.toNat = (update.received node).toNat + length.toNat := by
  rw [acceptChunk] at done
  split at done
  · cases done
  · rename_i phase
    split at done
    · cases done
    · split at done
      · cases done
      · rename_i place
        split at done
        · cases done
        · rename_i total fits
          cases done
          rw [extended] at fits
          split at fits
          · rename_i room
            cases fits
            refine ⟨not_not.mp phase, not_not.mp place, _, rfl, ?_⟩
            rw [UInt32.toNat_add, Nat.mod_eq_of_lt room.1]
          · cases fits

theorem verify_ok (done : update.verify hostHash deviceHash = (after, .ok ())) :
    update.phase = .staging ∧ after = { update with phase := .ready } ∧
      ∀ node image, update.image node = some image →
        update.received node = image.size ∧
          node.slot hostHash deviceHash = some image.sha256 := by
  rw [verify] at done
  split_ifs at done with phase wrong
  · cases done
  · cases done
  · cases done
    refine ⟨not_not.mp phase, rfl, fun node image held => ?_⟩
    have right : ¬ update.unverified node (node.slot hostHash deviceHash) := by
      cases node
      · exact (not_or.mp wrong).1
      · exact (not_or.mp wrong).2
    simpa [unverified, held] using right

theorem requestReboot_ok (done : update.requestReboot = (after, .ok ())) :
    update.phase = .ready ∧
      after = { update with phase := .rebootPending } := by
  rw [requestReboot] at done
  split_ifs at done with phase
  · cases done
  · cases done
    exact ⟨not_not.mp phase, rfl⟩

theorem startHealthCheck_ok {bundleId : Vector UInt8 16}
    (done : update.startHealthCheck bundleId = (after, .ok ())) :
    update.phase = .rebootPending ∧ bundleId = update.bundleId ∧
      after = { update with phase := .healthCheck } := by
  rw [startHealthCheck] at done
  split_ifs at done with phase bundle
  · cases done
  · cases done
  · cases done
    exact ⟨not_not.mp phase, not_not.mp bundle, rfl⟩

theorem finishHealthCheck_ok
    (done : update.finishHealthCheck healthy = (after, .ok ())) :
    update.phase = .healthCheck ∧ after = { update with
      phase := if healthy then .committed else .rolledBack } := by
  rw [finishHealthCheck] at done
  by_cases phase : update.phase = .healthCheck
  · rw [if_neg (not_not_intro phase)] at done
    cases done
    exact ⟨phase, rfl⟩
  · rw [if_pos phase] at done
    cases done

theorem perform_failed (failed : update.perform call = (after, .error error)) :
    after = if error = .bundleMismatch then
      { update with phase := .rolledBack } else update := by
  cases call with
  | begin target bundleId host device =>
      rw [perform, begin] at failed
      split_ifs at failed <;> cases failed <;> rfl
  | acceptChunk node offset length =>
      rw [perform, acceptChunk] at failed
      repeat' split at failed
      all_goals
        cases failed
        try rfl
  | verify hostHash deviceHash =>
      rw [perform, verify] at failed
      split_ifs at failed <;> cases failed <;> rfl
  | requestReboot =>
      rw [perform, requestReboot] at failed
      split_ifs at failed
      all_goals
        cases failed
        try rfl
  | startHealthCheck bundleId =>
      rw [perform, startHealthCheck] at failed
      split_ifs at failed <;> cases failed <;> rfl
  | finishHealthCheck healthy =>
      rw [perform, finishHealthCheck] at failed
      by_cases phase : update.phase = .healthCheck
      · rw [if_neg (not_not_intro phase)] at failed
        cases failed
      · rw [if_pos phase] at failed
        cases failed
        rfl

theorem Contiguous.append {start middle : Nat}
    {chunks : List (UInt32 × UInt32)}
    (contiguous : Contiguous start chunks middle) {offset : UInt32}
    (place : offset.toNat = middle) (length : UInt32) :
    Contiguous start (chunks ++ [(offset, length)])
      (middle + length.toNat) := by
  induction chunks generalizing start with
  | nil =>
      cases contiguous
      exact ⟨place, rfl⟩
  | cons chunk rest ih => exact ⟨contiguous.1, ih contiguous.2⟩

theorem Succeeded.append (succeeded : Succeeded later call)
    (more : List UpdateStep) : Succeeded (later ++ more) call := by
  obtain ⟨taken, member, done⟩ := succeeded
  exact ⟨taken, List.mem_append_left _ member, done⟩

theorem Verified.append {node : FirmwareNode} {image : ImageMetadata}
    (verified : Verified later node image) (more : List UpdateStep) :
    Verified (later ++ more) node image := by
  obtain ⟨before, taken, rest, hostHash, deviceHash, rfl, proof⟩ := verified
  exact ⟨before, taken, rest ++ more, hostHash, deviceHash,
    List.append_assoc .., proof⟩

theorem Checked.append {bundleId : Vector UInt8 16}
    (checked : Checked later bundleId) (more : List UpdateStep) :
    Checked (later ++ more) bundleId := by
  obtain ⟨before, rest, rfl, started, finished⟩ := checked
  exact ⟨before, rest ++ more, List.append_assoc .., started,
    finished.append more⟩

/-- The evidence that the calls since `begin` leave for each phase. -/
structure Progress (later : List UpdateStep) (update : FirmwareUpdate) :
    Prop where
  wanted : ∀ node, update.target.requires node = (update.image node).isSome
  named : ∀ node image, update.image node = some image → image.node = node
  staging : update.phase = .staging → ∀ node,
    Contiguous 0 (later.filterMap (·.chunk node)) (update.received node).toNat
  verified : update.staged = true → ∀ node image,
    update.image node = some image → Verified later node image
  started : update.phase = .healthCheck →
    Succeeded later (.startHealthCheck update.bundleId)
  finished : update.phase = .committed → Checked later update.bundleId

theorem Progress.rephase (progress : Progress later update)
    {phase : FirmwareUpdatePhase} (taken : UpdateStep)
    (staging : phase = .staging →
      update.phase = .staging ∧ ∀ node, taken.chunk node = none)
    (verified : staged { update with phase := phase } = true →
      update.staged = true ∨ ∀ node image, update.image node = some image →
        Verified (later ++ [taken]) node image)
    (started : phase = .healthCheck → update.phase = .healthCheck ∨
      Succeeded (later ++ [taken]) (.startHealthCheck update.bundleId))
    (finished : phase = .committed → update.phase = .committed ∨
      Checked (later ++ [taken]) update.bundleId) :
    Progress (later ++ [taken]) { update with phase := phase } where
  wanted := progress.wanted
  named := progress.named
  staging now node := by
    obtain ⟨before, quiet⟩ := staging now
    rw [List.filterMap_append, List.filterMap_cons, quiet]
    rw [List.filterMap_nil, List.append_nil]
    exact progress.staging before node
  verified now node image held := by
    obtain before | here := verified now
    · exact (progress.verified before node image held).append [taken]
    · exact here node image held
  started now := by
    obtain before | here := started now
    · exact (progress.started before).append [taken]
    · exact here
  finished now := by
    obtain before | here := finished now
    · exact (progress.finished before).append [taken]
    · exact here

theorem Since.append (since : Since history update later)
    (other : ∀ target bundleId host device,
      taken.event = .begin target bundleId host device →
        taken.output ≠ .ok ()) :
    Since (history ++ [taken]) update (later ++ [taken]) := by
  obtain ⟨earlier, began, rfl, called, done, last⟩ := since
  refine ⟨earlier, began, by simp, called, done, ?_⟩
  rintro target bundleId host device ⟨made, member, event, output⟩
  rcases List.mem_append.mp member with old | new
  · exact last target bundleId host device ⟨made, old, event, output⟩
  · cases List.mem_singleton.mp new
    exact other target bundleId host device event output

/-- Nothing is under way, or all that led here is known. -/
def Known (history : List UpdateStep) (update : FirmwareUpdate) : Prop :=
  (update.phase = .idle ∨ update.phase = .rolledBack) ∨
    ∃ later, Since history update later ∧ Progress later update

theorem Known.active (known : Known history update)
    {phase : FirmwareUpdatePhase} (now : update.phase = phase)
    (active : phase ≠ .idle ∧ phase ≠ .rolledBack) :
    ∃ later, Since history update later ∧ Progress later update := by
  refine known.resolve_left fun resting => ?_
  rw [now] at resting
  exact resting.elim active.1 active.2

theorem chunk_quiet (taken : UpdateStep)
    (quiet : ∀ node offset length, taken.event = .acceptChunk node offset length →
      taken.output ≠ .ok ()) (node : FirmwareNode) :
    taken.chunk node = none := by
  rw [UpdateStep.chunk]
  split
  · rename_i other offset length event output
    exact absurd output (quiet other offset length event)
  · rfl

theorem Known.failed (known : Known history update)
    (failed : update.perform call = (after, .error error)) :
    Known (history ++ [⟨update, call, .error error, after⟩]) after := by
  have left := perform_failed failed
  rcases known with resting | ⟨later, since, progress⟩
  · rw [left]
    split
    · exact .inl (.inr rfl)
    · exact .inl resting
  · have next := @Since.append _ _ _ ⟨update, call, .error error, after⟩ since
      fun _ _ _ _ _ done => by cases done
    have quiet := chunk_quiet ⟨update, call, .error error, after⟩
      fun _ _ _ _ done => by cases done
    right
    by_cases mismatch : error = .bundleMismatch
    · rw [if_pos mismatch] at left
      subst left
      refine ⟨_, next, progress.rephase _ ?_ ?_ ?_ ?_⟩
      all_goals
        intro now
        cases now
    · rw [if_neg mismatch] at left
      subst left
      exact ⟨_, next, @Progress.rephase _ _ progress after.phase _
        (fun now => ⟨now, quiet⟩) .inl .inl .inl⟩

theorem Known.begin (target : UpdateTarget) (bundleId : Vector UInt8 16)
    (host device : Option ImageMetadata)
    (done : update.begin target bundleId host device = (after, .ok ()))
    (named : update.Named (.begin target bundleId host device)) :
    Known (history ++
      [⟨update, .begin target bundleId host device, .ok (), after⟩]) after := by
  obtain ⟨accepts, rfl⟩ := begin_ok done
  refine .inr ⟨[], ⟨history, _, rfl, rfl, rfl, ?_⟩, accepts.wanted,
    named accepts, ?_, ?_, ?_, ?_⟩
  · rintro _ _ _ _ ⟨_, member, -⟩
    cases member
  · intro _ node
    cases node <;> rfl
  all_goals
    intro now
    cases now

theorem Known.acceptChunk (known : Known history update) (node : FirmwareNode)
    (offset length : UInt32)
    (done : update.acceptChunk node offset length = (after, .ok ())) :
    Known (history ++
      [⟨update, .acceptChunk node offset length, .ok (), after⟩]) after := by
  obtain ⟨phase, place, total, rfl, sum⟩ := acceptChunk_ok done
  obtain ⟨later, since, progress⟩ := known.active phase (by simp)
  have before := progress.staging phase
  generalize made : (⟨update, .acceptChunk node offset length, .ok (),
    update.setReceived node total⟩ : UpdateStep) = taken
  have next : Since (history ++ [taken]) update (later ++ [taken]) :=
    since.append fun _ _ _ _ event => by
      rw [← made] at event
      cases event
  have grown := (before node).append (congrArg UInt32.toNat place) length
  rw [← sum] at grown
  refine .inr ⟨later ++ [taken], by cases node <;> exact next, ?_, ?_, ?_, ?_,
    ?_, ?_⟩
  · cases node <;> exact progress.wanted
  · cases node <;> exact progress.named
  · intro _ other
    rw [List.filterMap_append, ← made]
    by_cases same : node = other
    · subst same
      have own : (update.setReceived node total).received node = total := by
        cases node <;> rfl
      rw [own]
      simpa [UpdateStep.chunk] using grown
    · have kept : (update.setReceived node total).received other =
          update.received other := by
        cases node <;> cases other <;> first | rfl | exact absurd rfl same
      rw [kept]
      simpa [UpdateStep.chunk, same] using before other
  all_goals
    intro now
    cases node <;> simp [staged, setReceived, FirmwareNode.slot, phase] at now

theorem Known.perform (known : Known history update) (named : update.Named call)
    (performed : update.perform call = (after, output)) :
    Known (history ++ [⟨update, call, output, after⟩]) after := by
  obtain error | done := output
  · exact known.failed performed
  cases call with
  | begin target bundleId host device =>
      exact .begin target bundleId host device performed named
  | acceptChunk node offset length =>
      exact known.acceptChunk node offset length performed
  | verify hostHash deviceHash =>
      obtain ⟨phase, rfl, right⟩ := verify_ok performed
      obtain ⟨later, since, progress⟩ := known.active phase (by simp)
      refine .inr ⟨_, since.append (fun _ _ _ _ event => by cases event),
        progress.rephase _ (fun now => by cases now) (fun _ => .inr ?_)
          (fun now => by cases now) (fun now => by cases now)⟩
      intro node image held
      refine ⟨later, _, [], hostHash, deviceHash, rfl, ?_, rfl, rfl,
        (right node image held).2⟩
      rw [← (right node image held).1]
      exact progress.staging phase node
  | requestReboot =>
      obtain ⟨phase, rfl⟩ := requestReboot_ok performed
      obtain ⟨later, since, progress⟩ := known.active phase (by simp)
      exact .inr ⟨_, since.append (fun _ _ _ _ event => by cases event),
        progress.rephase _ (fun now => by cases now)
          (fun _ => .inl (by simp [staged, phase]))
          (fun now => by cases now) (fun now => by cases now)⟩
  | startHealthCheck bundleId =>
      obtain ⟨phase, rfl, rfl⟩ := startHealthCheck_ok performed
      obtain ⟨later, since, progress⟩ := known.active phase (by simp)
      exact .inr ⟨_, since.append (fun _ _ _ _ event => by cases event),
        progress.rephase _ (fun now => by cases now)
          (fun _ => .inl (by simp [staged, phase]))
          (fun _ => .inr ⟨_, List.mem_append_right _
            (List.mem_singleton_self _), rfl, rfl⟩)
          (fun now => by cases now)⟩
  | finishHealthCheck healthy =>
      obtain ⟨phase, rfl⟩ := finishHealthCheck_ok performed
      obtain ⟨later, since, progress⟩ := known.active phase (by simp)
      cases healthy with
      | false => exact .inl (.inr rfl)
      | true =>
          exact .inr ⟨_, since.append (fun _ _ _ _ event => by cases event),
            progress.rephase _ (fun now => by cases now)
              (fun _ => .inl (by simp [staged, phase]))
              (fun now => by cases now)
              (fun _ => .inr ⟨later, _, rfl, progress.started phase, _,
                List.mem_singleton_self _, rfl, rfl⟩)⟩

theorem Known.justified (known : Known history update) :
    Justified history update := by
  intro staged
  obtain ⟨later, since, progress⟩ := known.resolve_left fun resting => by
    rcases resting with now | now <;> simp [FirmwareUpdate.staged, now] at staged
  refine ⟨later, since, fun node wanted => ?_, progress.finished⟩
  rw [progress.wanted] at wanted
  obtain ⟨image, held⟩ := Option.isSome_iff_exists.mp wanted
  exact ⟨image, held, progress.named node image held,
    progress.verified staged node image held⟩

/-- In a run whose accepted `begin` calls name the nodes of their images, every
phase is justified by the calls since the last of them. -/
theorem update_safe (calls : List UpdateCall)
    (named : ∀ taken ∈ Run.trace perform new calls,
      taken.before.Named taken.event) :
    Justified (Run.trace perform new calls) (Run.final perform new calls) ∧
      ∀ taken ∈ Run.trace perform new calls, ∀ error,
        taken.output = .error error →
          taken.after = if error = .bundleMismatch then
            { taken.before with phase := .rolledBack } else taken.before := by
  have run := Run.of_trace perform new calls
  constructor
  · refine (run.invariant_history Known (.inl (.inl rfl)) ?_).justified
    intro earlier taken later split performed known
    refine known.perform (named taken ?_) performed
    rw [split]
    simp
  · intro taken member error failed
    have performed := run.step_of_mem member
    rw [failed] at performed
    exact perform_failed performed

/-- A host update that carries an image of some node. -/
def hostCalls (node : FirmwareNode) : List UpdateCall :=
  [.begin .host (.replicate 16 7)
      (some ⟨node, 16, .replicate 32 1, .replicate 3 1⟩) none,
    .acceptChunk .host 0 8, .acceptChunk .host 8 8,
    .verify (some (.replicate 32 1)) none, .requestReboot,
    .startHealthCheck (.replicate 16 7), .finishHealthCheck true]

theorem update_safe_host :
    (Run.final perform new (hostCalls .host)).phase = .committed ∧
      Justified (Run.trace perform new (hostCalls .host))
        (Run.final perform new (hostCalls .host)) := by
  refine ⟨by decide, (update_safe (hostCalls .host) ?_).1⟩
  refine List.forall_mem_cons.mpr ⟨fun _ node image held => ?_, ?_⟩
  · cases node with
    | host =>
        cases held
        rfl
    | device => cases held
  · repeat' refine List.forall_mem_cons.mpr ⟨trivial, ?_⟩
    exact fun _ member => by cases member

/-- The device's image is taken for the host's. -/
theorem update_unsafe :
    ¬ ∀ calls : List UpdateCall,
      Justified (Run.trace perform new calls) (Run.final perform new calls) ∧
        ∀ taken ∈ Run.trace perform new calls, ∀ error,
          taken.output = .error error →
            taken.after = if error = .bundleMismatch then
              { taken.before with phase := .rolledBack } else taken.before := by
  intro safe
  obtain ⟨later, -, wanted, -⟩ := (safe (hostCalls .device)).1 (by decide)
  obtain ⟨image, held, node, -⟩ := wanted .host (by decide)
  have wrong : (Run.final perform new (hostCalls .device)).image .host =
      some ⟨.device, 16, .replicate 32 1, .replicate 3 1⟩ := by
    decide
  cases wrong.symm.trans held
  cases node

end FirmwareUpdate

end HidShift
