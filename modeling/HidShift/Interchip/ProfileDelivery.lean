import HidShift.Interchip.ProfileTransfer

namespace HidShift

open Lib Lib.Checked

namespace ProfileTransferReceiver

/-- The staging buffer holds what is received and what is published, one at a
time. -/
structure Sound (receiver : ProfileTransferReceiver) : Prop where
  alone : receiver.active = none ∨ receiver.committed = none
  active : ∀ state, receiver.active = some state →
    state.nextOffset ≤ state.begin.totalLength.toNat ∧
      state.begin.totalLength.toNat ≤ receiver.staging.length
  committed : ∀ profile, receiver.committed = some profile →
    profile.length ≤ receiver.staging.length

variable {receiver after : ProfileTransferReceiver}

theorem sound_new (staging : List UInt8) : (new staging).Sound where
  alone := .inl rfl
  active _ impossible := nomatch impossible
  committed _ impossible := nomatch impossible

theorem Sound.cancel (sound : receiver.Sound) : receiver.cancel.Sound where
  alone := .inl rfl
  active _ impossible := nomatch impossible
  committed := sound.committed

theorem begin_cases (receiver : ProfileTransferReceiver)
    (start : ProfileBegin) :
    (∃ error, receiver.begin start = (receiver, .error error)) ∨
      (receiver.active = none ∧ receiver.committed = none ∧
        start.totalLength.toNat ≤ receiver.staging.length ∧
        receiver.begin start =
          ({ receiver with active := some { begin := start, nextOffset := 0 } },
            .ok ())) := by
  simp only [begin]
  split
  · exact .inl ⟨_, rfl⟩
  rename_i free
  split
  · exact .inl ⟨_, rfl⟩
  rename_i fits
  simp only [not_or, not_not] at free fits
  exact .inr ⟨free.1, free.2, by omega, rfl⟩

section

variable (sound : receiver.Sound)

include sound

theorem Sound.begin_kept (start : ProfileBegin) :
    (receiver.begin start).1.Sound := by
  rcases begin_cases receiver start with
    ⟨error, refused⟩ | ⟨-, unpublished, room, accepted⟩
  · rw [refused]
    exact sound
  · rw [accepted]
    refine ⟨.inr unpublished, ?_, sound.committed⟩
    intro state active
    cases active
    exact ⟨Nat.zero_le _, room⟩

theorem Sound.unpublished
    (active : receiver.active = some state) : receiver.committed = none := by
  rcases sound.alone with idle | unpublished
  · rw [active] at idle
    cases idle
  · exact unpublished

theorem Sound.chunk_kept
    {result : Except ProfileTransferError ProfileChunkDisposition}
    (taken : receiver.chunk piece = some (after, result)) : after.Sound := by
  rcases chunk_cases taken with rfl | rfl | ⟨state, active, -, -, -, inside,
    rfl, -⟩
  · exact sound
  · exact sound.cancel
  · obtain ⟨-, room⟩ := sound.active state active
    refine ⟨.inr (sound.unpublished active), ?_, ?_⟩
    · intro next same
      cases same
      exact ⟨inside, by rw [length_overwrite]; exact room⟩
    · intro profile published
      rw [length_overwrite]
      exact sound.committed profile published

theorem Sound.commit_kept {result : ProfileResult}
    (taken : receiver.commit transferId = some (after, result)) :
    after.Sound := by
  rcases commit_cases taken with ⟨rfl, -⟩ | ⟨state, -, -, active, -, -, -, -,
    -, rfl, -⟩
  · exact sound.cancel
  · obtain ⟨reached, room⟩ := sound.active state active
    refine ⟨.inl rfl, ?_, ?_⟩
    · exact fun _ impossible => nomatch impossible
    · intro profile same
      cases same
      exact Nat.le_trans reached room

theorem Sound.clearCommitted_kept :
    receiver.clearCommitted.Sound where
  alone := .inr rfl
  active := sound.active
  committed _ impossible := nomatch impossible

theorem Sound.advance_kept
    (taken : receiver.advance call = some (after, reply)) : after.Sound := by
  cases call with
  | begin start =>
      cases taken
      exact sound.begin_kept start
  | chunk piece =>
      obtain ⟨next, chunked, same⟩ := Option.map_eq_some_iff.mp taken
      cases same
      exact sound.chunk_kept chunked
  | commit transferId =>
      obtain ⟨next, committed, same⟩ := Option.map_eq_some_iff.mp taken
      cases same
      exact sound.commit_kept committed
  | cancel =>
      cases taken
      exact sound.cancel
  | clearCommitted =>
      cases taken
      exact sound.clearCommitted_kept

end

theorem staged_eq (inside : start ≤ stop)
    (room : stop ≤ receiver.staging.length) :
    receiver.staged start stop =
      some (slice receiver.staging start (stop - start)) :=
  if_pos ⟨inside, room⟩

theorem Sound.chunk_total (sound : receiver.Sound) (piece : ProfileChunk) :
    ∃ next, receiver.chunk piece = some next := by
  simp only [chunk]
  split
  · exact ⟨_, rfl⟩
  rename_i state active
  obtain ⟨reached, room⟩ := sound.active state active
  split
  · exact ⟨_, rfl⟩
  split
  · exact ⟨_, rfl⟩
  split
  · exact ⟨_, rfl⟩
  split
  · exact ⟨_, rfl⟩
  rename_i inside
  split
  · exact ⟨_, rfl⟩
  split
  · split
    · rw [staged_eq (by omega) (by omega)]
      exact ⟨_, rfl⟩
    · exact ⟨_, rfl⟩
  rw [if_pos (by omega)]
  exact ⟨_, rfl⟩

theorem Sound.commit_total (sound : receiver.Sound) (transferId : UInt32) :
    ∃ next, receiver.commit transferId = some next := by
  simp only [commit]
  split
  · exact ⟨_, rfl⟩
  rename_i state active
  obtain ⟨reached, room⟩ := sound.active state active
  split
  · exact ⟨_, rfl⟩
  split
  · exact ⟨_, rfl⟩
  rw [staged_eq (Nat.zero_le _) room, Option.bind_some]
  split
  · exact ⟨_, rfl⟩
  obtain ⟨outcome, validated⟩ := (validateMirrorImage_ensures
    (slice receiver.staging 0 (state.begin.totalLength.toNat - 0))).finishes
  rw [show (validateMirrorImage _).run = some outcome from validated]
  exact ⟨_, rfl⟩

theorem Sound.advance_total (sound : receiver.Sound)
    (call : ProfileReceiverCall) :
    ∃ next, receiver.advance call = some next := by
  cases call with
  | begin start => exact ⟨_, rfl⟩
  | chunk piece =>
      obtain ⟨next, taken⟩ := sound.chunk_total piece
      rw [advance, taken]
      exact ⟨_, rfl⟩
  | commit transferId =>
      obtain ⟨next, taken⟩ := sound.commit_total transferId
      rw [advance, taken]
      exact ⟨_, rfl⟩
  | cancel => exact ⟨_, rfl⟩
  | clearCommitted => exact ⟨_, rfl⟩

end ProfileTransferReceiver

abbrev ProfileReceiverTurn :=
  Transition ProfileTransferReceiver ProfileReceiverCall ProfileReceiverReply

def begunBy (last : Option ProfileBegin) (turn : ProfileReceiverTurn) :
    Option ProfileBegin :=
  match turn.event, turn.output with
  | .begin start, .begun (.ok ()) => some start
  | _, _ => last

def lastBegin (history : List ProfileReceiverTurn) : Option ProfileBegin :=
  history.foldl begunBy none

/-- The published bytes are those the begin announces, and they are an image
the validation accepts. -/
structure PublishedAs (start : ProfileBegin) (profile : CommittedProfile)
    (bytes : List UInt8) : Prop where
  transferId : profile.transferId = start.transferId
  profileHash : profile.profileHash = start.profileHash
  length : bytes.length = start.totalLength.toNat
  crc32 : crc32Ieee bytes = start.crc32
  valid : ∃ plan, Yields (validateMirrorImage bytes) (.ok plan)

structure ProfileTransferReceiver.Tracks (receiver : ProfileTransferReceiver)
    (last : Option ProfileBegin) : Prop where
  sound : receiver.Sound
  running : ∀ state, receiver.active = some state → last = some state.begin
  published : ∀ profile bytes,
    receiver.committedImage = some (profile, bytes) →
      ∃ start, last = some start ∧ PublishedAs start profile bytes

namespace ProfileTransferReceiver

variable {receiver after : ProfileTransferReceiver}
  {last : Option ProfileBegin} {call : ProfileReceiverCall}
  {reply : ProfileReceiverReply}

theorem tracks_new (staging : List UInt8) : (new staging).Tracks none where
  sound := sound_new staging
  running _ impossible := nomatch impossible
  published _ _ impossible := nomatch impossible

section

variable (tracks : receiver.Tracks last)

include tracks

theorem Tracks.cancel :
    receiver.cancel.Tracks last where
  sound := tracks.sound.cancel
  running _ impossible := nomatch impossible
  published := tracks.published

theorem Tracks.begin (start : ProfileBegin) :
    (receiver.begin start).1.Tracks (begunBy last ⟨receiver, .begin start,
      .begun (receiver.begin start).2, (receiver.begin start).1⟩) := by
  have sound := tracks.sound.begin_kept start
  rcases begin_cases receiver start with
    ⟨error, refused⟩ | ⟨idle, unpublished, room, accepted⟩
  · rw [refused]
    exact tracks
  · rw [accepted] at sound ⊢
    refine ⟨sound, ?_, ?_⟩
    · intro state active
      cases active
      rfl
    · intro profile bytes published
      rw [committedImage, unpublished] at published
      cases published

theorem Tracks.chunk
    {result : Except ProfileTransferError ProfileChunkDisposition}
    (taken : receiver.chunk piece = some (after, result)) :
    after.Tracks last := by
  have sound := tracks.sound.chunk_kept taken
  rcases chunk_cases taken with rfl | rfl | ⟨state, active, -, -, -, inside,
    rfl, -⟩
  · exact tracks
  · exact tracks.cancel
  · refine ⟨sound, ?_, ?_⟩
    · intro next same
      cases same
      exact tracks.running state active
    · intro profile bytes published
      rw [committedImage, tracks.sound.unpublished active] at published
      cases published

theorem Tracks.commit {result : ProfileResult}
    (taken : receiver.commit transferId = some (after, result)) :
    after.Tracks last := by
  have sound := tracks.sound.commit_kept taken
  rcases commit_cases taken with ⟨rfl, -⟩ | ⟨state, image, plan, active, own,
    complete, staged, crc, valid, rfl, -⟩
  · exact tracks.cancel
  · obtain ⟨reached, room⟩ := tracks.sound.active state active
    rw [staged_eq (Nat.zero_le _) (Nat.le_trans reached room),
      Option.some.injEq, Nat.sub_zero] at staged
    refine ⟨sound, (fun _ impossible => nomatch impossible), ?_⟩
    intro profile bytes published
    rw [committedImage, Option.map_some, Option.some.injEq,
      Prod.mk.injEq] at published
    obtain ⟨rfl, rfl⟩ := published
    refine ⟨state.begin, tracks.running state active, own.symm, rfl, ?_, ?_,
      plan, ?_⟩
    · rw [length_slice (by
        change 0 + state.nextOffset ≤ receiver.staging.length
        omega)]
      exact complete
    · change crc32Ieee (slice receiver.staging 0 state.nextOffset) = _
      rw [staged]
      exact crc
    · change Yields (validateMirrorImage
        (slice receiver.staging 0 state.nextOffset)) _
      rw [staged]
      exact valid

theorem Tracks.clearCommitted :
    receiver.clearCommitted.Tracks last where
  sound := tracks.sound.clearCommitted_kept
  running := tracks.running
  published _ _ impossible := nomatch impossible

theorem Tracks.advance (taken : receiver.advance call = some (after, reply)) :
    after.Tracks (begunBy last ⟨receiver, call, reply, after⟩) := by
  cases call with
  | begin start =>
      cases taken
      exact tracks.begin start
  | chunk piece =>
      obtain ⟨next, chunked, same⟩ := Option.map_eq_some_iff.mp taken
      cases same
      exact tracks.chunk chunked
  | commit transferId =>
      obtain ⟨next, committed, same⟩ := Option.map_eq_some_iff.mp taken
      cases same
      exact tracks.commit committed
  | cancel =>
      cases taken
      exact tracks.cancel
  | clearCommitted =>
      cases taken
      exact tracks.clearCommitted

end

theorem Sound.published_stays (sound : receiver.Sound)
    (taken : receiver.advance call = some (after, reply))
    (kept : call ≠ .clearCommitted)
    (publishes : receiver.committedImage = some published) :
    after.committedImage = some published := by
  have held : receiver.committed ≠ none := by
    intro none
    rw [committedImage, none] at publishes
    cases publishes
  have idle : receiver.active = none :=
    sound.alone.resolve_right held
  cases call with
  | begin start =>
      cases taken
      rcases begin_cases receiver start with
        ⟨error, refused⟩ | ⟨-, unpublished, -⟩
      · rw [refused]
        exact publishes
      · exact absurd unpublished held
  | chunk piece =>
      obtain ⟨next, chunked, same⟩ := Option.map_eq_some_iff.mp taken
      cases same
      rcases chunk_cases chunked with rfl | same | ⟨state, active, -⟩
      · exact publishes
      · rw [same]
        exact publishes
      · rw [idle] at active
        cases active
  | commit transferId =>
      obtain ⟨next, committed, same⟩ := Option.map_eq_some_iff.mp taken
      cases same
      rcases commit_cases committed with ⟨same, -⟩ | ⟨state, -, -, active, -⟩
      · rw [same]
        exact publishes
      · rw [idle] at active
        cases active
  | cancel =>
      cases taken
      exact publishes
  | clearCommitted => exact absurd rfl kept

end ProfileTransferReceiver

def ProfileReceiverStep (before : ProfileTransferReceiver)
    (call : ProfileReceiverCall) (reply : ProfileReceiverReply)
    (after : ProfileTransferReceiver) : Prop :=
  before.advance call = some (after, reply)

section

variable {staging : List UInt8} {receiver : ProfileTransferReceiver}
  {history : List ProfileReceiverTurn}

theorem tracks_of_run
    (run : Run ProfileReceiverStep (.new staging) history receiver) :
    receiver.Tracks (lastBegin history) :=
  run.invariant_foldl begunBy none
    ProfileTransferReceiver.Tracks
    (ProfileTransferReceiver.tracks_new staging)
    fun _ _ _ taken tracks => tracks.advance taken

theorem published_stays_in_run (sound : receiver.Sound)
    (run : Run ProfileReceiverStep receiver history finish)
    (kept : ∀ turn ∈ history, turn.event ≠ .clearCommitted)
    (publishes : receiver.committedImage = some published) :
    finish.committedImage = some published := by
  refine (run.invariant
    (fun state => state.Sound ∧ state.committedImage = some published)
    ⟨sound, publishes⟩ ?_).2
  intro turn member taken held
  obtain ⟨heldSound, heldPublished⟩ := held
  exact ⟨heldSound.advance_kept taken,
    heldSound.published_stays taken (kept turn member) heldPublished⟩

theorem attempt_total (sound : start.Sound) (calls : List ProfileReceiverCall) :
    ∃ finish replies, Run.attempt ProfileTransferReceiver.advance start calls =
      some (finish, replies) := by
  induction calls generalizing start with
  | nil => exact ⟨start, [], rfl⟩
  | cons call rest ih =>
      obtain ⟨⟨next, reply⟩, taken⟩ := sound.advance_total call
      obtain ⟨finish, replies, attempted⟩ := ih (sound.advance_kept taken)
      exact ⟨finish, reply :: replies, Run.attempt_cons taken attempted⟩

end

def ProfileTransferCommand.call :
    ProfileTransferCommand → ProfileReceiverCall
  | .begin start => .begin start
  | .chunk piece => .chunk piece.asBorrowed
  | .commit transferId => .commit transferId

/-- What arrives of `pending` after `sent`: all of it in order, and while some
of it is left, any chunk already sent once more. -/
inductive Resends : List ProfileTransferCommand →
    List ProfileTransferCommand → List ProfileTransferCommand → Prop
  | done (sent : List ProfileTransferCommand) : Resends sent [] []
  | next {sent pending fed : List ProfileTransferCommand}
      {command : ProfileTransferCommand}
      (later : Resends (sent ++ [command]) pending fed) :
      Resends sent (command :: pending) (command :: fed)
  | again {sent pending fed : List ProfileTransferCommand}
      {piece : ProfileChunkData} (before : .chunk piece ∈ sent)
      (unfinished : pending ≠ []) (later : Resends sent pending fed) :
      Resends sent pending (.chunk piece :: fed)

structure ProfileTransferEncoder.Carried (encoder : ProfileTransferEncoder)
    (sent : List ProfileTransferCommand)
    (receiver : ProfileTransferReceiver) : Prop where
  announced : encoder.begin.totalLength.toNat = encoder.image.length
  crc32 : encoder.begin.crc32 = crc32Ieee encoder.image
  begun : encoder.phase = 1
  reached : encoder.offset ≤ encoder.image.length
  room : encoder.image.length ≤ receiver.staging.length
  active : receiver.active = some ⟨encoder.begin, encoder.offset⟩
  staged : slice receiver.staging 0 encoder.offset =
    slice encoder.image 0 encoder.offset
  sent : ∀ piece, .chunk piece ∈ sent →
    piece.transferId = encoder.begin.transferId ∧ piece.data.toList ≠ [] ∧
      piece.offset.toNat + piece.data.toList.length ≤ encoder.offset ∧
      piece.data.toList = slice encoder.image piece.offset.toNat
        piece.data.toList.length

namespace ProfileTransferReceiver

variable {receiver : ProfileTransferReceiver} {state : TransferState}
  {piece : ProfileChunk}

section

variable (active : receiver.active = some state)

include active

theorem chunk_known (own : piece.transferId = state.begin.transferId)
    (filled : piece.data ≠ [])
    (known : piece.offset.toNat + piece.data.length ≤ state.nextOffset)
    (reached : state.nextOffset ≤ state.begin.totalLength.toNat)
    (room : state.nextOffset ≤ receiver.staging.length)
    (same : slice receiver.staging piece.offset.toNat piece.data.length =
      piece.data) :
    receiver.chunk piece = some (receiver, .ok .duplicate) := by
  have positive := List.length_pos_iff.mpr filled
  have small := state.begin.totalLength.toNat_lt
  simp only [chunk, active]
  rw [if_neg (not_not_intro own), if_neg filled,
    if_neg (by rw [usizeCount]; omega), if_neg (by omega), if_neg (by omega),
    if_pos (by omega), if_pos known, staged_eq (by omega) (by omega),
    Option.map_some, Nat.add_sub_cancel_left, if_pos same]

theorem chunk_next (own : piece.transferId = state.begin.transferId)
    (filled : piece.data ≠ [])
    (next : piece.offset.toNat = state.nextOffset)
    (inside : state.nextOffset + piece.data.length ≤
      state.begin.totalLength.toNat)
    (room : state.nextOffset + piece.data.length ≤ receiver.staging.length) :
    receiver.chunk piece =
      some ({ receiver with
        staging := overwrite receiver.staging state.nextOffset piece.data
        active := some { state with
          nextOffset := state.nextOffset + piece.data.length } },
        .ok .appended) := by
  have small := state.begin.totalLength.toNat_lt
  simp only [chunk, active]
  rw [if_neg (not_not_intro own), if_neg filled,
    if_neg (by rw [usizeCount]; omega), if_neg (by omega), if_neg (by omega),
    if_neg (by omega), if_pos (by omega), next]

theorem commit_complete
    (complete : state.nextOffset = state.begin.totalLength.toNat)
    (room : state.nextOffset ≤ receiver.staging.length)
    (staged : slice receiver.staging 0 state.nextOffset = image)
    (crc32 : crc32Ieee image = state.begin.crc32) :
    ∃ after result, receiver.commit state.begin.transferId =
        some (after, result) ∧
      (result.status = .accepted ↔
        ∃ plan, Yields (validateMirrorImage image) (.ok plan)) ∧
      (result.status = .accepted → after.committedImage =
        some (⟨state.begin.transferId, state.begin.profileHash,
          state.nextOffset⟩, image)) := by
  obtain ⟨outcome, validated⟩ := (validateMirrorImage_ensures image).finishes
  simp only [commit, active]
  rw [if_neg (not_not_intro rfl), if_neg (not_not_intro complete), ← complete,
    staged_eq (Nat.zero_le _) room, Nat.sub_zero, staged, Option.bind_some,
    if_neg (not_not_intro crc32),
    show (validateMirrorImage image).run = some outcome from validated,
    Option.map_some]
  cases outcome with
  | error reason =>
      have refused := reason.resultStatus_ne_accepted
      refine ⟨_, _, rfl, iff_of_false refused ?_, fun accepted =>
        absurd accepted refused⟩
      intro accepted
      obtain ⟨plan, valid⟩ := accepted
      cases validated.symm.trans valid
  | ok plan =>
      refine ⟨_, _, rfl, iff_of_true rfl ⟨plan, validated⟩, fun _ => ?_⟩
      rw [committedImage, Option.map_some, staged]

end

end ProfileTransferReceiver

namespace ProfileTransferEncoder

variable {encoder : ProfileTransferEncoder}
  {sent : List ProfileTransferCommand} {receiver : ProfileTransferReceiver}

section

variable (carried : encoder.Carried sent receiver)

include carried

theorem Carried.again (before : .chunk piece ∈ sent) :
    receiver.advance (ProfileTransferCommand.chunk piece).call =
      some (receiver, .chunked (.ok .duplicate)) := by
  obtain ⟨own, filled, past, same⟩ := carried.sent piece before
  have known : receiver.chunk piece.asBorrowed =
      some (receiver, .ok .duplicate) := by
    refine ProfileTransferReceiver.chunk_known carried.active own filled past
      ?_ (Nat.le_trans carried.reached carried.room) ?_
    · exact carried.reached.trans_eq carried.announced.symm
    · exact (slice_congr carried.staged past).trans same.symm
  rw [ProfileTransferCommand.call, ProfileTransferReceiver.advance, known]
  rfl

theorem Carried.next (more : encoder.offset < encoder.image.length) :
    ∃ command, encoder.next.1 = some command ∧
      encoder.next.2.begin = encoder.begin ∧
      encoder.next.2.image = encoder.image ∧
      encoder.offset < encoder.next.2.offset ∧
      ∃ after, receiver.advance command.call =
          some (after, .chunked (.ok .appended)) ∧
        encoder.next.2.Carried (sent ++ [command]) after := by
  have announced := carried.announced
  have room := carried.room
  obtain ⟨size, stop, positive, fits, inside⟩ : ∃ size,
      min (encoder.offset + profileChunkMaxDataLen) encoder.image.length =
        encoder.offset + size ∧ 0 < size ∧ size ≤ profileChunkMaxDataLen ∧
          encoder.offset + size ≤ encoder.image.length := by
    refine ⟨min profileChunkMaxDataLen
      (encoder.image.length - encoder.offset), ?_⟩
    rw [profileChunkMaxDataLen]
    omega
  have length : (slice encoder.image encoder.offset size).length = size :=
    length_slice inside
  have next : encoder.next =
      (some (.chunk ⟨encoder.begin.transferId, UInt32.ofNat encoder.offset,
        ⟨slice encoder.image encoder.offset size, by omega⟩⟩),
        { encoder with offset := encoder.offset + size }) := by
    rw [ProfileTransferEncoder.next, if_neg (by rw [carried.begun]; decide),
      if_pos more]
    simp only [stop, Nat.add_sub_cancel_left]
    rw [dif_pos (by omega)]
  have whole : (UInt32.ofNat encoder.offset).toNat = encoder.offset := by
    have small := encoder.begin.totalLength.toNat_lt
    exact UInt32.toNat_ofNat_of_lt' (by rw [UInt32.size]; omega)
  have filled : slice encoder.image encoder.offset size ≠ [] :=
    List.ne_nil_of_length_pos (by omega)
  have taken := @ProfileTransferReceiver.chunk_next receiver _
    ⟨encoder.begin.transferId, UInt32.ofNat encoder.offset,
      slice encoder.image encoder.offset size⟩ carried.active rfl filled whole
    (by simp only [length]; omega) (by simp only [length]; omega)
  simp only [length] at taken
  rw [next]
  have further : encoder.offset < encoder.offset + size := by omega
  refine ⟨_, rfl, rfl, rfl, further,
    { receiver with
      staging := overwrite receiver.staging encoder.offset
        (slice encoder.image encoder.offset size)
      active := some ⟨encoder.begin, encoder.offset + size⟩ }, ?_, ?_⟩
  · rw [ProfileTransferCommand.call, ProfileTransferReceiver.advance,
      ProfileChunkData.asBorrowed, taken]
    rfl
  · refine
      { announced := announced
        crc32 := carried.crc32
        begun := carried.begun
        reached := inside
        room := by rw [length_overwrite]; exact room
        active := rfl
        staged := ?_
        sent := ?_ }
    · change slice (overwrite _ _ _) 0 (encoder.offset + size) =
        slice encoder.image 0 (encoder.offset + size)
      rw [← slice_append_slice, ← slice_append_slice,
        slice_overwrite_disjoint (by omega), carried.staged, Nat.zero_add,
        slice_overwrite_same length (by omega)]
    · intro piece before
      rcases List.mem_append.mp before with earlier | last
      · obtain ⟨own, held, past, same⟩ := carried.sent piece earlier
        exact ⟨own, held, Nat.le_trans past (Nat.le_add_right _ _), same⟩
      · cases List.mem_singleton.mp last
        refine ⟨rfl, filled, ?_, ?_⟩
        · change (UInt32.ofNat encoder.offset).toNat + (slice _ _ _).length ≤
            encoder.offset + size
          rw [whole, length]
        · change slice encoder.image encoder.offset size =
            slice encoder.image (UInt32.ofNat encoder.offset).toNat
              (slice _ _ _).length
          rw [whole, length]

theorem Carried.commit (complete : encoder.offset = encoder.image.length) :
    ∃ after result,
      receiver.advance (.commit encoder.begin.transferId) =
        some (after, .committed result) ∧
      (result.status = .accepted ↔
        ∃ plan, Yields (validateMirrorImage encoder.image) (.ok plan)) ∧
      (result.status = .accepted → after.committedImage =
        some (⟨encoder.begin.transferId, encoder.begin.profileHash,
          encoder.image.length⟩, encoder.image)) := by
  have staged : slice receiver.staging 0 encoder.offset = encoder.image := by
    rw [carried.staged, complete, slice_whole rfl]
  obtain ⟨after, result, committed, accepted, published⟩ :=
    ProfileTransferReceiver.commit_complete carried.active
      (complete.trans carried.announced.symm)
      (Nat.le_trans carried.reached carried.room) staged carried.crc32.symm
  refine ⟨after, result, ?_, accepted, ?_⟩
  · rw [ProfileTransferReceiver.advance, committed]
    rfl
  · rw [← complete]
    exact published

end

theorem commandsWithin_succ (fuel : Nat) :
    commandsWithin (fuel + 1) encoder =
      match encoder.next.1 with
      | none => []
      | some command => command :: commandsWithin fuel encoder.next.2 := rfl

theorem commandsWithin_committed {fuel : Nat} (committed : encoder.phase = 2)
    (complete : encoder.image.length ≤ encoder.offset) :
    commandsWithin fuel encoder = [] := by
  cases fuel with
  | zero => rfl
  | succ fuel =>
      rw [commandsWithin_succ, ProfileTransferEncoder.next,
        if_neg (by rw [committed]; decide), if_neg (by omega),
        if_neg (by rw [committed]; decide)]

theorem Carried.next_commit (carried : encoder.Carried sent receiver)
    (complete : encoder.offset = encoder.image.length) :
    encoder.next = (some (.commit encoder.begin.transferId),
      { encoder with phase := 2 }) := by
  rw [ProfileTransferEncoder.next, if_neg (by rw [carried.begun]; decide),
    if_neg (by omega), if_pos carried.begun]

theorem Carried.delivers (carried : encoder.Carried sent receiver)
    (enough : encoder.image.length - encoder.offset + 1 ≤ fuel)
    (arrives : Resends sent (commandsWithin fuel encoder) fed) :
    ∃ finish replies result,
      Run.attempt ProfileTransferReceiver.advance receiver
          (fed.map ProfileTransferCommand.call) =
        some (finish, replies ++ [.committed result]) ∧
      (result.status = .accepted ↔
        ∃ plan, Yields (validateMirrorImage encoder.image) (.ok plan)) ∧
      (result.status = .accepted → finish.committedImage =
        some (⟨encoder.begin.transferId, encoder.begin.profileHash,
          encoder.image.length⟩, encoder.image)) := by
  generalize same : commandsWithin fuel encoder = pending at arrives
  induction arrives generalizing encoder receiver fuel with
  | done sent =>
      obtain ⟨rest, rfl⟩ : ∃ rest, fuel = rest + 1 := ⟨fuel - 1, by omega⟩
      rw [commandsWithin_succ] at same
      rcases Nat.lt_or_eq_of_le carried.reached with more | complete
      · obtain ⟨command, issued, -⟩ := carried.next more
        rw [issued] at same
        cases same
      · rw [carried.next_commit complete] at same
        cases same
  | @next sent pending fed command later ih =>
      obtain ⟨rest, rfl⟩ : ∃ rest, fuel = rest + 1 := ⟨fuel - 1, by omega⟩
      rw [commandsWithin_succ] at same
      rcases Nat.lt_or_eq_of_le carried.reached with more | complete
      · obtain ⟨issuedCommand, issued, sameBegin, sameImage, further, after,
          taken, carriedOn⟩ := carried.next more
        rw [issued] at same
        cases same
        obtain ⟨finish, replies, result, attempted, accepted, published⟩ :=
          ih carriedOn (by rw [sameImage]; omega) rfl
        rw [sameImage] at accepted published
        rw [sameBegin] at published
        exact ⟨finish, .chunked (.ok .appended) :: replies, result,
          Run.attempt_cons taken attempted, accepted, published⟩
      · obtain ⟨after, result, committed, accepted, published⟩ :=
          carried.commit complete
        have whole := @commandsWithin_committed { encoder with phase := 2 }
          rest rfl (Nat.le_of_eq complete.symm)
        rw [carried.next_commit complete] at same
        dsimp only at same
        rw [whole] at same
        cases same
        cases later with
        | done =>
            exact ⟨after, [], result, Run.attempt_cons committed rfl, accepted,
              published⟩
        | again _ unfinished _ => exact absurd rfl unfinished
  | again before unfinished later ih =>
      obtain ⟨finish, replies, result, attempted, accepted, published⟩ :=
        ih carried enough same
      exact ⟨finish, .chunked (.ok .duplicate) :: replies, result,
        Run.attempt_cons (carried.again before) attempted, accepted, published⟩

theorem delivers {image : List UInt8}
    (made : new transferId profileHash image = .ok encoder)
    (idle : receiver.active = none) (unpublished : receiver.committed = none)
    (room : image.length ≤ receiver.staging.length)
    (arrives : Resends [] encoder.commands fed) :
    ∃ finish replies result,
      Run.attempt ProfileTransferReceiver.advance receiver
          (fed.map ProfileTransferCommand.call) =
        some (finish, replies ++ [.committed result]) ∧
      (result.status = .accepted ↔
        ∃ plan, Yields (validateMirrorImage image) (.ok plan)) ∧
      (result.status = .accepted → finish.committedImage =
        some (⟨transferId, profileHash, image.length⟩, image)) := by
  rw [new] at made
  split at made
  · cases made
  rename_i fitting
  rw [not_or, Nat.not_lt, hsmiMaxSize] at fitting
  obtain ⟨filled, small⟩ := fitting
  have positive := List.length_pos_iff.mpr filled
  have announced : (UInt32.ofNat image.length).toNat = image.length :=
    UInt32.toNat_ofNat_of_lt' (by rw [UInt32.size]; omega)
  generalize start : ProfileBegin.mk transferId (UInt32.ofNat image.length)
    (crc32Ieee image) profileHash = opening at made
  have length : opening.totalLength.toNat = image.length := by
    rw [← start]
    exact announced
  cases made
  cases arrives with
  | again before => cases before
  | @next _ pending fed command later =>
      have begun : receiver.begin opening = ({ receiver with
          active := some { begin := opening, nextOffset := 0 } }, .ok ()) := by
        simp only [ProfileTransferReceiver.begin]
        rw [if_neg (by simp [idle, unpublished]), if_neg (by
          rw [hsmiMaxSize]
          omega)]
      have carried : Carried ⟨image, opening, 0, 1⟩
          ([] ++ [.begin opening]) { receiver with
            active := some { begin := opening, nextOffset := 0 } } :=
        { announced := length
          crc32 := by rw [← start]
          begun := rfl
          reached := Nat.zero_le _
          room := room
          active := rfl
          staged := by rw [slice, slice, List.take_zero, List.take_zero]
          sent := by simp }
      obtain ⟨finish, replies, result, attempted, accepted, published⟩ :=
        carried.delivers (Nat.le_refl _) later
      refine ⟨finish, .begun (.ok ()) :: replies, result,
        Run.attempt_cons ?_ attempted, accepted, ?_⟩
      · rw [ProfileTransferCommand.call, ProfileTransferReceiver.advance, begun]
      · rw [← start] at published
        exact published

end ProfileTransferEncoder

/-- A transfer publishes its image, checked, or nothing, and what is published
stays until it is cleared. -/
theorem profile_transfer_delivers :
    (∀ (transferId profileHash : UInt32) (image : List UInt8)
        (receiver : ProfileTransferReceiver), image ≠ [] →
      image.length ≤ hsmiMaxSize → image.length ≤ receiver.staging.length →
      receiver.active = none → receiver.committed = none →
      ∃ encoder,
        ProfileTransferEncoder.new transferId profileHash image = .ok encoder ∧
        ∀ fed, Resends [] encoder.commands fed →
          ∃ finish replies result,
            Run.attempt ProfileTransferReceiver.advance receiver
                (fed.map ProfileTransferCommand.call) =
              some (finish, replies ++ [.committed result]) ∧
            (result.status = .accepted ↔
              ∃ plan, Yields (validateMirrorImage image) (.ok plan)) ∧
            (result.status = .accepted → finish.committedImage =
              some (⟨transferId, profileHash, image.length⟩, image))) ∧
      ∀ (staging : List UInt8) (calls : List ProfileReceiverCall),
        ∃ receiver replies history,
          Run.attempt ProfileTransferReceiver.advance (.new staging) calls =
            some (receiver, replies) ∧
          Run ProfileReceiverStep (.new staging) history receiver ∧
          history.map Transition.event = calls ∧
          (∀ profile bytes,
            receiver.committedImage = some (profile, bytes) →
              ∃ start, lastBegin history = some start ∧
                PublishedAs start profile bytes) ∧
          ∀ later finish, Run ProfileReceiverStep receiver later finish →
            (∀ turn ∈ later, turn.event ≠ .clearCommitted) →
            ∀ published, receiver.committedImage = some published →
              finish.committedImage = some published := by
  refine ⟨?_, ?_⟩
  · intro transferId profileHash image receiver filled small room idle
      unpublished
    have made : ∃ encoder, ProfileTransferEncoder.new transferId profileHash
        image = .ok encoder := by
      rw [ProfileTransferEncoder.new,
        if_neg (not_or.mpr ⟨filled, Nat.not_lt.mpr small⟩)]
      exact ⟨_, rfl⟩
    obtain ⟨encoder, made⟩ := made
    exact ⟨encoder, made, fun fed arrives =>
      ProfileTransferEncoder.delivers made idle unpublished room arrives⟩
  · intro staging calls
    obtain ⟨receiver, replies, attempted⟩ :=
      attempt_total (ProfileTransferReceiver.sound_new staging) calls
    obtain ⟨history, run, events, -⟩ := Run.of_attempt _ attempted
    have tracks := tracks_of_run run
    refine ⟨receiver, replies, history, attempted, run, events,
      tracks.published, ?_⟩
    intro later finish laterRun kept published publishes
    exact published_stays_in_run tracks.sound laterRun kept publishes

theorem otherEntryFirst_small :
    otherEntryFirst.length ≤ profileChunkMaxDataLen := by
  decide

def wholePiece : ProfileChunkData :=
  ⟨1, 0, ⟨otherEntryFirst, otherEntryFirst_small⟩⟩

/-- Transfer 1 of an image that fits one chunk, which is sent twice. -/
def sentTwice : List ProfileTransferCommand :=
  [.begin ⟨1, 92, crc32Ieee otherEntryFirst, 7⟩, .chunk wholePiece,
    .chunk wholePiece, .commit 1]

theorem resends_sentTwice
    (made : ProfileTransferEncoder.new 1 7 otherEntryFirst = .ok encoder) :
    Resends [] encoder.commands sentTwice := by
  have computed : (ProfileTransferEncoder.new 1 7 otherEntryFirst).map
      ProfileTransferEncoder.commands =
        .ok [.begin ⟨1, 92, crc32Ieee otherEntryFirst, 7⟩, .chunk wholePiece,
          .commit 1] := by decide +kernel
  rw [made] at computed
  rw [show encoder.commands = _ from Except.ok.inj computed]
  exact .next (.next (.again (List.mem_append_right _ List.mem_cons_self)
    (List.cons_ne_nil _ _) (.next (.done _))))

theorem profile_transfer_delivers_sentTwice :
    ∃ receiver replies history start,
      Run.attempt ProfileTransferReceiver.advance (.new (.replicate 92 0))
          (sentTwice.map ProfileTransferCommand.call) =
        some (receiver, replies) ∧
      receiver.committedImage = some (⟨1, 7, 92⟩, otherEntryFirst) ∧
      lastBegin history = some start ∧
      PublishedAs start ⟨1, 7, 92⟩ otherEntryFirst ∧
      ∀ later finish, Run ProfileReceiverStep receiver later finish →
        (∀ turn ∈ later, turn.event ≠ .clearCommitted) →
        finish.committedImage = some (⟨1, 7, 92⟩, otherEntryFirst) := by
  have valid : ∃ plan, Yields (validateMirrorImage otherEntryFirst)
      (.ok plan) := by
    have computed : (validateMirrorImage otherEntryFirst).run.any
        (fun outcome => outcome.toOption.isSome) = true := by decide +kernel
    obtain ⟨outcome, ran, accepted⟩ := (Option.any_eq_true _ _).mp computed
    cases outcome with
    | error reason => cases accepted
    | ok plan => exact ⟨plan, ran⟩
  obtain ⟨encoder, made, delivers⟩ := profile_transfer_delivers.1 1 7
    otherEntryFirst (.new (.replicate 92 0)) (by decide) (by decide +kernel)
    (by decide) rfl rfl
  obtain ⟨finish, replies, result, attempted, accepted, published⟩ :=
    delivers sentTwice (resends_sentTwice made)
  obtain ⟨receiver, answers, history, again, run, -, begun, stays⟩ :=
    profile_transfer_delivers.2 (.replicate 92 0)
      (sentTwice.map ProfileTransferCommand.call)
  rw [attempted] at again
  cases again
  have image := published (accepted.mpr valid)
  obtain ⟨start, last, publishedAs⟩ := begun _ _ image
  exact ⟨finish, _, history, start, attempted, image, last, publishedAs,
    fun later finish run kept => stays later finish run kept _ image⟩

end HidShift
