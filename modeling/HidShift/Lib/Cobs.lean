import Mathlib.Data.List.Basic

/-! Consistent overhead byte stuffing.  A string is cut into blocks of at most
254 bytes, each written behind its length; the cut stands for a zero, unless
the block is full or the last one. -/

namespace HidShift.Lib.Cobs

structure Block where
  bytes : List UInt8
  short : bytes.length ≤ 254

namespace Block

def code (block : Block) : UInt8 := UInt8.ofNat (block.bytes.length + 1)

def Full (block : Block) : Prop := block.bytes.length = 254

instance (block : Block) : Decidable block.Full :=
  inferInstanceAs (Decidable (_ = _))

/-- The bytes a block stands for when another one follows. -/
def spelled (block : Block) : List UInt8 :=
  block.bytes ++ if block.Full then [] else [0]

def Strict (block : Block) : Prop := ∀ byte ∈ block.bytes, byte ≠ 0

theorem toNat_code (block : Block) :
    block.code.toNat = block.bytes.length + 1 := by
  have short := block.short
  rw [code, UInt8.toNat_ofNat']
  omega

theorem code_ne_zero (block : Block) : block.code ≠ 0 := by
  intro zero
  have length := block.toNat_code
  rw [zero] at length
  cases length

theorem full_iff (block : Block) : block.Full ↔ block.code = 255 := by
  rw [Full, ← UInt8.toNat_inj, toNat_code]
  change _ ↔ _ = 255
  omega

end Block

/-- The bytes on the wire. -/
def stream (blocks : List Block) : List UInt8 :=
  blocks.flatMap fun block => block.code :: block.bytes

/-- The bytes the blocks stand for when another one follows. -/
def spelled (blocks : List Block) : List UInt8 :=
  blocks.flatMap Block.spelled

/-- The string the blocks stand for. -/
def content : List Block → List UInt8
  | [] => []
  | [last] => last.bytes
  | block :: next :: rest => block.spelled ++ content (next :: rest)

/-- `encoded` is an encoding of `data`: blocks without zeros. -/
def Encodes (encoded data : List UInt8) : Prop :=
  ∃ blocks, (∀ block ∈ blocks, block.Strict) ∧ stream blocks = encoded ∧
    content blocks = data

@[simp] theorem stream_nil : stream [] = [] := rfl

@[simp] theorem stream_cons (block : Block) (rest : List Block) :
    stream (block :: rest) = block.code :: (block.bytes ++ stream rest) := rfl

@[simp] theorem stream_append (front back : List Block) :
    stream (front ++ back) = stream front ++ stream back :=
  List.flatMap_append

@[simp] theorem spelled_nil : spelled [] = [] := rfl

@[simp] theorem spelled_cons (block : Block) (rest : List Block) :
    spelled (block :: rest) = block.spelled ++ spelled rest := rfl

theorem content_cons (more : rest ≠ []) :
    content (block :: rest) = block.spelled ++ content rest := by
  cases rest with
  | nil => exact absurd rfl more
  | cons next rest => rfl

theorem length_le_stream (blocks : List Block) :
    blocks.length ≤ (stream blocks).length := by
  induction blocks with
  | nil => exact Nat.le_refl _
  | cons block rest ih =>
      rw [stream_cons, List.length_cons, List.length_cons, List.length_append]
      omega

theorem nonzero_of_strict (strict : ∀ block ∈ blocks, block.Strict) :
    ∀ byte ∈ stream blocks, byte ≠ 0 := by
  intro byte member
  obtain ⟨block, inside, written⟩ := List.mem_flatMap.mp member
  rcases List.mem_cons.mp written with same | held
  · rw [same]
    exact block.code_ne_zero
  · exact strict block inside byte held

theorem strict_of_nonzero (nonzero : ∀ byte ∈ stream blocks, byte ≠ 0) :
    ∀ block ∈ blocks, block.Strict := by
  intro block inside byte held
  exact nonzero byte
    (List.mem_flatMap.mpr ⟨block, inside, List.mem_cons_of_mem _ held⟩)

theorem Block.eq_of_code {block other : Block} (code : block.code = other.code)
    (same : block.bytes ++ rest = other.bytes ++ more) :
    block = other ∧ rest = more := by
  have length := congrArg UInt8.toNat code
  rw [Block.toNat_code, Block.toNat_code, Nat.add_right_cancel_iff] at length
  obtain ⟨bytes, rests⟩ := List.append_inj same length
  refine ⟨?_, rests⟩
  cases block
  cases other
  cases bytes
  rfl

theorem block_cases (code : UInt8) (tail : List UInt8) :
    (code = 0 ∨ tail.length + 2 < code.toNat) ∨
      code.toNat = tail.length + 2 ∨
      ∃ (block : Block) (rest : List UInt8),
        code = block.code ∧ tail = block.bytes ++ rest := by
  by_cases bad : code = 0 ∨ tail.length + 2 < code.toNat
  · exact .inl bad
  by_cases cut : code.toNat = tail.length + 2
  · exact .inr (.inl cut)
  refine .inr (.inr ?_)
  have small := code.toNat_lt
  have positive : code.toNat ≠ 0 := by
    intro zero
    exact bad (.inl (UInt8.toNat_inj.mp zero))
  have length : (tail.take (code.toNat - 1)).length = code.toNat - 1 := by
    rw [List.length_take]
    omega
  refine ⟨⟨tail.take (code.toNat - 1), by omega⟩, tail.drop (code.toNat - 1),
    ?_, (List.take_append_drop _ _).symm⟩
  rw [← UInt8.toNat_inj, Block.toNat_code, length]
  omega

/-- The last block misses one byte, and the blocks before it fit. -/
def CutShort (encoded : List UInt8) (room : Nat) : Prop :=
  ∃ blocks code tail, encoded = stream blocks ++ code :: tail ∧
    code.toNat = tail.length + 2 ∧ (spelled blocks).length ≤ room

theorem not_cutShort_nil (room : Nat) : ¬ CutShort [] room := by
  intro cut
  obtain ⟨blocks, code, tail, same, -⟩ := cut
  exact absurd same.symm (by simp)

theorem cutShort_cut (room : Nat) (cut : code.toNat = tail.length + 2) :
    CutShort (code :: tail) room :=
  ⟨[], code, tail, rfl, cut, Nat.zero_le _⟩

theorem not_cutShort_bad (room : Nat)
    (bad : code = 0 ∨ tail.length + 2 < code.toNat) :
    ¬ CutShort (code :: tail) room := by
  intro cut
  obtain ⟨blocks, last, rest, same, short, -⟩ := cut
  cases blocks with
  | nil =>
      cases same
      rcases bad with zero | long
      · rw [zero] at short
        cases short
      · omega
  | cons block blocks =>
      rw [stream_cons, List.cons_append, List.append_assoc] at same
      obtain ⟨rfl, rfl⟩ := List.cons.inj same
      rcases bad with zero | long
      · exact block.code_ne_zero zero
      · rw [block.toNat_code, List.length_append] at long
        omega

theorem cutShort_block {block : Block} :
    CutShort (block.code :: (block.bytes ++ rest)) room ↔
      block.spelled.length ≤ room ∧
        CutShort rest (room - block.spelled.length) := by
  constructor
  · intro cut
    obtain ⟨blocks, code, tail, same, short, fits⟩ := cut
    cases blocks with
    | nil =>
        obtain ⟨rfl, rfl⟩ := List.cons.inj same
        rw [block.toNat_code, List.length_append] at short
        omega
    | cons other blocks =>
        rw [stream_cons, List.cons_append, List.append_assoc] at same
        obtain ⟨code, bytes⟩ := List.cons.inj same
        obtain ⟨rfl, rfl⟩ := Block.eq_of_code code bytes
        rw [spelled_cons, List.length_append] at fits
        exact ⟨by omega, blocks, _, tail, rfl, short, by omega⟩
  · intro cut
    obtain ⟨fits, blocks, code, tail, rfl, short, later⟩ := cut
    refine ⟨block :: blocks, code, tail, ?_, short, ?_⟩
    · rw [stream_cons, List.cons_append, List.append_assoc]
    · rw [spelled_cons, List.length_append]
      omega

/-- The block that is being filled. -/
structure OpenBlock where
  bytes : List UInt8
  room : bytes.length < 254

namespace OpenBlock

theorem empty_room : ([] : List UInt8).length < 254 := Nat.zero_lt_succ _

def empty : OpenBlock := ⟨[], empty_room⟩

variable (current : OpenBlock)

theorem closed_short : current.bytes.length ≤ 254 := Nat.le_of_lt current.room

def closed : Block := ⟨current.bytes, current.closed_short⟩

theorem grown_short (byte : UInt8) :
    (current.bytes ++ [byte]).length ≤ 254 := by
  rw [List.length_append, List.length_singleton]
  exact current.room

def grown (byte : UInt8) : Block :=
  ⟨current.bytes ++ [byte], current.grown_short byte⟩

end OpenBlock

def blocksFrom (current : OpenBlock) : List UInt8 → List Block
  | [] => [current.closed]
  | byte :: rest =>
      if byte = 0 then current.closed :: blocksFrom .empty rest
      else if room : (current.bytes ++ [byte]).length < 254 then
        blocksFrom ⟨current.bytes ++ [byte], room⟩ rest
      else current.grown byte :: blocksFrom .empty rest

theorem blocksFrom_ne_nil (current : OpenBlock) (data : List UInt8) :
    blocksFrom current data ≠ [] := by
  induction data generalizing current with
  | nil => simp [blocksFrom]
  | cons byte rest ih =>
      rw [blocksFrom]
      split
      · simp
      split
      · exact ih _
      · simp

theorem OpenBlock.not_full (current : OpenBlock) : ¬ current.closed.Full := by
  intro full
  have room := current.room
  have length : current.bytes.length = 254 := full
  omega

theorem OpenBlock.full_grown {current : OpenBlock}
    (filled : ¬ (current.bytes ++ [byte]).length < 254) :
    (current.grown byte).Full := by
  have short := current.grown_short byte
  change (current.bytes ++ [byte]).length = 254
  omega

theorem content_blocksFrom (current : OpenBlock) (data : List UInt8) :
    content (blocksFrom current data) = current.bytes ++ data := by
  induction data generalizing current with
  | nil => exact (List.append_nil _).symm
  | cons byte rest ih =>
      rw [blocksFrom]
      split
      · rename_i zero
        rw [content_cons (blocksFrom_ne_nil _ _), ih, Block.spelled,
          if_neg current.not_full, zero]
        simp [OpenBlock.closed, OpenBlock.empty]
      split
      · rw [ih, List.append_assoc]
        rfl
      · rename_i filled
        rw [content_cons (blocksFrom_ne_nil _ _), ih, Block.spelled,
          if_pos (OpenBlock.full_grown filled)]
        simp [OpenBlock.grown, OpenBlock.empty]

theorem strict_blocksFrom (data : List UInt8)
    (strict : ∀ byte ∈ current.bytes, byte ≠ 0) :
    ∀ block ∈ blocksFrom current data, block.Strict := by
  induction data generalizing current with
  | nil =>
      intro block member
      rw [List.mem_singleton.mp member]
      exact strict
  | cons byte rest ih =>
      have started : ∀ byte ∈ OpenBlock.empty.bytes, byte ≠ 0 := by
        simp [OpenBlock.empty]
      rw [blocksFrom]
      split
      · exact List.forall_mem_cons.mpr ⟨strict, ih started⟩
      rename_i nonzero
      have grown : ∀ held ∈ current.bytes ++ [byte], held ≠ 0 :=
        List.forall_mem_append.mpr
          ⟨strict, List.forall_mem_singleton.mpr nonzero⟩
      split
      · exact ih grown
      · exact List.forall_mem_cons.mpr ⟨grown, ih started⟩

theorem length_stream_blocksFrom (current : OpenBlock) (data : List UInt8) :
    (stream (blocksFrom current data)).length ≤
      1 + (current.bytes.length + data.length) +
        (current.bytes.length + data.length) / 254 := by
  induction data generalizing current with
  | nil =>
      simp only [blocksFrom, stream_cons, stream_nil, List.append_nil,
        List.length_cons, List.length_nil, OpenBlock.closed]
      omega
  | cons byte rest ih =>
      rw [blocksFrom]
      split
      · have later := ih .empty
        simp only [OpenBlock.empty, List.length_nil] at later
        simp only [stream_cons, List.length_cons, List.length_append,
          OpenBlock.closed, OpenBlock.empty]
        omega
      split
      · rename_i room
        have later := ih ⟨current.bytes ++ [byte], room⟩
        simp only [List.length_append, List.length_cons,
          List.length_nil] at later
        rw [List.length_cons]
        omega
      · rename_i filled
        have later := ih .empty
        have room := current.room
        simp only [OpenBlock.empty, List.length_nil] at later
        simp only [List.length_append, List.length_singleton] at filled
        simp only [stream_cons, List.length_cons, List.length_append,
          List.length_nil, OpenBlock.grown, OpenBlock.empty]
        omega

theorem length_le_blocksFrom (current : OpenBlock) (data : List UInt8) :
    current.bytes.length < (stream (blocksFrom current data)).length := by
  induction data generalizing current with
  | nil =>
      rw [blocksFrom, stream_cons, List.length_cons, List.length_append]
      exact Nat.lt_succ_of_le (Nat.le_add_right _ _)
  | cons byte rest ih =>
      rw [blocksFrom]
      split
      · rw [stream_cons, List.length_cons, List.length_append]
        exact Nat.lt_succ_of_le (Nat.le_add_right _ _)
      split
      · rename_i room
        have later := ih ⟨current.bytes ++ [byte], room⟩
        simp only [List.length_append, List.length_singleton] at later
        omega
      · simp only [stream_cons, OpenBlock.grown, List.length_cons,
          List.length_append, List.length_nil]
        omega

theorem OpenBlock.code_grown (current : OpenBlock) (byte : UInt8) :
    (current.grown byte).code = current.closed.code + 1 := by
  have room := current.room
  rw [← UInt8.toNat_inj, UInt8.toNat_add, Block.toNat_code, Block.toNat_code]
  change (current.bytes ++ [byte]).length + 1 =
    (current.bytes.length + 1 + 1) % 256
  rw [List.length_append, List.length_singleton]
  omega

def encode (data : List UInt8) : List UInt8 := stream (blocksFrom .empty data)

theorem encode_encodes (data : List UInt8) : Encodes (encode data) data :=
  ⟨blocksFrom .empty data, strict_blocksFrom data (by simp [OpenBlock.empty]),
    rfl, content_blocksFrom .empty data⟩

theorem length_encode (data : List UInt8) :
    (encode data).length ≤ 1 + data.length + data.length / 254 := by
  have length := length_stream_blocksFrom .empty data
  change (encode data).length ≤ 1 + (0 + data.length) +
    (0 + data.length) / 254 at length
  rwa [Nat.zero_add] at length

end HidShift.Lib.Cobs
