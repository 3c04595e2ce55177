import HidShift.Lib.Bytes

namespace HidShift.Lib

structure PrefixCode (σ α : Type) where
  Fits : α → Prop
  encode : α → List σ
  decode : List σ → Option (α × List σ)
  decodes : ∀ string value rest, decode string = some (value, rest) ↔
    Fits value ∧ string = encode value ++ rest

namespace PrefixCode

variable {σ α β : Type} (code : PrefixCode σ α)

theorem decode_iff :
    code.decode string = some (value, rest) ↔
      code.Fits value ∧ string = code.encode value ++ rest :=
  code.decodes string value rest

def encodeAll (values : List α) : List σ := values.flatMap code.encode

def decodeMany : Nat → List σ → Option (List α × List σ)
  | 0, string => some ([], string)
  | count + 1, string =>
      (code.decode string).bind fun read =>
        (decodeMany count read.2).map fun others =>
          (read.1 :: others.1, others.2)

@[simp] theorem encodeAll_nil : code.encodeAll [] = [] := rfl

@[simp] theorem encodeAll_cons (value : α) (values : List α) :
    code.encodeAll (value :: values) =
      code.encode value ++ code.encodeAll values := List.flatMap_cons

theorem decodeMany_succ :
    code.decodeMany (count + 1) string = some (values, rest) ↔
      ∃ value others middle, code.decode string = some (value, middle) ∧
        code.decodeMany count middle = some (others, rest) ∧
          values = value :: others := by
  rw [decodeMany, Option.bind_eq_some_iff]
  constructor
  · intro read
    obtain ⟨⟨value, middle⟩, first, more⟩ := read
    rw [Option.map_eq_some_iff] at more
    obtain ⟨⟨others, left⟩, later, same⟩ := more
    cases same
    exact ⟨value, others, middle, first, later, rfl⟩
  · intro read
    obtain ⟨value, others, middle, first, later, same⟩ := read
    refine ⟨(value, middle), first, ?_⟩
    rw [later, same]
    rfl

theorem decodeMany_iff :
    code.decodeMany count string = some (values, rest) ↔
      values.length = count ∧ (∀ value ∈ values, code.Fits value) ∧
        string = code.encodeAll values ++ rest := by
  induction count generalizing string values with
  | zero =>
      rw [decodeMany, Option.some.injEq, Prod.mk.injEq]
      constructor
      · intro same
        obtain ⟨rfl, rfl⟩ := same
        exact ⟨rfl, List.forall_mem_nil _, rfl⟩
      · intro read
        obtain ⟨none, -, same⟩ := read
        rw [List.length_eq_zero_iff] at none
        subst none
        exact ⟨rfl, same⟩
  | succ count ih =>
      rw [decodeMany_succ]
      constructor
      · intro read
        obtain ⟨value, others, middle, first, later, rfl⟩ := read
        obtain ⟨fits, rfl⟩ := code.decode_iff.mp first
        obtain ⟨length, all, rfl⟩ := ih.mp later
        refine ⟨congrArg (· + 1) length, ?_, ?_⟩
        · exact List.forall_mem_cons.mpr ⟨fits, all⟩
        · rw [encodeAll_cons, List.append_assoc]
      · intro read
        obtain ⟨length, all, same⟩ := read
        cases values with
        | nil => cases length
        | cons value others =>
            obtain ⟨fits, others_fit⟩ := List.forall_mem_cons.mp all
            rw [encodeAll_cons, List.append_assoc] at same
            refine ⟨value, others, code.encodeAll others ++ rest,
              code.decode_iff.mpr ⟨fits, same⟩, ih.mpr ?_, rfl⟩
            exact ⟨Nat.succ.inj length, others_fit, rfl⟩

theorem decodeMany_encodeAll (fit : ∀ value ∈ values, code.Fits value)
    (rest : List σ) :
    code.decodeMany values.length (code.encodeAll values ++ rest) =
      some (values, rest) :=
  code.decodeMany_iff.mpr ⟨rfl, fit, rfl⟩

variable (valueOf : α → β) (wordOf : β → α)
  (value_word : ∀ value, valueOf (wordOf value) = value)
  (word_value : ∀ word, code.Fits word → wordOf (valueOf word) = word)

include value_word word_value in
theorem mapped_decodes (string : List σ) (value : β) (rest : List σ) :
    ((code.decode string).map fun read => (valueOf read.1, read.2)) =
      some (value, rest) ↔
        code.Fits (wordOf value) ∧
          string = code.encode (wordOf value) ++ rest := by
  rw [Option.map_eq_some_iff]
  constructor
  · intro read
    obtain ⟨⟨word, left⟩, first, same⟩ := read
    cases same
    obtain ⟨wordFits, whole⟩ := code.decode_iff.mp first
    rw [word_value word wordFits]
    exact ⟨wordFits, whole⟩
  · intro written
    refine ⟨(wordOf value, rest), code.decode_iff.mpr written, ?_⟩
    rw [value_word]

/-- Values that stand for the values of another code. -/
def mapped : PrefixCode σ β where
  Fits value := code.Fits (wordOf value)
  encode value := code.encode (wordOf value)
  decode string :=
    (code.decode string).map fun read => (valueOf read.1, read.2)
  decodes := mapped_decodes code valueOf wordOf value_word word_value

end PrefixCode

def readFramed (front : Nat) (bytes : List UInt8) :
    Option ((List UInt8 × List UInt8) × List UInt8) :=
  let size := leValue (slice bytes front 2)
  if front + 2 + size ≤ bytes.length then
    some ((bytes.take front, slice bytes (front + 2) size),
      bytes.drop (front + 2 + size))
  else
    none

def writeFramed (word : List UInt8 × List UInt8) : List UInt8 :=
  word.1 ++ (leBytes 2 word.2.length ++ word.2)

theorem readFramed_writeFramed (sized : head.length = front)
    (small : body.length < 65536) (rest : List UInt8) :
    readFramed front (writeFramed (head, body) ++ rest) =
      some ((head, body), rest) := by
  have layout : writeFramed (head, body) ++ rest =
      head ++ (leBytes 2 body.length ++ (body ++ rest)) := by
    simp [writeFramed]
  have size : slice (writeFramed (head, body) ++ rest) front 2 =
      leBytes 2 body.length := by
    rw [layout, slice_skip_front sized, slice_front (length_leBytes ..)]
  have value : leValue (leBytes 2 body.length) = body.length :=
    leValue_leBytes small
  have room : front + 2 + body.length ≤
      (writeFramed (head, body) ++ rest).length := by
    simp [layout, sized]
    omega
  rw [readFramed, size, value, if_pos room, layout, ← sized, List.take_left,
    slice_skip rfl, slice_skip_front (length_leBytes ..), slice_front rfl,
    Nat.add_assoc, ← List.drop_drop, List.drop_left, ← List.drop_drop]
  congr 2
  rw [List.drop_left' (length_leBytes 2 _), List.drop_left]

theorem writeFramed_of_read
    (read : readFramed front bytes = some (word, rest)) :
    word.1.length = front ∧ word.2.length < 65536 ∧
      bytes = writeFramed word ++ rest := by
  simp only [readFramed] at read
  split at read
  · rename_i room
    cases read
    have small : leValue (slice bytes front 2) < 65536 := by
      have bound := leValue_lt (slice bytes front 2)
      rwa [length_slice (by omega)] at bound
    have size : leBytes 2 (leValue (slice bytes front 2)) =
        slice bytes front 2 := by
      have whole := leBytes_leValue (slice bytes front 2)
      rwa [length_slice (by omega)] at whole
    refine ⟨?_, ?_, ?_⟩
    · rw [List.length_take]
      omega
    · rw [length_slice (by omega)]
      exact small
    · rw [writeFramed, length_slice (by omega), size, List.append_assoc,
        List.append_assoc, slice_append_drop, slice_append_drop,
        List.take_append_drop]
  · cases read

theorem readFramed_iff (front : Nat) (bytes : List UInt8)
    (word : List UInt8 × List UInt8) (rest : List UInt8) :
    readFramed front bytes = some (word, rest) ↔
      (word.1.length = front ∧ word.2.length < 65536) ∧
        bytes = writeFramed word ++ rest := by
  constructor
  · intro read
    obtain ⟨sized, small, whole⟩ := writeFramed_of_read read
    exact ⟨⟨sized, small⟩, whole⟩
  · intro written
    obtain ⟨⟨sized, small⟩, rfl⟩ := written
    exact readFramed_writeFramed sized small rest

/-- The code of framed words. -/
def framed (front : Nat) : PrefixCode UInt8 (List UInt8 × List UInt8) where
  Fits word := word.1.length = front ∧ word.2.length < 65536
  encode := writeFramed
  decode := readFramed front
  decodes := readFramed_iff front

end HidShift.Lib
