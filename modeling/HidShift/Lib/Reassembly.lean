import HidShift.Lib.Bytes
import HidShift.Lib.Run

/-! Messages that travel in pieces.  A piece names its message by a header and
says where its bytes stand in it; the first piece starts the message anew, and
a piece that does not continue it drops it. -/

namespace HidShift.Lib

structure Piece (η α : Type) where
  header : η
  total : Nat
  offset : Nat
  first : Bool
  last : Bool
  data : List α

/-- The marks agree with the place of the piece. -/
structure Piece.Valid {η α : Type} (piece : Piece η α) : Prop where
  first : piece.first = true ↔ piece.offset = 0
  last : piece.last = true ↔ piece.offset + piece.data.length = piece.total
  inside : piece.offset + piece.data.length ≤ piece.total

structure PartialMessage (η α : Type) where
  header : η
  total : Nat
  data : List α

namespace Reassembly

variable {η α : Type}

section

variable (size : Nat) (header : η) (message : List α)

def pieceAt (offset : Nat) : Piece η α where
  header := header
  total := message.length
  offset := offset
  first := offset = 0
  last := min message.length (offset + size) = message.length
  data := slice message offset size

/-- The pieces from an offset on. -/
inductive Cut : Nat → List (Piece η α) → Prop
  | last {offset : Nat}
      (ends : (pieceAt size header message offset).last = true) :
      Cut offset [pieceAt size header message offset]
  | more {offset : Nat} {rest : List (Piece η α)}
      (goesOn : (pieceAt size header message offset).last = false)
      (later : Cut
        (offset + (pieceAt size header message offset).data.length) rest) :
      Cut offset (pieceAt size header message offset :: rest)

variable {size header message}

theorem pieceAt_last {offset : Nat} :
    (pieceAt size header message offset).last = true ↔
      message.length ≤ offset + size := by
  rw [pieceAt, decide_eq_true_iff]
  omega

theorem pieceAt_first :
    (pieceAt size header message offset).first = true ↔ offset = 0 :=
  decide_eq_true_iff

theorem length_pieceAt {offset : Nat} :
    (pieceAt size header message offset).data.length =
      min size (message.length - offset) := by
  rw [pieceAt, slice, List.length_take, List.length_drop]

theorem cut_head (cut : Cut size header message offset pieces) :
    ∃ later, pieces = pieceAt size header message offset :: later := by
  cases cut with
  | last _ => exact ⟨[], rfl⟩
  | more _ _ => exact ⟨_, rfl⟩

theorem cut_exists (positive : 0 < size) {offset : Nat}
    (inside : offset ≤ message.length) :
    ∃ pieces, Cut size header message offset pieces := by
  generalize left : message.length - offset = remaining
  induction remaining using Nat.strong_induction_on generalizing offset with
  | _ remaining ih =>
      cases last : (pieceAt size header message offset).last with
      | true => exact ⟨_, .last last⟩
      | false =>
          have more : ¬ message.length ≤ offset + size := by
            rw [← @pieceAt_last η α size header, last]
            exact Bool.false_ne_true
          have length := @length_pieceAt η α size header message offset
          obtain ⟨rest, later⟩ := ih
            (message.length -
              (offset + (pieceAt size header message offset).data.length))
            (by omega)
            (by omega) rfl
          exact ⟨_, .more last later⟩

end

/-- The first piece drops what was held. -/
def started (held : Option (PartialMessage η α)) (piece : Piece η α) :
    Option (PartialMessage η α) :=
  if piece.first then some ⟨piece.header, piece.total, []⟩ else held

/-- The last first piece, and what came after it. -/
structure SinceFirst (pieces : List (Piece η α)) (first : Piece η α)
    (since : List (Piece η α)) : Prop where
  split : ∃ earlier, pieces = earlier ++ first :: since
  first : first.first = true
  later : ∀ piece ∈ since, piece.first = false

/-- What is held was collected since then. -/
def Collected (pieces : List (Piece η α))
    (held : Option (PartialMessage η α)) : Prop :=
  ∀ message, held = some message →
    ∃ first since, SinceFirst pieces first since ∧
      message.header = first.header ∧ message.total = first.total ∧
        message.data = (first :: since).flatMap Piece.data

theorem collected_none (pieces : List (Piece η α)) : Collected pieces none :=
  fun _ impossible => nomatch impossible

theorem SinceFirst.append {pieces since : List (Piece η α)}
    {first piece : Piece η α} (since_first : SinceFirst pieces first since)
    (later : piece.first = false) :
    SinceFirst (pieces ++ [piece]) first (since ++ [piece]) := by
  obtain ⟨earlier, rfl⟩ := since_first.split
  refine ⟨⟨earlier, ?_⟩, since_first.first, ?_⟩
  · rw [List.append_assoc, List.cons_append]
  · exact List.forall_mem_append.mpr
      ⟨since_first.later, List.forall_mem_singleton.mpr later⟩

theorem collected_started (collected : Collected pieces held)
    (start : started held piece = some message) :
    ∃ first since, SinceFirst (pieces ++ [piece]) first since ∧
      message.header = first.header ∧ message.total = first.total ∧
        message.data ++ piece.data = (first :: since).flatMap Piece.data := by
  rw [started] at start
  cases first : piece.first with
  | true =>
      rw [if_pos first] at start
      cases start
      refine ⟨piece, [], ⟨⟨pieces, rfl⟩, first, ?_⟩, rfl, rfl, ?_⟩
      · exact fun _ impossible => nomatch impossible
      · simp
  | false =>
      rw [if_neg (by rw [first]; exact Bool.false_ne_true)] at start
      obtain ⟨front, since, sinceFirst, header, total, data⟩ :=
        collected message start
      refine ⟨front, since ++ [piece], sinceFirst.append first, header, total,
        ?_⟩
      rw [data]
      simp

variable [DecidableEq η]

def extend : Option (PartialMessage η α) → Piece η α →
    Option (PartialMessage η α) × Except Unit (Option (η × List α))
  | none, _ => (none, .error ())
  | some message, piece =>
      if message.header = piece.header ∧ message.total = piece.total ∧
          message.data.length = piece.offset then
        if piece.last then
          (none, .ok (some (piece.header, message.data ++ piece.data)))
        else
          (some { message with data := message.data ++ piece.data }, .ok none)
      else (none, .error ())

theorem extend_continues {message : PartialMessage η α} {piece : Piece η α}
    (header : message.header = piece.header)
    (total : message.total = piece.total)
    (offset : message.data.length = piece.offset) :
    extend (some message) piece =
      if piece.last then
        (none, .ok (some (piece.header, message.data ++ piece.data)))
      else
        (some { message with data := message.data ++ piece.data }, .ok none) :=
  if_pos ⟨header, total, offset⟩

theorem extend_refuses {message : PartialMessage η α} {piece : Piece η α}
    (refused : ¬ (message.header = piece.header ∧
      message.total = piece.total ∧ message.data.length = piece.offset)) :
    extend (some message) piece = (none, .error ()) :=
  if_neg refused

def push (held : Option (PartialMessage η α)) (piece : Piece η α) :
    Option (PartialMessage η α) × Except Unit (Option (η × List α)) :=
  extend (started held piece) piece

theorem push_next {size : Nat} {header : η} {message : List α} {offset : Nat}
    {held : Option (PartialMessage η α)} (inside : offset ≤ message.length)
    (ready : offset = 0 ∨
      held = some ⟨header, message.length, message.take offset⟩) :
    push held (pieceAt size header message offset) =
      if message.length ≤ offset + size then
        (none, .ok (some (header, message)))
      else
        (some ⟨header, message.length, message.take (offset + size)⟩,
          .ok none) := by
  have start : started held (pieceAt size header message offset) =
      some ⟨header, message.length, message.take offset⟩ := by
    by_cases front : offset = 0
    · rw [started, if_pos (pieceAt_first.mpr front), front, List.take_zero]
      rfl
    · rw [started, if_neg fun first => front (pieceAt_first.mp first)]
      exact ready.resolve_left front
  have reached : (message.take offset).length = offset := by
    rw [List.length_take]
    omega
  have joined : message.take offset ++
      (pieceAt size header message offset).data =
        message.take (offset + size) := by
    rw [pieceAt, slice, List.take_add]
  rw [push, start, extend_continues rfl rfl reached, joined]
  by_cases last : message.length ≤ offset + size
  · rw [if_pos last, if_pos (pieceAt_last.mpr last),
      List.take_of_length_le last]
    rfl
  · rw [if_neg last, if_neg fun isLast => last (pieceAt_last.mp isLast)]

theorem outputs_cut {size : Nat} {header : η} {message : List α}
    {offset : Nat} {pieces : List (Piece η α)}
    {held : Option (PartialMessage η α)}
    (cut : Cut size header message offset pieces)
    (inside : offset ≤ message.length)
    (ready : offset = 0 ∨
      held = some ⟨header, message.length, message.take offset⟩) :
    (Run.trace push held pieces).map Transition.output =
      List.replicate (pieces.length - 1) (.ok none) ++
        [.ok (some (header, message))] := by
  induction cut generalizing held with
  | last ends =>
      rw [Run.trace, push_next inside ready, if_pos (pieceAt_last.mp ends)]
      rfl
  | @more offset rest goesOn later ih =>
      have more : ¬ message.length ≤ offset + size := by
        rw [← @pieceAt_last η α size header, goesOn]
        exact Bool.false_ne_true
      have full : offset + (pieceAt size header message offset).data.length =
          offset + size := by
        rw [length_pieceAt]
        omega
      have pushed := ih (by omega) (.inr (by rw [full]))
      rw [Run.trace, push_next inside ready, if_neg more, List.map_cons]
      dsimp only
      rw [← full] at pushed ⊢
      rw [pushed]
      cases later <;> rfl

theorem collected_push (collected : Collected pieces held) (piece : Piece η α) :
    Collected (pieces ++ [piece]) (push held piece).1 ∧
      ∀ header data, (push held piece).2 = .ok (some (header, data)) →
        ∃ first since, SinceFirst (pieces ++ [piece]) first since ∧
          header = first.header ∧
          data = (first :: since).flatMap Piece.data ∧
          piece.total = first.total ∧ piece.last = true ∧
            data.length = piece.offset + piece.data.length := by
  rw [push]
  cases start : started held piece with
  | none =>
      exact ⟨collected_none _, fun _ _ impossible => nomatch impossible⟩
  | some message =>
      obtain ⟨first, since, sinceFirst, header, total, data⟩ :=
        collected_started collected start
      by_cases fits : message.header = piece.header ∧
        message.total = piece.total ∧ message.data.length = piece.offset
      · obtain ⟨sameHeader, sameTotal, reached⟩ := fits
        rw [extend_continues sameHeader sameTotal reached]
        by_cases last : piece.last = true
        · rw [if_pos last]
          refine ⟨collected_none _, ?_⟩
          intro shownHeader shownData same
          cases same
          refine ⟨first, since, sinceFirst, sameHeader.symm.trans header, data,
            sameTotal.symm.trans total, last, ?_⟩
          rw [List.length_append, reached]
        · rw [if_neg last]
          refine ⟨?_, fun _ _ impossible => nomatch impossible⟩
          intro held same
          cases same
          exact ⟨first, since, sinceFirst, header, total, data⟩
      · rw [extend_refuses fits]
        exact ⟨collected_none _, fun _ _ impossible => nomatch impossible⟩

/-- What a result shows of the message in it. -/
def shown {ε μ : Type} (key : μ → η × List α) :
    Except ε (Option μ) → Except Unit (Option (η × List α))
  | .error _ => .error ()
  | .ok message => .ok (message.map key)

omit [DecidableEq η] in
theorem eq_of_shown {ε μ : Type} {key : μ → η × List α}
    (injective : Function.Injective key)
    {outputs : List (Except ε (Option μ))} {messages : List (Option μ)}
    (same : outputs.map (shown key) =
      messages.map fun message => .ok (message.map key)) :
    outputs = messages.map .ok := by
  induction outputs generalizing messages with
  | nil =>
      rw [List.map_eq_nil_iff.mp same.symm]
      rfl
  | cons output rest ih =>
      cases messages with
      | nil => cases same
      | cons message later =>
          obtain ⟨front, back⟩ := List.cons.inj same
          rw [List.map_cons, ih back]
          cases output with
          | error reason => cases front
          | ok found =>
              rw [Option.map_injective injective (Except.ok.inj front)]

/-- An assembler whose steps are those of `push`, for fragments that pass the
checks of the program.  A first piece may come in any state. -/
structure Assembler (σ φ ε μ η α : Type) [DecidableEq η] where
  step : σ → φ → σ × Except ε (Option μ)
  piece : φ → Piece η α
  key : μ → η × List α
  accepted : φ → Prop
  holds : σ → Option (PartialMessage η α) → Prop
  valid : ∀ fragment, accepted fragment → (piece fragment).Valid
  push : ∀ state held fragment, accepted fragment →
    (holds state held ∨ (piece fragment).first = true) →
      holds (step state fragment).1 (push held (piece fragment)).1 ∧
        shown key (step state fragment).2 = (push held (piece fragment)).2

namespace Assembler

variable {σ φ ε μ : Type} (assembler : Assembler σ φ ε μ η α)

theorem outputs_eq {fragments : List φ} {state : σ}
    {held : Option (PartialMessage η α)}
    (accepted : ∀ fragment ∈ fragments, assembler.accepted fragment)
    (ready : assembler.holds state held ∨ ∀ fragment,
      fragments.head? = some fragment →
        (assembler.piece fragment).first = true) :
    (Run.trace assembler.step state fragments).map
        (fun taken => shown assembler.key taken.output) =
      (Run.trace Reassembly.push held (fragments.map assembler.piece)).map
        Transition.output := by
  induction fragments generalizing state held with
  | nil => rfl
  | cons fragment rest ih =>
      obtain ⟨known, later⟩ := List.forall_mem_cons.mp accepted
      obtain ⟨holds, output⟩ := assembler.push state held fragment known
        (ready.imp_right fun first => first fragment rfl)
      rw [List.map_cons, Run.trace, Run.trace, List.map_cons, List.map_cons,
        output, ih later (.inl holds)]

theorem outputs_of_cut {fragments : List φ}
    (injective : Function.Injective assembler.key) (state : σ)
    (accepted : ∀ fragment ∈ fragments, assembler.accepted fragment)
    (cut : Cut size (assembler.key message).1 (assembler.key message).2 0
      (fragments.map assembler.piece)) :
    (Run.trace assembler.step state fragments).map Transition.output =
      List.replicate (fragments.length - 1) (.ok none) ++
        [.ok (some message)] := by
  have outputs := @outputs_eq _ _ _ _ _ _ _ assembler fragments state none
    accepted (.inr ?_)
  · rw [outputs_cut cut (Nat.zero_le _) (.inl rfl), List.length_map] at outputs
    have messages := @eq_of_shown η α ε μ assembler.key injective
      ((Run.trace assembler.step state fragments).map Transition.output)
      (List.replicate (fragments.length - 1) none ++ [some message])
    rw [messages (by
      rw [List.map_map, show shown assembler.key ∘ Transition.output = fun taken
        => shown assembler.key taken.output from rfl, outputs]
      simp)]
    simp
  · intro fragment front
    cases fragments with
    | nil => cases front
    | cons head rest =>
        cases front
        obtain ⟨later, pieces⟩ := cut_head cut
        rw [(List.cons.inj pieces).1, pieceAt_first]

theorem holds_final
    (accepted : ∀ fragment ∈ fragments, assembler.accepted fragment)
    (holds : assembler.holds state held) (collected : Collected done held) :
    ∃ finish, assembler.holds (Run.final assembler.step state fragments)
        finish ∧
      Collected (done ++ fragments.map assembler.piece) finish := by
  induction fragments generalizing state held done with
  | nil => exact ⟨held, holds, by simpa using collected⟩
  | cons fragment rest ih =>
      obtain ⟨known, later⟩ := List.forall_mem_cons.mp accepted
      obtain ⟨next, -⟩ := assembler.push state held fragment known (.inl holds)
      rw [List.map_cons, List.append_cons]
      exact ih later next (collected_push collected _).1

theorem message_of_fragments {state : σ}
    (idle : assembler.holds state none) {fragments : List φ} {fragment : φ}
    (accepted : ∀ other ∈ fragments ++ [fragment],
      assembler.accepted other) {message : μ}
    (whole : (assembler.step (Run.final assembler.step state fragments)
      fragment).2 = .ok (some message)) :
    ∃ earlier first since, fragments ++ [fragment] = earlier ++ first :: since ∧
      (assembler.piece first).first = true ∧
      (∀ other ∈ since, (assembler.piece other).first = false) ∧
      (assembler.key message).1 = (assembler.piece first).header ∧
      (assembler.key message).2 =
        (first :: since).flatMap (fun other => (assembler.piece other).data) ∧
      (assembler.key message).2.length = (assembler.piece first).total := by
  obtain ⟨early, last⟩ := List.forall_mem_append.mp accepted
  have known := last fragment (List.mem_singleton_self _)
  obtain ⟨held, holds, collected⟩ :=
    assembler.holds_final early idle (collected_none [])
  obtain ⟨-, output⟩ := assembler.push _ held fragment known (.inl holds)
  rw [whole] at output
  obtain ⟨first, since, sinceFirst, header, data, total, isLast, length⟩ :=
    (collected_push collected (assembler.piece fragment)).2 _ _ output.symm
  obtain ⟨earlier, split⟩ := sinceFirst.split
  have valid := assembler.valid fragment known
  rw [List.nil_append, ← List.map_singleton, ← List.map_append,
    List.map_eq_append_iff] at split
  obtain ⟨before, after, same, -, rest⟩ := split
  obtain ⟨front, later, rfl, rfl, rfl⟩ := List.map_eq_cons_iff.mp rest
  refine ⟨before, front, later, same, sinceFirst.first, ?_, header, ?_, ?_⟩
  · intro other member
    exact sinceFirst.later _ (List.mem_map_of_mem member)
  · rw [data, ← List.map_cons, List.flatMap_map]
  · rw [length, valid.last.mp isLast, total]

end Assembler

end Reassembly

end HidShift.Lib
