import Mathlib.Data.List.InsertIdx

/-! A first-in first-out channel, oldest message at the head.  It may lose any
message in flight and deliver any of them more than once, and never lets a
message overtake an earlier one: a second copy travels right behind the first.
-/

namespace HidShift.Lib.Channel

variable {α β : Type}

def lose (messages : List α) (index : Nat) : List α :=
  messages.eraseIdx index

def duplicate (messages : List α) (index : Nat) : List α :=
  messages.take (index + 1) ++ messages.drop index

variable {messages : List α}

theorem mem_of_mem_lose (member : message ∈ lose messages index) :
    message ∈ messages :=
  (List.eraseIdx_sublist messages index).subset member

theorem mem_of_mem_duplicate (member : message ∈ duplicate messages index) :
    message ∈ messages := by
  rcases List.mem_append.mp member with early | late
  · exact List.mem_of_mem_take early
  · exact List.mem_of_mem_drop late

theorem map_lose (f : α → β) (messages : List α) (index : Nat) :
    (lose messages index).map f = lose (messages.map f) index := by
  rw [lose, lose, List.eraseIdx_map]

theorem map_duplicate (f : α → β) (messages : List α) (index : Nat) :
    (duplicate messages index).map f = duplicate (messages.map f) index := by
  rw [duplicate, duplicate, List.map_append, List.map_take, List.map_drop]

theorem pairwise_lose (ordered : messages.Pairwise R) (index : Nat) :
    (lose messages index).Pairwise R :=
  ordered.sublist (List.eraseIdx_sublist messages index)

theorem pairwise_duplicate (copy : ∀ message, R message message)
    (ordered : messages.Pairwise R) (index : Nat) :
    (duplicate messages index).Pairwise R := by
  induction messages generalizing index with
  | nil => simp [duplicate]
  | cons head tail ih =>
      obtain ⟨headFirst, tailOrdered⟩ := List.pairwise_cons.mp ordered
      cases index with
      | zero =>
          rw [duplicate, List.take_succ_cons, List.take_zero, List.drop_zero]
          refine List.pairwise_cons.mpr ⟨?_, ordered⟩
          intro message member
          rcases List.mem_cons.mp member with rfl | later
          · exact copy message
          · exact headFirst message later
      | succ index =>
          rw [duplicate, List.take_succ_cons, List.drop_succ_cons]
          refine List.pairwise_cons.mpr ⟨?_, ih tailOrdered index⟩
          intro message member
          exact headFirst message (mem_of_mem_duplicate member)

theorem pairwise_send (ordered : messages.Pairwise R)
    (last : ∀ earlier ∈ messages, R earlier message) :
    (messages ++ [message]).Pairwise R := by
  refine List.pairwise_append.mpr
    ⟨ordered, List.pairwise_singleton R message, ?_⟩
  intro earlier member later isLater
  rw [List.mem_singleton.mp isLater]
  exact last earlier member

end HidShift.Lib.Channel
