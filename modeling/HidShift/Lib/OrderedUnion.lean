import Mathlib.Data.List.Basic
import Mathlib.Data.List.Nodup

namespace HidShift.Lib

namespace OrderedUnion

variable {α : Type} [DecidableEq α]

def pushNew (members : List α) (value : α) : List α :=
  if value ∈ members then members else members ++ [value]

def unionInto (members values : List α) : List α :=
  values.foldl pushNew members

@[simp] theorem unionInto_nil (members : List α) :
    unionInto members [] = members := rfl

@[simp] theorem unionInto_cons (members : List α) (value : α)
    (values : List α) :
    unionInto members (value :: values) =
      unionInto (pushNew members value) values := rfl

theorem unionInto_append (members first second : List α) :
    unionInto members (first ++ second) =
      unionInto (unionInto members first) second :=
  List.foldl_append

theorem mem_pushNew {members : List α} {value member : α} :
    member ∈ pushNew members value ↔ member ∈ members ∨ member = value := by
  simp only [pushNew]
  split
  · rename_i present
    constructor
    · exact Or.inl
    · rintro (old | rfl)
      · exact old
      · exact present
  · simp

theorem mem_unionInto {members values : List α} {member : α} :
    member ∈ unionInto members values ↔
      member ∈ members ∨ member ∈ values := by
  induction values generalizing members with
  | nil => simp
  | cons head tail ih =>
      rw [unionInto_cons, ih, mem_pushNew, List.mem_cons, or_assoc]

theorem nodup_pushNew (nodup : members.Nodup) (value : α) :
    (pushNew members value).Nodup := by
  simp only [pushNew]
  split
  · exact nodup
  · rename_i absent
    exact List.nodup_append.mpr ⟨nodup, List.nodup_singleton value, by
      intro left leftMember right rightMember same
      rw [List.mem_singleton] at rightMember
      subst rightMember
      subst same
      exact absent leftMember⟩

theorem nodup_unionInto (nodup : members.Nodup) (values : List α) :
    (unionInto members values).Nodup := by
  induction values generalizing members with
  | nil => exact nodup
  | cons head tail ih => exact ih (nodup_pushNew nodup head)

theorem prefix_pushNew (members : List α) (value : α) :
    members <+: pushNew members value := by
  simp only [pushNew]
  split
  · exact List.prefix_rfl
  · exact List.prefix_append _ _

theorem prefix_unionInto (members values : List α) :
    members <+: unionInto members values := by
  induction values generalizing members with
  | nil => exact List.prefix_rfl
  | cons head tail ih =>
      exact (prefix_pushNew members head).trans (ih (pushNew members head))

theorem unionInto_of_nodup {members values : List α}
    (nodup : (members ++ values).Nodup) :
    unionInto members values = members ++ values := by
  induction values generalizing members with
  | nil => exact (List.append_nil members).symm
  | cons head tail ih =>
      have absent : head ∉ members := by
        intro present
        exact (List.nodup_append.mp nodup).2.2 head present head
          (List.mem_cons_self ..) rfl
      have next : pushNew members head = members ++ [head] := if_neg absent
      rw [unionInto_cons, next, ih (by simpa using nodup), List.append_assoc]
      rfl

theorem unionInto_of_subset {members values : List α}
    (present : ∀ value ∈ values, value ∈ members) :
    unionInto members values = members := by
  induction values with
  | nil => rfl
  | cons head tail ih =>
      have next : pushNew members head = members :=
        if_pos (present head (List.mem_cons_self ..))
      rw [unionInto_cons, next]
      exact ih fun value member =>
        present value (List.mem_cons_of_mem _ member)

end OrderedUnion

end HidShift.Lib
