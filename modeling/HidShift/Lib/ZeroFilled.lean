import HidShift.Lib.CheckedWord

namespace HidShift.Lib

def zeroFilled (size : Nat) (content : List UInt8) : List UInt8 :=
  content ++ List.replicate (size - content.length) 0

namespace ZeroFilled

open Checked

variable {ε β : Type} {size : Nat} {content : List UInt8}

theorem length (fits : content.length ≤ size) :
    (zeroFilled size content).length = size := by
  rw [zeroFilled, List.length_append, List.length_replicate]
  omega

theorem nil : zeroFilled size [] = List.replicate size 0 := by
  rw [zeroFilled, List.nil_append, List.length_nil, Nat.sub_zero]

theorem zeros {count : Nat} (fits : content.length + count ≤ size) :
    zeroFilled size (content ++ List.replicate count 0) =
      zeroFilled size content := by
  rw [zeroFilled, zeroFilled, List.append_assoc, List.replicate_append_replicate,
    List.length_append, List.length_replicate]
  congr 2
  omega

theorem ofZeros {count : Nat} (fits : count ≤ size) :
    List.replicate size 0 = zeroFilled size (List.replicate count 0) := by
  have filled := @zeros size [] count (by simpa using fits)
  rw [List.nil_append, nil] at filled
  exact filled.symm

theorem take : (zeroFilled size content).take content.length = content := by
  rw [zeroFilled, List.take_left]

variable {next : List UInt8 → Checked ε β} {rest : Except ε β}

theorem yields_stored (before : content.length = index) (room : index < size)
    (restYields : Yields (next (zeroFilled size (content ++ [value]))) rest) :
    Yields (stored (zeroFilled size content) index value >>= next) rest := by
  rw [zeroFilled] at restYields ⊢
  apply Checked.yields_stored before
  · rw [List.length_replicate]
    omega
  · rw [List.length_append, List.length_singleton, ← Nat.sub_sub,
      List.append_assoc, List.singleton_append] at restYields
    rwa [List.drop_replicate]

theorem yields_placed {start stop : Nat} {source : List UInt8}
    (before : content.length = start) (fits : start + source.length = stop)
    (room : stop ≤ size)
    (restYields : Yields (next (zeroFilled size (content ++ source))) rest) :
    Yields (placed (zeroFilled size content) start stop source >>= next)
      rest := by
  rw [zeroFilled] at restYields ⊢
  apply Checked.yields_placed before fits
  · rw [List.length_replicate]
    omega
  · rw [List.length_append, ← Nat.sub_sub, List.append_assoc] at restYields
    rwa [List.drop_replicate]

theorem yields_changed (inside : index < content.length)
    (restYields : Yields (next (zeroFilled size (content.set index value)))
      rest) :
    Yields (stored (zeroFilled size content) index value >>= next) rest := by
  refine yields_lift (if_pos ?_) ?_
  · rw [zeroFilled, List.length_append]
    omega
  · rw [zeroFilled, List.set_append_left _ _ inside]
    rwa [zeroFilled, List.length_set] at restYields

end ZeroFilled

end HidShift.Lib
