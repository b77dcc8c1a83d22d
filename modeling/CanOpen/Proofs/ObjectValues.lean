import CanOpen.Sdo.Transfer.Expedited
import Mathlib.Algebra.Group.Nat.Defs

/-!
# Numbers that are read back

Writing keeps as many low bytes of a number as there is room for, and reading finds just
these again.
-/

set_option autoImplicit false

namespace CanOpen

namespace LittleEndian

theorem combine_lt (bytes : List UInt8) : combine bytes < 256 ^ bytes.length := by
  induction bytes with
  | nil => exact Nat.one_pos
  | cons byte bytes inductionHypothesis =>
      have bound := byte.toNat_lt
      rw [combine, List.length_cons, Nat.pow_succ]
      omega

theorem combine_split (count value : Nat) : combine (split count value) = value % 256 ^ count := by
  induction count generalizing value with
  | zero => rw [split, combine, Nat.pow_zero, Nat.mod_one]
  | succ count inductionHypothesis =>
      have low : (UInt8.ofNat value).toNat = value % 256 := UInt8.toNat_ofNat'
      rw [split, combine, low, inductionHypothesis, Nat.pow_succ', Nat.mod_mul]

end LittleEndian

namespace ObjectValue

open LittleEndian

theorem decode_of_length_le {bytes : List UInt8} (short : bytes.length ≤ 4) :
    decode bytes = .ok (UInt32.ofNat (combine bytes)) :=
  if_neg (Nat.not_lt.2 short)

theorem toNat_ofNat_combine {bytes : List UInt8} (short : bytes.length ≤ 4) :
    (UInt32.ofNat (combine bytes)).toNat = combine bytes := by
  have bound := combine_lt bytes
  have within : 256 ^ bytes.length ≤ 256 ^ 4 := Nat.pow_le_pow_right (by decide) short
  rw [UInt32.toNat_ofNat', Nat.mod_eq_of_lt]
  exact Nat.lt_of_lt_of_le bound within

theorem encode_eq_ok_iff {value : UInt32} {length : Nat} {bytes : List UInt8} :
    encode value length = .ok bytes
      ↔ (1 ≤ length ∧ length ≤ 4) ∧ bytes = split length value.toNat := by
  have limit : maxLength = 4 := rfl
  unfold encode
  split
  next unfit =>
    have outside : ¬ (1 ≤ length ∧ length ≤ 4) := by omega
    simp [outside]
  next fits =>
    have inside : 1 ≤ length ∧ length ≤ 4 := by omega
    simp [inside, eq_comm]

section Encoded

variable {value : UInt32} {length : Nat} {bytes : List UInt8}
  (encoded : encode value length = .ok bytes)
include encoded

theorem length_of_encode : bytes.length = length := by
  obtain ⟨_, rfl⟩ := encode_eq_ok_iff.1 encoded
  exact length_split _ _

theorem combine_of_encode : combine bytes = value.toNat % 2 ^ (8 * length) := by
  obtain ⟨_, rfl⟩ := encode_eq_ok_iff.1 encoded
  rw [combine_split, Nat.pow_mul]

/-- What is written is read as the number modulo a power of two. -/
theorem decode_of_encode : decode bytes = .ok (UInt32.ofNat (value.toNat % 2 ^ (8 * length))) := by
  have short : bytes.length ≤ 4 := by
    rw [length_of_encode encoded]
    exact (encode_eq_ok_iff.1 encoded).1.2
  rw [decode_of_length_le short, combine_of_encode encoded]

end Encoded

/-- What is read is written in the same bytes again. -/
theorem encode_of_decode {value : UInt32} {bytes : List UInt8} (some : 1 ≤ bytes.length)
    (decoded : decode bytes = .ok value) : encode value bytes.length = .ok bytes := by
  unfold decode at decoded
  split at decoded
  next => cases decoded
  next fits =>
    have short : bytes.length ≤ 4 := Nat.not_lt.1 fits
    cases decoded
    rw [encode_eq_ok_iff, toNat_ofNat_combine short, split_combine]
    exact ⟨⟨some, short⟩, rfl⟩

end ObjectValue

end CanOpen
