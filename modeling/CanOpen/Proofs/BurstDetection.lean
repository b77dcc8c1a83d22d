import CanOpen.Proofs.Remainder
import Mathlib.Algebra.Field.ZMod
import Mathlib.Algebra.Polynomial.Degree.Domain
import Mathlib.RingTheory.Coprime.Lemmas

/-!
# Short bursts are detected

The generator has no factor `x`, so it divides a polynomial times a power of `x` only if it
divides the polynomial itself.  Two messages that differ within 16 bits in a row differ by a
polynomial of a lower degree than the generator's, times such a power.
-/

set_option autoImplicit false

namespace CanOpen.Crc

open Polynomial

/-! ## Messages and their polynomials -/

theorem coeff_ofBits (bits : List Bool) (power : Nat) :
    (ofBits bits).coeff power = coefficient (bits.reverse[power]?.getD false) := by
  induction bits using List.reverseRecOn generalizing power with
  | nil => simp [ofBits, coefficient]
  | append_singleton bits bit inductionHypothesis =>
      rw [ofBits, List.foldl_concat, ← ofBits, List.reverse_concat]
      cases power with
      | zero => simp
      | succ power => simp [coeff_mul_X, coeff_C_succ, inductionHypothesis]

/-- Where two messages have different coefficients, they have different bits. -/
theorem bits_ne_of_coeff_ne {left right : List Bool} (same : left.length = right.length)
    {power : Nat} (differ : (ofBits left).coeff power ≠ (ofBits right).coeff power) :
    ∃ place, place + power + 1 = left.length ∧ left[place]? ≠ right[place]? := by
  rw [coeff_ofBits, coeff_ofBits] at differ
  by_cases inside : power < left.length
  · refine ⟨left.length - 1 - power, by omega, fun equal => differ ?_⟩
    rw [List.getElem?_reverse inside, List.getElem?_reverse (same ▸ inside), equal, same]
  · have outside : right.length ≤ power := same ▸ Nat.not_lt.1 inside
    rw [List.getElem?_eq_none (by simpa using inside),
      List.getElem?_eq_none (by simpa using outside)] at differ
    exact absurd rfl differ

theorem ofBits_injective {left right : List Bool} (same : left.length = right.length)
    (equal : ofBits left = ofBits right) : left = right := by
  have reversed : left.reverse = right.reverse := by
    apply List.ext_getElem (by simpa using same)
    intro power inLeft inRight
    have coefficients := congrArg (fun polynomial => polynomial.coeff power) equal
    simp only [coeff_ofBits, List.getElem?_eq_getElem inLeft, List.getElem?_eq_getElem inRight]
      at coefficients
    exact coefficient_injective coefficients
  exact List.reverse_injective reversed

theorem bitsOfByte_injective : Function.Injective bitsOfByte := by
  have read : ∀ byte : UInt8,
      (bitsOfByte byte).foldl (fun value bit => 2 * value + bit.toNat) 0 = byte.toNat := by
    decide +kernel
  intro byte other equal
  rw [← UInt8.toNat_inj, ← read byte, equal, read other]

theorem length_bitsOfByte (byte : UInt8) : (bitsOfByte byte).length = 8 := by
  rw [bitsOfByte, List.length_map, List.length_range]

theorem length_bitsOf (bytes : List UInt8) : (bitsOf bytes).length = 8 * bytes.length := by
  induction bytes with
  | nil => rfl
  | cons byte bytes inductionHypothesis =>
      rw [bitsOf, List.flatMap_cons, ← bitsOf, List.length_append, length_bitsOfByte,
        inductionHypothesis, List.length_cons]
      omega

theorem bitsOf_injective : Function.Injective bitsOf := by
  intro left
  induction left with
  | nil =>
      intro right equal
      have none := congrArg List.length equal
      rw [length_bitsOf, length_bitsOf] at none
      exact (List.length_eq_zero_iff.1 (by simpa using none.symm)).symm
  | cons byte left inductionHypothesis =>
      intro right equal
      cases right with
      | nil =>
          have some := congrArg List.length equal
          rw [length_bitsOf, length_bitsOf] at some
          simp at some
      | cons other right =>
          have heads : (bitsOfByte byte).length = (bitsOfByte other).length := by
            rw [length_bitsOfByte, length_bitsOfByte]
          obtain ⟨head, tail⟩ := List.append_inj equal heads
          rw [bitsOfByte_injective head, inductionHypothesis tail]

/-! ## Multiples of the generator -/

theorem isCoprime_generator_X : IsCoprime generator X := by
  refine ⟨1, X ^ 15 + X ^ 11 + X ^ 4, ?_⟩
  have two : (2 : (ZMod 2)[X]) = 0 := CharTwo.two_eq_zero
  rw [generator]
  linear_combination (X ^ 16 + X ^ 12 + X ^ 5) * two

/-- The generator divides no polynomial but 0 whose powers lie within 16 in a row. -/
theorem eq_zero_of_generator_dvd {polynomial : (ZMod 2)[X]} {lowest : Nat}
    (divides : generator ∣ polynomial)
    (within : ∀ power, polynomial.coeff power ≠ 0 → lowest ≤ power ∧ power < lowest + 16) :
    polynomial = 0 := by
  have below : X ^ lowest ∣ polynomial := by
    rw [X_pow_dvd_iff]
    intro power less
    by_contra some
    exact Nat.not_le.2 less (within power some).1
  obtain ⟨burst, rfl⟩ := below
  have small : burst.degree < generator.degree := by
    rw [degree_generator]
    apply (degree_lt_iff_coeff_zero burst 16).2
    intro power above
    by_contra some
    rw [← coeff_X_pow_mul burst lowest power] at some
    have bound := (within _ some).2
    omega
  have whole : generator ∣ burst :=
    isCoprime_generator_X.pow_right.dvd_of_dvd_mul_left divides
  rw [eq_zero_of_dvd_of_degree_lt whole small, mul_zero]

theorem generator_dvd_of_checksum_eq {left right : List UInt8}
    (same : checksum left = checksum right) :
    generator ∣ ofBits (bitsOf left) - ofBits (bitsOf right) := by
  have remainder :
      ((ofBits (bitsOf left) - ofBits (bitsOf right)) * X ^ 16) %ₘ generator = 0 := by
    rw [sub_mul, sub_modByMonic, ← ofRegister_checksum, ← ofRegister_checksum, same, sub_self]
  have divides := (modByMonic_eq_zero_iff_dvd generator_monic).1 remainder
  exact isCoprime_generator_X.pow_right.dvd_of_dvd_mul_right divides

/-- Messages of the same length that differ, but only within 16 bits in a row, have different
checksums. -/
theorem checksum_ne_of_burst {left right : List UInt8} (same : left.length = right.length)
    (differ : left ≠ right) {first : Nat}
    (burst : ∀ place, (bitsOf left)[place]? ≠ (bitsOf right)[place]? →
      first ≤ place ∧ place < first + 16) :
    checksum left ≠ checksum right := by
  intro equal
  have sameBits : (bitsOf left).length = (bitsOf right).length := by
    rw [length_bitsOf, length_bitsOf, same]
  -- The first bit has the highest power, so the burst ends at the lowest of its powers.
  have within : ∀ power, (ofBits (bitsOf left) - ofBits (bitsOf right)).coeff power ≠ 0 →
      (bitsOf left).length - (first + 16) ≤ power
        ∧ power < (bitsOf left).length - (first + 16) + 16 := by
    intro power some
    rw [coeff_sub] at some
    obtain ⟨place, position, differs⟩ := bits_ne_of_coeff_ne sameBits (sub_ne_zero.1 some)
    have bounds := burst place differs
    omega
  have none := eq_zero_of_generator_dvd (generator_dvd_of_checksum_eq equal) within
  exact differ (bitsOf_injective (ofBits_injective sameBits (sub_eq_zero.1 none)))

/-- A burst of 16 bits may touch three bytes. -/
theorem checksum_ne_of_burst_threeBytes :
    let left : List UInt8 := [0x11, 0x22, 0x33, 0x44]
    let right : List UInt8 := [0x19, 0xDD, 0x23, 0x44]
    checksum left ≠ checksum right := by
  intro left right
  have burst : ∀ place, (bitsOf left)[place]? ≠ (bitsOf right)[place]? →
      4 ≤ place ∧ place < 4 + 16 := by
    intro place differs
    have inside : place < 32 := by
      by_contra outside
      have none (bytes : List UInt8) (length : bytes.length = 4) : (bitsOf bytes)[place]? = none :=
        List.getElem?_eq_none (by rw [length_bitsOf, length]; exact Nat.not_lt.1 outside)
      exact differs ((none left rfl).trans (none right rfl).symm)
    have checked : ∀ place < 32, (bitsOf left)[place]? ≠ (bitsOf right)[place]? →
        4 ≤ place ∧ place < 4 + 16 := by
      decide +kernel
    exact checked place inside differs
  exact checksum_ne_of_burst rfl (by decide) burst

end CanOpen.Crc
