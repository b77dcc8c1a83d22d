import CanOpen.Crc
import Mathlib.Algebra.CharP.Two
import Mathlib.Algebra.Field.ZMod
import Mathlib.Algebra.Polynomial.Div
import Mathlib.Algebra.Polynomial.Monic
import Mathlib.Algebra.Polynomial.OfFn
import Mathlib.Data.FinEnum
import Mathlib.Tactic.IntervalCases
import Mathlib.Tactic.LinearCombination

/-!
# The checksum is a remainder

A register that takes in a message bit by bit, and is moved up by a place with each of them,
holds the remainder of the message as a polynomial over the field of two elements.  One
look-up in the table is eight such moves, so that the checksum is this remainder as well.
-/

set_option autoImplicit false

namespace CanOpen.Crc

/-! ## Bit by bit -/

def bitsOfByte (byte : UInt8) : List Bool :=
  (List.range 8).map fun place => byte.toNat.testBit (7 - place)

def bitsOf (bytes : List UInt8) : List Bool :=
  bytes.flatMap bitsOfByte

def feedback (out : Bool) : UInt16 :=
  if out then 0x1021 else 0

/-- Moves the register up by a place.  The bit taken in joins the one that leaves at the top. -/
def shift (register : UInt16) (bit : Bool) : UInt16 :=
  (register <<< 1) ^^^ feedback (register.toNat.testBit 15 ^^ bit)

def shiftByte (register : UInt16) (byte : UInt8) : UInt16 :=
  (bitsOfByte byte).foldl shift register

def bitwise (bytes : List UInt8) : UInt16 :=
  (bitsOf bytes).foldl shift 0

theorem feedback_xor (out other : Bool) :
    feedback (out ^^ other) = feedback out ^^^ feedback other := by
  cases out <;> cases other <;> rfl

theorem shift_xor (left right : UInt16) (bit other : Bool) :
    shift (left ^^^ right) (bit ^^ other) = shift left bit ^^^ shift right other := by
  have out : ((left ^^^ right).toNat.testBit 15 ^^ (bit ^^ other))
      = ((left.toNat.testBit 15 ^^ bit) ^^ (right.toNat.testBit 15 ^^ other)) := by
    rw [UInt16.toNat_xor, Nat.testBit_xor]
    simp only [Bool.xor_assoc, Bool.xor_left_comm]
  rw [shift, out, feedback_xor, UInt16.shiftLeft_xor, shift, shift]
  ac_rfl

theorem shiftByte_xor (left right : UInt16) (byte other : UInt8) :
    shiftByte (left ^^^ right) (byte ^^^ other)
      = shiftByte left byte ^^^ shiftByte right other := by
  unfold shiftByte bitsOfByte
  generalize List.range 8 = places
  induction places generalizing left right with
  | nil => rfl
  | cons place places inductionHypothesis =>
      simp only [List.map_cons, List.foldl_cons]
      rw [UInt8.toNat_xor, Nat.testBit_xor, shift_xor, ← inductionHypothesis, UInt8.toNat_xor]

/-! ## Byte by byte -/

def upper (byte : UInt8) : UInt16 :=
  byte.toUInt16 <<< 8

theorem upper_xor (byte other : UInt8) : upper (byte ^^^ other) = upper byte ^^^ upper other := by
  rw [upper, UInt8.toUInt16_xor, UInt16.shiftLeft_xor]
  rfl

theorem upper_xor_lower (register : UInt16) :
    upper (register >>> 8).toUInt8 ^^^ register.toUInt8.toUInt16 = register := by
  apply UInt16.toBitVec_inj.1
  apply BitVec.eq_of_getLsbD_eq
  intro place inside
  have eight : (8 : UInt16).toBitVec % 16 = 8#16 := by decide
  rw [upper, UInt16.toBitVec_xor, UInt16.toBitVec_shiftLeft, UInt8.toBitVec_toUInt16,
    UInt16.toBitVec_toUInt8, UInt16.toBitVec_shiftRight, UInt8.toBitVec_toUInt16,
    UInt16.toBitVec_toUInt8, eight]
  simp only [BitVec.getLsbD_xor, BitVec.getLsbD_setWidth, BitVec.getLsbD_ushiftRight,
    BitVec.getLsbD_shiftLeft, BitVec.shiftLeft_eq', BitVec.ushiftRight_eq', BitVec.reduceToNat]
  by_cases low : place < 8
  · simp [low, inside]
  · have same : 8 + (place - 8) = place := by omega
    have high : place - 8 < 8 := by omega
    simp [low, inside, same, high, Nat.lt_of_lt_of_le high]

theorem shiftLeft_lower (register : UInt16) :
    register.toUInt8.toUInt16 <<< 8 = register <<< 8 := by
  have lower : ∀ byte : UInt8, upper byte <<< 8 = 0 := by decide +kernel
  conv_rhs => rw [← upper_xor_lower register]
  rw [UInt16.shiftLeft_xor, lower, UInt16.zero_xor]

/-- An entry of the table is what eight moves make of its index. -/
theorem shiftByte_upper : ∀ byte : UInt8,
    shiftByte (upper byte) 0 = table.get ⟨byte.toNat, UInt8.toNat_lt byte⟩ := by
  decide +kernel

theorem shiftByte_upper_self : ∀ byte : UInt8, shiftByte (upper byte) byte = 0 := by
  decide +kernel

theorem shiftByte_lower : ∀ byte : UInt8, shiftByte byte.toUInt16 0 = byte.toUInt16 <<< 8 := by
  decide +kernel

/-- One look-up is eight moves. -/
theorem step_eq_shiftByte (register : UInt16) (byte : UInt8) :
    step register byte = shiftByte register byte := by
  let high := (register >>> 8).toUInt8
  let low := register.toUInt8.toUInt16
  have cancelled : shiftByte (upper high) byte = shiftByte (upper (high ^^^ byte)) 0 := by
    have both := shiftByte_xor (upper (high ^^^ byte)) (upper byte) 0 byte
    rwa [← upper_xor, UInt8.xor_assoc, UInt8.xor_self, UInt8.xor_zero, UInt8.zero_xor,
      shiftByte_upper_self, UInt16.xor_zero] at both
  calc step register byte
      = shiftByte (upper (high ^^^ byte)) 0 ^^^ register <<< 8 := by
        rw [shiftByte_upper, step]
    _ = shiftByte (upper high) byte ^^^ shiftByte low 0 := by
        rw [cancelled, shiftByte_lower, shiftLeft_lower]
    _ = shiftByte (upper high ^^^ low) byte := by
        rw [← shiftByte_xor, UInt8.xor_zero]
    _ = shiftByte register byte := by
        rw [upper_xor_lower]

theorem checksum_eq_bitwise (bytes : List UInt8) : checksum bytes = bitwise bytes := by
  rw [checksum, bitwise, bitsOf, List.foldl_flatMap]
  congr
  funext register byte
  exact step_eq_shiftByte register byte

def index (register : UInt16) (byte : UInt8) : Nat :=
  ((register >>> 8) ^^^ byte.toUInt16).toNat

theorem index_lt (register : UInt16) (byte : UInt8) : index register byte < 256 := by
  have upperHalf : (register >>> 8).toNat < 2 ^ 8 := by
    have bound := register.toNat_lt
    rw [UInt16.toNat_shiftRight]
    show register.toNat >>> 8 < 2 ^ 8
    rw [Nat.shiftRight_eq_div_pow]
    omega
  rw [index, UInt16.toNat_xor, UInt8.toNat_toUInt16]
  exact Nat.xor_lt_two_pow upperHalf byte.toNat_lt

theorem step_eq (register : UInt16) (byte : UInt8) :
    step register byte
      = table.get ⟨index register byte, index_lt register byte⟩ ^^^ (register <<< 8) := by
  have same : ((register >>> 8).toUInt8 ^^^ byte).toNat = index register byte := by
    have whole : ((register >>> 8) ^^^ byte.toUInt16).toUInt8
        = (register >>> 8).toUInt8 ^^^ byte := by
      rw [UInt16.toUInt8_xor, UInt8.toUInt8_toUInt16]
    rw [← whole, UInt16.toNat_toUInt8]
    exact Nat.mod_eq_of_lt (index_lt register byte)
  simp only [step, same]

/-! ## Polynomials over the field of two elements -/

section Polynomials

open Polynomial

def coefficient (bit : Bool) : ZMod 2 :=
  if bit then 1 else 0

/-- The polynomial of a register: every bit goes with the power of its place. -/
noncomputable def ofRegister (register : UInt16) : (ZMod 2)[X] :=
  ofFn 16 fun place => coefficient (register.toNat.testBit place)

/-- The polynomial of a message: the last bit goes with the power 0. -/
noncomputable def ofBits (bits : List Bool) : (ZMod 2)[X] :=
  bits.foldl (fun polynomial bit => polynomial * X + C (coefficient bit)) 0

noncomputable def generator : (ZMod 2)[X] :=
  X ^ 16 + X ^ 12 + X ^ 5 + 1

theorem coefficient_xor (bit other : Bool) :
    coefficient (bit ^^ other) = coefficient bit + coefficient other := by
  cases bit <;> cases other <;> decide

theorem coefficient_injective : Function.Injective coefficient := by
  decide

theorem testBit_of_le (register : UInt16) {place : Nat} (above : 16 ≤ place) :
    register.toNat.testBit place = false :=
  Nat.testBit_lt_two_pow
    (Nat.lt_of_lt_of_le register.toNat_lt (Nat.pow_le_pow_right (by decide) above))

theorem coeff_ofRegister (register : UInt16) (place : Nat) :
    (ofRegister register).coeff place = coefficient (register.toNat.testBit place) := by
  rw [ofRegister]
  by_cases inside : place < 16
  · exact ofFn_coeff_eq_val_of_lt _ inside
  · rw [ofFn_coeff_eq_zero_of_ge _ (Nat.not_lt.1 inside),
      testBit_of_le register (Nat.not_lt.1 inside)]
    rfl

theorem degree_ofRegister_lt (register : UInt16) : (ofRegister register).degree < 16 :=
  ofFn_degree_lt _

theorem ofRegister_xor (left right : UInt16) :
    ofRegister (left ^^^ right) = ofRegister left + ofRegister right := by
  ext place
  rw [coeff_add, coeff_ofRegister, coeff_ofRegister, coeff_ofRegister, UInt16.toNat_xor,
    Nat.testBit_xor, coefficient_xor]

theorem ofRegister_shiftLeft (register : UInt16) :
    ofRegister (register <<< 1)
      = ofRegister register * X + C (coefficient (register.toNat.testBit 15)) * X ^ 16 := by
  ext place
  have moved : (register <<< 1).toNat = register.toNat <<< 1 % 2 ^ 16 := by
    rw [UInt16.toNat_shiftLeft]
    rfl
  rw [coeff_ofRegister, coeff_add, coeff_C_mul, coeff_X_pow, moved, Nat.testBit_mod_two_pow,
    Nat.testBit_shiftLeft]
  cases place with
  | zero => simp [coefficient]
  | succ place =>
      rw [coeff_mul_X, coeff_ofRegister]
      rcases Nat.lt_trichotomy place 15 with below | rfl | above
      · have other : place ≠ 15 := Nat.ne_of_lt below
        have inside : place + 1 < 16 := Nat.succ_lt_succ below
        simp [inside, other]
      -- The bit at the top leaves the register, and twice the same coefficient is nothing.
      · simp [coefficient, CharTwo.add_self_eq_zero]
      · have other : place ≠ 15 := Nat.ne_of_gt above
        simp [testBit_of_le register above, other, coefficient]

theorem ofRegister_generator : ofRegister 0x1021 = X ^ 12 + X ^ 5 + 1 := by
  ext place
  rw [coeff_ofRegister]
  by_cases inside : place < 16
  · interval_cases place <;> simp [coefficient, coeff_X_pow, coeff_one, Nat.testBit]
  · have notTwelve : place ≠ 12 := by omega
    have notFive : place ≠ 5 := by omega
    have notZero : place ≠ 0 := by omega
    rw [testBit_of_le _ (Nat.not_lt.1 inside)]
    simp [coefficient, coeff_X_pow, coeff_one, notTwelve, notFive, notZero]

theorem generator_eq : generator = X ^ 16 + ofRegister 0x1021 := by
  rw [ofRegister_generator, generator]
  ring

theorem generator_monic : generator.Monic := by
  rw [generator_eq]
  exact monic_X_pow_add (degree_ofRegister_lt _)

theorem degree_generator : generator.degree = 16 := by
  rw [generator_eq, degree_add_eq_left_of_degree_lt, degree_X_pow]
  · rfl
  · rw [degree_X_pow]
    exact degree_ofRegister_lt _

theorem ofRegister_feedback (out : Bool) :
    ofRegister (feedback out) = C (coefficient out) * (generator - X ^ 16) := by
  cases out with
  | false =>
      ext place
      simp [coeff_ofRegister, feedback, coefficient]
  | true =>
      rw [generator_eq, add_sub_cancel_left]
      simp [feedback, coefficient]

theorem ofRegister_shift (register : UInt16) (bit : Bool) :
    ofRegister (shift register bit)
        + generator * C (coefficient (register.toNat.testBit 15 ^^ bit))
      = ofRegister register * X + C (coefficient bit) * X ^ 16 := by
  have two : (2 : (ZMod 2)[X]) = 0 := CharTwo.two_eq_zero
  rw [shift, ofRegister_xor, ofRegister_shiftLeft, ofRegister_feedback, coefficient_xor, C_add]
  linear_combination (generator * (C (coefficient (register.toNat.testBit 15))
    + C (coefficient bit)) - C (coefficient bit) * X ^ 16) * two

theorem exists_quotient (bits : List Bool) :
    ∃ quotient, ofRegister (bits.foldl shift 0) + generator * quotient = ofBits bits * X ^ 16 := by
  induction bits using List.reverseRecOn with
  | nil =>
      refine ⟨0, ?_⟩
      ext place
      simp [coeff_ofRegister, ofBits, coefficient]
  | append_singleton bits bit inductionHypothesis =>
      obtain ⟨quotient, divided⟩ := inductionHypothesis
      have moved := ofRegister_shift (bits.foldl shift 0) bit
      refine ⟨quotient * X + C (coefficient ((bits.foldl shift 0).toNat.testBit 15 ^^ bit)), ?_⟩
      rw [ofBits, List.foldl_concat, List.foldl_concat, ← ofBits]
      linear_combination moved + X * divided

/-- The register holds the remainder of what it has taken in. -/
theorem ofRegister_checksum (bytes : List UInt8) :
    ofRegister (checksum bytes) = (ofBits (bitsOf bytes) * X ^ 16) %ₘ generator := by
  obtain ⟨quotient, divided⟩ := exists_quotient (bitsOf bytes)
  have small : (ofRegister (bitwise bytes)).degree < generator.degree := by
    rw [degree_generator]
    exact degree_ofRegister_lt _
  rw [checksum_eq_bitwise]
  exact (div_modByMonic_unique quotient _ generator_monic ⟨divided, small⟩).2.symm

/-- The checksum takes a message in bit by bit, the most significant bit of each byte first,
into a register that starts at zero, and is the remainder of the message times `x^16` modulo
`x^16 + x^12 + x^5 + 1`.  Whatever the register holds, a byte is looked up inside the table. -/
theorem checksum_isRemainder (bytes : List UInt8) :
    checksum bytes = bitwise bytes
    ∧ ofRegister (checksum bytes)
        = (ofBits (bitsOf bytes) * X ^ 16) %ₘ (X ^ 16 + X ^ 12 + X ^ 5 + 1)
    ∧ ∀ (register : UInt16) (byte : UInt8), ∃ inside : index register byte < 256,
        step register byte = table.get ⟨index register byte, inside⟩ ^^^ (register <<< 8) :=
  ⟨checksum_eq_bitwise bytes, ofRegister_checksum bytes, fun register byte =>
    ⟨index_lt register byte, step_eq register byte⟩⟩

/-- The checksum of the letters `CANopenDemoPIC32`. -/
example : bitwise [0x43, 0x41, 0x4E, 0x6F, 0x70, 0x65, 0x6E, 0x44, 0x65, 0x6D, 0x6F, 0x50, 0x49,
    0x43, 0x33, 0x32] = 0x43F3 := by
  decide +kernel

end Polynomials

end CanOpen.Crc
