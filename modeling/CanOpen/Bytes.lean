/-!
# Bytes

The eight data bytes of a classic CAN frame, `Octets`: shorter contents are padded with
zeros at the end, longer ones are cut.

Little-endian numbers: `split` writes the low bytes of a number, least significant first,
and `combine` reads a number back from any list of bytes.  Writing again what was read
gives the same bytes (`split_combine`), and numbers of two and of four bytes are read
back as they were written (`word16_bytes16`, `word32_bytes32`).
-/

set_option autoImplicit false

namespace CanOpen

abbrev Octets := Vector UInt8 8

namespace Octets

abbrev capacity : Nat := 8

/-- The first eight bytes of a list, zeros standing for those that are missing. -/
def ofList (bytes : List UInt8) : Octets :=
  Vector.ofFn fun position => bytes.getD position 0

def concat (slices : List (List UInt8)) : Octets :=
  ofList slices.flatten

def zero : Octets := Vector.replicate 8 0

def first (octets : Octets) : UInt8 := octets[0]

def second (octets : Octets) : UInt8 := octets[1]

@[simp]
theorem getElem_ofList (bytes : List UInt8) (position : Nat) (inside : position < 8) :
    (ofList bytes)[position] = bytes.getD position 0 := by
  simp [ofList]

end Octets

namespace LittleEndian

/-- The lowest `count` bytes of `value`, least significant first. -/
def split : (count value : Nat) → List UInt8
  | 0, _ => []
  | count + 1, value => UInt8.ofNat value :: split count (value / 256)

/-- The number whose bytes are given, least significant first. -/
def combine : List UInt8 → Nat
  | [] => 0
  | byte :: rest => byte.toNat + 256 * combine rest

def word16 (low high : UInt8) : UInt16 :=
  UInt16.ofNat (combine [low, high])

def word32 (bytes : Vector UInt8 4) : UInt32 :=
  UInt32.ofNat (combine bytes.toList)

def bytes16 (value : UInt16) : UInt8 × UInt8 :=
  (UInt8.ofNat value.toNat, UInt8.ofNat (value.toNat / 256))

def bytes32 (value : UInt32) : Vector UInt8 4 :=
  #v[UInt8.ofNat value.toNat, UInt8.ofNat (value.toNat / 256),
    UInt8.ofNat (value.toNat / 256 / 256), UInt8.ofNat (value.toNat / 256 / 256 / 256)]

@[simp]
theorem length_split (count value : Nat) : (split count value).length = count := by
  induction count generalizing value with
  | zero => rfl
  | succ count inductionHypothesis => simp [split, inductionHypothesis]

theorem split_combine (bytes : List UInt8) :
    split bytes.length (combine bytes) = bytes := by
  induction bytes with
  | nil => rfl
  | cons byte rest inductionHypothesis =>
      have byteBound := byte.toNat_lt
      have low : UInt8.ofNat (combine (byte :: rest)) = byte := by
        apply UInt8.toNat_inj.1
        simp only [combine, UInt8.toNat_ofNat']
        omega
      have high : combine (byte :: rest) / 256 = combine rest := by
        simp only [combine]
        omega
      simp [split, low, high, inductionHypothesis]

theorem toList_bytes32 (value : UInt32) :
    (bytes32 value).toList = split 4 value.toNat := rfl

theorem word32_bytes32 (value : UInt32) : word32 (bytes32 value) = value := by
  apply UInt32.toNat_inj.1
  have valueBound := value.toNat_lt
  simp only [word32, toList_bytes32, split, combine, UInt32.toNat_ofNat', UInt8.toNat_ofNat']
  omega

theorem word16_bytes16 (value : UInt16) :
    word16 (bytes16 value).1 (bytes16 value).2 = value := by
  apply UInt16.toNat_inj.1
  have valueBound := value.toNat_lt
  simp only [word16, bytes16, combine, UInt16.toNat_ofNat', UInt8.toNat_ofNat']
  omega

end LittleEndian

end CanOpen
