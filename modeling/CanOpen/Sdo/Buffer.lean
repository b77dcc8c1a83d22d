/-!
# Buffers

A buffer of fixed capacity that is filled from the front.  It keeps the bytes
written so far apart from those that still hold their previous value.
-/

set_option autoImplicit false

namespace CanOpen.Sdo

structure Buffer where
  /-- The bytes written, the last one first. -/
  written : List UInt8
  untouched : List UInt8
  deriving DecidableEq, Repr, Inhabited

namespace Buffer

def ofContents (contents : List UInt8) : Buffer := ⟨[], contents⟩

def contents (buffer : Buffer) : List UInt8 :=
  buffer.written.reverseAux buffer.untouched

def count (buffer : Buffer) : Nat := buffer.written.length

/-- Writes bytes behind those already written; bytes for which there is no room
are dropped. -/
def write : Buffer → List UInt8 → Buffer
  | buffer, [] => buffer
  | ⟨written, []⟩, _ :: _ => ⟨written, []⟩
  | ⟨written, _ :: room⟩, byte :: bytes => write ⟨byte :: written, room⟩ bytes

theorem contents_eq (buffer : Buffer) :
    buffer.contents = buffer.written.reverse ++ buffer.untouched := by
  simp [contents, List.reverseAux_eq]

theorem count_write (buffer : Buffer) (bytes : List UInt8) :
    (buffer.write bytes).count
      = buffer.count + min bytes.length buffer.untouched.length := by
  fun_induction write buffer bytes with
  | case1 buffer => simp
  | case2 written byte bytes => simp
  | case3 written byte room next bytes inductionHypothesis =>
      rw [inductionHypothesis]
      simp only [count, List.length_cons]
      omega

theorem contents_write (buffer : Buffer) (bytes : List UInt8) :
    (buffer.write bytes).contents
      = buffer.written.reverse ++ bytes.take buffer.untouched.length
        ++ buffer.untouched.drop bytes.length := by
  fun_induction write buffer bytes with
  | case1 buffer => simp [contents_eq]
  | case2 written byte bytes => simp [contents_eq]
  | case3 written byte room next bytes inductionHypothesis =>
      rw [inductionHypothesis]
      simp

end Buffer

end CanOpen.Sdo
