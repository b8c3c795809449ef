import DemoIotApp.Paho
import Mathlib.Algebra.Group.Int.Defs

/-!
# What the component is built with

Besides the packet library the component uses `managedBuffer` of `lib_utils`.
The build decides whether `Debug_ASSERT` is compiled in and how wide `size_t`
is; the supported boards have both 32 and 64 bits.
-/

namespace DemoIotApp

/-- `managedBuffer`: a cursor over a piece of memory. -/
structure ManagedBufferLib where
  Handle : Type
  init : List UInt8 → Handle
  getFreeSpace : Handle → ℕ
  /-- The free-space pointer, as an offset in the memory. -/
  getFreeSpacePtr : Handle → ℕ
  append : Handle → List UInt8 → Handle
  appendChar : Handle → UInt8 → Handle
  /-- What the memory under the handle holds. -/
  memory : Handle → List UInt8

namespace ManagedBufferLib

variable (B : ManagedBufferLib)

/-- After the bytes were stored at the free-space pointer. -/
def Appended (mb mb' : B.Handle) (bytes : List UInt8) : Prop :=
  B.memory mb' = (B.memory mb).take (B.getFreeSpacePtr mb) ++
      (bytes ++ (B.memory mb).drop (B.getFreeSpacePtr mb + bytes.length)) ∧
    B.getFreeSpacePtr mb' = B.getFreeSpacePtr mb + bytes.length ∧
      B.getFreeSpace mb' = B.getFreeSpace mb - bytes.length

/-- What fits is appended at the free-space pointer, and the free space is the
rest of the memory. -/
structure Appends : Prop where
  init : ∀ mem, B.memory (B.init mem) = mem ∧ B.getFreeSpacePtr (B.init mem) = 0 ∧
    B.getFreeSpace (B.init mem) = mem.length
  append : ∀ mb bytes, bytes.length ≤ B.getFreeSpace mb → B.Appended mb (B.append mb bytes) bytes
  appendChar : ∀ mb c, 1 ≤ B.getFreeSpace mb → B.Appended mb (B.appendChar mb c) [c]

end ManagedBufferLib

def osSuccess : ℤ := 0

/-- The error codes that the component itself returns. -/
inductive OsError where
  | generic
  | aborted
  | invalidState
  | invalidHandle
  | networkConnRefused
  | connectionClosed
  deriving DecidableEq

structure Platform where
  paho : Paho
  managedBuffer : ManagedBufferLib
  assertions : Bool
  sizeBits : ℕ
  sizeBits_eq : sizeBits = 32 ∨ sizeBits = 64
  /-- `is_buffer_in_buffer`, with the start of the inner buffer as an offset. -/
  isBufferInBuffer : ℕ → ℕ → ℕ → Bool
  osError : OsError → ℤ
  osError_ne_zero : ∀ error, osError error ≠ 0

/-- What the assertions rely on. -/
def Platform.ChecksBuffers (P : Platform) : Prop :=
  ∀ offset len bufferLen, P.isBufferInBuffer offset len bufferLen = true ↔
    offset + len ≤ bufferLen

/-- An `int` converted to `size_t`. -/
def Platform.sizeT (P : Platform) (n : ℤ) : ℕ := (n % 2 ^ P.sizeBits).toNat

theorem Platform.sizeT_natCast (P : Platform) {n : ℕ} (h : n < 2 ^ 32) : P.sizeT n = n := by
  unfold sizeT
  rcases P.sizeBits_eq with h' | h' <;> rw [h'] <;> omega

theorem Platform.sizeT_succ (P : Platform) (n : ℤ) :
    P.sizeT (n + 1) = P.sizeT n + 1 ∨ 2 ^ 32 ≤ P.sizeT n + 1 ∧ P.sizeT (n + 1) = 0 := by
  unfold sizeT
  rcases P.sizeBits_eq with h' | h' <;> rw [h'] <;> omega

/-- A `size_t` converted to `int`. -/
def toCInt (n : ℕ) : ℤ :=
  if n % 2 ^ 32 < 2 ^ 31 then ((n % 2 ^ 32 : ℕ) : ℤ) else (n % 2 ^ 32 : ℕ) - 2 ^ 32

theorem toCInt_of_lt {n : ℕ} (h : n < 2 ^ 31) : toCInt n = n := by
  unfold toCInt
  rw [Nat.mod_eq_of_lt (by omega), if_pos h]

end DemoIotApp
