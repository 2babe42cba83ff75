import MiniatureWarehouse.Framework.Floats
import Mathlib.Data.Nat.Digits.Lemmas

/-!
# Binary formats

Numbers in the bytes of a buffer: unsigned integers in either byte order, and the binary32 format
of IEEE 754, whose values are values of every wider format.
-/

namespace MiniatureWarehouse

namespace BinaryFormats

/-- The unsigned integer in some bytes. -/
def unsigned (bigEndian : Bool) (bytes : List UInt8) : ℕ :=
  Nat.ofDigits 256 ((if bigEndian then bytes.reverse else bytes).map UInt8.toNat)

section Binary32

variable {α : Type*} [Field α]

/-- A magnitude under a sign bit. -/
def signed (negative : Bool) (x : α) : PyFloat α := .fin (if negative then -x else x)

/-- The value of the 32 bits of a binary32: a sign, eight bits of exponent, and a fraction. -/
def binary32 (bits : ℕ) : PyFloat α :=
  let negative : Bool := bits / 2 ^ 31 % 2 = 1
  let exponent : ℕ := bits / 2 ^ 23 % 2 ^ 8
  let fraction : ℕ := bits % 2 ^ 23
  if exponent = 255 then
    if fraction ≠ 0 then .nan else if negative then .negInf else .posInf
  else if exponent = 0 then signed negative (fraction * (2 : α) ^ (-149 : ℤ))
  else signed negative ((2 ^ 23 + fraction) * (2 : α) ^ ((exponent : ℤ) - 150))

end Binary32

/-- The bytes of a field in a buffer, if the buffer is long enough. -/
def field (data : List UInt8) (offset size : ℕ) : Option (List UInt8) :=
  if offset + size ≤ data.length then some ((data.drop offset).take size) else none

lemma field_of_le {data : List UInt8} {offset size : ℕ} (h : offset + size ≤ data.length) :
    ∃ bytes, field data offset size = some bytes ∧ bytes.length = size ∧
      ∀ k, k < size → bytes[k]? = data[offset + k]? := by
  refine ⟨(data.drop offset).take size, if_pos h, ?_, ?_⟩
  · rw [List.length_take, List.length_drop]
    omega
  · intro k hk
    rw [List.getElem?_take_of_lt hk, List.getElem?_drop]

end BinaryFormats

end MiniatureWarehouse
