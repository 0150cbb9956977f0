import Mathlib.Algebra.Group.Nat.Defs
import Mathlib.Tactic.SplitIfs

/-!
# Varints

Numbers in base 128, the lowest digits first, as protocol buffers write
lengths and integers.  All bytes but the last have their high bit set.
-/

namespace SerialLink

namespace Varint

/-- A base 128 varint of at most `more + 1` bytes. -/
def varint : Nat → Nat → List UInt8
  | 0, value => [UInt8.ofNat (value % 128)]
  | more + 1, value =>
      if value < 128 then [UInt8.ofNat value]
      else UInt8.ofNat (value % 128 + 128) :: varint more (value / 128)

def readVarint : List UInt8 → Option (Nat × List UInt8)
  | [] => none
  | byte :: bytes =>
      if byte.toNat < 128 then some (byte.toNat, bytes)
      else (readVarint bytes).map fun (value, rest) =>
        (byte.toNat % 128 + 128 * value, rest)

/-- What is written is read back, whatever follows it. -/
theorem readVarint_varint (more value : Nat)
    (small : value < 128 ^ (more + 1)) (rest : List UInt8) :
    readVarint (varint more value ++ rest) = some (value, rest) := by
  induction more generalizing value with
  | zero =>
      have byte : (UInt8.ofNat (value % 128)).toNat = value := by
        rw [UInt8.toNat_ofNat']
        omega
      simp [varint, readVarint, byte]
      omega
  | succ more induction =>
      rw [varint]
      split_ifs with short
      · have byte : (UInt8.ofNat value).toNat = value := by
          rw [UInt8.toNat_ofNat']
          omega
        simp [readVarint, byte, short]
      · have byte : (UInt8.ofNat (value % 128 + 128)).toNat =
            value % 128 + 128 := by
          rw [UInt8.toNat_ofNat']
          omega
        have fewer : value / 128 < 128 ^ (more + 1) := by
          apply Nat.div_lt_of_lt_mul
          rwa [Nat.mul_comm, ← Nat.pow_succ]
        rw [List.cons_append, readVarint, byte, if_neg (by omega),
          induction (value / 128) fewer]
        simp
        omega

theorem length_varint (more value : Nat) :
    (varint more value).length ≤ more + 1 := by
  induction more generalizing value with
  | zero => simp [varint]
  | succ more induction =>
      rw [varint]
      split_ifs
      · simp
      · simpa using induction (value / 128)

end Varint

end SerialLink
