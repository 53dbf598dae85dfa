import Mathlib.Data.Nat.Bitwise
import RealSocial.Library.Wire

namespace RealSocial.Library.Words

open Wire

/-! # Machine words as numbers -/

theorem and_high_eq_zero_iff {w : Nat} (x : BitVec w) (s : Nat) :
    x &&& BitVec.allOnes w <<< s = 0#w ↔ x.toNat < 2 ^ s := by
  have kept : (x.toNat / 2 ^ s * 2 ^ s) % 2 ^ w = x.toNat / 2 ^ s * 2 ^ s :=
    Nat.mod_eq_of_lt (Nat.lt_of_le_of_lt (Nat.div_mul_le_self x.toNat (2 ^ s)) x.isLt)
  rw [← BitVec.shiftLeft_ushiftRight, ← BitVec.toNat_inj, BitVec.toNat_shiftLeft, BitVec.toNat_ushiftRight,
    Nat.shiftRight_eq_div_pow, Nat.shiftLeft_eq, kept, BitVec.toNat_ofNat, Nat.zero_mod, Nat.mul_eq_zero,
    or_iff_left (Nat.two_pow_pos s).ne', Nat.div_eq_zero_iff, or_iff_right (Nat.two_pow_pos s).ne']

theorem uint32_and_high (x mask : UInt32) (s : Nat) (shifted : mask.toBitVec = BitVec.allOnes 32 <<< s) :
    x &&& mask = 0 ↔ x.toNat < 2 ^ s := by
  rw [← UInt32.toBitVec_inj, UInt32.toBitVec_and, shifted]
  exact and_high_eq_zero_iff x.toBitVec s

theorem uint64_and_high (x mask : UInt64) (s : Nat) (shifted : mask.toBitVec = BitVec.allOnes 64 <<< s) :
    x &&& mask = 0 ↔ x.toNat < 2 ^ s := by
  rw [← UInt64.toBitVec_inj, UInt64.toBitVec_and, shifted]
  exact and_high_eq_zero_iff x.toBitVec s

theorem uint32_and_shifted (x s : UInt32) : x &&& ((0xffffffff : UInt32) <<< s) = 0 ↔ x.toNat < 2 ^ (s.toNat % 32) :=
  uint32_and_high x _ _ rfl

theorem uint64_and_shifted (x s : UInt64) :
    x &&& ((0xffffffffffffffff : UInt64) <<< s) = 0 ↔ x.toNat < 2 ^ (s.toNat % 64) :=
  uint64_and_high x _ _ rfl

theorem uint8_and_high (x mask : UInt8) (s : Nat) (shifted : mask.toBitVec = BitVec.allOnes 8 <<< s) :
    x &&& mask = 0 ↔ x.toNat < 2 ^ s := by
  rw [← UInt8.toBitVec_inj, UInt8.toBitVec_and, shifted]
  exact and_high_eq_zero_iff x.toBitVec s

theorem uint8_low_seven (x : UInt8) : (x &&& 0x7F).toUInt64.toNat = x.toNat % 128 := by
  rw [UInt8.toNat_toUInt64, UInt8.toNat_and]
  exact Nat.and_two_pow_sub_one_eq_mod x.toNat 7

theorem uint32_shiftRight_seven (x : UInt32) : (x >>> 7).toNat = x.toNat / 128 := by
  rw [UInt32.toNat_shiftRight]
  exact Nat.shiftRight_eq_div_pow x.toNat 7

theorem uint64_shiftRight_seven (x : UInt64) : (x >>> 7).toNat = x.toNat / 128 := by
  rw [UInt64.toNat_shiftRight]
  exact Nat.shiftRight_eq_div_pow x.toNat 7

theorem and_127_or_128 (n : Nat) : n &&& 127 ||| 128 = n % 128 + 128 := by
  have low : n &&& 127 = n % 128 := Nat.and_two_pow_sub_one_eq_mod n 7
  have disjoint : 128 + n % 128 = 128 ||| n % 128 :=
    Nat.two_pow_add_eq_or_of_lt (Nat.mod_lt n (Nat.two_pow_pos 7)) 1
  rw [low, Nat.or_comm, ← disjoint, Nat.add_comm]

theorem uint32_continued (x : UInt32) :
    ((x &&& 0x7F) ||| 0x80).toUInt8 = UInt8.ofNat (x.toNat % 128 + 128) := by
  have whole : ((x &&& 0x7F) ||| 0x80).toNat = x.toNat % 128 + 128 := and_127_or_128 x.toNat
  apply UInt8.toNat_inj.mp
  rw [UInt32.toNat_toUInt8, whole, UInt8.toNat_ofNat']

theorem uint64_continued (x : UInt64) :
    ((x &&& 0x7F) ||| 0x80).toUInt8 = UInt8.ofNat (x.toNat % 128 + 128) := by
  have whole : ((x &&& 0x7F) ||| 0x80).toNat = x.toNat % 128 + 128 := and_127_or_128 x.toNat
  apply UInt8.toNat_inj.mp
  rw [UInt64.toNat_toUInt8, whole, UInt8.toNat_ofNat']

/-- Seven more bits are set above those that are there. -/
theorem uint64_or_shiftLeft {x y : UInt64} {s : Nat} (low : x.toNat < 2 ^ s) (fits : y.toNat * 2 ^ s < 2 ^ 64)
    (short : s < 64) : (x ||| y <<< UInt64.ofNat s).toNat = x.toNat + y.toNat * 2 ^ s := by
  have amount : (UInt64.ofNat s).toNat % 64 = s := by
    rw [UInt64.toNat_ofNat']
    omega
  have disjoint := Nat.two_pow_add_eq_or_of_lt low y.toNat
  rw [UInt64.toNat_or, UInt64.toNat_shiftLeft, amount, Nat.shiftLeft_eq, Nat.mod_eq_of_lt fits, Nat.or_comm,
    Nat.mul_comm, ← disjoint, Nat.add_comm]

theorem length_varint {n k : Nat} (low : k = 0 ∨ 2 ^ (7 * k) ≤ n) (high : n < 2 ^ (7 * (k + 1))) :
    (varint n).length = k + 1 := by
  induction k generalizing n with
  | zero =>
      have small : n < 128 := high
      rw [varint, if_pos small]
      rfl
  | succ k ih =>
      have big : 2 ^ (7 * k) * 128 ≤ n := by
        have bound := low.resolve_left (Nat.succ_ne_zero k)
        rwa [Nat.mul_succ, pow_add] at bound
      have more : 128 ≤ n := le_trans (Nat.le_mul_of_pos_left 128 (Nat.two_pow_pos _)) big
      have smaller : n / 128 < 2 ^ (7 * (k + 1)) := by
        rw [Nat.div_lt_iff_lt_mul (by decide)]
        rwa [Nat.mul_succ, pow_add] at high
      rw [varint, if_neg (by omega), List.length_cons,
        ih (Or.inr ((Nat.le_div_iff_mul_le (by decide)).mpr big)) smaller]

theorem length_varint_le {n k : Nat} (positive : 0 < k) : (varint n).length ≤ k ↔ n < 2 ^ (7 * k) := by
  obtain ⟨k, rfl⟩ := Nat.exists_eq_succ_of_ne_zero (Nat.ne_of_gt positive)
  induction k generalizing n with
  | zero =>
      rw [varint]
      split_ifs with small
      · exact iff_of_true le_rfl small
      · refine iff_of_false ?_ small
        have byte := List.length_pos_iff.mpr (varint_ne_nil (n / 128))
        rw [List.length_cons]
        omega
  | succ k ih =>
      have power : 2 ^ (7 * (k + 1 + 1)) = 2 ^ (7 * (k + 1)) * 128 := pow_add 2 (7 * (k + 1)) 7
      rw [varint]
      split_ifs with small
      · refine iff_of_true (Nat.succ_le_succ (Nat.zero_le _)) (lt_of_lt_of_le small ?_)
        rw [power]
        exact Nat.le_mul_of_pos_left 128 (Nat.two_pow_pos _)
      · rw [List.length_cons, Nat.succ_eq_add_one, Nat.add_le_add_iff_right, ih (Nat.succ_pos k), power,
          Nat.div_lt_iff_lt_mul (by decide)]

theorem length_varint_mono {m n : Nat} (le : m ≤ n) : (varint m).length ≤ (varint n).length := by
  have byte := List.length_pos_iff.mpr (varint_ne_nil n)
  exact (length_varint_le byte).mpr (lt_of_le_of_lt le ((length_varint_le byte).mp le_rfl))

theorem length_varint_add (m n : Nat) : (varint (m + n)).length ≤ (varint m).length + (varint n).length := by
  have left := List.length_pos_iff.mpr (varint_ne_nil m)
  have right := List.length_pos_iff.mpr (varint_ne_nil n)
  have small := (length_varint_le left).mp (le_refl (varint m).length)
  have other := (length_varint_le right).mp (le_refl (varint n).length)
  rw [length_varint_le (Nat.add_pos_left left _), Nat.mul_add, pow_add]
  have one : 2 ≤ 2 ^ (7 * (varint m).length) := Nat.le_self_pow (by omega) 2
  have two : 2 ≤ 2 ^ (7 * (varint n).length) := Nat.le_self_pow (by omega) 2
  exact lt_of_lt_of_le (by omega) (Nat.add_le_mul one two)

theorem uint64_or_shiftLeft_lt {x y : UInt64} {s : Nat} (low : x.toNat < 2 ^ s) (byte : y.toNat < 2 ^ 7)
    (short : s < 64) : (x ||| y <<< UInt64.ofNat s).toNat < 2 ^ (s + 7) := by
  have amount : (UInt64.ofNat s).toNat % 64 = s := by
    rw [UInt64.toNat_ofNat']
    omega
  have above : 2 ^ s ≤ 2 ^ (s + 7) := Nat.pow_le_pow_right (by decide) (Nat.le_add_right s 7)
  rw [UInt64.toNat_or, UInt64.toNat_shiftLeft, amount, Nat.shiftLeft_eq]
  apply Nat.or_lt_two_pow (lt_of_lt_of_le low above)
  refine lt_of_le_of_lt (Nat.mod_le _ _) ?_
  rw [pow_add, Nat.mul_comm]
  exact (Nat.mul_lt_mul_left (Nat.two_pow_pos s)).mpr byte

/-! ## Little-endian -/

def littleEndian : Nat → Nat → Bytes
  | 0, _ => []
  | count + 1, n => UInt8.ofNat n :: littleEndian count (n / 256)

def ofLittleEndian (bytes : Bytes) : Nat := bytes.foldr (fun byte high => byte.toNat + 256 * high) 0

@[simp] theorem length_littleEndian (count n : Nat) : (littleEndian count n).length = count := by
  induction count generalizing n with
  | zero => rfl
  | succ count ih => rw [littleEndian, List.length_cons, ih]

theorem ofLittleEndian_littleEndian (count n : Nat) (fits : n < 256 ^ count) :
    ofLittleEndian (littleEndian count n) = n := by
  induction count generalizing n with
  | zero => simpa [littleEndian, ofLittleEndian, eq_comm] using fits
  | succ count ih =>
      have rest := ih (n / 256) (by rwa [Nat.div_lt_iff_lt_mul (by decide), ← pow_succ])
      rw [littleEndian, ofLittleEndian, List.foldr_cons, ← ofLittleEndian, rest, UInt8.toNat_ofNat']
      omega

end RealSocial.Library.Words
