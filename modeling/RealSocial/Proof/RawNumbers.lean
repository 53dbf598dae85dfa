import RealSocial.Protobuf.CodedInputStream

namespace RealSocial.Proof

open Library GPBCodedOutputStream GPBCodedInputStream

/-! # Numbers on the wire -/

/-! ## Varints -/

theorem writeRawVarint32_eq (value : UInt32) : writeRawVarint32 value = Wire.varint value.toNat := by
  induction value using writeRawVarint32.induct with
  | case1 value small =>
      have bound : value.toNat < 128 := (Words.uint32_and_high value _ 7 rfl).mp small
      rw [writeRawVarint32, if_pos small, Wire.varint, if_pos bound]
      rfl
  | case2 value big ih =>
      have bound : ¬ value.toNat < 128 := (Words.uint32_and_high value _ 7 rfl).not.mp big
      rw [writeRawVarint32, if_neg big, Wire.varint, if_neg bound, ih, Words.uint32_continued,
        Words.uint32_shiftRight_seven]

theorem writeRawVarint64_eq (value : UInt64) : writeRawVarint64 value = Wire.varint value.toNat := by
  induction value using writeRawVarint64.induct with
  | case1 value small =>
      have bound : value.toNat < 128 := (Words.uint64_and_high value _ 7 rfl).mp small
      rw [writeRawVarint64, if_pos small, Wire.varint, if_pos bound]
      rfl
  | case2 value big ih =>
      have bound : ¬ value.toNat < 128 := (Words.uint64_and_high value _ 7 rfl).not.mp big
      rw [writeRawVarint64, if_neg big, Wire.varint, if_neg bound, ih, Words.uint64_continued,
        Words.uint64_shiftRight_seven]

theorem length_writeRawVarint32 (value : UInt32) :
    (writeRawVarint32 value).length = GPBComputeRawVarint32Size value := by
  have bound := value.toNat_lt
  rw [writeRawVarint32_eq, GPBComputeRawVarint32Size]
  simp only [Words.uint32_and_shifted, UInt32.reduceToNat, Nat.reduceMod]
  split_ifs with one two three four
  · exact Words.length_varint (Or.inl rfl) one
  · exact Words.length_varint (Or.inr (not_lt.mp one)) two
  · exact Words.length_varint (Or.inr (not_lt.mp two)) three
  · exact Words.length_varint (Or.inr (not_lt.mp three)) four
  · exact Words.length_varint (Or.inr (not_lt.mp four)) (lt_trans bound (by decide))

theorem length_writeRawVarint64 (value : UInt64) :
    (writeRawVarint64 value).length = GPBComputeRawVarint64Size value := by
  have bound := value.toNat_lt
  rw [writeRawVarint64_eq, GPBComputeRawVarint64Size]
  simp only [Words.uint64_and_shifted, UInt64.reduceToNat, Nat.reduceMod]
  split_ifs with one two three four five six seven eight nine
  · exact Words.length_varint (Or.inl rfl) one
  · exact Words.length_varint (Or.inr (not_lt.mp one)) two
  · exact Words.length_varint (Or.inr (not_lt.mp two)) three
  · exact Words.length_varint (Or.inr (not_lt.mp three)) four
  · exact Words.length_varint (Or.inr (not_lt.mp four)) five
  · exact Words.length_varint (Or.inr (not_lt.mp five)) six
  · exact Words.length_varint (Or.inr (not_lt.mp six)) seven
  · exact Words.length_varint (Or.inr (not_lt.mp seven)) eight
  · exact Words.length_varint (Or.inr (not_lt.mp eight)) nine
  · exact Words.length_varint (Or.inr (not_lt.mp nine)) (lt_trans bound (by decide))

/-- The bits that were read are below `shift`, and the ones to come fit above them. -/
theorem readRawVarint64From_varint (n shift : Nat) (result : UInt64) (rest : NSData)
    (low : result.toNat < 2 ^ shift) (fits : n * 2 ^ shift < 2 ^ 64) (short : shift < 64) :
    readRawVarint64From shift result (Wire.varint n ++ rest) =
      some (UInt64.ofNat (result.toNat + n * 2 ^ shift), rest) := by
  induction n using Nat.strongRecOn generalizing shift result with
  | ind n ih =>
      rw [Wire.varint]
      by_cases small : n < 128
      · have byte : (UInt8.ofNat n).toNat = n := Nat.mod_eq_of_lt (by omega)
        have last : UInt8.ofNat n &&& 0x80 = 0 :=
          (Words.uint8_and_high _ _ 7 rfl).mpr (by rw [byte]; exact small)
        have bits : (UInt8.ofNat n &&& 0x7F).toUInt64.toNat = n := by
          rw [Words.uint8_low_seven, byte, Nat.mod_eq_of_lt small]
        have whole := Words.uint64_or_shiftLeft low (by rwa [bits]) short
        rw [if_pos small, List.singleton_append, readRawVarint64From, if_pos short, if_pos last]
        rw [bits] at whole
        rw [← whole, UInt64.ofNat_toNat]
      · have byte : (UInt8.ofNat (n % 128 + 128)).toNat = n % 128 + 128 := Nat.mod_eq_of_lt (by omega)
        have more : ¬ UInt8.ofNat (n % 128 + 128) &&& 0x80 = 0 := by
          rw [Words.uint8_and_high _ 0x80 7 rfl, byte]
          omega
        have bits : (UInt8.ofNat (n % 128 + 128) &&& 0x7F).toUInt64.toNat = n % 128 := by
          rw [Words.uint8_low_seven, byte]
          omega
        have power : 2 ^ (shift + 7) = 2 ^ shift * 128 := pow_add 2 shift 7
        have least : n % 128 * 2 ^ shift ≤ n * 2 ^ shift := Nat.mul_le_mul_right _ (Nat.mod_le n 128)
        have whole := Words.uint64_or_shiftLeft low (by rw [bits]; exact lt_of_le_of_lt least fits) short
        rw [bits] at whole
        have highest : n / 128 * 2 ^ (shift + 7) ≤ n * 2 ^ shift := by
          rw [power, Nat.mul_comm (2 ^ shift), ← Nat.mul_assoc]
          exact Nat.mul_le_mul_right _ (Nat.div_mul_le_self n 128)
        have further : shift + 7 < 64 := by
          have room : 2 ^ (shift + 7) < 2 ^ 64 := by
            rw [power, Nat.mul_comm]
            exact lt_of_le_of_lt (Nat.mul_le_mul_right _ (not_lt.mp small)) fits
          exact (Nat.pow_lt_pow_iff_right (by decide)).mp room
        rw [if_neg small, List.cons_append, readRawVarint64From, if_pos short, if_neg more]
        rw [ih (n / 128) (by omega) (shift + 7) _ ?_ (lt_of_le_of_lt highest fits) further, whole]
        · have split : n % 128 * 2 ^ shift + n / 128 * 2 ^ (shift + 7) = n * 2 ^ shift := by
            rw [power, Nat.mul_comm (2 ^ shift), ← Nat.mul_assoc, ← Nat.add_mul, Nat.mod_add_div']
          rw [Nat.add_assoc, split]
        · rw [whole, power]
          have room : n % 128 * 2 ^ shift ≤ 127 * 2 ^ shift := Nat.mul_le_mul_right _ (by omega)
          omega

theorem readRawVarint64_write (value : UInt64) (rest : NSData) :
    readRawVarint64 (writeRawVarint64 value ++ rest) = some (value, rest) := by
  have read := readRawVarint64From_varint value.toNat 0 0 rest (by decide)
    (by rw [pow_zero, Nat.mul_one]; exact value.toNat_lt) (by decide)
  have zero : (0 : UInt64).toNat = 0 := rfl
  rw [zero, Nat.zero_add, pow_zero, Nat.mul_one, UInt64.ofNat_toNat] at read
  rw [readRawVarint64, writeRawVarint64_eq, read]

theorem writeRawVarint32_wide (value : UInt32) :
    writeRawVarint32 value = writeRawVarint64 value.toUInt64 := by
  rw [writeRawVarint32_eq, writeRawVarint64_eq, UInt32.toNat_toUInt64]

theorem readRawVarint32_write (value : UInt32) (rest : NSData) :
    readRawVarint32 (writeRawVarint32 value ++ rest) = some (value, rest) := by
  rw [readRawVarint32, writeRawVarint32_wide, readRawVarint64_write, Option.map_some]
  simp

/-! ## Raw bytes -/

theorem readRaw_append (bytes rest : NSData) : readRaw (bytes ++ rest) bytes.length = some (bytes, rest) := by
  rw [readRaw, if_pos (by simp)]
  simp

theorem writeRawLittleEndian32_eq (value : UInt32) :
    writeRawLittleEndian32 value = Words.littleEndian 4 value.toNat := by
  have byte (s : UInt32) : (value >>> s).toUInt8 = UInt8.ofNat (value.toNat / 2 ^ (s.toNat % 32)) := by
    apply UInt8.toNat_inj.mp
    rw [UInt32.toNat_toUInt8, UInt32.toNat_shiftRight, Nat.shiftRight_eq_div_pow, UInt8.toNat_ofNat']
  have first : value.toUInt8 = UInt8.ofNat value.toNat := rfl
  simp only [writeRawLittleEndian32, Words.littleEndian, byte, first, Nat.div_div_eq_div_mul,
    UInt32.reduceToNat, Nat.reduceMod, Nat.reducePow, Nat.reduceMul]

theorem writeRawLittleEndian64_eq (value : UInt64) :
    writeRawLittleEndian64 value = Words.littleEndian 8 value.toNat := by
  have byte (s : UInt64) : (value >>> s).toUInt8 = UInt8.ofNat (value.toNat / 2 ^ (s.toNat % 64)) := by
    apply UInt8.toNat_inj.mp
    rw [UInt64.toNat_toUInt8, UInt64.toNat_shiftRight, Nat.shiftRight_eq_div_pow, UInt8.toNat_ofNat']
  have first : value.toUInt8 = UInt8.ofNat value.toNat := rfl
  simp only [writeRawLittleEndian64, Words.littleEndian, byte, first, Nat.div_div_eq_div_mul,
    UInt64.reduceToNat, Nat.reduceMod, Nat.reducePow, Nat.reduceMul]

theorem readRawLittleEndian32_write (value : UInt32) (rest : NSData) :
    readRawLittleEndian32 (writeRawLittleEndian32 value ++ rest) = some (value, rest) := by
  have read := readRaw_append (Words.littleEndian 4 value.toNat) rest
  have whole := Words.ofLittleEndian_littleEndian 4 value.toNat value.toNat_lt
  rw [Words.length_littleEndian] at read
  simp only [readRawLittleEndian32, writeRawLittleEndian32_eq, read, Option.map_some, whole, UInt32.ofNat_toNat]

theorem readRawLittleEndian64_write (value : UInt64) (rest : NSData) :
    readRawLittleEndian64 (writeRawLittleEndian64 value ++ rest) = some (value, rest) := by
  have read := readRaw_append (Words.littleEndian 8 value.toNat) rest
  have whole := Words.ofLittleEndian_littleEndian 8 value.toNat value.toNat_lt
  rw [Words.length_littleEndian] at read
  simp only [readRawLittleEndian64, writeRawLittleEndian64_eq, read, Option.map_some, whole, UInt64.ofNat_toNat]

theorem readRetainedBytes_write {value : NSData} (rest : NSData) (fits : value.length < 2 ^ 31) :
    readRetainedBytes (writeBytesNoTag value ++ rest) = some (value, rest) := by
  have length : (UInt32.ofNat value.length).toNat = value.length := by
    rw [UInt32.toNat_ofNat']
    omega
  have read := readRawVarint32_write (UInt32.ofNat value.length) (value ++ rest)
  simp only [readRetainedBytes, readLength, writeBytesNoTag, writeRawVarintSizeTAs32, List.append_assoc, read,
    Option.bind_some, length, if_pos fits]
  exact readRaw_append value rest

/-! ## Tags -/

theorem rawValue_lt (format : GPBWireFormat) : format.rawValue.toNat < 8 := by
  cases format <;> decide

theorem toNat_makeTag (number : GPBFieldNumber) (format : GPBWireFormat) :
    (GPBWireFormatMakeTag number format).toNat = number.1 * 8 + format.rawValue.toNat := by
  obtain ⟨number, positive, bound⟩ := number
  have low : format.rawValue.toNat < 2 ^ 3 := rawValue_lt format
  have disjoint := Nat.two_pow_add_eq_or_of_lt low number
  have word : (UInt32.ofNat number).toNat = number := by
    rw [UInt32.toNat_ofNat']
    omega
  have three : (3 : UInt32).toNat % 32 = 3 := rfl
  have fits : number * 2 ^ 3 % 2 ^ 32 = 2 ^ 3 * number := by omega
  rw [GPBWireFormatMakeTag, UInt32.toNat_or, UInt32.toNat_shiftLeft, word, three, Nat.shiftLeft_eq, fits,
    ← disjoint, Nat.mul_comm]

/-! ## The bytes that are read -/

theorem readRawVarint64From_length {shift : Nat} {result value : UInt64} {left rest : NSData}
    (low : result.toNat < 2 ^ shift) (read : readRawVarint64From shift result left = some (value, rest)) :
    ∃ count, 0 < count ∧ count + rest.length = left.length ∧ value.toNat < 2 ^ (shift + 7 * count) := by
  induction left generalizing shift result with
  | nil => cases read
  | cons b left ih =>
      rw [readRawVarint64From] at read
      split_ifs at read with short last
      · have byte : (b &&& 0x7F).toUInt64.toNat < 2 ^ 7 := by
          rw [Words.uint8_low_seven]
          exact Nat.mod_lt _ (by decide)
        obtain ⟨rfl, rfl⟩ := Prod.mk.inj (Option.some.inj read)
        exact ⟨1, Nat.one_pos, Nat.add_comm _ _, Words.uint64_or_shiftLeft_lt low byte short⟩
      · have byte : (b &&& 0x7F).toUInt64.toNat < 2 ^ 7 := by
          rw [Words.uint8_low_seven]
          exact Nat.mod_lt _ (by decide)
        obtain ⟨count, positive, length, bound⟩ := ih (Words.uint64_or_shiftLeft_lt low byte short) read
        refine ⟨count + 1, Nat.succ_pos count, ?_, ?_⟩
        · rw [List.length_cons]
          omega
        · rwa [Nat.mul_succ, Nat.add_comm (7 * count), ← Nat.add_assoc]

theorem readRawVarint64_length {value : UInt64} {left rest : NSData}
    (read : readRawVarint64 left = some (value, rest)) :
    (Wire.varint value.toNat).length + rest.length ≤ left.length := by
  have low : (0 : UInt64).toNat < 2 ^ 0 := by decide
  obtain ⟨count, positive, length, bound⟩ := readRawVarint64From_length low read
  rw [Nat.zero_add] at bound
  have short := (Words.length_varint_le positive).mpr bound
  omega

theorem toNat_toUInt32_le (value : UInt64) : value.toUInt32.toNat ≤ value.toNat := by
  rw [UInt64.toNat_toUInt32]
  exact Nat.mod_le _ _

theorem readRawVarint32_length {value : UInt32} {left rest : NSData}
    (read : readRawVarint32 left = some (value, rest)) :
    (writeRawVarint32 value).length + rest.length ≤ left.length := by
  obtain ⟨⟨wide, rest⟩, found, same⟩ := Option.map_eq_some_iff.mp read
  obtain ⟨rfl, rfl⟩ := Prod.mk.inj same
  have bound := readRawVarint64_length found
  have short := Words.length_varint_mono (toNat_toUInt32_le wide)
  rw [writeRawVarint32_eq]
  omega

theorem readRaw_length {size : Nat} {bytes left rest : NSData} (read : readRaw left size = some (bytes, rest)) :
    bytes.length = size ∧ bytes.length + rest.length = left.length := by
  rw [readRaw] at read
  split_ifs at read with enough
  obtain ⟨rfl, rfl⟩ := Prod.mk.inj (Option.some.inj read)
  rw [List.length_take_of_le enough, List.length_drop]
  omega

theorem readRaw_map_length {α : Type} {size : Nat} {f : NSData × NSData → α × NSData} {value : α}
    {left rest : NSData} (read : (readRaw left size).map f = some (value, rest))
    (kept : ∀ result, (f result).2 = result.2) : size + rest.length = left.length := by
  obtain ⟨result, raw, same⟩ := Option.map_eq_some_iff.mp read
  obtain ⟨length, whole⟩ := readRaw_length raw
  have remains : rest = result.2 := by
    rw [← kept result, same]
  rw [remains, ← length, whole]

theorem readRetainedBytes_length {bytes left rest : NSData} (read : readRetainedBytes left = some (bytes, rest)) :
    (writeBytesNoTag bytes).length + rest.length ≤ left.length := by
  obtain ⟨⟨size, middle⟩, sized, raw⟩ := Option.bind_eq_some_iff.mp read
  obtain ⟨⟨word, middle⟩, first, positive⟩ := Option.bind_eq_some_iff.mp sized
  simp only at positive
  split_ifs at positive with small
  obtain ⟨rfl, rfl⟩ := Prod.mk.inj (Option.some.inj positive)
  obtain ⟨length, whole⟩ := readRaw_length raw
  have counted := readRawVarint32_length first
  rw [writeBytesNoTag, writeRawVarintSizeTAs32, length, UInt32.ofNat_toNat, List.length_append]
  omega

end RealSocial.Proof
