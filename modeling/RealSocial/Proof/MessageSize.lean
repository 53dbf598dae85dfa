import RealSocial.Proof.RawNumbers
import RealSocial.Protobuf.Message

namespace RealSocial.Proof

open Library GPBCodedOutputStream GPBMessage

/-! # The computed size is the number of bytes written -/

theorem tagSize_eq (number : GPBFieldNumber) (format : GPBWireFormat) :
    GPBComputeRawVarint32Size (GPBWireFormatMakeTag number format) = GPBComputeTagSize number := by
  have low := rawValue_lt format
  have varint : GPBWireFormat.varint.rawValue.toNat = 0 := rfl
  have whole : ∀ k, 0 < k → (number.1 * 8 + format.rawValue.toNat < 2 ^ (7 * k) ↔ number.1 * 8 < 2 ^ (7 * k)) := by
    intro k positive
    obtain ⟨k, rfl⟩ := Nat.exists_eq_succ_of_ne_zero (Nat.ne_of_gt positive)
    have power : 2 ^ (7 * k.succ) = 16 * 2 ^ (7 * k) * 8 := by
      rw [Nat.mul_succ, pow_add]
      omega
    omega
  have one := whole 1 (by decide)
  have two := whole 2 (by decide)
  have three := whole 3 (by decide)
  have four := whole 4 (by decide)
  simp only [Nat.reduceMul] at one two three four
  simp only [GPBComputeTagSize, GPBComputeRawVarint32Size, Words.uint32_and_shifted, UInt32.reduceToNat,
    Nat.reduceMod, toNat_makeTag, varint, Nat.add_zero, one, two, three, four]

theorem length_writeTag (number : GPBFieldNumber) (format : GPBWireFormat) :
    (writeTagWithFormat number format).length = GPBComputeTagSize number := by
  rw [writeTagWithFormat, length_writeRawVarint32, tagSize_eq]

theorem length_writeBytesNoTag (value : NSData) :
    (writeBytesNoTag value).length = GPBComputeBytesSizeNoTag value := by
  rw [writeBytesNoTag, writeRawVarintSizeTAs32, List.length_append, length_writeRawVarint32]
  rfl

theorem length_writeNoTag (type : GPBDataType) (value : type.Value) :
    (type.writeNoTag value).length = type.sizeNoTag value := by
  cases type with
  | uint32 => exact length_writeRawVarint32 value
  | uint64 => exact length_writeRawVarint64 value
  | double => rfl
  | bytes => exact length_writeBytesNoTag value
  | string => exact length_writeBytesNoTag (Wire.utf8 value)

/-! ## Arrays of values -/

section Values

variable {α : Type} (number : GPBFieldNumber) (format : GPBWireFormat)

theorem length_flatMap_tagged {write : α → NSData} {size : α → Nat}
    (written : ∀ value, (write value).length = size value) (values : List α) :
    (values.flatMap fun value => writeTagWithFormat number format ++ write value).length =
      (values.map (GPBComputeSize size number)).sum := by
  induction values with
  | nil => rfl
  | cons value values ih =>
      rw [List.flatMap_cons, List.length_append, List.length_append, ih, length_writeTag, written, List.map_cons,
        List.sum_cons, GPBComputeSize]

theorem size_eq (sizeNoTag : α → Nat) (fieldType : GPBFieldType) (slot : fieldType.Slot α) :
    fieldType.size sizeNoTag number slot =
      ((fieldType.values slot).map (GPBComputeSize sizeNoTag number)).sum := by
  have array : ∀ values : List α, (values.map (GPBComputeSize sizeNoTag number)).sum =
      (values.map sizeNoTag).sum + values.length * GPBComputeTagSize number := by
    intro values
    induction values with
    | nil => simp
    | cons value values ih =>
        rw [List.map_cons, List.sum_cons, ih, GPBComputeSize, List.map_cons, List.sum_cons, List.length_cons,
          Nat.succ_mul]
        omega
  cases fieldType with
  | single => cases slot <;> simp [GPBFieldType.size, GPBFieldType.values]
  | repeated =>
      rw [GPBFieldType.size, GPBFieldType.values, array]
      split_ifs with none
      · rw [List.length_eq_zero_iff.mp none]
        simp
      · rfl

end Values

/-! ## Messages -/

theorem length_writeUnknownGroup (number : GPBFieldNumber) (value : NSData) :
    (writeUnknownGroup number value).length = GPBComputeUnknownGroupSize number value.length := by
  rw [writeUnknownGroup, writeUnknownGroupNoTag, List.length_append, List.length_append, length_writeTag,
    length_writeTag, GPBComputeUnknownGroupSize]
  omega

theorem length_writeToOutput (number : GPBFieldNumber) (field : GPBUnknownField NSData) :
    (field.writeToOutput number).length =
      (field.withGroups (field.groupList.map List.length)).serializedSize number := by
  have varints : (field.varintList.flatMap (writeUInt64 number)).length =
      (field.varintList.map (GPBComputeSize GPBComputeUInt64SizeNoTag number)).sum :=
    length_flatMap_tagged number .varint length_writeRawVarint64 _
  have fixed32s : (field.fixed32List.flatMap (writeFixed32 number)).length =
      (field.fixed32List.map (GPBComputeSize GPBComputeFixed32SizeNoTag number)).sum :=
    length_flatMap_tagged number .fixed32 (fun _ => rfl) _
  have fixed64s : (field.fixed64List.flatMap (writeFixed64 number)).length =
      (field.fixed64List.map (GPBComputeSize GPBComputeFixed64SizeNoTag number)).sum :=
    length_flatMap_tagged number .fixed64 (fun _ => rfl) _
  have lengthDelimiteds : (field.lengthDelimitedList.flatMap (writeBytes number)).length =
      (field.lengthDelimitedList.map (GPBComputeSize GPBComputeBytesSizeNoTag number)).sum :=
    length_flatMap_tagged number .lengthDelimited length_writeBytesNoTag _
  have groups : (field.groupList.flatMap (writeUnknownGroup number)).length =
      ((field.groupList.map List.length).map (GPBComputeUnknownGroupSize number)).sum := by
    rw [List.length_flatMap, List.map_map]
    congr 1
    exact List.map_congr_left fun value _ => length_writeUnknownGroup number value
  simp only [GPBUnknownField.writeToOutput, GPBUnknownField.serializedSize, GPBUnknownField.withGroups,
    List.length_append]
  rw [varints, fixed32s, fixed64s, lengthDelimiteds, groups]

theorem length_write_unknown (set : GPBUnknownFieldSet) :
    set.writeToCodedOutputStream.length = set.serializedSize := by
  induction set using GPBUnknownFieldSet.ofGroups with
  | step set ih =>
      rw [GPBUnknownFieldSet.writeToCodedOutputStream, GPBUnknownFieldSet.fold_eq,
        GPBUnknownFieldSet.serializedSize, GPBUnknownFieldSet.fold_eq, List.length_flatMap, List.map_map, List.map_map]
      congr 1
      apply List.map_congr_left
      intro field member
      have groups : (field.2.1.groupList.map GPBUnknownFieldSet.writeToCodedOutputStream).map List.length =
          field.2.1.groupList.map GPBUnknownFieldSet.serializedSize := by
        rw [List.map_map]
        exact List.map_congr_left fun group among => ih field member group among
      simp only [Function.comp_apply, length_writeToOutput]
      exact congrArg (fun groups => (field.2.1.withGroups groups).serializedSize field.1) groups

theorem length_write (d : GPBDescriptor) (message : GPBMessage d) :
    (writeToCodedOutputStream d message).length = serializedSize d message := by
  induction d with
  | nil => exact length_write_unknown message
  | value number fieldType type allowed rest ih =>
      rw [writeToCodedOutputStream, serializedSize, List.length_append, ih, size_eq,
        length_flatMap_tagged number type.wireFormat (length_writeNoTag type)]
  | message number fieldType msgClass rest inner ih =>
      rw [writeToCodedOutputStream, serializedSize, List.length_append, ih, size_eq,
        length_flatMap_tagged number .lengthDelimited]
      intro value
      rw [List.length_append, writeRawVarintSizeTAs32, length_writeRawVarint32, inner]
      rfl

end RealSocial.Proof
