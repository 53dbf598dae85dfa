import RealSocial.Proof.RawNumbers
import RealSocial.Protobuf.UnknownFieldSet

namespace RealSocial.Proof

open Library GPBCodedOutputStream GPBCodedInputStream GPBUnknownFieldSet

/-! # The fields on the wire

A message on the wire is a list of fields, whatever class it is of: a number, and a value in one of the formats.
A group is a value too: what its fields are kept as. -/

/-- How deep groups are in groups. -/
def groupNesting (set : GPBUnknownFieldSet) : Nat :=
  set.fold fun fields => ((fields.flatMap fun field => field.2.groupList).map (· + 1)).foldr max 0

inductive WireValue where
  | varint (value : UInt64)
  | fixed32 (value : UInt32)
  | fixed64 (value : UInt64)
  | lengthDelimited (value : NSData)
  | group (value : GPBUnknownFieldSet)
  deriving DecidableEq

namespace WireValue

def format : WireValue → GPBWireFormat
  | varint _ => .varint
  | fixed32 _ => .fixed32
  | fixed64 _ => .fixed64
  | lengthDelimited _ => .lengthDelimited
  | group _ => .startGroup

def writeNoTag (number : GPBFieldNumber) : WireValue → NSData
  | varint value => writeUInt64NoTag value
  | fixed32 value => writeFixed32NoTag value
  | fixed64 value => writeFixed64NoTag value
  | lengthDelimited value => writeBytesNoTag value
  | group value => writeUnknownGroupNoTag number value.writeToCodedOutputStream

def Fits : WireValue → Prop
  | lengthDelimited value => value.length < 2 ^ 31
  | group value => value.writeToCodedOutputStream.length < 2 ^ 31
  | _ => True

def nesting : WireValue → Nat
  | group value => groupNesting value + 1
  | _ => 0

end WireValue

structure WireField where
  number : GPBFieldNumber
  value : WireValue
  deriving DecidableEq

namespace WireField

variable (field : WireField)

def tag : UInt32 := GPBWireFormatMakeTag field.number field.value.format

def write : NSData :=
  writeTagWithFormat field.number field.value.format ++ field.value.writeNoTag field.number

def Fits : Prop := field.value.Fits

/-- A group can be read where the reader is so deep already. -/
def Shallow (depth : Nat) : Prop := field.value.nesting + depth ≤ defaultRecursionLimit

instance (depth : Nat) : Decidable (field.Shallow depth) :=
  inferInstanceAs (Decidable (field.value.nesting + depth ≤ defaultRecursionLimit))

end WireField

def readGroup (depth : Nat) (number : GPBFieldNumber) (left : NSData) : Option (GPBUnknownFieldSet × NSData) :=
  (readUnknownGroup (mergeFromCodedInputStream (left.length + 1)) number ∅
    { left, recursionDepth := depth }).map fun (group, input) => (group, input.left)

-- a value that is not a group
def readPlain : GPBWireFormat → NSData → Option (WireValue × NSData)
  | .varint, left => (readRawVarint64 left).map fun (value, left) => (.varint value, left)
  | .fixed32, left => (readRawLittleEndian32 left).map fun (value, left) => (.fixed32 value, left)
  | .fixed64, left => (readRawLittleEndian64 left).map fun (value, left) => (.fixed64 value, left)
  | .lengthDelimited, left => (readRetainedBytes left).map fun (value, left) => (.lengthDelimited value, left)
  | _, _ => none

def readValue (depth : Nat) (number : GPBFieldNumber) : GPBWireFormat → NSData → Option (WireValue × NSData)
  | .startGroup, left => (readGroup depth number left).map fun (value, left) => (.group value, left)
  | format, left => readPlain format left

def formatOf (tag : UInt32) : Option GPBWireFormat :=
  match GPBWireFormatGetTagWireType tag with
  | 0 => some .varint
  | 1 => some .fixed64
  | 2 => some .lengthDelimited
  | 3 => some .startGroup
  | 4 => some .endGroup
  | 5 => some .fixed32
  | _ => none

def readField (depth : Nat) (tag : UInt32) (left : NSData) : Option (WireField × NSData) :=
  (GPBWireFormatGetTagFieldNumber tag).bind fun number =>
    (formatOf tag).bind fun format =>
      (readValue depth number format left).map fun (value, left) => (⟨number, value⟩, left)

def readFieldsWithin (depth : Nat) : Nat → NSData → Option (List WireField)
  | 0, _ => none
  | fuel + 1, left =>
      if left = [] then some []
      else
        (readRawVarint32 left).bind fun (tag, left) =>
          (readField depth tag left).bind fun (field, left) => (readFieldsWithin depth fuel left).map (field :: ·)

def wireFields (depth : Nat) (data : NSData) : Option (List WireField) :=
  readFieldsWithin depth (data.length + 1) data

/-! ## Tags -/

theorem rawValue_injective {format other : GPBWireFormat} (same : format.rawValue = other.rawValue) :
    format = other := by
  cases format <;> cases other <;> first | rfl | exact absurd same (by decide)

theorem makeTag_inj {number other : GPBFieldNumber} {format otherFormat : GPBWireFormat} :
    GPBWireFormatMakeTag number format = GPBWireFormatMakeTag other otherFormat ↔
      number = other ∧ format = otherFormat := by
  constructor
  · intro same
    have words := congrArg UInt32.toNat same
    have low := rawValue_lt format
    have lowOther := rawValue_lt otherFormat
    rw [toNat_makeTag, toNat_makeTag] at words
    have numbers : number.1 = other.1 := by omega
    have formats : format.rawValue.toNat = otherFormat.rawValue.toNat := by omega
    exact ⟨Subtype.ext numbers, rawValue_injective (UInt32.toNat_inj.mp formats)⟩
  · intro same
    rw [same.1, same.2]

theorem toNat_wireType (tag : UInt32) : (GPBWireFormatGetTagWireType tag).toNat = tag.toNat % 8 := by
  rw [GPBWireFormatGetTagWireType, UInt32.toNat_and]
  exact Nat.and_two_pow_sub_one_eq_mod tag.toNat 3

theorem toNat_fieldNumber (tag : UInt32) : (tag >>> 3).toNat = tag.toNat / 8 := by
  rw [UInt32.toNat_shiftRight]
  exact Nat.shiftRight_eq_div_pow tag.toNat 3

theorem wireType_makeTag (number : GPBFieldNumber) (format : GPBWireFormat) :
    GPBWireFormatGetTagWireType (GPBWireFormatMakeTag number format) = format.rawValue := by
  have low := rawValue_lt format
  apply UInt32.toNat_inj.mp
  rw [toNat_wireType, toNat_makeTag]
  omega

theorem formatOf_makeTag (number : GPBFieldNumber) (format : GPBWireFormat) :
    formatOf (GPBWireFormatMakeTag number format) = some format := by
  rw [formatOf, wireType_makeTag]
  cases format <;> rfl

theorem fieldNumber_makeTag (number : GPBFieldNumber) (format : GPBWireFormat) :
    GPBWireFormatGetTagFieldNumber (GPBWireFormatMakeTag number format) = some number := by
  have low := rawValue_lt format
  have word : (GPBWireFormatMakeTag number format >>> 3).toNat = number.1 := by
    rw [toNat_fieldNumber, toNat_makeTag]
    omega
  simp only [GPBWireFormatGetTagFieldNumber, word, dif_pos number.2]

theorem rawValue_of_formatOf {tag : UInt32} {format : GPBWireFormat} (known : formatOf tag = some format) :
    GPBWireFormatGetTagWireType tag = format.rawValue := by
  rw [formatOf] at known
  split at known <;> first | (cases known; assumption) | cases known

theorem makeTag_of_read {tag : UInt32} {number : GPBFieldNumber} {format : GPBWireFormat}
    (numbered : GPBWireFormatGetTagFieldNumber tag = some number) (formatted : formatOf tag = some format) :
    GPBWireFormatMakeTag number format = tag := by
  have low := toNat_wireType tag
  rw [rawValue_of_formatOf formatted] at low
  have high : number.1 = tag.toNat / 8 := by
    simp only [GPBWireFormatGetTagFieldNumber] at numbered
    split_ifs at numbered
    rw [← Option.some.inj numbered, ← toNat_fieldNumber]
  apply UInt32.toNat_inj.mp
  rw [toNat_makeTag]
  omega

theorem readValue_plain (depth : Nat) (number : GPBFieldNumber) {format : GPBWireFormat} (plain : format ≠ .startGroup)
    (left : NSData) : readValue depth number format left = readPlain format left := by
  cases format with
  | startGroup => exact absurd rfl plain
  | _ => rfl

theorem readField_makeTag (depth : Nat) (number : GPBFieldNumber) (format : GPBWireFormat) (left : NSData) :
    readField depth (GPBWireFormatMakeTag number format) left =
      (readValue depth number format left).map fun (value, left) => (⟨number, value⟩, left) := by
  rw [readField, fieldNumber_makeTag, Option.bind_some, formatOf_makeTag, Option.bind_some]

theorem format_of_readPlain {format : GPBWireFormat} {left rest : NSData} {value : WireValue}
    (read : readPlain format left = some (value, rest)) : value.format = format := by
  cases format with
  | startGroup => cases read
  | endGroup => cases read
  | _ =>
      obtain ⟨result, -, same⟩ := Option.map_eq_some_iff.mp read
      rw [← (Prod.mk.inj same).1]
      rfl

theorem format_of_readValue {depth : Nat} {number : GPBFieldNumber} {format : GPBWireFormat} {left rest : NSData}
    {value : WireValue} (read : readValue depth number format left = some (value, rest)) :
    value.format = format := by
  by_cases group : format = .startGroup
  · subst group
    obtain ⟨result, -, same⟩ := Option.map_eq_some_iff.mp read
    rw [← (Prod.mk.inj same).1]
    rfl
  · rw [readValue_plain depth number group] at read
    exact format_of_readPlain read

theorem value_of_readField {depth : Nat} {tag : UInt32} {left rest : NSData} {field : WireField}
    (read : readField depth tag left = some (field, rest)) :
    field.tag = tag ∧ readValue depth field.number field.value.format left = some (field.value, rest) := by
  obtain ⟨number, numbered, read⟩ := Option.bind_eq_some_iff.mp read
  obtain ⟨format, formatted, read⟩ := Option.bind_eq_some_iff.mp read
  obtain ⟨⟨value, rest⟩, there, same⟩ := Option.map_eq_some_iff.mp read
  obtain ⟨rfl, rfl⟩ := Prod.mk.inj same
  have known := format_of_readValue there
  constructor
  · rw [WireField.tag, known]
    exact makeTag_of_read numbered formatted
  · rwa [known]

theorem tag_of_readField {depth : Nat} {tag : UInt32} {left rest : NSData} {field : WireField}
    (read : readField depth tag left = some (field, rest)) : field.tag = tag := (value_of_readField read).1

theorem write_ne_nil (field : WireField) : field.write ≠ [] := by
  rw [WireField.write, writeTagWithFormat, writeRawVarint32_eq]
  exact List.append_ne_nil_of_left_ne_nil (Wire.varint_ne_nil _) _

/-- What holds of no bytes, and of those of one more field, holds of all bytes that are fields. -/
theorem wireFields_rule {depth : Nat} (holds : NSData → List WireField → Prop) (ended : holds [] [])
    (round : ∀ {left middle rest : NSData} {tag : UInt32} {field : WireField} {fields : List WireField},
      readRawVarint32 left = some (tag, middle) → readField depth tag middle = some (field, rest) →
        holds rest fields → holds left (field :: fields))
    {data : NSData} {fields : List WireField} (read : wireFields depth data = some fields) : holds data fields := by
  rw [wireFields] at read
  generalize data.length + 1 = fuel at read
  induction fuel generalizing data fields with
  | zero => cases read
  | succ fuel ih =>
      rw [readFieldsWithin] at read
      split_ifs at read with empty
      · obtain rfl := Option.some.inj read
        exact empty.symm ▸ ended
      · obtain ⟨⟨tag, middle⟩, tagged, read⟩ := Option.bind_eq_some_iff.mp read
        obtain ⟨⟨field, rest⟩, found, read⟩ := Option.bind_eq_some_iff.mp read
        obtain ⟨others, later, rfl⟩ := Option.map_eq_some_iff.mp read
        exact round tagged found (ih later)

end RealSocial.Proof
