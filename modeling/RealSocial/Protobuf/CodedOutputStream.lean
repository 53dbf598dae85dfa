import RealSocial.Library.Words
import RealSocial.Store.WCDB

namespace RealSocial

open Library

/-! # Writing the wire format

What a function writes is the list of its bytes. The sizes are computed apart from the writing: the buffer of
a message is made with the computed size before anything is written. -/

inductive GPBWireFormat where
  | varint
  | fixed64
  | lengthDelimited
  | startGroup
  | endGroup
  | fixed32
  deriving DecidableEq, Repr

def GPBWireFormat.rawValue : GPBWireFormat → UInt32
  | .varint => 0
  | .fixed64 => 1
  | .lengthDelimited => 2
  | .startGroup => 3
  | .endGroup => 4
  | .fixed32 => 5

/-- A field number has 29 bits: it stands in a tag above the three bits of the format. -/
abbrev GPBFieldNumber := { number : Nat // 0 < number ∧ number < 2 ^ 29 }

def GPBWireFormatMakeTag (fieldNumber : GPBFieldNumber) (wireType : GPBWireFormat) : UInt32 :=
  UInt32.ofNat fieldNumber.1 <<< 3 ||| wireType.rawValue

namespace GPBCodedOutputStream

def writeRawVarint32 (value : UInt32) : NSData :=
  if value &&& ~~~0x7F = 0 then [value.toUInt8]
  else ((value &&& 0x7F) ||| 0x80).toUInt8 :: writeRawVarint32 (value >>> 7)
termination_by value.toNat
decreasing_by
  have big : ¬ value.toNat < 2 ^ 7 := (Words.uint32_and_high value _ 7 rfl).not.mp ‹_›
  have smaller := Words.uint32_shiftRight_seven value
  omega

def writeRawVarint64 (value : UInt64) : NSData :=
  if value &&& ~~~0x7F = 0 then [value.toUInt8]
  else ((value &&& 0x7F) ||| 0x80).toUInt8 :: writeRawVarint64 (value >>> 7)
termination_by value.toNat
decreasing_by
  have big : ¬ value.toNat < 2 ^ 7 := (Words.uint64_and_high value _ 7 rfl).not.mp ‹_›
  have smaller := Words.uint64_shiftRight_seven value
  omega

def writeRawLittleEndian32 (value : UInt32) : NSData :=
  [value.toUInt8, (value >>> 8).toUInt8, (value >>> 16).toUInt8, (value >>> 24).toUInt8]

def writeRawLittleEndian64 (value : UInt64) : NSData :=
  [value.toUInt8, (value >>> 8).toUInt8, (value >>> 16).toUInt8, (value >>> 24).toUInt8,
    (value >>> 32).toUInt8, (value >>> 40).toUInt8, (value >>> 48).toUInt8, (value >>> 56).toUInt8]

-- the length of a value is cut to 32 bits
def writeRawVarintSizeTAs32 (size : Nat) : NSData := writeRawVarint32 (UInt32.ofNat size)

def writeTagWithFormat (fieldNumber : GPBFieldNumber) (format : GPBWireFormat) : NSData :=
  writeRawVarint32 (GPBWireFormatMakeTag fieldNumber format)

section NoTag

def writeUInt32NoTag (value : UInt32) : NSData := writeRawVarint32 value

def writeUInt64NoTag (value : UInt64) : NSData := writeRawVarint64 value

def writeFixed32NoTag (value : UInt32) : NSData := writeRawLittleEndian32 value

def writeFixed64NoTag (value : UInt64) : NSData := writeRawLittleEndian64 value

/-- A double is its bits. -/
def writeDoubleNoTag (value : UInt64) : NSData := writeRawLittleEndian64 value

def writeBytesNoTag (value : NSData) : NSData := writeRawVarintSizeTAs32 value.length ++ value

def writeStringNoTag (value : String) : NSData := writeBytesNoTag (Wire.utf8 value)

end NoTag

section Tagged

variable (fieldNumber : GPBFieldNumber)

def writeUInt64 (value : UInt64) : NSData :=
  writeTagWithFormat fieldNumber .varint ++ writeUInt64NoTag value

def writeFixed32 (value : UInt32) : NSData :=
  writeTagWithFormat fieldNumber .fixed32 ++ writeFixed32NoTag value

def writeFixed64 (value : UInt64) : NSData :=
  writeTagWithFormat fieldNumber .fixed64 ++ writeFixed64NoTag value

def writeBytes (value : NSData) : NSData :=
  writeTagWithFormat fieldNumber .lengthDelimited ++ writeBytesNoTag value

-- `value` is what the unknown fields of the group write
def writeUnknownGroupNoTag (value : NSData) : NSData := value ++ writeTagWithFormat fieldNumber .endGroup

def writeUnknownGroup (value : NSData) : NSData :=
  writeTagWithFormat fieldNumber .startGroup ++ writeUnknownGroupNoTag fieldNumber value

end Tagged

/-- A stream on a buffer raises when it is full, and what it did not reach stays zero. -/
def writeToBuffer (size : Nat) (bytes : NSData) : Option NSData :=
  if bytes.length ≤ size then some (bytes ++ List.replicate (size - bytes.length) 0) else none

end GPBCodedOutputStream

/-! ## Computed sizes -/

def GPBComputeRawVarint32Size (value : UInt32) : Nat :=
  if value &&& ((0xffffffff : UInt32) <<< 7) = 0 then 1
  else if value &&& ((0xffffffff : UInt32) <<< 14) = 0 then 2
  else if value &&& ((0xffffffff : UInt32) <<< 21) = 0 then 3
  else if value &&& ((0xffffffff : UInt32) <<< 28) = 0 then 4
  else 5

def GPBComputeRawVarint64Size (value : UInt64) : Nat :=
  if value &&& ((0xffffffffffffffff : UInt64) <<< 7) = 0 then 1
  else if value &&& ((0xffffffffffffffff : UInt64) <<< 14) = 0 then 2
  else if value &&& ((0xffffffffffffffff : UInt64) <<< 21) = 0 then 3
  else if value &&& ((0xffffffffffffffff : UInt64) <<< 28) = 0 then 4
  else if value &&& ((0xffffffffffffffff : UInt64) <<< 35) = 0 then 5
  else if value &&& ((0xffffffffffffffff : UInt64) <<< 42) = 0 then 6
  else if value &&& ((0xffffffffffffffff : UInt64) <<< 49) = 0 then 7
  else if value &&& ((0xffffffffffffffff : UInt64) <<< 56) = 0 then 8
  else if value &&& ((0xffffffffffffffff : UInt64) <<< 63) = 0 then 9
  else 10

def GPBComputeRawVarint32SizeForInteger (value : Nat) : Nat := GPBComputeRawVarint32Size (UInt32.ofNat value)

-- the format does not change the size of a tag
def GPBComputeTagSize (fieldNumber : GPBFieldNumber) : Nat :=
  GPBComputeRawVarint32Size (GPBWireFormatMakeTag fieldNumber .varint)

def GPBComputeUInt32SizeNoTag (value : UInt32) : Nat := GPBComputeRawVarint32Size value

def GPBComputeUInt64SizeNoTag (value : UInt64) : Nat := GPBComputeRawVarint64Size value

def GPBComputeFixed32SizeNoTag (_ : UInt32) : Nat := 4

def GPBComputeFixed64SizeNoTag (_ : UInt64) : Nat := 8

def GPBComputeDoubleSizeNoTag (_ : UInt64) : Nat := 8

def GPBComputeBytesSizeNoTag (value : NSData) : Nat :=
  GPBComputeRawVarint32SizeForInteger value.length + value.length

def GPBComputeStringSizeNoTag (value : String) : Nat :=
  let length := (Wire.utf8 value).length
  GPBComputeRawVarint32SizeForInteger length + length

/-- What `GPBComputeUInt32Size` and its likes add up. -/
def GPBComputeSize {α : Type} (sizeNoTag : α → Nat) (fieldNumber : GPBFieldNumber) (value : α) : Nat :=
  GPBComputeTagSize fieldNumber + sizeNoTag value

def GPBComputeUnknownGroupSize (fieldNumber : GPBFieldNumber) (serializedSize : Nat) : Nat :=
  GPBComputeTagSize fieldNumber * 2 + serializedSize

end RealSocial
