import RealSocial.Protobuf.UnknownFieldSet

namespace RealSocial

open Library GPBCodedOutputStream GPBCodedInputStream

/-! # Messages

A descriptor is the list of the fields of a class, and the messages of the class have a slot for each field and
then the fields that the class does not know. The types of data are those that the messages of the program use;
a repeated field of numbers is not among them, nor a group, an enumeration, a map or an extension (a group can
be among the unknown fields). -/

inductive GPBDataType where
  | uint32
  | uint64
  | double
  | bytes
  | string
  deriving DecidableEq, Repr

namespace GPBDataType

abbrev Value : GPBDataType → Type
  | uint32 => UInt32
  | uint64 => UInt64
  | double => UInt64
  | bytes => NSData
  | string => String

instance (type : GPBDataType) : DecidableEq type.Value :=
  match type with
  | uint32 => inferInstanceAs (DecidableEq UInt32)
  | uint64 => inferInstanceAs (DecidableEq UInt64)
  | double => inferInstanceAs (DecidableEq UInt64)
  | bytes => inferInstanceAs (DecidableEq NSData)
  | string => inferInstanceAs (DecidableEq String)

def isObject : GPBDataType → Bool
  | bytes => true
  | string => true
  | _ => false

-- `GPBWireFormatForType`
def wireFormat : GPBDataType → GPBWireFormat
  | uint32 => .varint
  | uint64 => .varint
  | double => .fixed64
  | bytes => .lengthDelimited
  | string => .lengthDelimited

def read : (type : GPBDataType) → NSData → Option (type.Value × NSData)
  | uint32 => readUInt32
  | uint64 => readUInt64
  | double => readDouble
  | bytes => readRetainedBytes
  | string => readRetainedString

def writeNoTag : (type : GPBDataType) → type.Value → NSData
  | uint32 => writeUInt32NoTag
  | uint64 => writeUInt64NoTag
  | double => writeDoubleNoTag
  | bytes => writeBytesNoTag
  | string => writeStringNoTag

def sizeNoTag : (type : GPBDataType) → type.Value → Nat
  | uint32 => GPBComputeUInt32SizeNoTag
  | uint64 => GPBComputeUInt64SizeNoTag
  | double => GPBComputeDoubleSizeNoTag
  | bytes => GPBComputeBytesSizeNoTag
  | string => GPBComputeStringSizeNoTag

end GPBDataType

inductive GPBFieldType where
  | single
  | repeated
  deriving DecidableEq, Repr

namespace GPBFieldType

/-- The has bit and the value, or the array. -/
abbrev Slot : GPBFieldType → Type → Type
  | single, α => Option α
  | repeated, α => List α

variable {α : Type}

instance [DecidableEq α] (fieldType : GPBFieldType) : DecidableEq (fieldType.Slot α) :=
  match fieldType with
  | single => inferInstanceAs (DecidableEq (Option α))
  | repeated => inferInstanceAs (DecidableEq (List α))

def empty : (fieldType : GPBFieldType) → fieldType.Slot α
  | single => none
  | repeated => []

def values : (fieldType : GPBFieldType) → fieldType.Slot α → List α
  | single, slot => slot.toList
  | repeated, slot => slot

/-- The computed size of a field. -/
def size (sizeNoTag : α → Nat) (number : GPBFieldNumber) : (fieldType : GPBFieldType) → fieldType.Slot α → Nat
  | single, slot => slot.elim 0 (GPBComputeSize sizeNoTag number)
  | repeated, slot =>
      if slot.length = 0 then 0
      else (slot.map sizeNoTag).sum + slot.length * GPBComputeTagSize number

/-- `MergeSingleFieldFromCodedInputStream` and `MergeRepeatedNotPackedFieldFromCodedInputStream`, for a value
that is read as a whole. -/
def mergeValue (read : NSData → Option (α × NSData)) :
    (fieldType : GPBFieldType) → fieldType.Slot α → NSData → Option (fieldType.Slot α × NSData)
  | single, _, input => (read input).map fun (value, input) => (some value, input)
  | repeated, slot, input => (read input).map fun (value, input) => (slot ++ [value], input)

/-- The same for a message: one that is there is read on. -/
def mergeMessage (new : α)
    (readMessage : α → GPBCodedInputStreamState → Option (α × GPBCodedInputStreamState)) :
    (fieldType : GPBFieldType) → fieldType.Slot α → GPBCodedInputStreamState →
      Option (fieldType.Slot α × GPBCodedInputStreamState)
  | single, slot, input => (readMessage (slot.getD new) input).map fun (message, input) => (some message, input)
  | repeated, slot, input => (readMessage new input).map fun (message, input) => (slot ++ [message], input)

/-- `mergeFrom:` at a field, with what it does with two single values. -/
def mergeFrom (merge : α → α → α) : (fieldType : GPBFieldType) → fieldType.Slot α → fieldType.Slot α →
    fieldType.Slot α
  | single, slot, none => slot
  | single, none, some value => some value
  | single, some old, some value => some (merge old value)
  | repeated, slot, other => slot ++ other

end GPBFieldType

inductive GPBDescriptor where
  | nil
  | value (number : GPBFieldNumber) (fieldType : GPBFieldType) (type : GPBDataType)
      (allowed : fieldType = .repeated → type.isObject) (rest : GPBDescriptor)
  | message (number : GPBFieldNumber) (fieldType : GPBFieldType) (msgClass : GPBDescriptor)
      (rest : GPBDescriptor)

namespace GPBDescriptor

def tags : GPBDescriptor → List (UInt32 × GPBFieldType)
  | nil => []
  | value number fieldType type _ rest => (GPBWireFormatMakeTag number type.wireFormat, fieldType) :: rest.tags
  | message number fieldType _ rest =>
      (GPBWireFormatMakeTag number .lengthDelimited, fieldType) :: rest.tags

end GPBDescriptor

@[reducible] def GPBMessage : GPBDescriptor → Type
  | .nil => GPBUnknownFieldSet
  | .value _ fieldType type _ rest => fieldType.Slot type.Value × GPBMessage rest
  | .message _ fieldType msgClass rest => fieldType.Slot (GPBMessage msgClass) × GPBMessage rest

namespace GPBMessage

def isEqual : (d : GPBDescriptor) → DecidableEq (GPBMessage d)
  | .nil => inferInstanceAs (DecidableEq GPBUnknownFieldSet)
  | .value _ fieldType type _ rest =>
      have := isEqual rest
      inferInstanceAs (DecidableEq (fieldType.Slot type.Value × GPBMessage rest))
  | .message _ fieldType msgClass rest =>
      have := isEqual msgClass
      have := isEqual rest
      inferInstanceAs (DecidableEq (fieldType.Slot (GPBMessage msgClass) × GPBMessage rest))

instance (d : GPBDescriptor) : DecidableEq (GPBMessage d) := isEqual d

def init : (d : GPBDescriptor) → GPBMessage d
  | .nil => (∅ : GPBUnknownFieldSet)
  | .value _ fieldType _ _ rest => (fieldType.empty, init rest)
  | .message _ fieldType _ rest => (fieldType.empty, init rest)

def unknownFields : (d : GPBDescriptor) → GPBMessage d → GPBUnknownFieldSet
  | .nil, message => message
  | .value _ _ _ _ rest, message => unknownFields rest message.2
  | .message _ _ _ rest, message => unknownFields rest message.2

def setUnknownFields : (d : GPBDescriptor) → GPBUnknownFieldSet → GPBMessage d → GPBMessage d
  | .nil, set, _ => set
  | .value _ _ _ _ rest, set, message => (message.1, setUnknownFields rest set message.2)
  | .message _ _ _ rest, set, message => (message.1, setUnknownFields rest set message.2)

/-! ## Writing -/

def serializedSize : (d : GPBDescriptor) → GPBMessage d → Nat
  | .nil, message => GPBUnknownFieldSet.serializedSize message
  | .value number fieldType type _ rest, message =>
      fieldType.size type.sizeNoTag number message.1 + serializedSize rest message.2
  | .message number fieldType msgClass rest, message =>
      fieldType.size (fun value =>
        let size := serializedSize msgClass value
        GPBComputeRawVarint32SizeForInteger size + size) number message.1 + serializedSize rest message.2

def writeToCodedOutputStream : (d : GPBDescriptor) → GPBMessage d → NSData
  | .nil, message => GPBUnknownFieldSet.writeToCodedOutputStream message
  | .value number fieldType type _ rest, message =>
      ((fieldType.values message.1).flatMap fun value =>
        writeTagWithFormat number type.wireFormat ++ type.writeNoTag value) ++
      writeToCodedOutputStream rest message.2
  | .message number fieldType msgClass rest, message =>
      ((fieldType.values message.1).flatMap fun value =>
        writeTagWithFormat number .lengthDelimited ++
          (writeRawVarintSizeTAs32 (serializedSize msgClass value) ++ writeToCodedOutputStream msgClass value)) ++
      writeToCodedOutputStream rest message.2

def data (d : GPBDescriptor) (message : GPBMessage d) : Option NSData :=
  writeToBuffer (serializedSize d message) (writeToCodedOutputStream d message)

/-! ## Reading -/

/-- The loop over the fields from `startingIndex` on and around, with `tries` rounds left. The index is kept
for the next tag. -/
def searchFields (keys : List (Option UInt32)) (tag : UInt32) : (tries startingIndex : Nat) → Option Nat × Nat
  | 0, startingIndex => (none, startingIndex)
  | tries + 1, startingIndex =>
      let startingIndex := if keys.length ≤ startingIndex then 0 else startingIndex
      if keys[startingIndex]? = some (some tag) then (some startingIndex, startingIndex)
      else searchFields keys tag tries (startingIndex + 1)

section Loop

variable {M : Type} (fields : List (UInt32 × GPBFieldType))
  (mergeFieldAt : Nat → M → GPBCodedInputStreamState → Option (M × GPBCodedInputStreamState))
  (parseUnknownField : UInt32 → M → GPBCodedInputStreamState → Option (Bool × M × GPBCodedInputStreamState))

/-- No field has an alternate tag: that is for repeated numbers. -/
def mergeLoop : (fuel startingIndex : Nat) → M → GPBCodedInputStreamState → Option (M × GPBCodedInputStreamState)
  | 0, _, _, _ => none
  | fuel + 1, startingIndex, message, input =>
      (readTag input).bind fun (tag, input) =>
        if tag = 0 then some (message, input)
        else
          match searchFields (fields.map fun field => some field.1) tag fields.length startingIndex with
          | (some i, startingIndex) =>
              (mergeFieldAt i message input).bind fun (message, input) =>
                let single := (fields.map Prod.snd)[i]? = some .single
                mergeLoop fuel (if single then startingIndex + 1 else startingIndex) message input
          | (none, startingIndex) =>
              let (_, startingIndex) := searchFields (fields.map fun _ => none) tag fields.length startingIndex
              (parseUnknownField tag message input).bind fun (merged, message, input) =>
                if merged then mergeLoop fuel startingIndex message input else some (message, input)

end Loop

def parseUnknownField (d : GPBDescriptor) (tag : UInt32) (message : GPBMessage d)
    (input : GPBCodedInputStreamState) : Option (Bool × GPBMessage d × GPBCodedInputStreamState) :=
  if GPBWireFormatGetTagWireType tag ≠ 4 then
    (GPBUnknownFieldSet.mergeFieldFrom (unknownFields d message)
      (GPBUnknownFieldSet.mergeFromCodedInputStream (input.left.length + 1)) tag input).map
        fun (merged, set, input) => (merged, setUnknownFields d set message, input)
  else some (false, message, input)

/-- Every round reads a tag, so there are not more rounds than bytes, and one at the end. -/
def mergeFields (d : GPBDescriptor)
    (mergeFieldAt : Nat → GPBMessage d → GPBCodedInputStreamState →
      Option (GPBMessage d × GPBCodedInputStreamState))
    (message : GPBMessage d) (input : GPBCodedInputStreamState) :
    Option (GPBMessage d × GPBCodedInputStreamState) :=
  mergeLoop d.tags mergeFieldAt (parseUnknownField d) (input.left.length + 1) 0 message input

def mergeFieldAt : (d : GPBDescriptor) → Nat → GPBMessage d → GPBCodedInputStreamState →
    Option (GPBMessage d × GPBCodedInputStreamState)
  | .nil, _, _, _ => none
  | .value _ fieldType type _ _, 0, message, input =>
      (fieldType.mergeValue type.read message.1 input.left).map fun (slot, left) =>
        ((slot, message.2), { input with left })
  | .value _ _ _ _ rest, i + 1, message, input =>
      (mergeFieldAt rest i message.2 input).map fun (others, input) => ((message.1, others), input)
  | .message _ fieldType msgClass _, 0, message, input =>
      (fieldType.mergeMessage (init msgClass)
        (readMessage (mergeFields msgClass (mergeFieldAt msgClass)))
        message.1 input).map fun (slot, input) => ((slot, message.2), input)
  | .message _ _ _ rest, i + 1, message, input =>
      (mergeFieldAt rest i message.2 input).map fun (others, input) => ((message.1, others), input)

def mergeFromCodedInputStream (d : GPBDescriptor) (message : GPBMessage d) (input : GPBCodedInputStreamState) :
    Option (GPBMessage d × GPBCodedInputStreamState) :=
  mergeFields d (mergeFieldAt d) message input

def mergeFromData (d : GPBDescriptor) (message : GPBMessage d) (data : NSData) : Option (GPBMessage d) :=
  (mergeFromCodedInputStream d message { left := data }).bind fun (message, input) =>
    if input.lastTag = 0 then some message else none

def parseFromData (d : GPBDescriptor) (data : NSData) : Option (GPBMessage d) := mergeFromData d (init d) data

/-! ## Merging -/

def mergeFrom : (d : GPBDescriptor) → GPBMessage d → GPBMessage d → GPBMessage d
  | .nil, message, other => GPBUnknownFieldSet.mergeFrom message other
  | .value _ fieldType _ _ rest, message, other =>
      (fieldType.mergeFrom (fun _ value => value) message.1 other.1, mergeFrom rest message.2 other.2)
  | .message _ fieldType msgClass rest, message, other =>
      (fieldType.mergeFrom (mergeFrom msgClass) message.1 other.1, mergeFrom rest message.2 other.2)

end GPBMessage

end RealSocial
