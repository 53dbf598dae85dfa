import RealSocial.Protobuf.CodedOutputStream

namespace RealSocial

open Library

/-! # Reading the wire format

An exception of the reader is none: its error code is left out. The buffer and its limit are the bytes that are
left before the limit. -/

structure GPBCodedInputStreamState where
  left : NSData
  lastTag : UInt32 := 0
  recursionDepth : Nat := 0
  deriving DecidableEq, Repr

namespace GPBCodedInputStream

def defaultRecursionLimit : Nat := 100

/-- The rounds of the loop from one that reads the byte for the bits from `shift` on. -/
def readRawVarint64From (shift : Nat) (result : UInt64) : NSData → Option (UInt64 × NSData)
  | [] => none
  | b :: left =>
      if shift < 64 then
        let result := result ||| (b &&& 0x7F).toUInt64 <<< UInt64.ofNat shift
        if b &&& 0x80 = 0 then some (result, left) else readRawVarint64From (shift + 7) result left
      else none

/-! ## Values

The functions that read a value move on in the bytes that are left and touch nothing else of the state. -/

section Values

variable (left : NSData)

def readRawVarint64 : Option (UInt64 × NSData) := readRawVarint64From 0 0 left

def readRawVarint32 : Option (UInt32 × NSData) :=
  (readRawVarint64 left).map fun (value, left) => (value.toUInt32, left)

/-- `CheckSize`, and the bytes of that size. -/
def readRaw (size : Nat) : Option (NSData × NSData) :=
  if size ≤ left.length then some (left.take size, left.drop size) else none

def readRawLittleEndian32 : Option (UInt32 × NSData) :=
  (readRaw left 4).map fun (bytes, left) => (UInt32.ofNat (Words.ofLittleEndian bytes), left)

def readRawLittleEndian64 : Option (UInt64 × NSData) :=
  (readRaw left 8).map fun (bytes, left) => (UInt64.ofNat (Words.ofLittleEndian bytes), left)

def readUInt32 : Option (UInt32 × NSData) := readRawVarint32 left

def readUInt64 : Option (UInt64 × NSData) := readRawVarint64 left

def readInt64 : Option (UInt64 × NSData) := readRawVarint64 left

def readFixed32 : Option (UInt32 × NSData) := readRawLittleEndian32 left

def readFixed64 : Option (UInt64 × NSData) := readRawLittleEndian64 left

def readDouble : Option (UInt64 × NSData) := readRawLittleEndian64 left

/-- A length that is negative as an `int32_t` is left out. -/
def readLength : Option (Nat × NSData) :=
  (readRawVarint32 left).bind fun (size, left) => if size.toNat < 2 ^ 31 then some (size.toNat, left) else none

def readRetainedBytes : Option (NSData × NSData) :=
  (readLength left).bind fun (size, left) => readRaw left size

def readRetainedString : Option (String × NSData) :=
  (readLength left).bind fun (size, left) =>
    if size = 0 then some ("", left)
    else (readRaw left size).bind fun (bytes, left) => (Wire.readUtf8 bytes).map fun text => (text, left)

end Values

/-! ## Tags and messages -/

def isAtEnd (state : GPBCodedInputStreamState) : Bool := state.left = []

/-- A tag has one of the formats from 0 to 5 and a number. At the end the tag is 0. -/
def readTag (state : GPBCodedInputStreamState) : Option (UInt32 × GPBCodedInputStreamState) :=
  if isAtEnd state then some (0, { state with lastTag := 0 })
  else
    (readRawVarint32 state.left).bind fun (tag, left) =>
      if tag &&& 7 ≤ 5 ∧ tag >>> 3 ≠ 0 then some (tag, { state with left, lastTag := tag }) else none

/-- The message is read up to a limit that is pushed for it, and has to end there. -/
def readMessage {M : Type}
    (mergeFromCodedInputStream : M → GPBCodedInputStreamState → Option (M × GPBCodedInputStreamState))
    (message : M) (state : GPBCodedInputStreamState) : Option (M × GPBCodedInputStreamState) :=
  if state.recursionDepth < defaultRecursionLimit then
    (readLength state.left).bind fun (length, left) =>
      (readRaw left length).bind fun (bytes, left) =>
        (mergeFromCodedInputStream message
          { state with left := bytes, recursionDepth := state.recursionDepth + 1 }).bind fun (message, inner) =>
            if inner.lastTag = 0 then some (message, { state with left, lastTag := inner.lastTag }) else none
  else none

/-- The fields of a group are read up to a tag that ends one, which has to be the tag of its own end. -/
def readUnknownGroup {M : Type}
    (mergeFromCodedInputStream : M → GPBCodedInputStreamState → Option (M × GPBCodedInputStreamState))
    (fieldNumber : GPBFieldNumber) (message : M) (state : GPBCodedInputStreamState) :
    Option (M × GPBCodedInputStreamState) :=
  if state.recursionDepth < defaultRecursionLimit then
    (mergeFromCodedInputStream message { state with recursionDepth := state.recursionDepth + 1 }).bind
      fun (message, inner) =>
        if inner.lastTag = GPBWireFormatMakeTag fieldNumber .endGroup then
          some (message, { state with left := inner.left, lastTag := inner.lastTag })
        else none
  else none

end GPBCodedInputStream
end RealSocial
