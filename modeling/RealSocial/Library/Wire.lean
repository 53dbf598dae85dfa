import Mathlib.Data.List.Basic

namespace RealSocial.Library.Wire

/-! # The wire format of protocol buffers

A message is written as its fields one after the other, each with a tag that has its number and the kind of
its payload. Numbers are kept whole here: it is for the reader of a field to cut them to its width. -/

abbrev Bytes := List UInt8

/-! ## Varints -/

def varint (n : Nat) : Bytes :=
  if n < 128 then [UInt8.ofNat n] else UInt8.ofNat (n % 128 + 128) :: varint (n / 128)
termination_by n
decreasing_by omega

def readVarint : Bytes → Option (Nat × Bytes)
  | [] => none
  | byte :: bytes =>
      if byte.toNat < 128 then some (byte.toNat, bytes)
      else (readVarint bytes).map fun (high, rest) => (128 * high + (byte.toNat - 128), rest)

theorem readVarint_varint (n : Nat) (rest : Bytes) : readVarint (varint n ++ rest) = some (n, rest) := by
  induction n using Nat.strongRecOn with
  | ind n ih =>
      rw [varint]
      by_cases small : n < 128
      · have byte : (UInt8.ofNat n).toNat = n := Nat.mod_eq_of_lt (by omega)
        simp [readVarint, small, byte]
      · have byte : (UInt8.ofNat (n % 128 + 128)).toNat = n % 128 + 128 := Nat.mod_eq_of_lt (by omega)
        have whole : 128 * (n / 128) + n % 128 = n := Nat.div_add_mod n 128
        rw [if_neg small, List.cons_append, readVarint, byte, if_neg (by omega), ih (n / 128) (by omega)]
        simp [whole]

theorem varint_ne_nil (n : Nat) : varint n ≠ [] := by
  rw [varint]
  split_ifs
  · exact List.cons_ne_nil _ _
  · exact List.cons_ne_nil _ _

/-! ## Fields -/

inductive Payload where
  | varint (n : Nat)
  | fixed64 (bytes : { bytes : Bytes // bytes.length = 8 })
  | lengthDelimited (bytes : Bytes)
  | fixed32 (bytes : { bytes : Bytes // bytes.length = 4 })
  deriving DecidableEq

structure Field where
  number : Nat
  positive : 0 < number
  payload : Payload
  deriving DecidableEq

namespace Payload

def wireType : Payload → Nat
  | .varint _ => 0
  | .fixed64 _ => 1
  | .lengthDelimited _ => 2
  | .fixed32 _ => 5

def encode : Payload → Bytes
  | .varint n => Wire.varint n
  | .fixed64 bytes => bytes
  | .lengthDelimited bytes => Wire.varint bytes.length ++ bytes
  | .fixed32 bytes => bytes

theorem wireType_lt (payload : Payload) : payload.wireType < 8 := by
  cases payload <;> simp [wireType]

end Payload

def readBytes (count : Nat) (bytes : Bytes) : Option ({ taken : Bytes // taken.length = count } × Bytes) :=
  if enough : count ≤ bytes.length then
    some (⟨bytes.take count, List.length_take_of_le enough⟩, bytes.drop count)
  else none

/-- Groups are not read. -/
def readPayload (wireType : Nat) (bytes : Bytes) : Option (Payload × Bytes) :=
  match wireType with
  | 0 => (readVarint bytes).map fun (n, rest) => (.varint n, rest)
  | 1 => (readBytes 8 bytes).map fun (taken, rest) => (.fixed64 taken, rest)
  | 2 => (readVarint bytes).bind fun (length, rest) =>
      (readBytes length rest).map fun (taken, rest) => (.lengthDelimited taken, rest)
  | 5 => (readBytes 4 bytes).map fun (taken, rest) => (.fixed32 taken, rest)
  | _ => none

def Field.encode (field : Field) : Bytes :=
  varint (8 * field.number + field.payload.wireType) ++ field.payload.encode

/-- A field number of zero is invalid. -/
def readField (bytes : Bytes) : Option (Field × Bytes) :=
  (readVarint bytes).bind fun (tag, rest) =>
    if positive : 0 < tag / 8 then
      (readPayload (tag % 8) rest).map fun (payload, rest) => ({ number := tag / 8, positive, payload }, rest)
    else none

theorem readBytes_append {count : Nat} (bytes : { bytes : Bytes // bytes.length = count }) (rest : Bytes) :
    readBytes count (bytes.1 ++ rest) = some (bytes, rest) := by
  obtain ⟨bytes, rfl⟩ := bytes
  rw [readBytes, dif_pos (by simp)]
  simp

theorem readPayload_encode (payload : Payload) (rest : Bytes) :
    readPayload payload.wireType (payload.encode ++ rest) = some (payload, rest) := by
  cases payload with
  | varint n =>
      simp only [Payload.wireType, Payload.encode, readPayload, readVarint_varint, Option.map_some]
  | fixed64 bytes =>
      simp only [Payload.wireType, Payload.encode, readPayload, readBytes_append, Option.map_some]
  | lengthDelimited bytes =>
      have taken := readBytes_append ⟨bytes, rfl⟩ rest
      simp only [Payload.wireType, Payload.encode, readPayload, List.append_assoc, readVarint_varint,
        Option.bind_some, taken, Option.map_some]
  | fixed32 bytes =>
      simp only [Payload.wireType, Payload.encode, readPayload, readBytes_append, Option.map_some]

theorem readField_encode (field : Field) (rest : Bytes) :
    readField (field.encode ++ rest) = some (field, rest) := by
  obtain ⟨number, positive, payload⟩ := field
  have small := payload.wireType_lt
  have quotient : (8 * number + payload.wireType) / 8 = number := by omega
  have remainder : (8 * number + payload.wireType) % 8 = payload.wireType := by omega
  rw [readField, Field.encode, List.append_assoc, readVarint_varint, Option.bind_some]
  simp only [quotient, remainder, readPayload_encode, Option.map_some, dif_pos positive]

theorem Field.encode_ne_nil (field : Field) : field.encode ≠ [] :=
  List.append_ne_nil_of_left_ne_nil (varint_ne_nil _) _

/-! ## Messages -/

def encodeFields (fields : List Field) : Bytes := fields.flatMap Field.encode

def readFieldsWithin : Nat → Bytes → Option (List Field)
  | _, [] => some []
  | 0, _ :: _ => none
  | fuel + 1, bytes =>
      (readField bytes).bind fun (field, rest) => (readFieldsWithin fuel rest).map (field :: ·)

/-- Every field takes a byte at least, so there are not more fields than bytes. -/
def readFields (bytes : Bytes) : Option (List Field) := readFieldsWithin bytes.length bytes

theorem readFieldsWithin_succ (fuel : Nat) {bytes : Bytes} (more : bytes ≠ []) :
    readFieldsWithin (fuel + 1) bytes =
      (readField bytes).bind fun (field, rest) => (readFieldsWithin fuel rest).map (field :: ·) := by
  cases bytes with
  | nil => contradiction
  | cons byte bytes => rfl

theorem encodeFields_cons_ne_nil (field : Field) (fields : List Field) :
    encodeFields (field :: fields) ≠ [] :=
  List.append_ne_nil_of_left_ne_nil field.encode_ne_nil _

theorem readFieldsWithin_encode {fields : List Field} {fuel : Nat} (enough : fields.length ≤ fuel) :
    readFieldsWithin fuel (encodeFields fields) = some fields := by
  induction fields generalizing fuel with
  | nil =>
      cases fuel with
      | zero => rfl
      | succ fuel => rfl
  | cons field fields ih =>
      cases fuel with
      | zero => simp at enough
      | succ fuel =>
          have rest := ih (Nat.le_of_succ_le_succ enough)
          have here : readField (encodeFields (field :: fields)) = some (field, encodeFields fields) :=
            readField_encode field (encodeFields fields)
          rw [readFieldsWithin_succ fuel (encodeFields_cons_ne_nil field fields), here, Option.bind_some]
          exact congrArg (Option.map (field :: ·)) rest

theorem length_le_encodeFields (fields : List Field) : fields.length ≤ (encodeFields fields).length := by
  induction fields with
  | nil => exact Nat.le_refl 0
  | cons field fields ih =>
      have byte := List.length_pos_iff.mpr field.encode_ne_nil
      rw [encodeFields, List.flatMap_cons, List.length_append, ← encodeFields, List.length_cons]
      omega

theorem readFields_encode (fields : List Field) : readFields (encodeFields fields) = some fields :=
  readFieldsWithin_encode (length_le_encodeFields fields)

/-- A message is read by taking in its fields one after the other. -/
def parse {M : Type*} (mergeField : M → Field → Option M) (message : M) (bytes : Bytes) : Option M :=
  (readFields bytes).bind fun fields => fields.foldlM mergeField message

theorem parse_encode {M : Type*} (mergeField : M → Field → Option M) (message : M) (fields : List Field) :
    parse mergeField message (encodeFields fields) = fields.foldlM mergeField message := by
  rw [parse, readFields_encode, Option.bind_some]

/-! ## Texts -/

def utf8 (text : String) : Bytes := text.toByteArray.data.toList

def readUtf8 (bytes : Bytes) : Option String := String.fromUTF8? ⟨bytes.toArray⟩

theorem readUtf8_utf8 (text : String) : readUtf8 (utf8 text) = some text := by
  rw [readUtf8, utf8, Array.toArray_toList]
  exact dif_pos text.isValidUTF8

end RealSocial.Library.Wire
