import RealSocial.Library.Routed
import RealSocial.Proof.UnknownGroups
import RealSocial.Protobuf.Message

namespace RealSocial.Proof

open Library GPBCodedOutputStream GPBCodedInputStream GPBMessage

/-! # A message as the fold of its fields

The reader goes once over the bytes and keeps an index into the fields of the class. What it makes is the fold
of the fields on the wire, each merged where its tag is found. -/

def encodeValue : (type : GPBDataType) → type.Value → WireValue
  | .uint32, value => .varint (UInt32.toUInt64 value)
  | .uint64, value => .varint value
  | .double, value => .fixed64 value
  | .bytes, value => .lengthDelimited value
  | .string, value => .lengthDelimited (Wire.utf8 value)

def decodeValue : (type : GPBDataType) → WireValue → Option type.Value
  | .uint32, .varint value => some value.toUInt32
  | .uint64, .varint value => some value
  | .double, .fixed64 value => some value
  | .bytes, .lengthDelimited value => some value
  | .string, .lengthDelimited value => if value.length = 0 then some "" else Wire.readUtf8 value
  | _, _ => none

def put {α : Type} : (fieldType : GPBFieldType) → fieldType.Slot α → α → fieldType.Slot α
  | .single, _, value => some value
  | .repeated, slot, value => slot ++ [value]

/-- One value of a message field is read on from the value that is there, or from a new one. -/
def absorb {α : Type} (new : α) (read : α → Option α) :
    (fieldType : GPBFieldType) → fieldType.Slot α → Option (fieldType.Slot α)
  | .single, slot => (read (slot.getD new)).map some
  | .repeated, slot => (read new).map fun value => slot ++ [value]

def finish {M : Type} (read : M × GPBCodedInputStreamState) : Option M :=
  if read.2.lastTag = 0 then some read.1 else none

def mergeData (d : GPBDescriptor) (depth : Nat) (message : GPBMessage d) (data : NSData) : Option (GPBMessage d) :=
  (mergeFromCodedInputStream d message { left := data, recursionDepth := depth }).bind finish

def mergeField : (d : GPBDescriptor) → (depth : Nat) → GPBMessage d → WireField → Option (GPBMessage d)
  | .nil, _, message, field => some (addField message field)
  | .value number fieldType type _ rest, depth, message, field =>
      if field.tag = GPBWireFormatMakeTag number type.wireFormat then
        (decodeValue type field.value).map fun value => (put fieldType message.1 value, message.2)
      else (mergeField rest depth message.2 field).map fun others => (message.1, others)
  | .message number fieldType msgClass rest, depth, message, field =>
      if field.tag = GPBWireFormatMakeTag number .lengthDelimited then
        match field.value with
        | .lengthDelimited data =>
            if depth < defaultRecursionLimit then
              (absorb (init msgClass) (fun value => mergeData msgClass (depth + 1) value data) fieldType
                message.1).map fun slot => (slot, message.2)
            else none
        | _ => none
      else (mergeField rest depth message.2 field).map fun others => (message.1, others)

def mergeFieldList (d : GPBDescriptor) (depth : Nat) (message : GPBMessage d) (fields : List WireField) :
    Option (GPBMessage d) :=
  fields.foldlM (mergeField d depth) message

/-! ## One slot and the rest of the class -/

def putField (fieldType : GPBFieldType) (type : GPBDataType) (slot : fieldType.Slot type.Value)
    (field : WireField) : Option (fieldType.Slot type.Value) :=
  (decodeValue type field.value).map fun value => put fieldType slot value

def absorbField (msgClass : GPBDescriptor) (depth : Nat) (fieldType : GPBFieldType)
    (slot : fieldType.Slot (GPBMessage msgClass)) (field : WireField) :
    Option (fieldType.Slot (GPBMessage msgClass)) :=
  match field.value with
  | .lengthDelimited data =>
      if depth < defaultRecursionLimit then
        absorb (init msgClass) (fun value => mergeData msgClass (depth + 1) value data) fieldType slot
      else none
  | _ => none

def untagged (number : GPBFieldNumber) (format : GPBWireFormat) (fields : List WireField) : List WireField :=
  fields.filter fun field => ¬ field.tag = GPBWireFormatMakeTag number format

theorem mergeFieldList_value {number : GPBFieldNumber} {fieldType : GPBFieldType} {type : GPBDataType}
    {allowed : fieldType = .repeated → type.isObject} {rest : GPBDescriptor} (depth : Nat)
    (slot : fieldType.Slot type.Value) (others : GPBMessage rest) (fields : List WireField) :
    mergeFieldList (.value number fieldType type allowed rest) depth (slot, others) fields =
      ((tagged number type.wireFormat fields).foldlM (putField fieldType type) slot).bind fun slot =>
        (mergeFieldList rest depth others (untagged number type.wireFormat fields)).map fun others =>
          (slot, others) := by
  have step : mergeField (.value number fieldType type allowed rest) depth =
      routed (fun field => field.tag = GPBWireFormatMakeTag number type.wireFormat) (putField fieldType type)
        (mergeField rest depth) := by
    funext message field
    rw [mergeField, routed, putField, Option.map_map]
    rfl
  rw [mergeFieldList, step]
  exact foldlM_routed _ _ _ fields slot others

theorem mergeFieldList_message {number : GPBFieldNumber} {fieldType : GPBFieldType}
    {msgClass rest : GPBDescriptor} (depth : Nat) (slot : fieldType.Slot (GPBMessage msgClass))
    (others : GPBMessage rest) (fields : List WireField) :
    mergeFieldList (.message number fieldType msgClass rest) depth (slot, others) fields =
      ((tagged number .lengthDelimited fields).foldlM (absorbField msgClass depth fieldType) slot).bind fun slot =>
        (mergeFieldList rest depth others (untagged number .lengthDelimited fields)).map fun others =>
          (slot, others) := by
  have step : mergeField (.message number fieldType msgClass rest) depth =
      routed (fun field => field.tag = GPBWireFormatMakeTag number .lengthDelimited)
        (absorbField msgClass depth fieldType) (mergeField rest depth) := by
    funext message field
    rw [mergeField, routed, absorbField]
    cases field.value with
    | lengthDelimited data =>
        simp only
        split_ifs <;> rfl
    | _ => rfl
  rw [mergeFieldList, step]
  exact foldlM_routed _ _ _ fields slot others

/-! ## Descriptors -/

def numbers : GPBDescriptor → List GPBFieldNumber
  | .nil => []
  | .value number _ _ _ rest => number :: numbers rest
  | .message number _ _ rest => number :: numbers rest

/-- No number is given to two fields of a class. -/
def WellFormed : GPBDescriptor → Prop
  | .nil => True
  | .value number _ _ _ rest => number ∉ numbers rest ∧ WellFormed rest
  | .message number _ msgClass rest => number ∉ numbers rest ∧ WellFormed msgClass ∧ WellFormed rest

instance decidableWellFormed : (d : GPBDescriptor) → Decidable (WellFormed d)
  | .nil => inferInstanceAs (Decidable True)
  | .value number _ _ _ rest =>
      have := decidableWellFormed rest
      inferInstanceAs (Decidable (number ∉ numbers rest ∧ WellFormed rest))
  | .message number _ msgClass rest =>
      have := decidableWellFormed msgClass
      have := decidableWellFormed rest
      inferInstanceAs (Decidable (number ∉ numbers rest ∧ WellFormed msgClass ∧ WellFormed rest))

theorem numbers_of_tags {d : GPBDescriptor} {entry : UInt32 × GPBFieldType} (member : entry ∈ d.tags) :
    ∃ number ∈ numbers d, ∃ format, entry.1 = GPBWireFormatMakeTag number format := by
  induction d with
  | nil => cases member
  | value number fieldType type allowed rest ih =>
      cases List.mem_cons.mp member with
      | inl here => exact ⟨number, List.mem_cons_self, type.wireFormat, congrArg Prod.fst here⟩
      | inr there =>
          obtain ⟨other, known, format, same⟩ := ih there
          exact ⟨other, List.mem_cons_of_mem _ known, format, same⟩
  | message number fieldType msgClass rest _ ih =>
      cases List.mem_cons.mp member with
      | inl here => exact ⟨number, List.mem_cons_self, .lengthDelimited, congrArg Prod.fst here⟩
      | inr there =>
          obtain ⟨other, known, format, same⟩ := ih there
          exact ⟨other, List.mem_cons_of_mem _ known, format, same⟩

theorem tag_ne_of_fresh {d : GPBDescriptor} {number : GPBFieldNumber} (format : GPBWireFormat)
    {entry : UInt32 × GPBFieldType} (fresh : number ∉ numbers d) (member : entry ∈ d.tags) :
    entry.1 ≠ GPBWireFormatMakeTag number format := by
  intro same
  obtain ⟨other, known, _, tagged⟩ := numbers_of_tags member
  rw [tagged] at same
  exact fresh ((makeTag_inj.mp same).1 ▸ known)

/-! ## Values -/

theorem readRetainedString_eq (left : NSData) :
    readRetainedString left = (readRetainedBytes left).bind fun (bytes, left) =>
      (if bytes.length = 0 then some "" else Wire.readUtf8 bytes).map fun text => (text, left) := by
  rw [readRetainedString, readRetainedBytes, Option.bind_assoc]
  congr 1
  funext read
  obtain ⟨size, left⟩ := read
  by_cases none : size = 0
  · subst none
    simp [readRaw]
  · simp only [if_neg none, readRaw]
    split_ifs with enough
    · have length : (left.take size).length = size := List.length_take_of_le enough
      simp only [Option.bind_some, length, if_neg none]
    · rfl

theorem read_eq (type : GPBDataType) (left : NSData) :
    type.read left = (readPlain type.wireFormat left).bind fun (value, left) =>
      (decodeValue type value).map fun value => (value, left) := by
  cases type with
  | uint32 =>
      rw [GPBDataType.read, readUInt32, readRawVarint32, GPBDataType.wireFormat, readPlain]
      cases readRawVarint64 left <;> rfl
  | uint64 =>
      rw [GPBDataType.read, readUInt64, GPBDataType.wireFormat, readPlain]
      cases readRawVarint64 left <;> rfl
  | double =>
      rw [GPBDataType.read, readDouble, GPBDataType.wireFormat, readPlain]
      cases readRawLittleEndian64 left <;> rfl
  | bytes =>
      rw [GPBDataType.read, GPBDataType.wireFormat, readPlain]
      cases readRetainedBytes left <;> rfl
  | string =>
      rw [GPBDataType.read, readRetainedString_eq, GPBDataType.wireFormat, readPlain]
      cases readRetainedBytes left <;> rfl

theorem mergeValue_eq (type : GPBDataType) (fieldType : GPBFieldType) (slot : fieldType.Slot type.Value)
    (left : NSData) :
    fieldType.mergeValue type.read slot left = (readPlain type.wireFormat left).bind fun (value, left) =>
      (decodeValue type value).map fun value => (put fieldType slot value, left) := by
  cases fieldType <;>
  · simp only [GPBFieldType.mergeValue, read_eq, Option.map_bind, put]
    congr 1
    funext read
    simp only [Function.comp_apply, Option.map_map]
    rfl

/-! ## One field -/

/-- The state without the last tag, which the next tag replaces. -/
def settle {M : Type} (read : M × GPBCodedInputStreamState) : M × NSData × Nat :=
  (read.1, read.2.left, read.2.recursionDepth)

theorem mergeFromCodedInputStream_lastTag (d : GPBDescriptor) (message : GPBMessage d)
    (input : GPBCodedInputStreamState) (lastTag : UInt32) :
    mergeFromCodedInputStream d message { input with lastTag } = mergeFromCodedInputStream d message input := by
  rfl

theorem readMessage_eq (msgClass : GPBDescriptor) (message : GPBMessage msgClass)
    (input : GPBCodedInputStreamState) :
    (readMessage (mergeFromCodedInputStream msgClass) message input).map settle =
      (readRetainedBytes input.left).bind fun (data, left) =>
        if input.recursionDepth < defaultRecursionLimit then
          (mergeData msgClass (input.recursionDepth + 1) message data).map fun message =>
            (message, left, input.recursionDepth)
        else none := by
  rw [readMessage, readRetainedBytes]
  by_cases shallow : input.recursionDepth < defaultRecursionLimit
  · simp only [if_pos shallow, Option.map_bind, Option.bind_assoc]
    congr 1
    funext length
    simp only [Function.comp_apply, Option.map_bind]
    congr 1
    funext read
    obtain ⟨data, left⟩ := read
    simp only [Function.comp_apply, Option.map_bind, mergeData]
    rw [mergeFromCodedInputStream_lastTag msgClass message
      { left := data, recursionDepth := input.recursionDepth + 1 } input.lastTag]
    cases mergeFromCodedInputStream msgClass message
        { left := data, recursionDepth := input.recursionDepth + 1 } with
    | none => rfl
    | some inner =>
        by_cases ended : inner.2.lastTag = 0
        · simp [finish, ended, settle]
        · simp [finish, ended]
  · simp only [if_neg shallow, Option.map_none]
    cases (readLength input.left).bind fun read => readRaw read.2 read.1 <;> rfl

theorem mergeMessage_eq (msgClass : GPBDescriptor) (fieldType : GPBFieldType)
    (slot : fieldType.Slot (GPBMessage msgClass)) (input : GPBCodedInputStreamState) :
    (fieldType.mergeMessage (init msgClass) (readMessage (mergeFromCodedInputStream msgClass)) slot input).map
        settle =
      (readRetainedBytes input.left).bind fun (data, left) =>
        if input.recursionDepth < defaultRecursionLimit then
          (absorb (init msgClass) (fun value => mergeData msgClass (input.recursionDepth + 1) value data)
            fieldType slot).map fun slot => (slot, left, input.recursionDepth)
        else none := by
  have through (value : GPBMessage msgClass) (store : GPBMessage msgClass → fieldType.Slot (GPBMessage msgClass)) :
      ((readMessage (mergeFromCodedInputStream msgClass) value input).map fun read =>
          (store read.1, read.2)).map settle =
        (readRetainedBytes input.left).bind fun bytes =>
          if input.recursionDepth < defaultRecursionLimit then
            ((mergeData msgClass (input.recursionDepth + 1) value bytes.1).map store).map fun slot =>
              (slot, bytes.2, input.recursionDepth)
          else none := by
    have read := congrArg (Option.map fun read => (store read.1, read.2))
      (readMessage_eq msgClass value input)
    rw [Option.map_map, Option.map_bind] at read
    rw [Option.map_map]
    refine Eq.trans read ?_
    congr 1
    funext read
    simp only [Function.comp_apply]
    split_ifs
    · rw [Option.map_map, Option.map_map]
      rfl
    · rfl
  cases fieldType with
  | single => exact through (Option.getD slot (init msgClass)) some
  | repeated => exact through (init msgClass) fun value => List.append slot [value]

theorem mergeField_here_value {number : GPBFieldNumber} {fieldType : GPBFieldType} {type : GPBDataType}
    {allowed : fieldType = .repeated → type.isObject} {rest : GPBDescriptor} (depth : Nat)
    (message : GPBMessage (.value number fieldType type allowed rest)) {value : WireValue}
    (format : value.format = type.wireFormat) :
    mergeField _ depth message ⟨number, value⟩ =
      (decodeValue type value).map fun value => (put fieldType message.1 value, message.2) := by
  have same : WireField.tag ⟨number, value⟩ = GPBWireFormatMakeTag number type.wireFormat := by
    rw [WireField.tag, format]
  rw [mergeField, if_pos same]

theorem mergeField_here_message {number : GPBFieldNumber} {fieldType : GPBFieldType}
    {msgClass rest : GPBDescriptor} (depth : Nat)
    (message : GPBMessage (.message number fieldType msgClass rest)) (data : NSData) :
    mergeField _ depth message ⟨number, .lengthDelimited data⟩ =
      if depth < defaultRecursionLimit then
        (absorb (init msgClass) (fun value => mergeData msgClass (depth + 1) value data) fieldType
          message.1).map fun slot => (slot, message.2)
      else none := by
  have same : WireField.tag ⟨number, .lengthDelimited data⟩ = GPBWireFormatMakeTag number .lengthDelimited := rfl
  rw [mergeField, if_pos same]

theorem wireFormat_ne_startGroup (type : GPBDataType) : type.wireFormat ≠ .startGroup := by
  cases type <;> decide

theorem mergeFieldAt_eq {d : GPBDescriptor} (well : WellFormed d) {i : Nat} {entry : UInt32 × GPBFieldType}
    (there : d.tags[i]? = some entry) (message : GPBMessage d) (input : GPBCodedInputStreamState) :
    (mergeFieldAt d i message input).map settle =
      (readField input.recursionDepth entry.1 input.left).bind fun (field, left) =>
        (mergeField d input.recursionDepth message field).map fun message =>
          (message, left, input.recursionDepth) := by
  induction d generalizing i with
  | nil => cases there
  | value number fieldType type allowed rest ih =>
      cases i with
      | zero =>
          obtain rfl := Option.some.inj there
          rw [mergeFieldAt, mergeValue_eq, readField_makeTag,
            readValue_plain _ _ (wireFormat_ne_startGroup type), Option.map_map, Option.map_bind, Option.bind_map]
          apply Option.bind_congr
          intro read found
          obtain ⟨value, left⟩ := read
          rw [← readValue_plain input.recursionDepth number (wireFormat_ne_startGroup type)] at found
          have format := format_of_readValue found
          simp only [Function.comp_apply, mergeField_here_value _ _ format]
          cases decodeValue type value <;> rfl
      | succ i =>
          have other : rest.tags[i]? = some entry := there
          have apart := tag_ne_of_fresh type.wireFormat well.1 (List.mem_of_getElem? other)
          have inner := congrArg (Option.map fun read => ((message.1, read.1), read.2))
            (ih well.2 other message.2)
          rw [mergeFieldAt, Option.map_map]
          rw [Option.map_map, Option.map_bind] at inner
          refine Eq.trans inner (Option.bind_congr fun read found => ?_)
          obtain ⟨field, left⟩ := read
          have tag := tag_of_readField found
          simp only [Function.comp_apply, mergeField, if_neg (tag ▸ apart)]
          cases mergeField rest input.recursionDepth message.2 field <;> rfl
  | message number fieldType msgClass rest _ ih =>
      cases i with
      | zero =>
          obtain rfl := Option.some.inj there
          have inner := congrArg (Option.map fun read => ((read.1, message.2), read.2))
            (mergeMessage_eq msgClass fieldType message.1 input)
          rw [Option.map_map, Option.map_bind] at inner
          rw [mergeFieldAt, Option.map_map, readField_makeTag,
            readValue_plain _ _ GPBWireFormat.noConfusion, readPlain, Option.map_map, Option.bind_map]
          refine Eq.trans inner (Option.bind_congr fun read _ => ?_)
          obtain ⟨data, left⟩ := read
          simp only [Function.comp_apply, mergeField_here_message]
          split_ifs
          · cases absorb (init msgClass)
              (fun value => mergeData msgClass (input.recursionDepth + 1) value data) fieldType message.1 <;> rfl
          · rfl
      | succ i =>
          have other : rest.tags[i]? = some entry := there
          have apart := tag_ne_of_fresh .lengthDelimited well.1 (List.mem_of_getElem? other)
          have inner := congrArg (Option.map fun read => ((message.1, read.1), read.2))
            (ih well.2.2 other message.2)
          rw [mergeFieldAt, Option.map_map]
          rw [Option.map_map, Option.map_bind] at inner
          refine Eq.trans inner (Option.bind_congr fun read found => ?_)
          obtain ⟨field, left⟩ := read
          have tag := tag_of_readField found
          simp only [Function.comp_apply, mergeField, if_neg (tag ▸ apart)]
          cases mergeField rest input.recursionDepth message.2 field <;> rfl

end RealSocial.Proof
