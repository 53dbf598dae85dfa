import RealSocial.Proof.MessageReader
import RealSocial.Proof.MessageSize

namespace RealSocial.Proof

open Library GPBCodedOutputStream GPBCodedInputStream GPBMessage

/-! # Reading what was written is merging -/

def fieldList : (d : GPBDescriptor) → GPBMessage d → List WireField
  | .nil, message => unknownList message
  | .value number fieldType type _ rest, message =>
      (fieldType.values message.1).map (fun value => ⟨number, encodeValue type value⟩) ++
        fieldList rest message.2
  | .message number fieldType msgClass rest, message =>
      (fieldType.values message.1).map
          (fun value => ⟨number, .lengthDelimited (writeToCodedOutputStream msgClass value)⟩) ++
        fieldList rest message.2

/-- Nothing that the class knows is among the unknown fields. A message that is made or read is such; one to
which `setUnknownFields:` gave a set of its own need not be. -/
def UnknownApart : (d : GPBDescriptor) → GPBMessage d → Prop
  | .nil, _ => True
  | .value number _ type _ rest, message =>
      (∀ field ∈ unknownList (unknownFields rest message.2),
        field.tag ≠ GPBWireFormatMakeTag number type.wireFormat) ∧ UnknownApart rest message.2
  | .message number fieldType msgClass rest, message =>
      (∀ field ∈ unknownList (unknownFields rest message.2),
        field.tag ≠ GPBWireFormatMakeTag number .lengthDelimited) ∧
      (∀ value ∈ fieldType.values message.1, UnknownApart msgClass value) ∧ UnknownApart rest message.2

instance decidableUnknownApart : (d : GPBDescriptor) → (message : GPBMessage d) → Decidable (UnknownApart d message)
  | .nil, _ => inferInstanceAs (Decidable True)
  | .value number _ type _ rest, message =>
      have := decidableUnknownApart rest message.2
      inferInstanceAs (Decidable ((∀ field ∈ unknownList (unknownFields rest message.2),
        field.tag ≠ GPBWireFormatMakeTag number type.wireFormat) ∧ UnknownApart rest message.2))
  | .message number fieldType msgClass rest, message =>
      have := decidableUnknownApart msgClass
      have := decidableUnknownApart rest message.2
      inferInstanceAs (Decidable ((∀ field ∈ unknownList (unknownFields rest message.2),
        field.tag ≠ GPBWireFormatMakeTag number .lengthDelimited) ∧
        (∀ value ∈ fieldType.values message.1, UnknownApart msgClass value) ∧ UnknownApart rest message.2))

/-- How deep messages are in messages, and the groups that they do not know in them. -/
def nesting : (d : GPBDescriptor) → GPBMessage d → Nat
  | .nil, message => groupNesting message
  | .value _ _ _ _ rest, message => nesting rest message.2
  | .message _ fieldType msgClass rest, message =>
      max (((fieldType.values message.1).map fun value => nesting msgClass value + 1).foldr max 0)
        (nesting rest message.2)

/-! ## Writing as a list of fields -/

theorem write_encodeValue (number : GPBFieldNumber) (type : GPBDataType) (value : type.Value) :
    WireField.write ⟨number, encodeValue type value⟩ =
      writeTagWithFormat number type.wireFormat ++ type.writeNoTag value := by
  cases type with
  | uint32 => exact congrArg (writeTagWithFormat number .varint ++ ·) (writeRawVarint32_wide value).symm
  | uint64 => rfl
  | double => rfl
  | bytes => rfl
  | string => rfl

theorem write_message (number : GPBFieldNumber) (d : GPBDescriptor) (message : GPBMessage d) :
    WireField.write ⟨number, .lengthDelimited (writeToCodedOutputStream d message)⟩ =
      writeTagWithFormat number .lengthDelimited ++
        (writeRawVarintSizeTAs32 (serializedSize d message) ++ writeToCodedOutputStream d message) := by
  rw [← length_write]
  rfl

theorem write_fieldList (d : GPBDescriptor) (message : GPBMessage d) :
    writeToCodedOutputStream d message = (fieldList d message).flatMap WireField.write := by
  induction d with
  | nil => exact write_unknownList message
  | value number fieldType type allowed rest ih =>
      simp only [writeToCodedOutputStream, fieldList, List.flatMap_append, List.flatMap_map, write_encodeValue, ih]
  | message number fieldType msgClass rest _ ih =>
      simp only [writeToCodedOutputStream, fieldList, List.flatMap_append, List.flatMap_map, write_message, ih]

theorem fits_of_size {d : GPBDescriptor} {message : GPBMessage d} (short : serializedSize d message < 2 ^ 31) :
    ∀ field ∈ fieldList d message, field.Fits := by
  rw [← length_write, write_fieldList] at short
  exact fun field member => fits_of_write short member

theorem nesting_encodeValue (type : GPBDataType) (value : type.Value) : (encodeValue type value).nesting = 0 := by
  cases type <;> rfl

theorem shallow_fieldList (d : GPBDescriptor) (message : GPBMessage d) {depth : Nat}
    (room : depth ≤ defaultRecursionLimit) :
    (∀ field ∈ fieldList d message, field.Shallow depth) ↔
      groupNesting (unknownFields d message) + depth ≤ defaultRecursionLimit := by
  have flat : 0 + depth ≤ defaultRecursionLimit := (Nat.zero_add depth).symm ▸ room
  induction d with
  | nil =>
      rw [← Nat.le_sub_iff_add_le room]
      refine Iff.trans ?_ groupNesting_le.symm
      exact forall₂_congr fun field _ => (Nat.le_sub_iff_add_le room).symm
  | value number fieldType type allowed rest ih =>
      have known (value : type.Value) : WireField.Shallow ⟨number, encodeValue type value⟩ depth := by
        rwa [WireField.Shallow, nesting_encodeValue]
      rw [fieldList, List.forall_mem_append, List.forall_mem_map]
      exact (and_iff_right fun value _ => known value).trans (ih message.2)
  | message number fieldType msgClass rest _ ih =>
      rw [fieldList, List.forall_mem_append, List.forall_mem_map]
      exact (and_iff_right fun value _ => flat).trans (ih message.2)

theorem wireFields_message {d : GPBDescriptor} {message : GPBMessage d}
    (short : serializedSize d message < 2 ^ 31) {depth : Nat} (room : depth ≤ defaultRecursionLimit) :
    wireFields depth (writeToCodedOutputStream d message) =
      if groupNesting (unknownFields d message) + depth ≤ defaultRecursionLimit then some (fieldList d message)
      else none := by
  rw [write_fieldList, wireFields_write room (fits_of_size short)]
  simp only [shallow_fieldList d message room]

theorem groupNesting_le_nesting (d : GPBDescriptor) (message : GPBMessage d) :
    groupNesting (unknownFields d message) ≤ nesting d message := by
  induction d with
  | nil => exact le_rfl
  | value number fieldType type allowed rest ih => exact ih message.2
  | message number fieldType msgClass rest _ ih => exact le_trans (ih message.2) (le_max_right _ _)

/-! ## Which fields go on to the rest of a class -/

theorem mem_fieldList {d : GPBDescriptor} {message : GPBMessage d} {field : WireField}
    (member : field ∈ fieldList d message) :
    field.number ∈ numbers d ∨ field ∈ unknownList (unknownFields d message) := by
  induction d with
  | nil => exact Or.inr member
  | value number fieldType type allowed rest ih =>
      cases List.mem_append.mp member with
      | inl here =>
          obtain ⟨value, -, rfl⟩ := List.mem_map.mp here
          exact Or.inl List.mem_cons_self
      | inr there =>
          cases ih there with
          | inl known => exact Or.inl (List.mem_cons_of_mem _ known)
          | inr unknown => exact Or.inr unknown
  | message number fieldType msgClass rest _ ih =>
      cases List.mem_append.mp member with
      | inl here =>
          obtain ⟨value, -, rfl⟩ := List.mem_map.mp here
          exact Or.inl List.mem_cons_self
      | inr there =>
          cases ih there with
          | inl known => exact Or.inl (List.mem_cons_of_mem _ known)
          | inr unknown => exact Or.inr unknown

theorem tag_ne_of_rest {rest : GPBDescriptor} {message : GPBMessage rest} {number : GPBFieldNumber}
    {format : GPBWireFormat} (fresh : number ∉ numbers rest)
    (unknown : ∀ field ∈ unknownList (unknownFields rest message), field.tag ≠ GPBWireFormatMakeTag number format) :
    ∀ field ∈ fieldList rest message, field.tag ≠ GPBWireFormatMakeTag number format := by
  intro field member same
  cases mem_fieldList member with
  | inl known => exact fresh ((tag_eq_iff.mp same).1 ▸ known)
  | inr among => exact unknown field among same

theorem tagged_apart {number : GPBFieldNumber} {format : GPBWireFormat} {fields : List WireField}
    (apart : ∀ field ∈ fields, field.tag ≠ GPBWireFormatMakeTag number format) :
    tagged number format fields = [] := by
  rw [tagged, List.filter_eq_nil_iff]
  exact fun field member holds => apart field member (of_decide_eq_true holds)

theorem untagged_apart {number : GPBFieldNumber} {format : GPBWireFormat} {fields : List WireField}
    (apart : ∀ field ∈ fields, field.tag ≠ GPBWireFormatMakeTag number format) :
    untagged number format fields = fields := by
  rw [untagged, List.filter_eq_self]
  exact fun field member => decide_eq_true (apart field member)

theorem tagged_map {α : Type} {number : GPBFieldNumber} {format : GPBWireFormat} (encode : α → WireField)
    (same : ∀ value, (encode value).tag = GPBWireFormatMakeTag number format) (values : List α)
    {fields : List WireField} (apart : ∀ field ∈ fields, field.tag ≠ GPBWireFormatMakeTag number format) :
    tagged number format (values.map encode ++ fields) = values.map encode := by
  rw [tagged_append, tagged_apart apart, List.append_nil, tagged, List.filter_eq_self, List.forall_mem_map]
  exact fun value _ => decide_eq_true (same value)

theorem untagged_map {α : Type} {number : GPBFieldNumber} {format : GPBWireFormat} (encode : α → WireField)
    (same : ∀ value, (encode value).tag = GPBWireFormatMakeTag number format) (values : List α)
    {fields : List WireField} (apart : ∀ field ∈ fields, field.tag ≠ GPBWireFormatMakeTag number format) :
    untagged number format (values.map encode ++ fields) = fields := by
  have none : untagged number format (values.map encode) = [] := by
    rw [untagged, List.filter_eq_nil_iff, List.forall_mem_map]
    exact fun value _ holds => of_decide_eq_true holds (same value)
  have whole : untagged number format (values.map encode ++ fields) =
      untagged number format (values.map encode) ++ untagged number format fields := List.filter_append ..
  rw [whole, none, untagged_apart apart, List.nil_append]

/-! ## Values -/

theorem utf8_empty {text : String} (empty : (Wire.utf8 text).length = 0) : text = "" := by
  have read := Wire.readUtf8_utf8 text
  rw [List.length_eq_zero_iff.mp empty] at read
  exact (Option.some.inj read).symm

theorem decode_encode (type : GPBDataType) (value : type.Value) :
    decodeValue type (encodeValue type value) = some value := by
  cases type with
  | uint32 => exact congrArg some (UInt32.toUInt32_toUInt64 value)
  | uint64 => rfl
  | double => rfl
  | bytes => rfl
  | string =>
      rw [encodeValue, decodeValue]
      by_cases empty : (Wire.utf8 value).length = 0
      · rw [if_pos empty]
        exact congrArg some (utf8_empty empty).symm
      · rw [if_neg empty]
        exact Wire.readUtf8_utf8 value

theorem format_encodeValue (type : GPBDataType) (value : type.Value) :
    (encodeValue type value).format = type.wireFormat := by
  cases type <;> rfl

theorem tag_encodeValue (number : GPBFieldNumber) (type : GPBDataType) (value : type.Value) :
    WireField.tag ⟨number, encodeValue type value⟩ = GPBWireFormatMakeTag number type.wireFormat := by
  rw [WireField.tag, format_encodeValue]

theorem putField_values (number : GPBFieldNumber) (fieldType : GPBFieldType) (type : GPBDataType)
    (slot other : fieldType.Slot type.Value) :
    ((fieldType.values other).map fun value => (⟨number, encodeValue type value⟩ : WireField)).foldlM
        (putField fieldType type) slot =
      some (fieldType.mergeFrom (fun _ value => value) slot other) := by
  have merged (slot : fieldType.Slot type.Value) (value : type.Value) :
      putField fieldType type slot ⟨number, encodeValue type value⟩ = some (put fieldType slot value) := by
    rw [putField, decode_encode]
    rfl
  cases fieldType with
  | single =>
      cases other with
      | none => cases slot <;> rfl
      | some value =>
          have one := merged slot value
          cases slot <;>
          · simp only [GPBFieldType.values, Option.toList_some, List.map_cons, List.map_nil, List.foldlM_cons, one]
            rfl
  | repeated =>
      have appended (values slot : List type.Value) :
          (values.map fun value => (⟨number, encodeValue type value⟩ : WireField)).foldlM
            (putField .repeated type) slot = some (slot ++ values) := by
        induction values generalizing slot with
        | nil => exact congrArg some (List.append_nil slot).symm
        | cons value values ih =>
            rw [List.map_cons, List.foldlM_cons, merged]
            refine Eq.trans (ih (slot ++ [value])) ?_
            rw [List.append_assoc, List.singleton_append]
      exact appended other slot

theorem mergeFrom_init (d : GPBDescriptor) (message : GPBMessage d) : mergeFrom d (init d) message = message := by
  induction d with
  | nil => rfl
  | value number fieldType type allowed rest ih =>
      have slot : fieldType.mergeFrom (fun _ value => value) fieldType.empty message.1 = message.1 := by
        cases fieldType with
        | single =>
            obtain ⟨slot, others⟩ := message
            cases slot <;> rfl
        | repeated => rfl
      rw [mergeFrom, init, slot, ih]
  | message number fieldType msgClass rest _ ih =>
      have slot : fieldType.mergeFrom (mergeFrom msgClass) fieldType.empty message.1 = message.1 := by
        cases fieldType with
        | single =>
            obtain ⟨slot, others⟩ := message
            cases slot <;> rfl
        | repeated => rfl
      rw [mergeFrom, init, slot, ih]

/-! ## Messages -/

theorem tag_message (number : GPBFieldNumber) (d : GPBDescriptor) (message : GPBMessage d) :
    WireField.tag ⟨number, .lengthDelimited (writeToCodedOutputStream d message)⟩ =
      GPBWireFormatMakeTag number .lengthDelimited := by
  rfl

/-- A message that was read on from the one that is there, or from a new one. -/
def store (msgClass : GPBDescriptor) : (fieldType : GPBFieldType) → fieldType.Slot (GPBMessage msgClass) →
    GPBMessage msgClass → fieldType.Slot (GPBMessage msgClass)
  | .single, slot, value => some (mergeFrom msgClass (slot.getD (init msgClass)) value)
  | .repeated, slot, value => slot ++ [value]

theorem foldl_store (msgClass : GPBDescriptor) (fieldType : GPBFieldType)
    (slot other : fieldType.Slot (GPBMessage msgClass)) :
    (fieldType.values other).foldl (store msgClass fieldType) slot =
      fieldType.mergeFrom (mergeFrom msgClass) slot other := by
  cases fieldType with
  | single =>
      cases other with
      | none => cases slot <;> rfl
      | some value =>
          cases slot with
          | none => exact congrArg some (mergeFrom_init msgClass value)
          | some old => rfl
  | repeated =>
      have appended (values slot : List (GPBMessage msgClass)) :
          values.foldl (store msgClass .repeated) slot = slot ++ values := by
        induction values generalizing slot with
        | nil => exact (List.append_nil slot).symm
        | cons value values ih =>
            rw [List.foldl_cons, ih, store, List.append_assoc, List.singleton_append]
      exact appended other slot

/-- The reader answers for a message that is not too deep, and merges it. -/
def ReadsBack (msgClass : GPBDescriptor) (depth : Nat) (value : GPBMessage msgClass) : Prop :=
  ∀ message, mergeData msgClass depth message (writeToCodedOutputStream msgClass value) =
    if nesting msgClass value + depth ≤ defaultRecursionLimit then some (mergeFrom msgClass message value)
    else none

theorem absorbField_messages (number : GPBFieldNumber) {fieldType : GPBFieldType} {msgClass : GPBDescriptor}
    (depth : Nat) (slot : fieldType.Slot (GPBMessage msgClass)) {values : List (GPBMessage msgClass)}
    (back : ∀ value ∈ values, depth < defaultRecursionLimit → ReadsBack msgClass (depth + 1) value) :
    (values.map fun value =>
        (⟨number, .lengthDelimited (writeToCodedOutputStream msgClass value)⟩ : WireField)).foldlM
        (absorbField msgClass depth fieldType) slot =
      if ∀ value ∈ values, nesting msgClass value + (depth + 1) ≤ defaultRecursionLimit then
        some (values.foldl (store msgClass fieldType) slot)
      else none := by
  induction values generalizing slot with
  | nil => simp
  | cons value values ih =>
      have later := fun slot => ih slot fun other member => back other (List.mem_cons_of_mem _ member)
      simp only [List.map_cons, List.foldlM_cons, List.forall_mem_cons, List.foldl_cons, absorbField]
      by_cases shallow : nesting msgClass value + (depth + 1) ≤ defaultRecursionLimit
      · have room : depth < defaultRecursionLimit := by omega
        have read := back value List.mem_cons_self room
        have absorbed : absorb (init msgClass) (fun message => mergeData msgClass (depth + 1) message
            (writeToCodedOutputStream msgClass value)) fieldType slot =
              some (store msgClass fieldType slot value) := by
          cases fieldType with
          | single =>
              rw [absorb, read, if_pos shallow]
              rfl
          | repeated =>
              rw [absorb, read, if_pos shallow, mergeFrom_init]
              rfl
        rw [if_pos room, absorbed]
        simp only [shallow, true_and]
        exact later _
      · have deep : ¬ (nesting msgClass value + (depth + 1) ≤ defaultRecursionLimit ∧
            ∀ value ∈ values, nesting msgClass value + (depth + 1) ≤ defaultRecursionLimit) :=
          fun both => shallow both.1
        rw [if_neg deep]
        split_ifs with room
        · have read := back value List.mem_cons_self room
          have refused : absorb (init msgClass) (fun message => mergeData msgClass (depth + 1) message
              (writeToCodedOutputStream msgClass value)) fieldType slot = none := by
            cases fieldType with
            | single =>
                rw [absorb, read, if_neg shallow]
                rfl
            | repeated =>
                rw [absorb, read, if_neg shallow]
                rfl
          rw [refused]
          rfl
        · rfl

theorem mergeFieldList_append (d : GPBDescriptor) (depth : Nat) (message : GPBMessage d)
    (fields others : List WireField) :
    mergeFieldList d depth message (fields ++ others) =
      (mergeFieldList d depth message fields).bind fun message => mergeFieldList d depth message others :=
  List.foldlM_append

theorem mergeFieldList_nil (depth : Nat) (set : GPBMessage .nil) (fields : List WireField) :
    mergeFieldList .nil depth set fields = some (fields.foldl addField set) := by
  induction fields generalizing set with
  | nil => rfl
  | cons field fields ih => exact ih (addField set field)

/-- What is written is read when the fields of it are merged so. -/
theorem merge_wireFields {d : GPBDescriptor} {depth : Nat} (room : depth ≤ defaultRecursionLimit)
    (message : GPBMessage d) {other : GPBMessage d} (short : serializedSize d other < 2 ^ 31)
    (merged : groupNesting (unknownFields d other) + depth ≤ defaultRecursionLimit →
      mergeFieldList d depth message (fieldList d other) =
        if nesting d other + depth ≤ defaultRecursionLimit then some (mergeFrom d message other) else none) :
    (wireFields depth (writeToCodedOutputStream d other)).bind (mergeFieldList d depth message) =
      if nesting d other + depth ≤ defaultRecursionLimit then some (mergeFrom d message other) else none := by
  have groups := groupNesting_le_nesting d other
  rw [wireFields_message short room]
  by_cases low : groupNesting (unknownFields d other) + depth ≤ defaultRecursionLimit
  · rw [if_pos low, Option.bind_some, merged low]
  · rw [if_neg low, if_neg (by omega)]
    rfl

theorem mergeFieldList_fieldList {d : GPBDescriptor} (well : WellFormed d) {depth : Nat}
    (message : GPBMessage d) {other : GPBMessage d}
    (low : groupNesting (unknownFields d other) + depth ≤ defaultRecursionLimit)
    (apartness : UnknownApart d other) (fits : ∀ field ∈ fieldList d other, field.Fits) :
    mergeFieldList d depth message (fieldList d other) =
      if nesting d other + depth ≤ defaultRecursionLimit then some (mergeFrom d message other) else none := by
  induction d generalizing depth with
  | nil =>
      have shallow : groupNesting other + depth ≤ defaultRecursionLimit := low
      rw [nesting, if_pos shallow, mergeFrom, unknownList_mergeFrom]
      exact mergeFieldList_nil depth _ _
  | value number fieldType type allowed rest ih =>
      obtain ⟨unknown, apartness⟩ := apartness
      have apart := tag_ne_of_rest well.1 unknown
      have inner := ih well.2 message.2 low apartness
        fun field member => fits field (List.mem_append_right _ member)
      rw [fieldList, mergeFieldList_value, tagged_map _ (tag_encodeValue number type) _ apart,
        untagged_map _ (tag_encodeValue number type) _ apart, putField_values, Option.bind_some, inner, nesting,
        mergeFrom]
      split_ifs <;> rfl
  | message number fieldType msgClass rest classIh ih =>
      obtain ⟨unknown, inside, apartness⟩ := apartness
      have room : depth ≤ defaultRecursionLimit := le_trans (Nat.le_add_left _ _) low
      have apart := tag_ne_of_rest well.1 unknown
      have inner := ih well.2.2 message.2 low apartness
        fun field member => fits field (List.mem_append_right _ member)
      have back : ∀ value ∈ fieldType.values other.1, depth < defaultRecursionLimit →
          ReadsBack msgClass (depth + 1) value := by
        intro value member deeper message
        have short : (writeToCodedOutputStream msgClass value).length < 2 ^ 31 :=
          fits _ (List.mem_append_left _ (List.mem_map_of_mem member))
        rw [length_write] at short
        rw [mergeData_eq well.2.1]
        exact merge_wireFields deeper message short fun low =>
          classIh well.2.1 message low (inside value member) (fits_of_size short)
      have depths : (∀ value ∈ fieldType.values other.1,
          nesting msgClass value + (depth + 1) ≤ defaultRecursionLimit) ↔
            ((fieldType.values other.1).map fun value => nesting msgClass value + 1).foldr max 0 + depth ≤
              defaultRecursionLimit := by
        rw [← Nat.le_sub_iff_add_le room, foldr_max_le, List.forall_mem_map]
        apply forall₂_congr
        intro value _
        rw [Nat.le_sub_iff_add_le room, Nat.add_assoc, Nat.add_comm 1]
      have whole : nesting (.message number fieldType msgClass rest) other + depth ≤ defaultRecursionLimit ↔
          (∀ value ∈ fieldType.values other.1,
            nesting msgClass value + (depth + 1) ≤ defaultRecursionLimit) ∧
          nesting rest other.2 + depth ≤ defaultRecursionLimit := by
        rw [depths, nesting]
        omega
      have slots := absorbField_messages number depth message.1 back
      rw [fieldList, mergeFieldList_message, tagged_map _ (tag_message number msgClass) _ apart,
        untagged_map _ (tag_message number msgClass) _ apart, slots, mergeFrom, foldl_store]
      simp only [whole]
      by_cases shallow : ∀ value ∈ fieldType.values other.1,
          nesting msgClass value + (depth + 1) ≤ defaultRecursionLimit
      · rw [if_pos shallow, Option.bind_some, inner]
        by_cases rest : nesting rest other.2 + depth ≤ defaultRecursionLimit
        · rw [if_pos rest, if_pos ⟨shallow, rest⟩]
          rfl
        · rw [if_neg rest, if_neg fun both => rest both.2]
          rfl
      · rw [if_neg shallow, if_neg fun both => shallow both.1]
        rfl

end RealSocial.Proof
