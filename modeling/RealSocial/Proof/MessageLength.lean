import RealSocial.Proof.MessageRelay

namespace RealSocial.Proof

open Library GPBCodedOutputStream GPBCodedInputStream GPBMessage

/-! # What is written of what was read is not longer

The bytes that are read may have numbers in more bytes than they need, numbers above 32 bits, single values
given more than once and messages that come in parts. Each of them is shorter when it is written again. -/

/-- The bytes that fields take when they are written. -/
def volume (fields : List WireField) : Nat := (fields.map fun field => field.write.length).sum

/-! ## Unknown fields -/

theorem perm_of_tagged {fields others : List WireField}
    (same : ∀ number format, tagged number format fields = tagged number format others) : fields.Perm others := by
  have count (field : WireField) (fields : List WireField) :
      (tagged field.number field.value.format fields).count field = fields.count field := by
    rw [tagged, List.count_filter]
    exact decide_eq_true rfl
  apply List.perm_iff_count.mpr
  intro field
  rw [← count field fields, same, count]

theorem serializedSize_unknown (set : GPBUnknownFieldSet) :
    GPBUnknownFieldSet.serializedSize set = volume (unknownList set) := by
  rw [← length_write_unknown, write_unknownList, List.length_flatMap]
  rfl

theorem volume_append (fields others : List WireField) : volume (fields ++ others) = volume fields + volume others := by
  rw [volume, List.map_append, List.sum_append]
  rfl

theorem serializedSize_foldl_addField (set : GPBUnknownFieldSet) (fields : List WireField) :
    GPBUnknownFieldSet.serializedSize (fields.foldl addField set) =
      GPBUnknownFieldSet.serializedSize set + volume fields := by
  have added : (unknownList (fields.foldl addField set)).Perm (unknownList set ++ fields) := by
    apply perm_of_tagged
    intro number format
    rw [tagged_foldl_addField, tagged_append]
  rw [serializedSize_unknown, serializedSize_unknown, ← volume_append]
  exact (added.map fun field => field.write.length).sum_eq

/-! ## Fields that are read -/

theorem volume_cons (field : WireField) (fields : List WireField) :
    volume (field :: fields) = field.write.length + volume fields := by
  rw [volume, List.map_cons, List.sum_cons]
  rfl

theorem length_write_foldl (fields : List WireField) :
    (fields.foldl addField ∅).writeToCodedOutputStream.length = volume fields := by
  rw [length_write_unknown, serializedSize_foldl_addField, serializedSize_unknown, unknownList_empty]
  exact Nat.zero_add _

theorem FieldsRead.volume_le {left rest : NSData} {fields : List WireField} {last : UInt32}
    (read : FieldsRead left fields last rest) :
    volume fields + (if last = 0 then 0 else (writeRawVarint32 last).length) + rest.length ≤ left.length := by
  induction read with
  | atEnd => exact le_rfl
  | @ended left rest number tag =>
      have first := readRawVarint32_length tag
      rw [if_neg (makeTag_ne_zero number .endGroup), volume, List.map_nil, List.sum_nil]
      omega
  | @plain left middle rest out number format value fields last tag found later ih =>
      have first := readRawVarint32_length tag
      have here := readPlain_length number found
      have written : (WireField.write ⟨number, value⟩).length =
          (writeRawVarint32 (GPBWireFormatMakeTag number format)).length + (value.writeNoTag number).length := by
        rw [WireField.write, List.length_append, format_of_readPlain found]
        rfl
      rw [volume_cons, written]
      omega
  | @group left middle rest out number inside fields last tag found later innerIh ih =>
      have first := readRawVarint32_length tag
      rw [if_neg (makeTag_ne_zero number .endGroup), ← length_write_foldl] at innerIh
      have written : (WireField.write ⟨number, .group (inside.foldl addField ∅)⟩).length =
          (writeRawVarint32 (GPBWireFormatMakeTag number .startGroup)).length +
            ((inside.foldl addField ∅).writeToCodedOutputStream.length +
              (writeRawVarint32 (GPBWireFormatMakeTag number .endGroup)).length) := by
        rw [WireField.write, List.length_append]
        exact congrArg _ List.length_append
      rw [volume_cons, written]
      omega

theorem readValue_length {depth : Nat} {number : GPBFieldNumber} {format : GPBWireFormat} {value : WireValue}
    {left rest : NSData} (read : readValue depth number format left = some (value, rest)) :
    (value.writeNoTag number).length + rest.length ≤ left.length := by
  by_cases group : format = .startGroup
  · subst group
    obtain ⟨⟨set, rest⟩, inside, same⟩ := Option.map_eq_some_iff.mp read
    obtain ⟨rfl, rfl⟩ := Prod.mk.inj same
    obtain ⟨fields, stands, rfl, -⟩ := readGroup_eq_some.mp inside
    have bound := stands.volume_le
    rw [if_neg (makeTag_ne_zero number .endGroup), ← length_write_foldl] at bound
    rw [WireValue.writeNoTag, writeUnknownGroupNoTag, List.length_append, writeTagWithFormat]
    omega
  · rw [readValue_plain depth number group] at read
    exact readPlain_length number read

theorem readField_length {depth : Nat} {tag : UInt32} {field : WireField} {left rest : NSData}
    (read : readField depth tag left = some (field, rest)) :
    field.write.length + rest.length ≤ (writeRawVarint32 tag).length + left.length := by
  obtain ⟨tagged, found⟩ := value_of_readField read
  have bound := readValue_length found
  have first : (writeTagWithFormat field.number field.value.format).length = (writeRawVarint32 tag).length :=
    congrArg (fun tag => (writeRawVarint32 tag).length) tagged
  simp only [WireField.write, List.length_append, first]
  omega

theorem volume_wireFields {depth : Nat} {data : NSData} {fields : List WireField}
    (read : wireFields depth data = some fields) : volume fields ≤ data.length := by
  refine wireFields_rule (fun data fields => volume fields ≤ data.length) (Nat.zero_le _) ?_ read
  intro left middle rest tag field fields tagged found others
  have first := readRawVarint32_length tagged
  have here := readField_length found
  rw [volume_cons]
  omega

theorem volume_split (number : GPBFieldNumber) (format : GPBWireFormat) (fields : List WireField) :
    volume (tagged number format fields) + volume (untagged number format fields) = volume fields := by
  have parts := List.filter_append_perm (fun field => decide (field.tag = GPBWireFormatMakeTag number format)) fields
  have rest : untagged number format fields =
      fields.filter fun field => !decide (field.tag = GPBWireFormatMakeTag number format) := by
    simp only [untagged, decide_not]
  rw [← volume_append, rest]
  exact (parts.map fun field => field.write.length).sum_eq

/-! ## Slots -/

theorem length_write_tagged {number : GPBFieldNumber} {format : GPBWireFormat} {field : WireField}
    (tag : field.tag = GPBWireFormatMakeTag number format) :
    field.write.length = GPBComputeTagSize number + (field.value.writeNoTag field.number).length := by
  rw [WireField.write, List.length_append, length_writeTag, (tag_eq_iff.mp tag).1]

theorem utf8_of_readUtf8 {bytes : NSData} {text : String} (read : Wire.readUtf8 bytes = some text) :
    Wire.utf8 text = bytes := by
  rw [Wire.readUtf8, String.fromUTF8?] at read
  split_ifs at read
  rw [← Option.some.inj read]
  rfl

theorem sizeNoTag_decode {type : GPBDataType} {value : type.Value} {wire : WireValue}
    (number : GPBFieldNumber) (decoded : decodeValue type wire = some value) :
    type.sizeNoTag value ≤ (wire.writeNoTag number).length := by
  cases type with
  | uint32 =>
      cases wire with
      | varint word =>
          obtain rfl := Option.some.inj decoded
          have size := length_writeRawVarint32 word.toUInt32
          have wide : (writeRawVarint64 word).length = (Wire.varint word.toNat).length :=
            congrArg List.length (writeRawVarint64_eq word)
          have short := Words.length_varint_mono (toNat_toUInt32_le word)
          rw [writeRawVarint32_eq] at size
          exact le_trans (le_of_eq size.symm) (le_trans short (le_of_eq wide.symm))
      | _ => cases decoded
  | uint64 =>
      cases wire with
      | varint word =>
          obtain rfl := Option.some.inj decoded
          exact le_of_eq (length_writeRawVarint64 word).symm
      | _ => cases decoded
  | double =>
      cases wire with
      | fixed64 word => exact le_rfl
      | _ => cases decoded
  | bytes =>
      cases wire with
      | lengthDelimited bytes =>
          obtain rfl := Option.some.inj decoded
          exact le_of_eq (length_writeBytesNoTag bytes).symm
      | _ => cases decoded
  | string =>
      cases wire with
      | lengthDelimited bytes =>
          have same : Wire.utf8 value = bytes := by
            rw [decodeValue] at decoded
            split_ifs at decoded with empty
            · rw [← Option.some.inj decoded, List.length_eq_zero_iff.mp empty]
              rfl
            · exact utf8_of_readUtf8 decoded
          have written := length_writeBytesNoTag (Wire.utf8 value)
          rw [same] at written
          refine le_of_eq (Eq.trans ?_ written.symm)
          rw [GPBDataType.sizeNoTag, GPBComputeStringSizeNoTag, same]
          rfl
      | _ => cases decoded

theorem size_putField {number : GPBFieldNumber} {fieldType : GPBFieldType} {type : GPBDataType}
    {field : WireField} (tag : field.tag = GPBWireFormatMakeTag number type.wireFormat)
    {before after : fieldType.Slot type.Value} (merged : putField fieldType type before field = some after) :
    fieldType.size type.sizeNoTag number after ≤ fieldType.size type.sizeNoTag number before + field.write.length := by
  obtain ⟨value, decoded, rfl⟩ := Option.map_eq_some_iff.mp merged
  have short := sizeNoTag_decode field.number decoded
  rw [size_eq, size_eq, length_write_tagged tag]
  cases fieldType with
  | single =>
      simp only [put, GPBFieldType.values, Option.toList_some, List.map_cons, List.map_nil, List.sum_cons,
        List.sum_nil, GPBComputeSize]
      omega
  | repeated =>
      simp only [put, GPBFieldType.values, List.map_append, List.map_cons, List.map_nil, List.sum_append,
        List.sum_cons, List.sum_nil, GPBComputeSize]
      omega

/-- A message with its length before it. -/
def sizeOfMessage (msgClass : GPBDescriptor) (value : GPBMessage msgClass) : Nat :=
  GPBComputeRawVarint32SizeForInteger (serializedSize msgClass value) + serializedSize msgClass value

theorem rawSize_eq {size : Nat} (short : size < 2 ^ 31) :
    GPBComputeRawVarint32SizeForInteger size = (Wire.varint size).length := by
  have word : (UInt32.ofNat size).toNat = size := by
    rw [UInt32.toNat_ofNat']
    omega
  rw [GPBComputeRawVarint32SizeForInteger, ← length_writeRawVarint32, writeRawVarint32_eq, word]

theorem serializedSize_init (d : GPBDescriptor) : serializedSize d (init d) = 0 := by
  induction d with
  | nil => rfl
  | value number fieldType type allowed rest ih => cases fieldType <;> exact (Nat.zero_add _).trans ih
  | message number fieldType msgClass rest _ ih => cases fieldType <;> exact (Nat.zero_add _).trans ih

theorem size_absorbField {number : GPBFieldNumber} {fieldType : GPBFieldType} {msgClass : GPBDescriptor}
    {depth : Nat}
    (shrinks : ∀ {before after : GPBMessage msgClass} {data : NSData},
      mergeData msgClass (depth + 1) before data = some after →
      serializedSize msgClass before + data.length < 2 ^ 31 →
      serializedSize msgClass after ≤ serializedSize msgClass before + data.length)
    {field : WireField} (tag : field.tag = GPBWireFormatMakeTag number .lengthDelimited)
    {before after : fieldType.Slot (GPBMessage msgClass)}
    (merged : absorbField msgClass depth fieldType before field = some after)
    (below : fieldType.size (sizeOfMessage msgClass) number before + field.write.length < 2 ^ 31) :
    fieldType.size (sizeOfMessage msgClass) number after ≤
      fieldType.size (sizeOfMessage msgClass) number before + field.write.length := by
  have taken {old new : GPBMessage msgClass} {data : NSData}
      (read : mergeData msgClass (depth + 1) old data = some new)
      (room : serializedSize msgClass old + data.length < 2 ^ 31) :
      sizeOfMessage msgClass new ≤ serializedSize msgClass old +
        (Wire.varint (serializedSize msgClass old + data.length)).length + data.length := by
    have small := shrinks read room
    have shorter := Words.length_varint_mono small
    rw [sizeOfMessage, rawSize_eq (lt_of_le_of_lt small room)]
    omega
  rw [size_eq, size_eq, length_write_tagged tag] at *
  rw [absorbField] at merged
  cases wire : field.value with
  | lengthDelimited data =>
      rw [wire] at merged below
      simp only at merged
      split_ifs at merged
      have written : (WireValue.writeNoTag field.number (.lengthDelimited data)).length =
          GPBComputeRawVarint32SizeForInteger data.length + data.length := length_writeBytesNoTag data
      have length : GPBComputeRawVarint32SizeForInteger data.length = (Wire.varint data.length).length :=
        rawSize_eq (by omega)
      cases fieldType with
      | single =>
          obtain ⟨value, read, rfl⟩ := Option.map_eq_some_iff.mp merged
          cases before with
          | none =>
              have new := taken read
              rw [Option.getD_none, serializedSize_init, Nat.zero_add, Nat.zero_add] at new
              simp only [GPBFieldType.values, Option.toList_some, Option.toList_none, List.map_cons, List.map_nil,
                List.sum_cons, List.sum_nil, GPBComputeSize] at below ⊢
              have bound := new (by omega)
              omega
          | some old =>
              have new := taken read
              rw [Option.getD_some] at new
              have sum := Words.length_varint_add (serializedSize msgClass old) data.length
              simp only [GPBFieldType.values, Option.toList_some, List.map_cons, List.map_nil, List.sum_cons,
                List.sum_nil, GPBComputeSize, sizeOfMessage] at below new ⊢
              have bound := new (by omega)
              have oldLength : GPBComputeRawVarint32SizeForInteger (serializedSize msgClass old) =
                  (Wire.varint (serializedSize msgClass old)).length := rawSize_eq (by omega)
              omega
      | repeated =>
          obtain ⟨value, read, rfl⟩ := Option.map_eq_some_iff.mp merged
          have new := taken read
          rw [serializedSize_init, Nat.zero_add, Nat.zero_add] at new
          simp only [GPBFieldType.values, List.map_append, List.map_cons, List.map_nil, List.sum_append,
            List.sum_cons, List.sum_nil, GPBComputeSize] at below ⊢
          have bound := new (by omega)
          omega
  | _ =>
      rw [wire] at merged
      cases merged

/-! ## Messages -/

theorem serializedSize_fold {d : GPBDescriptor} (well : WellFormed d) {depth : Nat} {before after : GPBMessage d}
    {fields : List WireField} (folded : mergeFieldList d depth before fields = some after)
    (below : serializedSize d before + volume fields < 2 ^ 31) :
    serializedSize d after ≤ serializedSize d before + volume fields := by
  induction d generalizing depth fields with
  | nil =>
      rw [mergeFieldList_nil, Option.some.injEq] at folded
      subst folded
      exact le_of_eq (serializedSize_foldl_addField before fields)
  | value number fieldType type allowed rest ih =>
      obtain ⟨slot, others⟩ := before
      rw [mergeFieldList_value, Option.bind_eq_some_iff] at folded
      obtain ⟨read, put, rested⟩ := folded
      obtain ⟨later, kept, rfl⟩ := Option.map_eq_some_iff.mp rested
      have parts := volume_split number type.wireFormat fields
      simp only [serializedSize] at below ⊢
      have room : fieldType.size type.sizeNoTag number slot + volume (tagged number type.wireFormat fields) <
          2 ^ 31 := by
        omega
      have here : fieldType.size type.sizeNoTag number read ≤
          fieldType.size type.sizeNoTag number slot + volume (tagged number type.wireFormat fields) :=
        foldlM_weight (fun field member before after merged _ => size_putField (mem_tagged.mp member).2 merged)
          put room
      have there := ih well.2 kept (by omega)
      omega
  | message number fieldType msgClass rest classIh ih =>
      obtain ⟨slot, others⟩ := before
      rw [mergeFieldList_message, Option.bind_eq_some_iff] at folded
      obtain ⟨read, absorbed, rested⟩ := folded
      obtain ⟨later, kept, rfl⟩ := Option.map_eq_some_iff.mp rested
      have parts := volume_split number .lengthDelimited fields
      have shrinks {before after : GPBMessage msgClass} {data : NSData}
          (read : mergeData msgClass (depth + 1) before data = some after)
          (room : serializedSize msgClass before + data.length < 2 ^ 31) :
          serializedSize msgClass after ≤ serializedSize msgClass before + data.length := by
        rw [mergeData_eq well.2.1] at read
        obtain ⟨fields, found, folded⟩ := Option.bind_eq_some_iff.mp read
        have short := volume_wireFields found
        exact le_trans (classIh well.2.1 folded (by omega)) (Nat.add_le_add_left short _)
      change fieldType.size (sizeOfMessage msgClass) number slot + serializedSize rest others + _ < _ at below
      change fieldType.size (sizeOfMessage msgClass) number read + serializedSize rest later ≤
        fieldType.size (sizeOfMessage msgClass) number slot + serializedSize rest others + _
      have room : fieldType.size (sizeOfMessage msgClass) number slot +
          volume (tagged number .lengthDelimited fields) < 2 ^ 31 := by
        omega
      have here : fieldType.size (sizeOfMessage msgClass) number read ≤
          fieldType.size (sizeOfMessage msgClass) number slot + volume (tagged number .lengthDelimited fields) :=
        foldlM_weight (fun field member before after merged room =>
          size_absorbField shrinks (mem_tagged.mp member).2 merged room) absorbed room
      have there := ih well.2.2 kept (by omega)
      omega

theorem serializedSize_parse {d : GPBDescriptor} (well : WellFormed d) {data : NSData} {message : GPBMessage d}
    (read : parseFromData d data = some message) (short : data.length < 2 ^ 31) :
    serializedSize d message ≤ data.length := by
  have folded : (wireFields 0 data).bind (mergeFieldList d 0 (init d)) = some message :=
    (mergeData_eq well 0 (init d) data).symm.trans read
  obtain ⟨fields, found, folded⟩ := Option.bind_eq_some_iff.mp folded
  have volume := volume_wireFields found
  have bound := serializedSize_fold well folded (by rw [serializedSize_init]; omega)
  rw [serializedSize_init] at bound
  omega

end RealSocial.Proof
