import RealSocial.Proof.AddStarDecode
import RealSocial.Proof.PKG

namespace RealSocial.Proof

open Library Wire GPBCodedOutputStream GPBCodedInputStream GPBMessage

/-! # The response to an added star among the messages of the classes

The two classes as the runtime writes and reads them. -/

def baseRespMessage (baseResp : RSBaseRespFields) : GPBMessage RSBaseResp.descriptor :=
  (baseResp.errCode, baseResp.errMsg, ∅)

def idPairMessage (idPair : RSIdPairFields) : GPBMessage RSIdPair.descriptor := (idPair.svrId, idPair.clientId, ∅)

def addStarMessage (resp : RSAddStarResp) : GPBMessage RSRespClass.RSAddStarResp.descriptor :=
  (resp.baseResp.map baseRespMessage, resp.starIdListArray.map idPairMessage, ∅)

def createSpaceMessage (resp : RSCreateSpaceResp) : GPBMessage RSRespClass.RSCreateSpaceResp.descriptor :=
  (resp.baseResp.map baseRespMessage, resp.spaceId.map idPairMessage, resp.starIdListArray.map idPairMessage, ∅)

/-! ## The bytes -/

theorem writeTag_eq (number : GPBFieldNumber) (format : GPBWireFormat) :
    writeTagWithFormat number format = varint (8 * number.1 + format.rawValue.toNat) := by
  rw [writeTagWithFormat, writeRawVarint32_eq, toNat_makeTag, Nat.mul_comm]

theorem encode_uint32 (number : GPBFieldNumber) (value : UInt32) :
    Field.encode ⟨number.1, number.2.1, .varint value.toNat⟩ =
      writeTagWithFormat number .varint ++ writeUInt32NoTag value := by
  rw [writeTag_eq, writeUInt32NoTag, writeRawVarint32_eq]
  rfl

theorem encode_uint64 (number : GPBFieldNumber) (value : UInt64) :
    Field.encode ⟨number.1, number.2.1, .varint value.toNat⟩ =
      writeTagWithFormat number .varint ++ writeUInt64NoTag value := by
  rw [writeTag_eq, writeUInt64NoTag, writeRawVarint64_eq]
  rfl

theorem encode_lengthDelimited (number : GPBFieldNumber) {bytes : NSData} (short : bytes.length < 2 ^ 31) :
    Field.encode ⟨number.1, number.2.1, .lengthDelimited bytes⟩ =
      writeTagWithFormat number .lengthDelimited ++ (writeRawVarintSizeTAs32 bytes.length ++ bytes) := by
  have length : (UInt32.ofNat bytes.length).toNat = bytes.length := by
    rw [UInt32.toNat_ofNat']
    omega
  rw [writeTag_eq, writeRawVarintSizeTAs32, writeRawVarint32_eq, length]
  rfl

theorem encodeFields_append (fields others : List Field) :
    encodeFields (fields ++ others) = encodeFields fields ++ encodeFields others := List.flatMap_append

/-- The fields that a class makes of the values of one slot. -/
theorem encodeFields_map {α : Type} (field : α → Field) (write : α → NSData) {values : List α}
    (same : ∀ value ∈ values, (field value).encode = write value) :
    encodeFields (values.map field) = values.flatMap write := by
  rw [encodeFields, List.flatMap_map]
  exact List.flatMap_congr same

theorem length_payload_le {fields : List Field} {number : Nat} {positive : 0 < number} {bytes : NSData}
    (member : ⟨number, positive, .lengthDelimited bytes⟩ ∈ fields) :
    bytes.length ≤ (encodeFields fields).length := by
  obtain ⟨before, after, rfl⟩ := List.append_of_mem member
  rw [encodeFields_append, encodeFields, encodeFields, List.flatMap_cons, Field.encode, Payload.encode]
  simp only [List.length_append]
  omega

theorem write_baseResp {baseResp : RSBaseRespFields} (short : (encodeFields baseResp.fields).length < 2 ^ 31) :
    writeToCodedOutputStream RSBaseResp.descriptor (baseRespMessage baseResp) = encodeFields baseResp.fields := by
  obtain ⟨errCode, errMsg⟩ := baseResp
  have codes := encodeFields_map _ _ fun value (_ : value ∈ errCode.toList) => encode_uint32 ⟨1, by decide⟩ value
  have texts := encodeFields_map _ _ fun value (member : value ∈ errMsg.toList) =>
    encode_lengthDelimited ⟨2, by decide⟩ (lt_of_le_of_lt (length_payload_le (List.mem_append_right _
      (Option.toList_map ▸ List.mem_map_of_mem member))) short)
  rw [RSBaseRespFields.fields, encodeFields_append, Option.toList_map, Option.toList_map, codes, texts]
  exact congrArg (_ ++ ·) (List.append_nil _)

theorem write_idPair {idPair : RSIdPairFields} (short : idPair.encode.length < 2 ^ 31) :
    writeToCodedOutputStream RSIdPair.descriptor (idPairMessage idPair) = idPair.encode := by
  obtain ⟨svrId, clientId⟩ := idPair
  have ids := encodeFields_map _ _ fun value (_ : value ∈ svrId.toList) => encode_uint64 ⟨1, by decide⟩ value
  have texts := encodeFields_map _ _ fun value (member : value ∈ clientId.toList) =>
    encode_lengthDelimited ⟨2, by decide⟩ (lt_of_le_of_lt (length_payload_le (List.mem_append_right _
      (Option.toList_map ▸ List.mem_map_of_mem member))) short)
  rw [RSIdPairFields.encode, RSIdPairFields.fields, encodeFields_append, Option.toList_map, Option.toList_map, ids,
    texts]
  exact congrArg (_ ++ ·) (List.append_nil _)

theorem encode_message (number : GPBFieldNumber) {d : GPBDescriptor} {message : GPBMessage d} {bytes : NSData}
    (written : writeToCodedOutputStream d message = bytes) (short : bytes.length < 2 ^ 31) :
    Field.encode ⟨number.1, number.2.1, .lengthDelimited bytes⟩ =
      writeTagWithFormat number .lengthDelimited ++
        (writeRawVarintSizeTAs32 (serializedSize d message) ++ writeToCodedOutputStream d message) := by
  rw [← length_write, written]
  exact encode_lengthDelimited number short

theorem short_baseResp {resp : RSAddStarResp} (short : resp.data.length < 2 ^ 31) {baseResp : RSBaseRespFields}
    (member : baseResp ∈ resp.baseResp.toList) :
    (encodeFields baseResp.fields).length < 2 ^ 31 := by
  have inside : (encodeFields baseResp.fields).length ≤ (encodeFields resp.fields).length :=
    length_payload_le (List.mem_append_left _ (Option.toList_map ▸ List.mem_map_of_mem member))
  exact lt_of_le_of_lt inside short

theorem short_starId {resp : RSAddStarResp} (short : resp.data.length < 2 ^ 31) {starId : RSIdPairFields}
    (member : starId ∈ resp.starIdListArray) :
    starId.encode.length < 2 ^ 31 := by
  have inside : starId.encode.length ≤ (encodeFields resp.fields).length :=
    length_payload_le (List.mem_append_right _ (List.mem_map_of_mem member))
  exact lt_of_le_of_lt inside short

theorem write_addStar {resp : RSAddStarResp} (short : resp.data.length < 2 ^ 31) :
    writeToCodedOutputStream RSRespClass.RSAddStarResp.descriptor (addStarMessage resp) = resp.data := by
  have bases := encodeFields_map _ _ fun value (member : value ∈ resp.baseResp.toList) =>
    encode_message ⟨1, by decide⟩ (write_baseResp (short_baseResp short member)) (short_baseResp short member)
  have starIds := encodeFields_map _ _ fun value (member : value ∈ resp.starIdListArray) =>
    encode_message ⟨2, by decide⟩ (write_idPair (short_starId short member)) (short_starId short member)
  rw [RSAddStarResp.data, RSAddStarResp.fields, encodeFields_append, Option.toList_map, bases, starIds]
  simp only [addStarMessage, writeToCodedOutputStream, GPBFieldType.values, Option.toList_map, List.flatMap_map]
  exact congrArg (_ ++ ·) (List.append_nil _)

/-! ## What is read -/

theorem readsBack {d : GPBDescriptor} (well : WellFormed d) {depth : Nat} (room : depth ≤ defaultRecursionLimit)
    {message : GPBMessage d} (apart : UnknownApart d message) (short : serializedSize d message < 2 ^ 31) :
    ReadsBack d depth message := by
  intro before
  rw [mergeData_eq well]
  exact merge_wireFields room before short fun low =>
    mergeFieldList_fieldList well before low apart (fits_of_size short)

theorem absorbField_shallow (number : GPBFieldNumber) {fieldType : GPBFieldType} {msgClass : GPBDescriptor}
    (slot : fieldType.Slot (GPBMessage msgClass)) {values : List (GPBMessage msgClass)}
    (flat : ∀ value ∈ values, nesting msgClass value = 0) (back : ∀ value ∈ values, ReadsBack msgClass 1 value) :
    (values.map fun value =>
        (⟨number, .lengthDelimited (writeToCodedOutputStream msgClass value)⟩ : WireField)).foldlM
        (absorbField msgClass 0 fieldType) slot = some (values.foldl (store msgClass fieldType) slot) := by
  rw [absorbField_messages number 0 slot fun value member _ => back value member, if_pos]
  intro value member
  rw [flat value member]
  decide

/-- The messages of one slot before the fields of the others. -/
theorem mergeFieldList_slot (number : GPBFieldNumber) (fieldType : GPBFieldType) {msgClass rest : GPBDescriptor}
    (slot : fieldType.Slot (GPBMessage msgClass)) (others : GPBMessage rest) {values : List (GPBMessage msgClass)}
    (flat : ∀ value ∈ values, nesting msgClass value = 0) (back : ∀ value ∈ values, ReadsBack msgClass 1 value)
    {fields : List WireField}
    (apart : ∀ field ∈ fields, field.tag ≠ GPBWireFormatMakeTag number .lengthDelimited) :
    mergeFieldList (.message number fieldType msgClass rest) 0 (slot, others) (values.map (fun value =>
        ⟨number, .lengthDelimited (writeToCodedOutputStream msgClass value)⟩) ++ fields) =
      (mergeFieldList rest 0 others fields).map fun others => (values.foldl (store msgClass fieldType) slot, others) := by
  rw [mergeFieldList_message, tagged_map _ (tag_message number msgClass) _ apart,
    untagged_map _ (tag_message number msgClass) _ apart, absorbField_shallow number slot flat back, Option.bind_some]

theorem mergeFrom_single {α : Type} (slot other : Option α) :
    GPBFieldType.single.mergeFrom (fun _ value => value) slot other = other.or slot := by
  cases other with
  | none => rfl
  | some value => cases slot <;> rfl

theorem mergeFrom_idPair (old new : RSIdPairFields) :
    mergeFrom RSIdPair.descriptor (idPairMessage old) (idPairMessage new) = idPairMessage (mergedIdPair old new) := by
  simp only [mergeFrom, idPairMessage, mergedIdPair, mergeFrom_single]
  rfl

theorem store_starIds (spaceId : Option RSIdPairFields) (starIds : List RSIdPairFields) :
    (starIds.map idPairMessage).foldl (store RSIdPair.descriptor .single) (spaceId.map idPairMessage) =
      (mergedStarIds spaceId starIds).map idPairMessage := by
  induction starIds generalizing spaceId with
  | nil => rfl
  | cons starId starIds ih =>
      have first : store RSIdPair.descriptor .single (spaceId.map idPairMessage) (idPairMessage starId) =
          (some (mergedIdPair (spaceId.getD {}) starId)).map idPairMessage := by
        rw [Option.map_some, ← mergeFrom_idPair]
        cases spaceId <;> rfl
      rw [List.map_cons, List.foldl_cons, first, ih]
      rfl

theorem apart_baseResp (baseResp : RSBaseRespFields) :
    UnknownApart RSBaseResp.descriptor (baseRespMessage baseResp) := ⟨unknown_empty, unknown_empty, trivial⟩

theorem apart_idPair (idPair : RSIdPairFields) : UnknownApart RSIdPair.descriptor (idPairMessage idPair) :=
  ⟨unknown_empty, unknown_empty, trivial⟩

theorem apart_addStar (resp : RSAddStarResp) :
    UnknownApart RSRespClass.RSAddStarResp.descriptor (addStarMessage resp) := by
  refine ⟨unknown_empty, ?_, unknown_empty, ?_, trivial⟩
  · intro value member
    obtain ⟨baseResp, -, rfl⟩ := Option.map_eq_some_iff.mp (Option.mem_toList.mp member)
    exact apart_baseResp baseResp
  · intro value member
    obtain ⟨starId, -, rfl⟩ := List.mem_map.mp member
    exact apart_idPair starId

theorem nesting_baseResp {resp : RSAddStarResp} :
    ∀ value ∈ (resp.baseResp.map baseRespMessage).toList, nesting RSBaseResp.descriptor value = 0 := by
  intro value member
  obtain ⟨baseResp, -, rfl⟩ := Option.map_eq_some_iff.mp (Option.mem_toList.mp member)
  rfl

theorem nesting_starIds {resp : RSAddStarResp} :
    ∀ value ∈ resp.starIdListArray.map idPairMessage, nesting RSIdPair.descriptor value = 0 := by
  intro value member
  obtain ⟨starId, -, rfl⟩ := List.mem_map.mp member
  rfl

theorem nesting_addStar (resp : RSAddStarResp) :
    nesting RSRespClass.RSAddStarResp.descriptor (addStarMessage resp) ≤ 1 := by
  refine max_le (foldr_max_le.mpr ?_) (max_le (foldr_max_le.mpr ?_) (Nat.zero_le 1))
  · rw [List.forall_mem_map]
    exact fun value member => Nat.succ_le_succ (nesting_baseResp value member).le
  · rw [List.forall_mem_map]
    exact fun value member => Nat.succ_le_succ (nesting_starIds value member).le

/-- The star ids come under the number that the class of the other response has for its one id. -/
theorem parse_createSpace {resp : RSAddStarResp} (short : resp.data.length < 2 ^ 31) :
    parseFromData RSRespClass.RSCreateSpaceResp.descriptor resp.data =
      some (createSpaceMessage { baseResp := resp.baseResp, spaceId := mergedStarIds none resp.starIdListArray }) := by
  have size : serializedSize RSRespClass.RSAddStarResp.descriptor (addStarMessage resp) < 2 ^ 31 := by
    rwa [← length_write, write_addStar short]
  have bases : ∀ value ∈ (resp.baseResp.map baseRespMessage).toList, ReadsBack RSBaseResp.descriptor 1 value := by
    intro value member
    obtain ⟨baseResp, there, rfl⟩ := Option.map_eq_some_iff.mp (Option.mem_toList.mp member)
    have part := short_baseResp short (Option.mem_toList.mpr there)
    rw [← write_baseResp part, length_write] at part
    exact readsBack (by decide) (by decide) (apart_baseResp baseResp) part
  have starIds : ∀ value ∈ resp.starIdListArray.map idPairMessage, ReadsBack RSIdPair.descriptor 1 value := by
    intro value member
    obtain ⟨starId, there, rfl⟩ := List.mem_map.mp member
    have part := short_starId short there
    rw [← write_idPair part, length_write] at part
    exact readsBack (by decide) (by decide) (apart_idPair starId) part
  have written : fieldList RSRespClass.RSAddStarResp.descriptor (addStarMessage resp) =
      (resp.baseResp.map baseRespMessage).toList.map
        (fun value => ⟨⟨1, by decide⟩, .lengthDelimited (writeToCodedOutputStream RSBaseResp.descriptor value)⟩) ++
      ((resp.starIdListArray.map idPairMessage).map
        (fun value => ⟨⟨2, by decide⟩, .lengthDelimited (writeToCodedOutputStream RSIdPair.descriptor value)⟩) ++
        unknownList ∅) := rfl
  have apart : ∀ field ∈ (resp.starIdListArray.map idPairMessage).map (fun value =>
      (⟨⟨2, by decide⟩, .lengthDelimited (writeToCodedOutputStream RSIdPair.descriptor value)⟩ : WireField)) ++ [],
      field.tag ≠ GPBWireFormatMakeTag ⟨1, by decide⟩ .lengthDelimited := by
    rw [List.append_nil, List.forall_mem_map]
    intro value _
    rw [tag_message]
    decide
  have last : ∀ field ∈ ([] : List WireField), field.tag ≠ GPBWireFormatMakeTag ⟨2, by decide⟩ .lengthDelimited :=
    List.forall_mem_nil _
  have flat : groupNesting (unknownFields RSRespClass.RSAddStarResp.descriptor (addStarMessage resp)) + 0 ≤
      defaultRecursionLimit := Nat.zero_le _
  rw [parseFromData, mergeFromData_eq (wellFormed_resp .RSCreateSpaceResp), ← write_addStar short,
    wireFields_message size (Nat.zero_le _), if_pos flat, Option.bind_some, written, unknownList_empty]
  have others := mergeFieldList_slot ⟨2, by decide⟩ .single none
    (init (GPBDescriptor.repeatedMessage 3 RSIdPair.descriptor .nil)) nesting_starIds starIds last
  have base := foldl_store RSBaseResp.descriptor .single none (resp.baseResp.map baseRespMessage)
  have ids := store_starIds none resp.starIdListArray
  refine (mergeFieldList_slot ⟨1, by decide⟩ .single none (init RSRespClass.RSCreateSpaceResp.fields)
    nesting_baseResp bases apart).trans ?_
  refine (congrArg (Option.map _) others).trans ?_
  refine congrArg some (Prod.ext ?_ (Prod.ext ids rfl))
  refine base.trans ?_
  cases resp.baseResp <;> rfl

theorem parse_addStar {resp : RSAddStarResp} (short : resp.data.length < 2 ^ 31) :
    parseFromData RSRespClass.RSAddStarResp.descriptor resp.data = some (addStarMessage resp) := by
  have size : serializedSize RSRespClass.RSAddStarResp.descriptor (addStarMessage resp) < 2 ^ 31 := by
    rwa [← length_write, write_addStar short]
  rw [← write_addStar short, parse_write (wellFormed_resp .RSAddStarResp) (apart_addStar resp) size,
    if_pos (le_trans (nesting_addStar resp) (by decide))]

/-- The runtime writes the response with the same bytes, and both of its classes read the same out of them. -/
theorem addStar_message {resp : RSAddStarResp} (short : resp.data.length < 2 ^ 31) :
    data RSRespClass.RSAddStarResp.descriptor (addStarMessage resp) = some resp.data ∧
      parseFromData RSRespClass.RSAddStarResp.descriptor resp.data =
        (RSAddStarResp.parseFromData resp.data).map addStarMessage ∧
      parseFromData RSRespClass.RSCreateSpaceResp.descriptor resp.data =
        (RSSpaceService.readAddStarResponse resp.data).map createSpaceMessage := by
  refine ⟨?_, ?_, ?_⟩
  · rw [data_eq, write_addStar short]
  · rw [parse_addStar short, addStarResp_parseFromData, Option.map_some]
  · rw [parse_createSpace short, readAddStarResponse_data, Option.map_some]

end RealSocial.Proof
