import RealSocial.Protoc.AddStar

namespace RealSocial.Proof

open Library.Wire

/-! # What is read from the response to an added star -/

def DecodesFaithfully (resp : RSAddStarResp) : Prop :=
  ∃ decoded, RSSpaceService.readAddStarResponse resp.data = some decoded ∧
    decoded.baseResp = resp.baseResp ∧ decoded.starIdListArray = resp.starIdListArray

/-! ## The messages in it -/

theorem baseResp_merge (message : RSBaseRespFields) :
    message.fields.foldlM RSBaseRespFields.mergeField {} = some message := by
  obtain ⟨errCode, errMsg⟩ := message
  cases errCode with
  | none =>
      cases errMsg with
      | none => rfl
      | some errMsg => simp [RSBaseRespFields.fields, RSBaseRespFields.mergeField, readUtf8_utf8]
  | some errCode =>
      cases errMsg with
      | none => simp [RSBaseRespFields.fields, RSBaseRespFields.mergeField]
      | some errMsg => simp [RSBaseRespFields.fields, RSBaseRespFields.mergeField, readUtf8_utf8]

/-- The fields that are set in the later message replace those of the earlier one. -/
def mergedIdPair (old new : RSIdPairFields) : RSIdPairFields where
  svrId := new.svrId.or old.svrId
  clientId := new.clientId.or old.clientId

theorem idPair_merge (old new : RSIdPairFields) :
    new.fields.foldlM RSIdPairFields.mergeField old = some (mergedIdPair old new) := by
  obtain ⟨svrId, clientId⟩ := new
  cases svrId with
  | none =>
      cases clientId with
      | none => simp [RSIdPairFields.fields, mergedIdPair]
      | some clientId =>
          simp [RSIdPairFields.fields, RSIdPairFields.mergeField, readUtf8_utf8, mergedIdPair]
  | some svrId =>
      cases clientId with
      | none => simp [RSIdPairFields.fields, RSIdPairFields.mergeField, mergedIdPair]
      | some clientId =>
          simp [RSIdPairFields.fields, RSIdPairFields.mergeField, readUtf8_utf8, mergedIdPair]

theorem parse_baseResp (message : RSBaseRespFields) :
    parse RSBaseRespFields.mergeField {} (encodeFields message.fields) = some message :=
  (parse_encode _ _ _).trans (baseResp_merge message)

theorem parse_idPair (old new : RSIdPairFields) :
    parse RSIdPairFields.mergeField old new.encode = some (mergedIdPair old new) :=
  (parse_encode _ _ _).trans (idPair_merge old new)

theorem mergedIdPair_empty (new : RSIdPairFields) : mergedIdPair {} new = new := by
  simp [mergedIdPair]

/-! ## The response -/

def baseRespField (baseResp : RSBaseRespFields) : Field :=
  ⟨1, Nat.one_pos, .lengthDelimited (encodeFields baseResp.fields)⟩

def starIdField (starId : RSIdPairFields) : Field := ⟨2, Nat.two_pos, .lengthDelimited starId.encode⟩

theorem foldlM_addStar {M : Type} (mergeField : M → Field → Option M) (message : M) (resp : RSAddStarResp) :
    resp.fields.foldlM mergeField message =
      ((resp.baseResp.map baseRespField).toList.foldlM mergeField message).bind fun message =>
        (resp.starIdListArray.map starIdField).foldlM mergeField message :=
  List.foldlM_append

/-- All star ids are merged into the one id that the response class has in their place. -/
def mergedStarIds (spaceId : Option RSIdPairFields) (starIds : List RSIdPairFields) : Option RSIdPairFields :=
  starIds.foldl (fun spaceId starId => some (mergedIdPair (spaceId.getD {}) starId)) spaceId

theorem createSpace_starIds (message : RSCreateSpaceResp) (starIds : List RSIdPairFields) :
    (starIds.map starIdField).foldlM RSCreateSpaceResp.mergeField message =
      some { message with spaceId := mergedStarIds message.spaceId starIds } := by
  induction starIds generalizing message with
  | nil => rfl
  | cons starId starIds ih =>
      have merged : RSCreateSpaceResp.mergeField message (starIdField starId) =
          some { message with spaceId := some (mergedIdPair (message.spaceId.getD {}) starId) } := by
        simp only [RSCreateSpaceResp.mergeField, starIdField, parse_idPair, Option.map_some]
      rw [List.map_cons, List.foldlM_cons, merged]
      exact ih _

theorem readAddStarResponse_data (resp : RSAddStarResp) :
    RSSpaceService.readAddStarResponse resp.data =
      some { baseResp := resp.baseResp, spaceId := mergedStarIds none resp.starIdListArray } := by
  have base : (resp.baseResp.map baseRespField).toList.foldlM RSCreateSpaceResp.mergeField {} =
      some { baseResp := resp.baseResp } := by
    cases resp.baseResp with
    | none => rfl
    | some baseResp =>
        simp [RSCreateSpaceResp.mergeField, baseRespField, parse_baseResp]
  rw [RSSpaceService.readAddStarResponse, RSCreateSpaceResp.parseFromData, RSAddStarResp.data, parse_encode,
    foldlM_addStar, base, Option.bind_some, createSpace_starIds]

theorem addStar_starIds (message : RSAddStarResp) (starIds : List RSIdPairFields) :
    (starIds.map starIdField).foldlM RSAddStarResp.mergeField message =
      some { message with starIdListArray := message.starIdListArray ++ starIds } := by
  induction starIds generalizing message with
  | nil => simp
  | cons starId starIds ih =>
      have added : RSAddStarResp.mergeField message (starIdField starId) =
          some { message with starIdListArray := message.starIdListArray ++ [starId] } := by
        simp only [RSAddStarResp.mergeField, starIdField, parse_idPair, mergedIdPair_empty, Option.map_some]
      rw [List.map_cons, List.foldlM_cons, added]
      have rest := ih { message with starIdListArray := message.starIdListArray ++ [starId] }
      rw [List.append_assoc, List.singleton_append] at rest
      exact rest

/-- Its own class reads the response back. -/
theorem addStarResp_parseFromData (resp : RSAddStarResp) : RSAddStarResp.parseFromData resp.data = some resp := by
  have base : (resp.baseResp.map baseRespField).toList.foldlM RSAddStarResp.mergeField {} =
      some { baseResp := resp.baseResp } := by
    cases resp.baseResp with
    | none => rfl
    | some baseResp =>
        simp [RSAddStarResp.mergeField, baseRespField, parse_baseResp]
  rw [RSAddStarResp.parseFromData, RSAddStarResp.data, parse_encode, foldlM_addStar, base, Option.bind_some,
    addStar_starIds]
  rfl

theorem addStar_decodes_iff (resp : RSAddStarResp) : DecodesFaithfully resp ↔ resp.starIdListArray = [] := by
  rw [DecodesFaithfully, readAddStarResponse_data]
  simp [eq_comm]

/-- The id of the added star ends up as the id of a space. -/
theorem star_id_is_lost : ¬ DecodesFaithfully { starIdListArray := [{ svrId := some 5 }] } := by
  intro faithful
  obtain ⟨decoded, read, -, same⟩ := faithful
  rw [readAddStarResponse_data, Option.some.injEq] at read
  rw [← read] at same
  cases same

end RealSocial.Proof
