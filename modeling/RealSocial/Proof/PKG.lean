import RealSocial.Proof.MessageRoundTrip
import RealSocial.Services.PKG

namespace RealSocial.Proof

open Library GPBMessage GPBCodedInputStream

/-! # Requests and responses arrive as they were sent -/

theorem wellFormed_req (reqClass : RSReqClass) : WellFormed reqClass.descriptor := by
  cases reqClass <;> decide

theorem wellFormed_resp (respClass : RSRespClass) : WellFormed respClass.descriptor := by
  cases respClass <;> decide

theorem parse_write {d : GPBDescriptor} (well : WellFormed d) {message : GPBMessage d} (apart : UnknownApart d message)
    (short : serializedSize d message < 2 ^ 31) :
    parseFromData d (writeToCodedOutputStream d message) =
      if nesting d message ≤ defaultRecursionLimit then some message else none := by
  rw [parseFromData, mergeFromData_write well _ apart short, mergeFrom_init]

/-- A package is not shorter than what it holds. -/
theorem size_le_package {pkg : GPBMessage RSPKG.descriptor} {data : NSData} (holds : pkg.2.1 = some data) :
    data.length ≤ serializedSize RSPKG.descriptor pkg := by
  obtain ⟨str, held, set⟩ := pkg
  obtain rfl : held = some data := holds
  simp only [serializedSize, GPBFieldType.size, Option.elim, GPBComputeSize, GPBDataType.sizeNoTag,
    GPBComputeBytesSizeNoTag]
  omega

theorem parsePKG_write {pkg : GPBMessage RSPKG.descriptor} (apart : UnknownApart RSPKG.descriptor pkg)
    (short : serializedSize RSPKG.descriptor pkg < 2 ^ 31) :
    RSPKG.parseFromData (writeToCodedOutputStream RSPKG.descriptor pkg) =
      if nesting RSPKG.descriptor pkg ≤ defaultRecursionLimit then some { data_p := pkg.2.1.getD [] } else none := by
  rw [RSPKG.parseFromData, parse_write (by decide) apart short]
  split_ifs <;> rfl

theorem unknown_empty {number : GPBFieldNumber} {format : GPBWireFormat} :
    ∀ field ∈ unknownList ∅, field.tag ≠ GPBWireFormatMakeTag number format := by
  rw [unknownList_empty]
  exact List.forall_mem_nil _

theorem baseReq_apart (baseReq : RSBaseReq) : UnknownApart RSBaseReq.descriptor baseReq.message :=
  ⟨unknown_empty, unknown_empty, unknown_empty, unknown_empty, unknown_empty, trivial⟩

/-- What is read of a request by who takes it apart as a response is taken apart. -/
def readRequest (reqClass : RSReqClass) (body : NSData) : Option (GPBMessage reqClass.descriptor) :=
  let request : RSRequest Unit := RSRequestFactory.requestWithReq (reqClass = .RSLoginReq) none
  (RSNetWorkService.responseOf RSPKG.parseFromData request body).data.bind (parseFromData reqClass.descriptor)

/-- The request as it is sent. -/
def withBaseReq (service : RSLoginService) (reqClass : RSReqClass) (req : GPBMessage reqClass.descriptor) :
    GPBMessage reqClass.descriptor :=
  if reqClass = .RSLoginReq then req else (some (RSRequestFactory.baseReq service).message, req.2)

theorem request_read (service : RSLoginService) (reqClass : RSReqClass) {req : GPBMessage reqClass.descriptor}
    (apart : UnknownApart reqClass.descriptor req) :
    ∃ body, RSRequestFactory.requestData service reqClass req = some body ∧
      (body.length < 2 ^ 31 → readRequest reqClass body =
        if nesting reqClass.descriptor (withBaseReq service reqClass req) ≤ defaultRecursionLimit then
          some (withBaseReq service reqClass req)
        else none) := by
  by_cases login : reqClass = .RSLoginReq
  · subst login
    refine ⟨_, data_eq _ req, fun short => ?_⟩
    rw [length_write] at short
    exact parse_write (wellFormed_req _) apart short
  · rw [withBaseReq, if_neg login]
    obtain ⟨base, others⟩ := req
    have plain : decide (reqClass = .RSLoginReq) = false := decide_eq_false login
    have made : RSRequestFactory.requestData service reqClass (base, others) =
        RSPKGRequest.setData (some (writeToCodedOutputStream reqClass.descriptor
          (some (RSRequestFactory.baseReq service).message, others))) := by
      rw [RSRequestFactory.requestData, plain, ← data_eq]
      rfl
    refine ⟨_, made.trans (data_eq _ _), fun short => ?_⟩
    rw [length_write] at short
    have inner := lt_of_le_of_lt (size_le_package rfl) short
    rw [length_write] at inner
    have apartBase : UnknownApart reqClass.descriptor
        (some (RSRequestFactory.baseReq service).message, others) := by
      refine ⟨apart.1, ?_, apart.2.2⟩
      intro value member
      obtain rfl := List.mem_singleton.mp member
      exact baseReq_apart _
    have package : UnknownApart RSPKG.descriptor (some (Wire.utf8 "kuncaitest"),
        some (writeToCodedOutputStream reqClass.descriptor
          (some (RSRequestFactory.baseReq service).message, others)), ∅) :=
      ⟨unknown_empty, unknown_empty, trivial⟩
    have flat : nesting RSPKG.descriptor (some (Wire.utf8 "kuncaitest"),
        some (writeToCodedOutputStream reqClass.descriptor
          (some (RSRequestFactory.baseReq service).message, others)), ∅) ≤ defaultRecursionLimit :=
      Nat.zero_le _
    rw [readRequest, plain]
    simp only [RSRequestFactory.requestWithReq, RSRequestFactory.requestClass, Bool.false_eq_true, if_false,
      RSNetWorkService.responseOf, RSPKGResponse.setData, parsePKG_write package short, if_pos flat, Option.map_some,
      Option.getD_some, Option.bind_some]
    exact parse_write (wellFormed_req _) apartBase inner

theorem request_read_addFriend : ∃ body,
    RSRequestFactory.requestData { loginInfo := { uin := 7 } } .RSAddFriendReq (none, some "a", ∅) = some body ∧
      (body.length < 2 ^ 31 → readRequest .RSAddFriendReq body =
        if nesting RSReqClass.RSAddFriendReq.descriptor
            (withBaseReq { loginInfo := { uin := 7 } } .RSAddFriendReq (none, some "a", ∅)) ≤ defaultRecursionLimit then
          some (withBaseReq { loginInfo := { uin := 7 } } .RSAddFriendReq (none, some "a", ∅))
        else none) :=
  request_read { loginInfo := { uin := 7 } } .RSAddFriendReq (by decide)

/-- A response reaches the subscriber of the request, or its error does, whatever else is in the package. -/
theorem response_delivered (respClass : RSRespClass) (error : NSError)
    {request : RSRequest (GPBMessage respClass.descriptor)} (packed : request.requestClass = .RSPKGRequest)
    (real : request.mokeResponseData = none) (asked : request.respClass = some (respClass.ofRequest error))
    {resp : GPBMessage respClass.descriptor} (apart : UnknownApart respClass.descriptor resp)
    {pkg : GPBMessage RSPKG.descriptor} (holds : pkg.2.1 = data respClass.descriptor resp)
    (known : UnknownApart RSPKG.descriptor pkg) :
    ∃ body, data RSPKG.descriptor pkg = some body ∧
      (body.length < 2 ^ 31 → RSNetWorkService.sendRequest RSPKG.parseFromData request (.ok body) =
        if defaultRecursionLimit < nesting RSPKG.descriptor pkg ∨ serializedSize respClass.descriptor resp = 0 then
          [.error (.errorWithString "reponse data is empty")]
        else if defaultRecursionLimit < nesting respClass.descriptor resp then [.error error]
        else if (respClass.baseResp resp).errCode ≠ 0 then
          [.error (.errorWithString (respClass.baseResp resp).errMsg (respClass.baseResp resp).errCode.toNat)]
        else [.next (.resp resp), .completed]) := by
  refine ⟨_, data_eq _ pkg, fun short => ?_⟩
  rw [length_write] at short
  rw [data_eq] at holds
  have inner := lt_of_le_of_lt (size_le_package holds) short
  rw [length_write] at inner
  have parsed := parse_write (wellFormed_resp respClass) apart inner
  have unpacked := parsePKG_write known short
  simp only [RSNetWorkService.sendRequest, real, Option.isSome_none, Bool.false_eq_true, if_false,
    RSNetWorkService.completionHandler, RSNetWorkService.responseOf, packed, RSPKGResponse.setData, unpacked, asked,
    holds, Option.getD_some]
  by_cases deep : defaultRecursionLimit < nesting RSPKG.descriptor pkg
  · rw [if_neg (not_le.mpr deep), if_pos (Or.inl deep)]
    rfl
  · rw [if_pos (not_lt.mp deep)]
    simp only [deep, false_or, Option.map_some, Option.getD_some, length_write, Nat.le_zero]
    by_cases empty : serializedSize respClass.descriptor resp = 0
    · rw [if_pos empty, if_pos empty]
    · rw [if_neg empty, if_neg empty, RSRespClass.ofRequest]
      simp only [parsed]
      by_cases deeper : defaultRecursionLimit < nesting respClass.descriptor resp
      · rw [if_neg (not_le.mpr deeper), if_pos deeper]
      · rw [if_pos (not_lt.mp deeper), if_neg deeper]
        rfl

theorem response_delivered_addStar : ∃ body,
    data RSPKG.descriptor (none, data RSRespClass.RSAddStarResp.descriptor
      (some (some 0, none, ∅), [(some 7, none, ∅)], ∅), ∅) = some body ∧
    (body.length < 2 ^ 31 → RSNetWorkService.sendRequest RSPKG.parseFromData
        { requestClass := .RSPKGRequest, respClass := some (RSRespClass.RSAddStarResp.ofRequest (.errorWithString "")) }
        (.ok body) =
      if defaultRecursionLimit < nesting RSPKG.descriptor (none, data RSRespClass.RSAddStarResp.descriptor
          (some (some 0, none, ∅), [(some 7, none, ∅)], ∅), ∅) ∨
          serializedSize RSRespClass.RSAddStarResp.descriptor (some (some 0, none, ∅), [(some 7, none, ∅)], ∅) = 0 then
        [.error (.errorWithString "reponse data is empty")]
      else if defaultRecursionLimit < nesting RSRespClass.RSAddStarResp.descriptor
          (some (some 0, none, ∅), [(some 7, none, ∅)], ∅) then [.error (.errorWithString "")]
      else if (RSRespClass.RSAddStarResp.baseResp (some (some 0, none, ∅), [(some 7, none, ∅)], ∅)).errCode ≠ 0 then
        [.error (.errorWithString
          (RSRespClass.RSAddStarResp.baseResp (some (some 0, none, ∅), [(some 7, none, ∅)], ∅)).errMsg
          (RSRespClass.RSAddStarResp.baseResp (some (some 0, none, ∅), [(some 7, none, ∅)], ∅)).errCode.toNat)]
      else [.next (.resp (some (some 0, none, ∅), [(some 7, none, ∅)], ∅)), .completed]) :=
  response_delivered .RSAddStarResp _ rfl rfl rfl (by decide) rfl ⟨unknown_empty, unknown_empty, trivial⟩

end RealSocial.Proof
