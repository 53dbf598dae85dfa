import RealSocial.Protobuf.Message

namespace RealSocial

/-! # The classes of the messages

The descriptors of the classes that requests and their responses are made of, with the fields in the order of
their numbers. -/

namespace GPBDescriptor

abbrev optional (number : Nat) (type : GPBDataType) (rest : GPBDescriptor)
    (valid : 0 < number ∧ number < 2 ^ 29 := by decide) : GPBDescriptor :=
  .value ⟨number, valid⟩ .single type (fun same => nomatch same) rest

abbrev optionalMessage (number : Nat) (msgClass rest : GPBDescriptor)
    (valid : 0 < number ∧ number < 2 ^ 29 := by decide) : GPBDescriptor :=
  .message ⟨number, valid⟩ .single msgClass rest

abbrev repeatedString (number : Nat) (rest : GPBDescriptor)
    (valid : 0 < number ∧ number < 2 ^ 29 := by decide) : GPBDescriptor :=
  .value ⟨number, valid⟩ .repeated .string (fun _ => rfl) rest

abbrev repeatedMessage (number : Nat) (msgClass rest : GPBDescriptor)
    (valid : 0 < number ∧ number < 2 ^ 29 := by decide) : GPBDescriptor :=
  .message ⟨number, valid⟩ .repeated msgClass rest

end GPBDescriptor

open GPBDescriptor

/-! ## `spcgicomm.proto` -/

-- str, data
abbrev RSPKG.descriptor : GPBDescriptor := optional 1 .bytes <| optional 2 .bytes .nil

-- sessionKey, uin, deviceId, deviceType, clientVersion
abbrev RSBaseReq.descriptor : GPBDescriptor :=
  optional 1 .string <| optional 2 .uint32 <| optional 3 .string <| optional 4 .uint32 <| optional 5 .uint32 .nil

-- errCode, errMsg
abbrev RSBaseResp.descriptor : GPBDescriptor := optional 1 .uint32 <| optional 2 .string .nil

-- userName, nickName, sex, headImgURL
abbrev RSProfile.descriptor : GPBDescriptor :=
  optional 1 .string <| optional 2 .string <| optional 3 .uint32 <| optional 4 .string .nil

-- userName, nickName, sex, headImgURL, delFlag
abbrev RSContact.descriptor : GPBDescriptor :=
  optional 1 .string <| optional 2 .string <| optional 3 .uint32 <| optional 4 .string <| optional 5 .uint32 .nil

-- headImgURL
abbrev RSGroup.descriptor : GPBDescriptor := optional 4 .string .nil

-- buffer
abbrev RSFaceBuffer.descriptor : GPBDescriptor := optional 1 .bytes .nil

/-! ## `spspacecgi.proto` -/

-- thumbURL, imgURL
abbrev RSStarImg.descriptor : GPBDescriptor := optional 1 .string <| optional 2 .string .nil

-- thumbURL, videoURL
abbrev RSStarVideo.descriptor : GPBDescriptor := optional 1 .string <| optional 2 .string .nil

-- svrId, clientId
abbrev RSIdPair.descriptor : GPBDescriptor := optional 1 .uint64 <| optional 2 .string .nil

-- commentId, fromUser, createTime, content, positionX, positionY
abbrev RSComment.descriptor : GPBDescriptor :=
  optionalMessage 1 RSIdPair.descriptor <| optional 2 .string <| optional 3 .uint32 <| optional 4 .string <|
    optional 5 .double <| optional 6 .double .nil

-- starId, type, author, createTime, img, video, commentList
abbrev RSStar.descriptor : GPBDescriptor :=
  optionalMessage 1 RSIdPair.descriptor <| optional 2 .uint32 <| optional 3 .string <| optional 4 .uint32 <|
    optionalMessage 5 RSStarImg.descriptor <| optionalMessage 6 RSStarVideo.descriptor <|
    repeatedMessage 7 RSComment.descriptor .nil

-- type, userName
abbrev RSReceiver.descriptor : GPBDescriptor := optional 1 .uint32 <| repeatedString 2 .nil

-- spaceId, type, createTime, updateTime, creator, name, author, receiver, starList
abbrev RSSpace.descriptor : GPBDescriptor :=
  optionalMessage 1 RSIdPair.descriptor <| optional 2 .uint32 <| optional 3 .uint32 <| optional 4 .uint32 <|
    optional 5 .string <| optional 6 .string <| repeatedString 7 <| optionalMessage 8 RSReceiver.descriptor <|
    repeatedMessage 9 RSStar.descriptor .nil

/-! ## Requests and responses

A request has `baseReq` under the number 1, and a response has `baseResp` there. -/

inductive RSReqClass where
  | RSLoginReq
  | RSRegisterFaceReq
  | RSSyncReq
  | RSAddFriendReq
  | RSGetAllContactReq
  | RSCreateSpaceReq
  | RSAddStarReq
  | RSAddCommentReq
  | RSGetAllSpaceReq
  | RSGetAllMySpaceReq
  deriving DecidableEq, Repr

namespace RSReqClass

/-- The fields after `baseReq`. -/
abbrev fields : RSReqClass → GPBDescriptor
  | RSLoginReq => optional 2 .string .nil
  | RSRegisterFaceReq => repeatedMessage 2 RSFaceBuffer.descriptor .nil
  | RSSyncReq => optional 2 .bytes <| optional 3 .uint32 .nil
  | RSAddFriendReq => optional 2 .string .nil
  | RSGetAllContactReq => .nil
  | RSCreateSpaceReq => optionalMessage 2 RSSpace.descriptor .nil
  | RSAddStarReq => optionalMessage 2 RSIdPair.descriptor <| repeatedMessage 3 RSStar.descriptor .nil
  | RSAddCommentReq =>
      optionalMessage 2 RSIdPair.descriptor <| optionalMessage 3 RSIdPair.descriptor <|
        optionalMessage 4 RSComment.descriptor .nil
  | RSGetAllSpaceReq => .nil
  | RSGetAllMySpaceReq => .nil

abbrev descriptor (reqClass : RSReqClass) : GPBDescriptor :=
  optionalMessage 1 RSBaseReq.descriptor reqClass.fields

end RSReqClass

inductive RSRespClass where
  | RSLoginResp
  | RSRegisterFaceResp
  | RSSyncResp
  | RSAddFriendResp
  | RSGetAllContactResp
  | RSCreateSpaceResp
  | RSAddStarResp
  | RSAddCommentResp
  | RSGetAllSpaceResp
  | RSGetAllMySpaceResp
  deriving DecidableEq, Repr

namespace RSRespClass

/-- The fields after `baseResp`. -/
abbrev fields : RSRespClass → GPBDescriptor
  | RSLoginResp =>
      optional 2 .uint32 <| optional 3 .string <| optional 4 .bytes <| optional 5 .string <|
        optionalMessage 6 RSProfile.descriptor <| optional 7 .uint64 .nil
  | RSRegisterFaceResp => .nil
  | RSSyncResp =>
      optional 2 .bytes <| optional 3 .uint32 <| repeatedMessage 4 RSContact.descriptor <|
        repeatedMessage 5 RSGroup.descriptor .nil
  | RSAddFriendResp => optional 2 .uint32 <| repeatedMessage 3 RSContact.descriptor .nil
  | RSGetAllContactResp => repeatedMessage 2 RSContact.descriptor .nil
  | RSCreateSpaceResp => optionalMessage 2 RSIdPair.descriptor <| repeatedMessage 3 RSIdPair.descriptor .nil
  | RSAddStarResp => repeatedMessage 2 RSIdPair.descriptor .nil
  | RSAddCommentResp => optionalMessage 2 RSIdPair.descriptor .nil
  | RSGetAllSpaceResp => repeatedMessage 2 RSSpace.descriptor .nil
  | RSGetAllMySpaceResp => repeatedMessage 2 RSSpace.descriptor .nil

abbrev descriptor (respClass : RSRespClass) : GPBDescriptor :=
  optionalMessage 1 RSBaseResp.descriptor respClass.fields

end RSRespClass

end RealSocial
