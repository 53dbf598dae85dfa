import RealSocial.Library.Wire
import RealSocial.Store.WCDB

namespace RealSocial

open Library.Wire

/-! # The responses to `AddStarReq` and `CreateSpaceReq` on the wire

A field that is not set is none here and not its default. Of a field that is singular the last occurrence
counts, and messages in one are merged; a field that a message does not know is passed over. -/

structure RSBaseRespFields where
  errCode : Option UInt32 := none
  errMsg : Option String := none
  deriving DecidableEq, Repr

namespace RSBaseRespFields

def fields (message : RSBaseRespFields) : List Field :=
  (message.errCode.map fun errCode => ⟨1, Nat.one_pos, .varint errCode.toNat⟩).toList ++
  (message.errMsg.map fun errMsg => ⟨2, Nat.two_pos, .lengthDelimited (utf8 errMsg)⟩).toList

def mergeField (message : RSBaseRespFields) (field : Field) : Option RSBaseRespFields :=
  match field.number, field.payload with
  | 1, .varint n => some { message with errCode := some (UInt32.ofNat n) }
  | 2, .lengthDelimited bytes => (readUtf8 bytes).map fun errMsg => { message with errMsg := some errMsg }
  | _, _ => some message

end RSBaseRespFields

structure RSIdPairFields where
  svrId : Option UInt64 := none
  clientId : Option String := none
  deriving DecidableEq, Repr

namespace RSIdPairFields

def fields (message : RSIdPairFields) : List Field :=
  (message.svrId.map fun svrId => ⟨1, Nat.one_pos, .varint svrId.toNat⟩).toList ++
  (message.clientId.map fun clientId => ⟨2, Nat.two_pos, .lengthDelimited (utf8 clientId)⟩).toList

def mergeField (message : RSIdPairFields) (field : Field) : Option RSIdPairFields :=
  match field.number, field.payload with
  | 1, .varint n => some { message with svrId := some (UInt64.ofNat n) }
  | 2, .lengthDelimited bytes =>
      (readUtf8 bytes).map fun clientId => { message with clientId := some clientId }
  | _, _ => some message

def encode (message : RSIdPairFields) : Bytes := encodeFields message.fields

end RSIdPairFields

structure RSAddStarResp where
  baseResp : Option RSBaseRespFields := none
  starIdListArray : List RSIdPairFields := []
  deriving DecidableEq, Repr

namespace RSAddStarResp

def fields (message : RSAddStarResp) : List Field :=
  (message.baseResp.map fun baseResp =>
    ⟨1, Nat.one_pos, .lengthDelimited (encodeFields baseResp.fields)⟩).toList ++
  message.starIdListArray.map fun starId => ⟨2, Nat.two_pos, .lengthDelimited starId.encode⟩

def data (message : RSAddStarResp) : NSData := encodeFields message.fields

def mergeField (message : RSAddStarResp) (field : Field) : Option RSAddStarResp :=
  match field.number, field.payload with
  | 1, .lengthDelimited bytes =>
      (parse RSBaseRespFields.mergeField (message.baseResp.getD {}) bytes).map fun baseResp =>
        { message with baseResp := some baseResp }
  | 2, .lengthDelimited bytes =>
      (parse RSIdPairFields.mergeField {} bytes).map fun starId =>
        { message with starIdListArray := message.starIdListArray ++ [starId] }
  | _, _ => some message

def parseFromData (data : NSData) : Option RSAddStarResp := parse mergeField {} data

end RSAddStarResp

structure RSCreateSpaceResp where
  baseResp : Option RSBaseRespFields := none
  spaceId : Option RSIdPairFields := none
  starIdListArray : List RSIdPairFields := []
  deriving DecidableEq, Repr

namespace RSCreateSpaceResp

def mergeField (message : RSCreateSpaceResp) (field : Field) : Option RSCreateSpaceResp :=
  match field.number, field.payload with
  | 1, .lengthDelimited bytes =>
      (parse RSBaseRespFields.mergeField (message.baseResp.getD {}) bytes).map fun baseResp =>
        { message with baseResp := some baseResp }
  | 2, .lengthDelimited bytes =>
      (parse RSIdPairFields.mergeField (message.spaceId.getD {}) bytes).map fun spaceId =>
        { message with spaceId := some spaceId }
  | 3, .lengthDelimited bytes =>
      (parse RSIdPairFields.mergeField {} bytes).map fun starId =>
        { message with starIdListArray := message.starIdListArray ++ [starId] }
  | _, _ => some message

def parseFromData (data : NSData) : Option RSCreateSpaceResp := parse mergeField {} data

end RSCreateSpaceResp

/-- `buildRequestWithPictureId:toSpaces:` makes an `RSAddStarReq` and names `RSCreateSpaceResp` as the class of
its response. -/
def RSSpaceService.readAddStarResponse (data : NSData) : Option RSCreateSpaceResp :=
  RSCreateSpaceResp.parseFromData data

end RealSocial
