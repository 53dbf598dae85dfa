import RealSocial.Protoc.Classes
import RealSocial.Services.LoginService

namespace RealSocial

open Library

/-! # Requests and responses in packages

What `RSRequestFactory` makes of a request and what `RSNetWorkService` makes of the answer, with the messages as
bytes. -/

-- `setData:` of a request, with the bytes that are set in the end
def RSPKGRequest.setData (data : Option NSData) : Option NSData :=
  GPBMessage.data RSPKG.descriptor (some (Wire.utf8 "kuncaitest"), data, ∅)

/-- Only the `uin` is set. -/
def RSBaseReq.message (baseReq : RSBaseReq) : GPBMessage RSBaseReq.descriptor :=
  (none, some baseReq.uin, none, none, none, ∅)

def RSRequestFactory.requestData (service : RSLoginService) (reqClass : RSReqClass)
    (req : GPBMessage reqClass.descriptor) : Option NSData :=
  match requestClass (reqClass = .RSLoginReq) with
  | .RSRequest => GPBMessage.data reqClass.descriptor req
  | .RSPKGRequest =>
      RSPKGRequest.setData (GPBMessage.data reqClass.descriptor (some (baseReq service).message, req.2))

def RSPKG.parseFromData (data : NSData) : Option RSPKG :=
  (GPBMessage.parseFromData RSPKG.descriptor data).map fun pkg => { data_p := pkg.2.1.getD [] }

namespace RSRespClass

variable (respClass : RSRespClass)

def baseResp (resp : GPBMessage respClass.descriptor) : RSBaseResp :=
  match resp.1 with
  | none => {}
  | some baseResp => { errCode := baseResp.1.getD 0, errMsg := baseResp.2.1.getD "" }

/-- The class as a request has it, where `error` is what the parser reports. -/
def ofRequest (error : NSError) : RespClass (GPBMessage respClass.descriptor) where
  parseFromData data :=
    match GPBMessage.parseFromData respClass.descriptor data with
    | some resp => .ok resp
    | none => .error error
  baseResp resp := some (respClass.baseResp resp)

end RSRespClass

end RealSocial
