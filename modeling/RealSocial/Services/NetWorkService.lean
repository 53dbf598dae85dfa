import RealSocial.Library.Signal
import RealSocial.Protoc.Base

namespace RealSocial

open Library

structure NSError where
  localizedDescription : String
  code : Int
  deriving DecidableEq, Repr

def NSError.errorWithString (msg : String) (code : Int := 0) : NSError where
  localizedDescription := msg
  code := code

/-- A class of messages `M`: its parser, and the field `baseResp` of its messages. -/
structure RespClass (M : Type) where
  parseFromData : NSData → Except NSError M
  baseResp : M → Option RSBaseResp

structure RSPKG where
  data_p : NSData := []
  deriving DecidableEq, Repr

inductive RSRequestClass where
  | RSRequest
  | RSPKGRequest
  deriving DecidableEq, Repr

structure RSRequest (M : Type) where
  requestClass : RSRequestClass
  mokeResponseData : Option NSData := none
  respClass : Option (RespClass M) := none

namespace RSRequestFactory

variable {M : Type}

def requestClass (isLoginReq : Bool) : RSRequestClass :=
  if isLoginReq then .RSRequest else .RSPKGRequest

def requestWithReq (isLoginReq : Bool) (mokeResponse : Option NSData) : RSRequest M where
  requestClass := requestClass isLoginReq
  mokeResponseData := mokeResponse

def requestWithReqResp (isLoginReq : Bool) (respClass : Option (RespClass M))
    (mokeResponse : Option NSData) : RSRequest M where
  requestClass := requestClass isLoginReq
  mokeResponseData := mokeResponse
  respClass := respClass

end RSRequestFactory

structure RSResponse where
  data : Option NSData := none
  deriving DecidableEq, Repr

def RSResponse.setData (data : NSData) : RSResponse where
  data := some data

/-- The parser of the package is asked for no error: what does not parse leaves no data. -/
def RSPKGResponse.setData (parsePKG : NSData → Option RSPKG) (data : NSData) : RSResponse where
  data := (parsePKG data).map RSPKG.data_p

inductive RSObject (M : Type) where
  | response (response : RSResponse)
  | resp (resp : M)
  deriving DecidableEq, Repr

namespace RSNetWorkService

variable {M : Type} (parsePKG : NSData → Option RSPKG)

abbrev Events (M : Type) := List (SignalEvent (RSObject M) NSError)

def responseOf (request : RSRequest M) (responseObject : NSData) : RSResponse :=
  match request.requestClass with
  | .RSPKGRequest => RSPKGResponse.setData parsePKG responseObject
  | .RSRequest => .setData responseObject

def sendResp (respClass : RespClass M) (resp : M) : Events M :=
  match respClass.baseResp resp with
  | some baseResp =>
      if baseResp.errCode ≠ 0 then
        [.error (.errorWithString baseResp.errMsg baseResp.errCode.toNat)]
      else [.next (.resp resp), .completed]
  | none => [.next (.resp resp), .completed]

def completionHandler (request : RSRequest M) : Except NSError NSData → Events M
  | .error error => [.error error]
  | .ok responseObject =>
      let response := responseOf parsePKG request responseObject
      match request.respClass with
      | none => [.next (.response response), .completed]
      | some respClass =>
          let data := response.data.getD []
          if data.length ≤ 0 then [.error (.errorWithString "reponse data is empty")]
          else
            match respClass.parseFromData data with
            | .error error => [.error error]
            | .ok resp => sendResp respClass resp

def sendDebugRequest (request : RSRequest M) : Events M :=
  [.next (.response { data := request.mokeResponseData }), .completed]

def sendRequest (request : RSRequest M) (outcome : Except NSError NSData) : Events M :=
  if request.mokeResponseData.isSome then sendDebugRequest request
  else completionHandler parsePKG request outcome

end RSNetWorkService

end RealSocial
