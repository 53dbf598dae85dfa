import RealSocial.Library.Run
import RealSocial.Services.LoginService

namespace RealSocial

open Library

/-! # The login service after a login, and what can be seen of it -/

def RSenLoginOpCode_LoginOpcodeRegisterFace : UInt32 := 1

def RSLoginService.hasRegisterFace (service : RSLoginService) : Bool :=
  if service.loginInfo.opCode = RSenLoginOpCode_LoginOpcodeRegisterFace then false else true

structure LoginFields where
  uid : String
  wxuid : Option String
  sessionKey : Option NSData
  qiniuToken : Option String
  uin : UInt64
  opCode : UInt32
  isLogined : Bool
  hasRegisterFace : Bool
  deriving DecidableEq, Repr

def RSLoginService.fields (service : RSLoginService) : LoginFields where
  uid := service.loginInfo.uid
  wxuid := service.loginInfo.wxuid
  sessionKey := service.loginInfo.sessionKey
  qiniuToken := service.loginInfo.qiniuToken
  uin := service.loginInfo.uin
  opCode := service.loginInfo.opCode
  isLogined := service.isLogined
  hasRegisterFace := service.hasRegisterFace

structure BuiltRequest (Req : Type) where
  baseReq : Option RSBaseReq
  req : Req
  deriving DecidableEq, Repr

/-- A request whose own fields are filled in from the login fields; all but the login itself are stamped. -/
def RSRequestFactory.built {Req : Type} (isLoginReq : Bool) (fill : LoginFields → Req)
    (service : RSLoginService) : BuiltRequest Req where
  baseReq := if isLoginReq then none else some (RSRequestFactory.baseReq service)
  req := fill service.fields

inductive LoginServiceEvent where
  | restart
  | logout
  deriving DecidableEq, Repr

namespace RSLoginService

def step (service : RSLoginService) : LoginServiceEvent → RSLoginService
  | .restart => service.restart
  | .logout => service.logout

end RSLoginService

end RealSocial
