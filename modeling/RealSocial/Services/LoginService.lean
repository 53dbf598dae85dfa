import RealSocial.Services.NetWorkService

namespace RealSocial

open Library

structure RSLoginInfoModel where
  wxuid : Option String := none
  sessionKey : Option NSData := none
  qiniuToken : Option String := none
  uin : UInt64 := 0
  opCode : UInt32 := 0
  deriving DecidableEq, Repr

namespace RSLoginInfoModel

def uid (info : RSLoginInfoModel) : String :=
  match info.wxuid with
  | some wxuid => if 0 < wxuid.length then wxuid else ""
  | none => ""

def updateWithLoginInfo (loginInfo : RSLoginResp) : RSLoginInfoModel where
  wxuid := some loginInfo.userName
  sessionKey := some loginInfo.sessionKey
  qiniuToken := some loginInfo.qiniuToken
  uin := loginInfo.uin
  opCode := loginInfo.opCode

def clear (info : RSLoginInfoModel) : RSLoginInfoModel :=
  { info with wxuid := some "", sessionKey := none }

end RSLoginInfoModel

structure RSLoginService where
  loginInfo : RSLoginInfoModel := {}
  keychain : Option RSLoginInfoModel := none
  logoutUid : String := ""
  deriving DecidableEq, Repr

namespace RSLoginService

def isLogined (service : RSLoginService) : Bool :=
  match service.loginInfo.sessionKey with
  | none => false
  | some sessionKey => if sessionKey.length ≤ 0 then false else true

def saveLoginInfo (service : RSLoginService) : RSLoginService :=
  { service with keychain := some service.loginInfo }

def updateWithLoginResp (resp : RSLoginResp) (service : RSLoginService) : RSLoginService :=
  { service with loginInfo := .updateWithLoginInfo resp }.saveLoginInfo

-- `init` when the application starts again: the login information comes from the keychain
def restart (service : RSLoginService) : RSLoginService :=
  { loginInfo := service.keychain.getD {}, keychain := service.keychain, logoutUid := "" }

def logout (service : RSLoginService) : RSLoginService :=
  let logoutUid := if 0 < service.loginInfo.uid.length then service.loginInfo.uid else service.logoutUid
  { service with logoutUid, loginInfo := service.loginInfo.clear }.saveLoginInfo

theorem isLogined_updateWithLoginResp (resp : RSLoginResp) (service : RSLoginService) :
    (service.updateWithLoginResp resp).isLogined = true ↔ resp.sessionKey ≠ [] := by
  have length : (service.updateWithLoginResp resp).isLogined =
      if resp.sessionKey.length ≤ 0 then false else true := rfl
  rw [length]
  cases resp.sessionKey with
  | nil => simp
  | cons byte bytes => simp

end RSLoginService

def RSLoginResp.respClass (parseFromData : NSData → Except NSError RSLoginResp) : RespClass RSLoginResp where
  parseFromData := parseFromData
  baseResp resp := some resp.baseResp

/-- A login under way: the account, how often `loginSignal` has fired, and what was sent to the signal
that the call returned. -/
structure WXLogin where
  service : RSLoginService
  loginSignal : Nat := 0
  signal : List (SignalEvent Empty NSError) := []

namespace WXLogin

def onEvent (login : WXLogin) : SignalEvent (RSObject RSLoginResp) NSError → WXLogin
  | .next (.resp resp) =>
      { service := login.service.updateWithLoginResp resp
        loginSignal := login.loginSignal + 1
        signal := login.signal ++ [.completed] }
  -- a request with a response class delivers only messages
  | .next (.response _) => login
  | .error error => { login with signal := login.signal ++ [.error error] }
  | .completed => { login with signal := login.signal ++ [.completed] }

end WXLogin

def RSLoginService.WXLoginWithAppid (parsePKG : NSData → Option RSPKG)
    (parseFromData : NSData → Except NSError RSLoginResp) (outcome : Except NSError NSData)
    (service : RSLoginService) : WXLogin :=
  let request := RSRequestFactory.requestWithReqResp true (some (RSLoginResp.respClass parseFromData)) none
  (RSNetWorkService.sendRequest parsePKG request outcome).foldl WXLogin.onEvent { service }

/-- The part of `RSRequestFactory` that every request but the login itself goes through. -/
def RSRequestFactory.baseReq (service : RSLoginService) : RSBaseReq where
  uin := service.loginInfo.uin.toUInt32

end RealSocial
