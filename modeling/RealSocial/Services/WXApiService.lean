import RealSocial.Services.LoginService

namespace RealSocial

open Library

inductive QLWeiXinLoginServiceState where
  | none
  | getCode
  | handleOpenURL
  | getAccessToken
  | getUserInfo
  | refreshAccessToken
  | tokenIsValid
  deriving DecidableEq, Repr

def WXSuccess : Int := 0

inductive BaseResp where
  | sendAuthResp (errCode : Int) (code : String)
  | other
  deriving DecidableEq, Repr

/-- A `LoginReq` that was sent, with the `errCode` of the response that it was sent for. -/
structure LoginRequest where
  code : String
  errCode : Int
  answered : Bool := false
  deriving DecidableEq, Repr

/-- `signals` holds what was sent to each signal that `login:` has returned, and `loginSignal` says which of
them the instance variable refers to. -/
structure WXApiService where
  loginService : RSLoginService
  serviceState : QLWeiXinLoginServiceState := .none
  loginSignal : Option Nat := none
  signals : List (List (SignalEvent Unit NSError)) := []
  requests : List LoginRequest := []

namespace WXApiService

def send (event : SignalEvent Unit NSError) (service : WXApiService) : WXApiService :=
  match service.loginSignal with
  | some n => { service with signals := Subjects.sendTo n event service.signals }
  | none => service

def reSet (service : WXApiService) : WXApiService := { service with serviceState := .none }

def login (service : WXApiService) : WXApiService :=
  let service := { service with
    loginSignal := some service.signals.length
    signals := service.signals ++ [[]] }
  if service.serviceState = .getAccessToken || service.serviceState = .getUserInfo ||
      service.serviceState = .refreshAccessToken then service
  else { service with serviceState := .getCode }

-- the request goes out whatever the response says
def onResp (service : WXApiService) : BaseResp → WXApiService
  | .sendAuthResp errCode code =>
      if errCode = WXSuccess || true then
        let service := service.send (.next ())
        { service with requests := service.requests ++ [{ code, errCode }] }
      else service.reSet.send (.error (.errorWithString "微信登录失败"))
  | .other => service

/-- The subscription to the signal of `WXLoginWithAppid:andCode:`, which ends whichever signal the instance
variable refers to by then. -/
def relay (service : WXApiService) : SignalEvent Empty NSError → WXApiService
  | .next value => nomatch value
  | .error error => service.send (.error error)
  | .completed => service.send .completed

def answer (parsePKG : NSData → Option RSPKG) (parseFromData : NSData → Except NSError RSLoginResp)
    (i : Nat) (outcome : Except NSError NSData) (service : WXApiService) : WXApiService :=
  match service.requests[i]? with
  | some request =>
      if request.answered then service
      else
        let login := service.loginService.WXLoginWithAppid parsePKG parseFromData outcome
        let service := { service with
          loginService := login.service
          requests := service.requests.set i { request with answered := true } }
        (SignalEvent.received login.signal).foldl relay service
  | none => service

end WXApiService

end RealSocial
