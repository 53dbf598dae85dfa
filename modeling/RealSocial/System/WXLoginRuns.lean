import RealSocial.Services.WXApiService

namespace RealSocial

open Library

/-! # Logins over WeChat

The user starts an attempt, WeChat responds to one, and the server answers a request, in any order. -/

inductive WXLoginEvent where
  | login
  | onResp (attempt : Nat) (resp : BaseResp)
  | answer (i : Nat) (outcome : Except NSError NSData)

/-- `responded` keeps the attempts that WeChat has responded to. -/
structure WXLoginRuns where
  service : WXApiService
  responded : List Nat := []

namespace WXLoginRuns

def start (loginService : RSLoginService) : WXLoginRuns where
  service := { loginService }

def recorded (state : WXLoginRuns) (attempt : Nat) : BaseResp → List Nat
  | .sendAuthResp .. =>
      if attempt < state.service.signals.length then attempt :: state.responded else state.responded
  | .other => state.responded

def step (parsePKG : NSData → Option RSPKG) (parseFromData : NSData → Except NSError RSLoginResp)
    (state : WXLoginRuns) : WXLoginEvent → WXLoginRuns
  | .login => { state with service := state.service.login }
  | .onResp attempt resp =>
      { service := state.service.onResp resp, responded := state.recorded attempt resp }
  | .answer i outcome => { state with service := state.service.answer parsePKG parseFromData i outcome }

/-- WeChat has responded to every attempt and the server to every request. -/
def Quiet (state : WXLoginRuns) : Prop :=
  (∀ n < state.service.signals.length, n ∈ state.responded) ∧
    ∀ request ∈ state.service.requests, request.answered = true

def EndedOnce (state : WXLoginRuns) : Prop :=
  ∀ events ∈ state.service.signals, ((SignalEvent.received events).filter SignalEvent.isTerminal).length = 1

def OnlyAuthorised (state : WXLoginRuns) : Prop :=
  ∀ request ∈ state.service.requests, request.errCode = WXSuccess

/-- The attempt does not start while the signal of an earlier one is open. -/
def StartsAlone (state : WXLoginRuns) : WXLoginEvent → Prop
  | .login => ∀ n, state.service.loginSignal = some n → Subjects.Ended n state.service.signals
  | _ => True

end WXLoginRuns

def WXLoginEvent.Authorises : WXLoginEvent → Prop
  | .onResp _ (.sendAuthResp errCode _) => errCode = WXSuccess
  | _ => True

end RealSocial
