import RealSocial.Proof.NetWorkAnswers
import RealSocial.Services.LoginService

namespace RealSocial.Proof

open Library SignalEvent RSLoginService

/-! # The login signals and the login information -/

def loginResp (parseFromData : NSData → Except NSError RSLoginResp) :
    Except NSError NSData → Option RSLoginResp
  | .error _ => none
  | .ok data => accepted (RSLoginResp.respClass parseFromData) data

structure LoggedInAs (resp : RSLoginResp) (service : RSLoginService) : Prop where
  logined : service.isLogined = true
  inMemory : service.loginInfo = .updateWithLoginInfo resp
  persisted : service.keychain = some (.updateWithLoginInfo resp)

/-- The two signals report a login exactly when there is one, and otherwise the login has failed and has
left the account alone. -/
def LoginAgrees (before : RSLoginService) (resp : Option RSLoginResp) (after : WXLogin) : Prop :=
  (0 < after.loginSignal ∧ terminal after.signal = some .completed ↔
    ∃ response, resp = some response ∧ LoggedInAs response after.service) ∧
  ((¬∃ response, resp = some response ∧ LoggedInAs response after.service) →
    (∃ error, terminal after.signal = some (.error error)) ∧
      after.service.loginInfo = before.loginInfo ∧ after.service.keychain = before.keychain)

theorem loggedInAs_updateWithLoginResp (resp : RSLoginResp) (service : RSLoginService) :
    LoggedInAs resp (service.updateWithLoginResp resp) ↔ resp.sessionKey ≠ [] := by
  rw [← isLogined_updateWithLoginResp resp service]
  constructor
  · intro loggedIn
    exact loggedIn.logined
  · intro logined
    exact ⟨logined, rfl, rfl⟩

/-! ## What a login does -/

/-- A refused login only fails; an accepted one completes its signal twice. -/
inductive LoginEnd (service : RSLoginService) : Option RSLoginResp → WXLogin → Prop where
  | failed (error : NSError) : LoginEnd service none { service, signal := [.error error] }
  | completed (resp : RSLoginResp) :
      LoginEnd service (some resp)
        { service := service.updateWithLoginResp resp, loginSignal := 1, signal := [.completed, .completed] }

theorem LoginEnd.received_signal {service : RSLoginService} {resp : Option RSLoginResp} {after : WXLogin}
    (ended : LoginEnd service resp after) :
    (∃ error, received after.signal = [.error error]) ∨ received after.signal = [.completed] := by
  cases ended with
  | failed error => exact .inl ⟨error, rfl⟩
  | completed resp => exact .inr rfl

theorem loginEnd_of_answered {parseFromData : NSData → Except NSError RSLoginResp} {data : NSData}
    {events : RSNetWorkService.Events RSLoginResp} (service : RSLoginService)
    (answered : Answered (RSLoginResp.respClass parseFromData) data events) :
    LoginEnd service (loginResp parseFromData (.ok data)) (events.foldl WXLogin.onEvent { service }) := by
  cases answered with
  | refused error none =>
      rw [loginResp, none]
      exact .failed error
  | resp resp some =>
      rw [loginResp, some]
      exact .completed resp

theorem loginEnd_WXLoginWithAppid (parsePKG : NSData → Option RSPKG)
    (parseFromData : NSData → Except NSError RSLoginResp) (outcome : Except NSError NSData)
    (service : RSLoginService) :
    LoginEnd service (loginResp parseFromData outcome)
      (service.WXLoginWithAppid parsePKG parseFromData outcome) := by
  cases outcome with
  | error error => exact .failed error
  | ok responseObject =>
      have hasClass : (RSRequestFactory.requestWithReqResp true
          (some (RSLoginResp.respClass parseFromData)) none).respClass =
            some (RSLoginResp.respClass parseFromData) := rfl
      exact loginEnd_of_answered service (completionHandler_answered parsePKG hasClass responseObject)

theorem loginAgrees_of_end {service : RSLoginService} {resp : Option RSLoginResp} {after : WXLogin}
    (ended : LoginEnd service resp after) :
    LoginAgrees service resp after ↔ ∀ response, resp = some response → response.sessionKey ≠ [] := by
  cases ended with
  | failed error =>
      constructor
      · intro _ resp noResp
        cases noResp
      · intro _
        constructor
        · simp
        · intro _
          exact ⟨⟨error, rfl⟩, rfl, rfl⟩
  | completed resp =>
      constructor
      · intro agrees other is
        cases is
        obtain ⟨response, is, loggedIn⟩ := agrees.1.mp ⟨Nat.one_pos, rfl⟩
        cases is
        exact (loggedInAs_updateWithLoginResp resp service).mp loggedIn
      · intro keyed
        have loggedIn := (loggedInAs_updateWithLoginResp resp service).mpr (keyed resp rfl)
        constructor
        · exact ⟨fun _ => ⟨resp, rfl, loggedIn⟩, fun _ => ⟨Nat.one_pos, rfl⟩⟩
        · intro notLoggedIn
          exact absurd ⟨resp, rfl, loggedIn⟩ notLoggedIn

theorem login_agrees_iff (parsePKG : NSData → Option RSPKG)
    (parseFromData : NSData → Except NSError RSLoginResp) (outcome : Except NSError NSData)
    (service : RSLoginService) :
    LoginAgrees service (loginResp parseFromData outcome)
        (service.WXLoginWithAppid parsePKG parseFromData outcome) ↔
      ∀ resp, loginResp parseFromData outcome = some resp → resp.sessionKey ≠ [] :=
  loginAgrees_of_end (loginEnd_WXLoginWithAppid parsePKG parseFromData outcome service)

/-- A response without a session key is reported as a login. -/
theorem keyless_login_completes :
    ¬LoginAgrees {} (loginResp (fun _ => .ok { userName := "alice" }) (.ok [10]))
      (({} : RSLoginService).WXLoginWithAppid (fun _ => none) (fun _ => .ok { userName := "alice" })
        (.ok [10])) := by
  intro agrees
  obtain ⟨resp, is, loggedIn⟩ := agrees.1.mp ⟨Nat.one_pos, rfl⟩
  cases is
  exact Bool.noConfusion loggedIn.logined

end RealSocial.Proof
