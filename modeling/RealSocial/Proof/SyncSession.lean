import RealSocial.Library.Run
import RealSocial.Proof.SyncHandlers
import RealSocial.System.SyncServer
import RealSocial.System.SyncSession

namespace RealSocial.Proof

open Library RSSyncService

/-! # Requests are bound to the session and the cursor they were sent with -/

def Current (state : RSSyncState) (s : RSSyncSubscription) : Prop :=
  s.uid = state.uid ∧ s.logouts = state.logouts ∧ s.req.syncBuff = state.syncBuff

structure Bound (state : RSSyncState) : Prop where
  single : SingleFlight state
  current : state.login.isLogined = true → ∀ i s, Waiting i s state → Current state s

theorem bound_launch (login : RSLoginService) (contacts : ContactTable) (keyValues : KeyValueTable) :
    Bound (launch login contacts keyValues) := by
  refine ⟨singleFlight_launch login contacts keyValues, ?_⟩
  intro _ i s waiting
  exact absurd waiting not_waiting_launch

theorem Bound.dispose {state : RSSyncState} (bound : Bound state) (i : Nat) : Bound (dispose i state) := by
  refine ⟨bound.single.dispose i, ?_⟩
  intro logined j s waiting
  exact bound.current logined j s (waiting_dispose.mp waiting).1

theorem bound_loadData {state : RSSyncState} (single : SingleFlight state) : Bound (loadData state) := by
  refine ⟨single.loadData, ?_⟩
  intro logined i s waiting
  rw [loadData_login] at logined
  rcases (waiting_loadData logined).mp waiting with ⟨-, rfl⟩ | ⟨old, notCurrent⟩
  · exact ⟨by simp [newSubscription], by simp [newSubscription],
      by simp [newSubscription, syncReq]⟩
  · exact absurd (single i s old) notCurrent

theorem Bound.response {state : RSSyncState} (bound : Bound state) (i : Nat) (contactOk cursorOk : Bool)
    (resp : RSSyncResp) : Bound (response i contactOk cursorOk resp state) := by
  by_cases live : Live i state
  · by_cases parsed : resp.baseResp.errCode = 0
    · rw [response_of_next parsed live]
      have single : SingleFlight (written contactOk cursorOk resp state) := bound.single
      split_ifs
      · exact (bound_loadData single).dispose i
      · refine ⟨single.dispose i, ?_⟩
        intro _ j s waiting
        obtain ⟨waiting, other⟩ := waiting_dispose.mp waiting
        obtain ⟨t, first⟩ := live_iff.mp live
        exact absurd (bound.single.unique waiting first) other
    · rw [response_of_error parsed live]
      exact bound.dispose i
  · rw [response_of_not_live live]
    exact bound

theorem bound_step (state : RSSyncState) (event : SyncEvent) (bound : Bound state) :
    Bound (step state event) := by
  cases event with
  | loadData => exact bound_loadData bound.single
  | response i contactOk cursorOk resp => exact bound.response i contactOk cursorOk resp
  | sendError i => exact bound.dispose i
  | login resp =>
      have single : SingleFlight { state with login := state.login.updateWithLoginResp resp } :=
        bound.single
      exact bound_loadData single
  | logout =>
      refine ⟨bound.single, ?_⟩
      intro logined
      contradiction

/-! ## Within one session -/

def WithinSession (uid : String) : SyncEvent → Prop
  | .login resp => resp.userName = uid ∧ resp.sessionKey ≠ []
  | .logout => False
  | _ => True

def AnswersRequest (server : SyncServer) (state : RSSyncState) : SyncEvent → Prop
  | .response i _ _ resp => ∀ s, Waiting i s state → resp.baseResp.errCode = 0 →
      server s.req.syncBuff = some resp
  | _ => True

def AtMostOneLive (state : RSSyncState) : Prop := ∀ i j, Live i state → Live j state → i = j

def AppliedAtItsCursor (state : RSSyncState) : SyncEvent → Prop
  | .response i _ _ resp => ∀ s, Waiting i s state → resp.baseResp.errCode = 0 →
      s.req.syncBuff = state.syncBuff
  | _ => True

structure InSession (uid : String) (state : RSSyncState) : Prop where
  bound : Bound state
  logined : state.login.isLogined = true
  account : state.uid = uid

theorem response_login (i : Nat) (contactOk cursorOk : Bool) (resp : RSSyncResp) (state : RSSyncState) :
    (response i contactOk cursorOk resp state).login = state.login := by
  by_cases live : Live i state
  · by_cases parsed : resp.baseResp.errCode = 0
    · rw [response_of_next parsed live]
      split_ifs <;> simp
    · rw [response_of_error parsed live]
      rfl
  · rw [response_of_not_live live]

theorem uid_updateWithLoginResp (resp : RSLoginResp) (service : RSLoginService) :
    (service.updateWithLoginResp resp).loginInfo.uid = resp.userName := by
  by_cases empty : resp.userName = ""
  · simp [RSLoginService.updateWithLoginResp, RSLoginService.saveLoginInfo,
      RSLoginInfoModel.updateWithLoginInfo, RSLoginInfoModel.uid, empty]
  · have positive : 0 < resp.userName.length := by
      rw [Nat.pos_iff_ne_zero, ne_eq, String.length_eq_zero_iff]
      exact empty
    simp [RSLoginService.updateWithLoginResp, RSLoginService.saveLoginInfo,
      RSLoginInfoModel.updateWithLoginInfo, RSLoginInfoModel.uid, positive]

theorem inSession_step {uid : String} (state : RSSyncState) (event : SyncEvent)
    (inSession : InSession uid state) (inside : WithinSession uid event) :
    InSession uid (step state event) := by
  refine ⟨bound_step state event inSession.bound, ?_, ?_⟩
  · cases event with
    | loadData => simpa [step] using inSession.logined
    | response i contactOk cursorOk resp =>
        rw [step, response_login]
        exact inSession.logined
    | sendError i => exact inSession.logined
    | login resp =>
        simp only [step, login, loadData_login]
        exact (RSLoginService.isLogined_updateWithLoginResp resp state.login).mpr inside.2
    | logout => contradiction
  · cases event with
    | loadData => simpa [step] using inSession.account
    | response i contactOk cursorOk resp =>
        rw [step, RSSyncState.uid, response_login]
        exact inSession.account
    | sendError i => exact inSession.account
    | login resp =>
        simp only [step, login, loadData_uid]
        exact (uid_updateWithLoginResp resp state.login).trans inside.1
    | logout => contradiction

theorem InSession.atMostOneLive {uid : String} {state : RSSyncState} (inSession : InSession uid state) :
    AtMostOneLive state := by
  intro i j first second
  obtain ⟨s, first⟩ := live_iff.mp first
  obtain ⟨t, second⟩ := live_iff.mp second
  exact inSession.bound.single.unique first second

theorem InSession.appliedAtItsCursor {uid : String} {state : RSSyncState} (inSession : InSession uid state)
    (event : SyncEvent) : AppliedAtItsCursor state event := by
  cases event with
  | response i contactOk cursorOk resp =>
      intro s waiting _
      exact (inSession.bound.current inSession.logined i s waiting).2.2
  | _ => trivial

theorem cursor_response {state : RSSyncState} {i : Nat} {contactOk cursorOk : Bool} {resp : RSSyncResp} :
    (response i contactOk cursorOk resp state).cursor = state.cursor ∨
    (∃ s, Waiting i s state) ∧ resp.baseResp.errCode = 0 ∧
      (response i contactOk cursorOk resp state).cursor = some resp.syncBuff := by
  by_cases live : Live i state
  · by_cases parsed : resp.baseResp.errCode = 0
    · have cursor : (response i contactOk cursorOk resp state).cursor =
          (written contactOk cursorOk resp state).cursor := by
        rw [response_of_next parsed live]
        split_ifs <;> simp
      rw [cursor, written_cursor]
      split_ifs
      · exact .inr ⟨live_iff.mp live, parsed, rfl⟩
      · exact .inl rfl
    · rw [response_of_error parsed live]
      exact .inl rfl
  · rw [response_of_not_live live]
    exact .inl rfl

theorem cursor_step {server : SyncServer} {uid : String} {state : RSSyncState} {event : SyncEvent}
    (inSession : InSession uid state) (inside : WithinSession uid event)
    (answers : AnswersRequest server state event) :
    Relation.ReflTransGen server.feed.Advance state.cursor (step state event).cursor := by
  cases event with
  | loadData =>
      rw [step, loadData_cursor]
  | response i contactOk cursorOk resp =>
      rw [step]
      rcases cursor_response with same | ⟨⟨s, waiting⟩, parsed, stored⟩
      · rw [same]
      · have page := answers s waiting parsed
        rw [(inSession.bound.current inSession.logined i s waiting).2.2, RSSyncState.syncBuff_eq] at page
        rw [stored]
        exact .single ⟨resp, page, rfl⟩
  | sendError i => exact .refl
  | login resp =>
      have account : (state.login.updateWithLoginResp resp).loginInfo.uid = state.uid := by
        rw [uid_updateWithLoginResp, inside.1, inSession.account]
      have same : (step state (.login resp)).cursor = state.cursor := by
        rw [step, login, loadData_cursor]
        unfold RSSyncState.cursor
        rw [RSSyncState.uid, account]
      rw [same]
  | logout => contradiction

structure SingleFlightSession (state : RSSyncState) (events : List SyncEvent) : Prop where
  atMostOne : EveryState step AtMostOneLive state events
  applied : EveryStep step AppliedAtItsCursor state events
  forward : ∀ server, EveryStep step (AnswersRequest server) state events →
    ∀ earlier later, events = earlier ++ later → Relation.ReflTransGen server.feed.Advance
      (run step state earlier).cursor (run step state events).cursor

theorem session_singleFlight (login : RSLoginService) (contacts : ContactTable) (keyValues : KeyValueTable)
    (before events : List SyncEvent)
    (logined : (run step (launch login contacts keyValues) before).login.isLogined = true)
    (session : ∀ event ∈ events,
      WithinSession (run step (launch login contacts keyValues) before).uid event) :
    SingleFlightSession (run step (launch login contacts keyValues) before) events := by
  have bound := invariant_run bound_step (bound_launch login contacts keyValues) before
  generalize run step (launch login contacts keyValues) before = start at *
  have inSession : InSession start.uid start := ⟨bound, logined, rfl⟩
  have states := everyState_of_steps inSession_step inSession (everyStep_of_forall session start)
  refine ⟨states.mono fun _ inSession => inSession.atMostOneLive, ?_, ?_⟩
  · exact everyStep_of_everyState (fun _ event inSession _ => inSession.appliedAtItsCursor event) states
      (everyStep_true start events)
  · rintro server answers earlier later rfl
    have valid : EveryStep step
        (fun state event => WithinSession start.uid event ∧ AnswersRequest server state event) start
        (earlier ++ later) := (everyStep_of_forall session start).and answers
    have moves : EveryStep step (fun state event =>
        Relation.ReflTransGen server.feed.Advance state.cursor (step state event).cursor) start
        (earlier ++ later) := by
      apply everyStep_of_everyState _ states valid
      intro state event inSession valid
      exact cursor_step inSession valid.1 valid.2
    rw [run_append]
    exact run_reflTransGen (everyStep_append.mp moves).2

def loginOf (uid : String) : SyncEvent := .login { userName := uid, sessionKey := [1] }

def contactPage (syncBuff : NSData) (isEnd : UInt32) (uid : String) : RSSyncResp :=
  { syncBuff, isEnd, contactListArray := [{ userName := uid }] }

theorem session_singleFlight_alice :
    SingleFlightSession (run step (launch {} ∅ ∅) [loginOf "bob", .logout, loginOf "alice"])
      [.response 0 true true (contactPage [9] 0 "carol"), .loadData, .response 2 true true (contactPage [1] 0 "dave"),
        .response 3 true true (contactPage [2] 1 "erin")] :=
  session_singleFlight {} ∅ ∅ [loginOf "bob", .logout, loginOf "alice"] _ (by decide)
    (by simp [WithinSession])

/-! ## Across sessions -/

structure AccountBound (state : RSSyncState) (event : SyncEvent) : Prop where
  ownKey : ∀ key, (step state event).keyValues.find key ≠ state.keyValues.find key →
    ∃ i contactOk cursorOk resp s, event = .response i contactOk cursorOk resp ∧ Waiting i s state ∧
      key = WCDB.cString (RSKeyValueService.realKey s.uid kKeyValueSyncBuff)
  afterLogout : ∀ i contactOk cursorOk resp s, event = .response i contactOk cursorOk resp →
    Waiting i s state → s.logouts < state.logouts →
    (step state event).contacts = state.contacts ∧ (step state event).keyValues = state.keyValues

/-- A response that reaches its subscription arrives while an account is logged in, or still within
the session that sent its request, or carries nothing that gets written. -/
def ArrivesInSession (state : RSSyncState) : SyncEvent → Prop
  | .response i contactOk _ resp => ∀ s, Waiting i s state →
      state.login.isLogined = true ∨ s.uid = state.uid ∧ s.logouts = state.logouts ∨
      resp.baseResp.errCode ≠ 0 ∨ contactOk = false ∨ resp.contactListArray = []
  | _ => True

section Response

variable {state : RSSyncState} {i : Nat} {contactOk cursorOk : Bool} {resp : RSSyncResp}

theorem response_unwritten
    (nothing : resp.baseResp.errCode ≠ 0 ∨ contactOk = false ∨ resp.contactListArray = []) :
    (response i contactOk cursorOk resp state).contacts = state.contacts ∧
    (response i contactOk cursorOk resp state).keyValues = state.keyValues := by
  by_cases live : Live i state
  · by_cases parsed : resp.baseResp.errCode = 0
    · rw [(response_stores live parsed).1, (response_stores live parsed).2, written_contacts]
      rcases nothing with failed | rfl | empty
      · exact absurd parsed failed
      · exact ⟨rfl, rfl⟩
      · simp [empty, written, cursorSaved, RSContactService.rowsOf]
    · rw [response_of_error parsed live]
      exact ⟨rfl, rfl⟩
  · rw [response_of_not_live live]
    exact ⟨rfl, rfl⟩

theorem find_response {s : RSSyncSubscription} (waiting : Waiting i s state) (own : s.uid = state.uid)
    {key : String} (changed : (response i contactOk cursorOk resp state).keyValues.find key ≠
      state.keyValues.find key) :
    key = WCDB.cString (RSKeyValueService.realKey s.uid kKeyValueSyncBuff) := by
  by_contra other
  rw [own] at other
  apply changed
  by_cases parsed : resp.baseResp.errCode = 0
  · rw [(response_stores waiting.live parsed).2]
    unfold written
    split_ifs
    · exact RSKeyValueService.find_saveData_ne true resp.syncBuff state.keyValues other
    · rfl
  · rw [response_of_error parsed waiting.live]
    rfl

end Response

theorem keyValues_step {state : RSSyncState} {event : SyncEvent}
    (other : ∀ i contactOk cursorOk resp, event ≠ .response i contactOk cursorOk resp) :
    (step state event).keyValues = state.keyValues := by
  cases event with
  | loadData => exact loadData_keyValues state
  | response i contactOk cursorOk resp => exact absurd rfl (other i contactOk cursorOk resp)
  | sendError i => rfl
  | login resp => exact loadData_keyValues _
  | logout => rfl

theorem accountBound_step (state : RSSyncState) (event : SyncEvent) (bound : Bound state)
    (arrives : ArrivesInSession state event) : AccountBound state event := by
  cases event with
  | response i contactOk cursorOk resp =>
      by_cases live : Live i state
      · obtain ⟨s, waiting⟩ := live_iff.mp live
        have inTime : s.uid = state.uid ∧ s.logouts = state.logouts ∨
            resp.baseResp.errCode ≠ 0 ∨ contactOk = false ∨ resp.contactListArray = [] := by
          rcases arrives s waiting with logined | rest
          · obtain ⟨account, session, -⟩ := bound.current logined i s waiting
            exact .inl ⟨account, session⟩
          · exact rest
        constructor
        · intro key changed
          rcases inTime with ⟨own, -⟩ | nothing
          · exact ⟨i, contactOk, cursorOk, resp, s, rfl, waiting, find_response waiting own changed⟩
          · rw [step, (response_unwritten nothing).2] at changed
            exact absurd rfl changed
        · intro j contactOk' cursorOk' resp' t same waiting' earlier
          obtain ⟨rfl, rfl, rfl, rfl⟩ := SyncEvent.response.inj same
          rw [Waiting.unique waiting' waiting] at earlier
          rcases inTime with ⟨-, session⟩ | nothing
          · rw [session] at earlier
            exact absurd earlier (Nat.lt_irrefl _)
          · exact response_unwritten nothing
      · have same : step state (.response i contactOk cursorOk resp) = state := response_of_not_live live
        constructor
        · intro key changed
          rw [same] at changed
          exact absurd rfl changed
        · intro j contactOk' cursorOk' resp' t _ _ _
          rw [same]
          exact ⟨rfl, rfl⟩
  | _ =>
      constructor
      · intro key changed
        rw [keyValues_step (by simp)] at changed
        exact absurd rfl changed
      · intro i contactOk cursorOk resp s same
        contradiction

theorem session_accountBound (login : RSLoginService) (contacts : ContactTable) (keyValues : KeyValueTable)
    (events : List SyncEvent)
    (arrives : EveryStep step ArrivesInSession (launch login contacts keyValues) events) :
    EveryStep step AccountBound (launch login contacts keyValues) events :=
  everyStep_of_everyState accountBound_step
    (everyState_of_invariant bound_step (bound_launch login contacts keyValues) events) arrives

theorem session_accountBound_relogin :
    EveryStep step AccountBound (launch {} ∅ ∅)
      [loginOf "alice", .logout, loginOf "bob", .response 0 true true (contactPage [1] 1 "carol"),
        .response 1 true true (contactPage [2] 1 "dave")] :=
  session_accountBound {} ∅ ∅ _
    ⟨trivial, trivial, trivial, fun _ _ => .inl (by decide), fun _ _ => .inl (by decide), trivial⟩

def answerAfterLogout : List SyncEvent :=
  [loginOf "alice", .logout, .response 0 true true (contactPage [1] 1 "bob")]

theorem answer_after_logout_is_saved :
    ¬ EveryStep step AccountBound (launch {} ∅ ∅) answerAfterLogout ∧
    RSKeyValueService.stored "" kKeyValueSyncBuff
      (run step (launch {} ∅ ∅) answerAfterLogout).keyValues = some [1] := by
  refine ⟨?_, by decide⟩
  rintro ⟨-, -, bound, -⟩
  have live : Live 0 (run step (launch {} ∅ ∅) [loginOf "alice", .logout]) := by decide
  obtain ⟨s, waiting⟩ := live_iff.mp live
  have earlier : s.logouts < (run step (launch {} ∅ ∅) [loginOf "alice", .logout]).logouts := by
    rw [← Option.some.inj waiting.1]
    decide
  have unchanged := (bound.afterLogout 0 true true _ s rfl waiting earlier).1
  revert unchanged
  decide

end RealSocial.Proof
