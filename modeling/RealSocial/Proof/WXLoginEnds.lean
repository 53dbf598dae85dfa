import RealSocial.Library.Attempts
import RealSocial.Library.Run
import RealSocial.Proof.LoginAgreement
import RealSocial.System.WXLoginRuns

namespace RealSocial.Proof

open Library SignalEvent WXLoginRuns

/-! # The ends of the WeChat logins -/

/-- The invariant: the instance variable refers to the last signal, and once WeChat has responded to that
attempt, a request is on its way that will end it. -/
structure LoginInvariant (state : WXLoginRuns) : Prop where
  current : ∀ n, state.service.loginSignal = some n ↔ n + 1 = state.service.signals.length
  attempts : ∀ n ∈ state.responded, n < state.service.signals.length
  underway : ∀ n, n + 1 = state.service.signals.length → n ∈ state.responded →
    (∃ request ∈ state.service.requests, request.answered = false) ∨
      Subjects.Ended n state.service.signals

def EarlierEnded (state : WXLoginRuns) : Prop :=
  ∀ n, n + 1 < state.service.signals.length → Subjects.Ended n state.service.signals

/-! ## What the steps do -/

@[simp] theorem send_loginSignal (event : SignalEvent Unit NSError) (service : WXApiService) :
    (service.send event).loginSignal = service.loginSignal := by
  unfold WXApiService.send
  cases current : service.loginSignal with
  | none => exact current
  | some n => rfl

@[simp] theorem send_requests (event : SignalEvent Unit NSError) (service : WXApiService) :
    (service.send event).requests = service.requests := by
  unfold WXApiService.send
  cases service.loginSignal with
  | none => rfl
  | some n => rfl

theorem send_signals {service : WXApiService} {n : Nat} (current : service.loginSignal = some n)
    (event : SignalEvent Unit NSError) :
    (service.send event).signals = Subjects.sendTo n event service.signals := by
  unfold WXApiService.send
  rw [current]

@[simp] theorem length_send (event : SignalEvent Unit NSError) (service : WXApiService) :
    (service.send event).signals.length = service.signals.length := by
  cases current : service.loginSignal with
  | none =>
      unfold WXApiService.send
      rw [current]
  | some n => rw [send_signals current, Subjects.length_sendTo]

/-- Only the signal that the instance variable refers to is ended. -/
theorem ended_send_of_ne {n : Nat} {service : WXApiService} (notCurrent : service.loginSignal ≠ some n)
    (event : SignalEvent Unit NSError) :
    Subjects.Ended n (service.send event).signals ↔ Subjects.Ended n service.signals := by
  cases current : service.loginSignal with
  | none =>
      unfold WXApiService.send
      rw [current]
  | some m =>
      rw [send_signals current]
      apply Subjects.ended_sendTo_of_ne
      rintro rfl
      exact notCurrent current

theorem login_signals (service : WXApiService) :
    service.login.signals = service.signals ++ [[]] ∧
      service.login.loginSignal = some service.signals.length ∧
      service.login.requests = service.requests := by
  unfold WXApiService.login
  dsimp only
  split_ifs
  · exact ⟨rfl, rfl, rfl⟩
  · exact ⟨rfl, rfl, rfl⟩

theorem onResp_sendAuthResp (service : WXApiService) (errCode : Int) (code : String) :
    service.onResp (.sendAuthResp errCode code) =
      { service.send (.next ()) with
        requests := (service.send (.next ())).requests ++ [{ code, errCode }] } := by
  rw [WXApiService.onResp, Bool.or_true, if_pos rfl]

/-- An answer to an open request settles it and ends whichever signal is the last one. -/
inductive AnswerStep (service : WXApiService) (i : Nat) : WXApiService → Prop where
  | ignored : AnswerStep service i service
  | settled (request : LoginRequest) (other : WXApiService) (event : SignalEvent Unit NSError)
      (there : service.requests[i]? = some request) (terminal : event.isTerminal = true)
      (loginSignal : other.loginSignal = service.loginSignal) (signals : other.signals = service.signals)
      (requests : other.requests = service.requests.set i { request with answered := true }) :
      AnswerStep service i (other.send event)

theorem answerStep_answer (parsePKG : NSData → Option RSPKG)
    (parseFromData : NSData → Except NSError RSLoginResp) (i : Nat) (outcome : Except NSError NSData)
    (service : WXApiService) :
    AnswerStep service i (service.answer parsePKG parseFromData i outcome) := by
  unfold WXApiService.answer
  cases there : service.requests[i]? with
  | none => exact .ignored
  | some request =>
      dsimp only
      by_cases answered : request.answered = true
      · rw [if_pos answered]
        exact .ignored
      · rw [if_neg answered]
        have ended := loginEnd_WXLoginWithAppid parsePKG parseFromData outcome service.loginService
        rcases ended.received_signal with ⟨error, failed⟩ | completed
        · rw [failed]
          exact .settled request _ (.error error) there rfl rfl rfl rfl
        · rw [completed]
          exact .settled request _ .completed there rfl rfl rfl rfl

/-! ## The invariant -/

theorem loginInvariant_start (loginService : RSLoginService) : LoginInvariant (start loginService) where
  current n := by simp [start]
  attempts n member := by cases member
  underway n last := by cases last

variable {parsePKG : NSData → Option RSPKG} {parseFromData : NSData → Except NSError RSLoginResp}

theorem loginInvariant_login {state : WXLoginRuns} (inv : LoginInvariant state) :
    LoginInvariant (step parsePKG parseFromData state .login) := by
  obtain ⟨signals, current, requests⟩ := login_signals state.service
  have length : state.service.login.signals.length = state.service.signals.length + 1 := by
    rw [signals, List.length_append, List.length_singleton]
  constructor
  · intro n
    dsimp only [step]
    rw [current, length, Option.some.injEq, Nat.add_right_cancel_iff]
    exact eq_comm
  · intro n member
    dsimp only [step]
    rw [length]
    exact Nat.lt_succ_of_lt (inv.attempts n member)
  · intro n last member
    dsimp only [step] at last member
    rw [length] at last
    have before := inv.attempts n member
    omega

theorem mem_recorded {state : WXLoginRuns} {n attempt : Nat} {errCode : Int} {code : String}
    (member : n ∈ state.recorded attempt (.sendAuthResp errCode code)) :
    n ∈ state.responded ∨ n < state.service.signals.length := by
  unfold recorded at member
  split_ifs at member with known
  · rcases List.mem_cons.mp member with rfl | before
    · exact .inr known
    · exact .inl before
  · exact .inl member

theorem loginInvariant_onResp {state : WXLoginRuns} (inv : LoginInvariant state) (attempt : Nat)
    (resp : BaseResp) : LoginInvariant (step parsePKG parseFromData state (.onResp attempt resp)) := by
  cases resp with
  | other => exact inv
  | sendAuthResp errCode code =>
      constructor
      · intro n
        dsimp only [step]
        rw [onResp_sendAuthResp]
        dsimp only
        rw [send_loginSignal, length_send]
        exact inv.current n
      · intro n member
        dsimp only [step] at member ⊢
        rw [onResp_sendAuthResp]
        dsimp only
        rw [length_send]
        rcases mem_recorded member with before | known
        · exact inv.attempts n before
        · exact known
      · intro n _ _
        dsimp only [step]
        rw [onResp_sendAuthResp]
        exact .inl ⟨{ code, errCode }, List.mem_append_right _ (List.mem_singleton_self _), rfl⟩

theorem loginInvariant_answered {state : WXLoginRuns} (inv : LoginInvariant state) {i : Nat}
    {after : WXApiService} (answered : AnswerStep state.service i after) :
    LoginInvariant { state with service := after } := by
  cases answered with
  | ignored => exact inv
  | settled request other event there terminal loginSignal signals requests =>
      have length : (other.send event).signals.length = state.service.signals.length := by
        rw [length_send, signals]
      constructor
      · intro n
        dsimp only
        rw [send_loginSignal, loginSignal, length]
        exact inv.current n
      · intro n member
        dsimp only
        rw [length]
        exact inv.attempts n member
      · intro n last _
        dsimp only at last ⊢
        rw [length] at last
        have current := loginSignal.trans ((inv.current n).mpr last)
        have inside : n < other.signals.length := by
          rw [signals, ← last]
          exact n.lt_succ_self
        apply Or.inr
        rw [send_signals current, Subjects.ended_sendTo_self]
        exact .inr ⟨inside, terminal⟩

theorem loginInvariant_step (state : WXLoginRuns) (event : WXLoginEvent) (inv : LoginInvariant state) :
    LoginInvariant (step parsePKG parseFromData state event) := by
  cases event with
  | login => exact loginInvariant_login inv
  | onResp attempt resp => exact loginInvariant_onResp inv attempt resp
  | answer i outcome =>
      exact loginInvariant_answered inv (answerStep_answer parsePKG parseFromData i outcome state.service)

/-! ## The ends of the earlier signals -/

theorem earlierEnded_send {service : WXApiService}
    (current : ∀ n, service.loginSignal = some n ↔ n + 1 = service.signals.length)
    (event : SignalEvent Unit NSError) :
    (∀ n, n + 1 < (service.send event).signals.length → Subjects.Ended n (service.send event).signals) ↔
      ∀ n, n + 1 < service.signals.length → Subjects.Ended n service.signals := by
  rw [length_send]
  apply forall_congr'
  intro n
  apply imp_congr_right
  intro earlier
  apply ended_send_of_ne
  intro isCurrent
  have last := (current n).mp isCurrent
  omega

theorem earlierEnded_answered {state : WXLoginRuns} (inv : LoginInvariant state) {i : Nat}
    {after : WXApiService} (answered : AnswerStep state.service i after) :
    EarlierEnded { state with service := after } ↔ EarlierEnded state := by
  cases answered with
  | ignored => exact Iff.rfl
  | settled request other event there terminal loginSignal signals requests =>
      have current : ∀ n, other.loginSignal = some n ↔ n + 1 = other.signals.length := by
        rw [loginSignal, signals]
        exact inv.current
      have sent := earlierEnded_send current event
      rw [signals] at sent
      exact sent

theorem earlierEnded_login {state : WXLoginRuns} (inv : LoginInvariant state) :
    EarlierEnded (step parsePKG parseFromData state .login) ↔
      EarlierEnded state ∧ StartsAlone state .login := by
  obtain ⟨signals, -, -⟩ := login_signals state.service
  have length : state.service.login.signals.length = state.service.signals.length + 1 := by
    rw [signals, List.length_append, List.length_singleton]
  dsimp only [EarlierEnded, step, StartsAlone]
  rw [length, signals]
  constructor
  · intro ended
    constructor
    · intro n earlier
      exact (Subjects.ended_new n _).mp (ended n (by omega))
    · intro n current
      have last := (inv.current n).mp current
      exact (Subjects.ended_new n _).mp (ended n (by omega))
  · rintro ⟨earlier, alone⟩ n before
    apply (Subjects.ended_new n _).mpr
    by_cases last : n + 1 = state.service.signals.length
    · exact alone n ((inv.current n).mpr last)
    · exact earlier n (by omega)

theorem earlierEnded_step (state : WXLoginRuns) (event : WXLoginEvent) (inv : LoginInvariant state) :
    EarlierEnded (step parsePKG parseFromData state event) ↔
      EarlierEnded state ∧ StartsAlone state event := by
  cases event with
  | login => exact earlierEnded_login inv
  | onResp attempt resp =>
      cases resp with
      | other => exact (and_iff_left trivial).symm
      | sendAuthResp errCode code =>
          dsimp only [EarlierEnded, step, StartsAlone]
          rw [onResp_sendAuthResp, and_true]
          exact earlierEnded_send inv.current (.next ())
  | answer i outcome =>
      have answered := answerStep_answer parsePKG parseFromData i outcome state.service
      exact (earlierEnded_answered inv answered).trans (and_iff_left trivial).symm

/-! ## The requests -/

theorem onlyAuthorised_iff (state : WXLoginRuns) :
    OnlyAuthorised state ↔ ∀ errCode ∈ state.service.requests.map LoginRequest.errCode, errCode = WXSuccess := by
  rw [OnlyAuthorised, List.forall_mem_map]

theorem onlyAuthorised_answered {state : WXLoginRuns} {i : Nat} {after : WXApiService}
    (answered : AnswerStep state.service i after) :
    OnlyAuthorised { state with service := after } ↔ OnlyAuthorised state := by
  cases answered with
  | ignored => exact Iff.rfl
  | settled request other event there terminal loginSignal signals requests =>
      have errCodes : (state.service.requests.set i { request with answered := true }).map LoginRequest.errCode =
          state.service.requests.map LoginRequest.errCode := map_set_of_same there rfl
      rw [onlyAuthorised_iff, onlyAuthorised_iff, send_requests, requests, errCodes]

theorem onlyAuthorised_step (state : WXLoginRuns) (event : WXLoginEvent) :
    OnlyAuthorised (step parsePKG parseFromData state event) ↔ OnlyAuthorised state ∧ event.Authorises := by
  cases event with
  | login =>
      obtain ⟨-, -, requests⟩ := login_signals state.service
      dsimp only [OnlyAuthorised, step]
      rw [requests]
      exact (and_iff_left trivial).symm
  | onResp attempt resp =>
      cases resp with
      | other => exact (and_iff_left trivial).symm
      | sendAuthResp errCode code =>
          dsimp only [OnlyAuthorised, step, WXLoginEvent.Authorises]
          rw [onResp_sendAuthResp]
          simp only [send_requests, List.forall_mem_append, List.forall_mem_singleton]
  | answer i outcome =>
      have answered := answerStep_answer parsePKG parseFromData i outcome state.service
      exact (onlyAuthorised_answered answered).trans (and_iff_left trivial).symm

/-! ## Whole runs -/

theorem endedOnce_iff (state : WXLoginRuns) :
    EndedOnce state ↔ ∀ n < state.service.signals.length, Subjects.Ended n state.service.signals := by
  constructor
  · intro once n inside
    have ended := once _ (List.getElem_mem inside)
    exact ⟨_, List.getElem?_eq_getElem inside, (filter_received_length _).mp ended⟩
  · intro ended events member
    obtain ⟨n, inside, rfl⟩ := List.getElem_of_mem member
    obtain ⟨events, there, terminal⟩ := ended n inside
    rw [List.getElem?_eq_getElem inside] at there
    cases there
    exact (filter_received_length _).mpr terminal

/-- The last signal has ended by the time all is quiet. -/
theorem endedOnce_of_quiet {state : WXLoginRuns} (inv : LoginInvariant state) (quiet : Quiet state) :
    EndedOnce state ↔ EarlierEnded state := by
  rw [endedOnce_iff]
  constructor
  · intro ended n earlier
    exact ended n (by omega)
  · intro earlier n inside
    by_cases last : n + 1 = state.service.signals.length
    · rcases inv.underway n last (quiet.1 n inside) with ⟨request, member, pending⟩ | ended
      · exact absurd (quiet.2 request member) (by simp [pending])
      · exact ended
    · exact earlier n (by omega)

theorem logins_end_once_iff (parsePKG : NSData → Option RSPKG)
    (parseFromData : NSData → Except NSError RSLoginResp) (loginService : RSLoginService)
    (events : List WXLoginEvent) :
    ((Quiet (run (step parsePKG parseFromData) (start loginService) events) →
        EndedOnce (run (step parsePKG parseFromData) (start loginService) events)) ∧
      OnlyAuthorised (run (step parsePKG parseFromData) (start loginService) events)) ↔
    (Quiet (run (step parsePKG parseFromData) (start loginService) events) →
        EveryStep (step parsePKG parseFromData) StartsAlone (start loginService) events) ∧
      ∀ event ∈ events, event.Authorises := by
  have initially := loginInvariant_start loginService
  obtain ⟨state, stateIs⟩ :
      ∃ state, run (step parsePKG parseFromData) (start loginService) events = state := ⟨_, rfl⟩
  have inv : LoginInvariant (run (step parsePKG parseFromData) (start loginService) events) :=
    invariant_run loginInvariant_step initially events
  have alone : EarlierEnded (run (step parsePKG parseFromData) (start loginService) events) ↔ _ :=
    run_iff_everyStep loginInvariant_step earlierEnded_step initially events
  have authorised : OnlyAuthorised (run (step parsePKG parseFromData) (start loginService) events) ↔ _ :=
    run_iff_everyStep loginInvariant_step (fun s e _ => onlyAuthorised_step s e) initially events
  have noneYet : EarlierEnded (start loginService) := by
    intro n earlier
    cases earlier
  have noRequest : OnlyAuthorised (start loginService) := by
    intro request member
    cases member
  rw [and_iff_right noneYet] at alone
  rw [and_iff_right noRequest, everyStep_iff_forall] at authorised
  rw [authorised, ← alone]
  rw [stateIs] at inv ⊢
  apply and_congr_left
  intro _
  apply imp_congr_right
  intro quiet
  exact endedOnce_of_quiet inv quiet

/-- The user cancels, and the login goes to the server. -/
theorem cancelled_login_is_sent :
    let state := run (step (fun _ => none) fun _ => .ok {}) (start {})
      [.login, .onResp 0 (.sendAuthResp (-2) "")]
    ¬((Quiet state → EndedOnce state) ∧ OnlyAuthorised state) := by
  intro state both
  have sent := both.2 { code := "", errCode := -2 } (List.mem_singleton_self _)
  exact absurd sent (by decide)

end RealSocial.Proof
