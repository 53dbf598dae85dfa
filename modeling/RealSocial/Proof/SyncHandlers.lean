import RealSocial.Services.SyncService

namespace RealSocial

open Library

namespace RSSyncService

/-! ## What the handlers read and write -/

@[simp] theorem dispose_login (i : Nat) (state : RSSyncState) : (dispose i state).login = state.login := rfl
@[simp] theorem dispose_contacts (i : Nat) (state : RSSyncState) :
    (dispose i state).contacts = state.contacts := rfl
@[simp] theorem dispose_keyValues (i : Nat) (state : RSSyncState) :
    (dispose i state).keyValues = state.keyValues := rfl
@[simp] theorem dispose_disp (i : Nat) (state : RSSyncState) : (dispose i state).disp = state.disp := rfl
@[simp] theorem dispose_logouts (i : Nat) (state : RSSyncState) :
    (dispose i state).logouts = state.logouts := rfl
@[simp] theorem dispose_length (i : Nat) (state : RSSyncState) :
    (dispose i state).subscriptions.length = state.subscriptions.length := by simp [dispose]
@[simp] theorem dispose_uid (i : Nat) (state : RSSyncState) : (dispose i state).uid = state.uid := rfl
@[simp] theorem dispose_cursor (i : Nat) (state : RSSyncState) : (dispose i state).cursor = state.cursor := rfl
@[simp] theorem disposeCurrent_login (state : RSSyncState) :
    (disposeCurrent state).login = state.login := by
  unfold disposeCurrent
  cases state.disp <;> rfl

@[simp] theorem disposeCurrent_contacts (state : RSSyncState) :
    (disposeCurrent state).contacts = state.contacts := by
  unfold disposeCurrent
  cases state.disp <;> rfl

@[simp] theorem disposeCurrent_keyValues (state : RSSyncState) :
    (disposeCurrent state).keyValues = state.keyValues := by
  unfold disposeCurrent
  cases state.disp <;> rfl

@[simp] theorem disposeCurrent_logouts (state : RSSyncState) :
    (disposeCurrent state).logouts = state.logouts := by
  unfold disposeCurrent
  cases state.disp <;> rfl

@[simp] theorem disposeCurrent_length (state : RSSyncState) :
    (disposeCurrent state).subscriptions.length = state.subscriptions.length := by
  unfold disposeCurrent
  cases state.disp with
  | none => rfl
  | some i => exact dispose_length i state

@[simp] theorem loadData_login (state : RSSyncState) : (loadData state).login = state.login := by
  unfold loadData subscribe
  split_ifs <;> simp

@[simp] theorem loadData_contacts (state : RSSyncState) :
    (loadData state).contacts = state.contacts := by
  unfold loadData subscribe
  split_ifs <;> simp

@[simp] theorem loadData_keyValues (state : RSSyncState) :
    (loadData state).keyValues = state.keyValues := by
  unfold loadData subscribe
  split_ifs <;> simp

@[simp] theorem loadData_logouts (state : RSSyncState) :
    (loadData state).logouts = state.logouts := by
  unfold loadData subscribe
  split_ifs <;> simp

@[simp] theorem loadData_uid (state : RSSyncState) : (loadData state).uid = state.uid := by
  simp [RSSyncState.uid]

@[simp] theorem loadData_cursor (state : RSSyncState) : (loadData state).cursor = state.cursor := by
  simp [RSSyncState.cursor]

@[simp] theorem loadData_syncBuff (state : RSSyncState) : (loadData state).syncBuff = state.syncBuff := by
  simp [RSSyncState.syncBuff]

theorem loadData_of_logout {state : RSSyncState} (logout : state.login.isLogined = false) :
    loadData state = state := by
  simp [loadData, logout]

theorem loadData_of_logined {state : RSSyncState} (logined : state.login.isLogined = true) :
    loadData state = subscribe (disposeCurrent state) := by
  simp [loadData, logined]

theorem disp_loadData {state : RSSyncState} (logined : state.login.isLogined = true) :
    (loadData state).disp = some state.subscriptions.length := by
  simp [loadData_of_logined logined, subscribe]

/-! ## Subscriptions that wait for their response -/

def Waiting (i : Nat) (s : RSSyncSubscription) (state : RSSyncState) : Prop :=
  state.subscriptions[i]? = some s ∧ s.live = true

def newSubscription (state : RSSyncState) : RSSyncSubscription where
  req := syncReq state
  uid := state.uid
  logouts := state.logouts
  live := true

theorem live_iff {i : Nat} {state : RSSyncState} : Live i state ↔ ∃ s, Waiting i s state := Iff.rfl

theorem Waiting.live {i : Nat} {s : RSSyncSubscription} {state : RSSyncState}
    (waiting : Waiting i s state) : Live i state := ⟨s, waiting⟩

theorem Waiting.unique {i : Nat} {s t : RSSyncSubscription} {state : RSSyncState}
    (first : Waiting i s state) (second : Waiting i t state) : s = t :=
  Option.some.inj (first.1.symm.trans second.1)

theorem Waiting.lt_length {i : Nat} {s : RSSyncSubscription} {state : RSSyncState}
    (waiting : Waiting i s state) : i < state.subscriptions.length :=
  (List.getElem?_eq_some_iff.mp waiting.1).1

theorem waiting_dispose {i j : Nat} {s : RSSyncSubscription} {state : RSSyncState} :
    Waiting j s (dispose i state) ↔ Waiting j s state ∧ j ≠ i := by
  unfold Waiting dispose
  rw [List.getElem?_modify]
  by_cases same : i = j
  · subst same
    simp only [if_pos, ne_eq, not_true_eq_false, and_false, iff_false, not_and]
    intro disposed
    obtain ⟨t, -, rfl⟩ := Option.map_eq_some_iff.mp disposed
    simp
  · have other : j ≠ i := fun eq => same eq.symm
    simp [same, other]

theorem waiting_disposeCurrent {j : Nat} {s : RSSyncSubscription} {state : RSSyncState} :
    Waiting j s (disposeCurrent state) ↔ Waiting j s state ∧ state.disp ≠ some j := by
  unfold disposeCurrent
  cases current : state.disp with
  | none => simp
  | some i =>
      have sides : j ≠ i ↔ some i ≠ some j := by simp [eq_comm]
      rw [waiting_dispose, sides]

theorem getElem?_concat_eq_some {α : Type} {l : List α} {a b : α} {i : Nat} :
    (l ++ [a])[i]? = some b ↔ i = l.length ∧ b = a ∨ l[i]? = some b := by
  rcases Nat.lt_trichotomy i l.length with inside | rfl | outside
  · simp [List.getElem?_append_left inside, Nat.ne_of_lt inside]
  · simp [eq_comm]
  · have beyond : (l ++ [a]).length ≤ i := by
      rw [List.length_append, List.length_singleton]
      omega
    simp [List.getElem?_eq_none beyond, List.getElem?_eq_none (Nat.le_of_lt outside), Nat.ne_of_gt outside]

theorem waiting_loadData {j : Nat} {s : RSSyncSubscription} {state : RSSyncState}
    (logined : state.login.isLogined = true) :
    Waiting j s (loadData state) ↔
      j = state.subscriptions.length ∧ s = newSubscription state ∨
      Waiting j s state ∧ state.disp ≠ some j := by
  have record : newSubscription (disposeCurrent state) = newSubscription state := by
    simp [newSubscription, syncReq, RSSyncState.uid, RSSyncState.syncBuff]
  have live : (newSubscription state).live = true := rfl
  rw [loadData_of_logined logined, ← waiting_disposeCurrent, Waiting, subscribe]
  rw [← newSubscription, record, getElem?_concat_eq_some, disposeCurrent_length, or_and_right]
  constructor
  · rintro (⟨new, -⟩ | old)
    · exact .inl new
    · exact .inr old
  · rintro (⟨rfl, rfl⟩ | old)
    · exact .inl ⟨⟨rfl, rfl⟩, live⟩
    · exact .inr old

theorem not_waiting_launch {i : Nat} {s : RSSyncSubscription} {login : RSLoginService}
    {contacts : ContactTable} {keyValues : KeyValueTable} : ¬ Waiting i s (launch login contacts keyValues) := by
  intro waiting
  have inside := waiting.lt_length
  contradiction

def SingleFlight (state : RSSyncState) : Prop := ∀ i s, Waiting i s state → state.disp = some i

theorem singleFlight_launch (login : RSLoginService) (contacts : ContactTable) (keyValues : KeyValueTable) :
    SingleFlight (launch login contacts keyValues) :=
  fun _ _ waiting => absurd waiting not_waiting_launch

theorem SingleFlight.dispose {state : RSSyncState} (single : SingleFlight state) (i : Nat) :
    SingleFlight (dispose i state) := by
  intro j s waiting
  exact single j s (waiting_dispose.mp waiting).1

theorem SingleFlight.loadData {state : RSSyncState} (single : SingleFlight state) :
    SingleFlight (loadData state) := by
  intro j s waiting
  cases logined : state.login.isLogined with
  | false =>
      rw [loadData_of_logout logined] at waiting ⊢
      exact single j s waiting
  | true =>
      rcases (waiting_loadData logined).mp waiting with ⟨rfl, -⟩ | ⟨old, notCurrent⟩
      · exact disp_loadData logined
      · exact absurd (single j s old) notCurrent

theorem SingleFlight.unique {state : RSSyncState} (single : SingleFlight state) {i j : Nat}
    {s t : RSSyncSubscription} (first : Waiting i s state) (second : Waiting j t state) : i = j :=
  Option.some.inj ((single i s first).symm.trans (single j t second))

theorem waiting_of_loadData {j : Nat} {s : RSSyncSubscription} {state : RSSyncState}
    (waiting : Waiting j s (loadData state)) : s = newSubscription state ∨ Waiting j s state := by
  cases logined : state.login.isLogined with
  | false =>
      rw [loadData_of_logout logined] at waiting
      exact .inr waiting
  | true =>
      rcases (waiting_loadData logined).mp waiting with ⟨-, new⟩ | ⟨old, -⟩
      · exact .inl new
      · exact .inr old

/-! ## The next block -/

def cursorSaved (contactOk cursorOk : Bool) (resp : RSSyncResp) : Bool :=
  contactOk && !resp.contactListArray.isEmpty && cursorOk

def written (contactOk cursorOk : Bool) (resp : RSSyncResp) (state : RSSyncState) : RSSyncState :=
  { state with
    contacts := (RSContactService.saveContactList contactOk resp.contactListArray state.contacts).2
    keyValues :=
      if cursorSaved contactOk cursorOk resp then
        (RSKeyValueService.saveData true state.uid resp.syncBuff kKeyValueSyncBuff state.keyValues).2
      else state.keyValues }

section Written

variable (contactOk cursorOk : Bool) (resp : RSSyncResp) (state : RSSyncState)

@[simp] theorem written_login : (written contactOk cursorOk resp state).login = state.login := rfl
@[simp] theorem written_uid : (written contactOk cursorOk resp state).uid = state.uid := rfl
@[simp] theorem written_disp : (written contactOk cursorOk resp state).disp = state.disp := rfl
@[simp] theorem written_logouts : (written contactOk cursorOk resp state).logouts = state.logouts := rfl
@[simp] theorem written_subscriptions :
    (written contactOk cursorOk resp state).subscriptions = state.subscriptions := rfl

theorem written_contacts : (written contactOk cursorOk resp state).contacts =
    if contactOk then
      state.contacts.insertOrReplaceAll (RSContactService.rowsOf resp.contactListArray)
    else state.contacts :=
  RSContactService.saveContactList_table contactOk resp.contactListArray state.contacts

theorem written_cursor : (written contactOk cursorOk resp state).cursor =
    if cursorSaved contactOk cursorOk resp then some resp.syncBuff else state.cursor := by
  unfold RSSyncState.cursor written
  split_ifs
  · exact RSKeyValueService.stored_saveData_ok state.uid kKeyValueSyncBuff resp.syncBuff state.keyValues
  · rfl

end Written

theorem subscribeNext_eq (contactOk cursorOk : Bool) (resp : RSSyncResp) (state : RSSyncState) :
    subscribeNext contactOk cursorOk resp state =
      if cursorSaved contactOk cursorOk resp && resp.isEnd = 0 then
        loadData (written contactOk cursorOk resp state)
      else written contactOk cursorOk resp state := by
  have result := RSContactService.saveContactList_result contactOk resp.contactListArray state.contacts
  simp only [subscribeNext, saveContact, saveGroup, Bool.and_true, result]
  cases contacts : (contactOk && !resp.contactListArray.isEmpty) with
  | false => simp [written, cursorSaved, contacts]
  | true =>
      cases cursorOk with
      | false => simp [saveSyncBuff, written, cursorSaved, contacts]
      | true => simp [saveSyncBuff, written, cursorSaved, contacts, RSSyncState.uid]

section Response

variable {i : Nat} {contactOk cursorOk : Bool} {resp : RSSyncResp} {state : RSSyncState}

theorem response_of_not_live (ended : ¬ Live i state) :
    response i contactOk cursorOk resp state = state := by
  simp [response, ended]

theorem response_of_error (failed : resp.baseResp.errCode ≠ 0) (live : Live i state) :
    response i contactOk cursorOk resp state = dispose i state := by
  simp [response, live, failed]

theorem response_of_next (page : resp.baseResp.errCode = 0) (live : Live i state) :
    response i contactOk cursorOk resp state =
      dispose i (if cursorSaved contactOk cursorOk resp && resp.isEnd = 0 then
        loadData (written contactOk cursorOk resp state)
      else written contactOk cursorOk resp state) := by
  simp [response, live, page, subscribeNext_eq]

theorem response_stores (live : Live i state) (parsed : resp.baseResp.errCode = 0) :
    (response i contactOk cursorOk resp state).contacts =
      (written contactOk cursorOk resp state).contacts ∧
    (response i contactOk cursorOk resp state).keyValues =
      (written contactOk cursorOk resp state).keyValues := by
  rw [response_of_next parsed live]
  split_ifs <;> simp

end Response

end RSSyncService

end RealSocial
