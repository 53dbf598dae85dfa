import RealSocial.Library.Run
import RealSocial.Proof.NetWorkAnswers
import RealSocial.System.ReceiverExchange

namespace RealSocial.Proof

open Library RSContactService RSReceiverListViewModel ReceiverExchange

/-! # The receiver list after a load -/

section

variable (parsePKG : NSData → Option RSPKG) (parseFromData : NSData → Except NSError RSGetAllContactResp)

def contactResp : Except NSError NSData → Option RSGetAllContactResp
  | .error _ => none
  | .ok data =>
      accepted (RSGetAllContactResp.respClass parseFromData) (((parsePKG data).map RSPKG.data_p).getD [])

def viewModelResp : ReceiverExchangeEvent → Option RSGetAllContactResp
  | .viewModelAnswer outcome => contactResp parsePKG parseFromData outcome
  | _ => none

end

/-- The list admits the contacts that are not deleted, but for the user's own. -/
def Admitted (login : RSLoginService) (contact : RSContact) : Prop :=
  contact.delFlag = 0 ∧ admits login (modelOfContact contact).extract = true

def ContainsContacts (contactList : List RSContact) (exchange : ReceiverExchange) : Prop :=
  ∀ contact ∈ contactList, Admitted exchange.login contact →
    modelOfContact contact ∈ exchange.contacts.rows ∧
      itemOfContact exchange.viewModel.selectedData (modelOfContact contact).extract ∈ exchange.viewModel.listData

variable {parsePKG : NSData → Option RSPKG} {parseFromData : NSData → Except NSError RSGetAllContactResp}

/-- When the completion signal fires after a response, table and list contain the contacts of it. -/
def FreshOnCompletion (parsePKG : NSData → Option RSPKG)
    (parseFromData : NSData → Except NSError RSGetAllContactResp) (exchange : ReceiverExchange)
    (event : ReceiverExchangeEvent) : Prop :=
  let after := step parsePKG parseFromData exchange event
  after.completeSignal ≠ exchange.completeSignal → ∀ resp, viewModelResp parsePKG parseFromData event = some resp →
    ContainsContacts resp.contactArray after

/-- What was saved last under the uid of the contact is the contact itself; where nothing was saved under it,
the table had the contact from the start. -/
def SavedLast (contacts : ContactTable) (saved : List RSContact) (contact : RSContact) : Prop :=
  match Table.lastVersion RSContact.userName saved contact.userName with
  | some last => modelOfContact last = modelOfContact contact
  | none => modelOfContact contact ∈ contacts.rows

/-- The answer for the view model comes when its contacts have been saved already. -/
def SavedBefore (contacts : ContactTable) (parsePKG : NSData → Option RSPKG)
    (parseFromData : NSData → Except NSError RSGetAllContactResp) (exchange : ReceiverExchange)
    (event : ReceiverExchangeEvent) : Prop :=
  exchange.viewModelWaits = true → ∀ resp, viewModelResp parsePKG parseFromData event = some resp →
    ∀ contact ∈ resp.contactArray, Admitted exchange.login contact → SavedLast contacts exchange.saved contact

/-! ## What the table holds -/

def SavedInto (contacts : ContactTable) (exchange : ReceiverExchange) : Prop :=
  exchange.contacts = contacts.insertOrReplaceAll (rowsOf exchange.saved)

theorem lastVersion_rowsOf (saved : List RSContact) (userName : String) :
    Table.lastVersion RSContactModel.uid (rowsOf saved) (some userName) =
      (Table.lastVersion RSContact.userName saved userName).map modelOfContact := by
  have injective : Function.Injective (some : String → Option String) := fun _ _ same => Option.some.inj same
  have named : ∀ contact, (modelOfContact contact).uid = some contact.userName := fun _ => rfl
  exact Table.lastVersion_map injective named saved userName

theorem mem_rows_iff_savedLast {contacts : ContactTable} {exchange : ReceiverExchange}
    (savedInto : SavedInto contacts exchange) (contact : RSContact) :
    modelOfContact contact ∈ exchange.contacts.rows ↔ SavedLast contacts exchange.saved contact := by
  have key : (modelOfContact contact).uid = some contact.userName := rfl
  rw [savedInto, Table.mem_rows_iff, Table.find_insertOrReplaceAll, key, lastVersion_rowsOf, SavedLast]
  cases Table.lastVersion RSContact.userName exchange.saved contact.userName with
  | none => rw [Table.mem_rows_iff, key]; rfl
  | some last => exact Option.some_inj

theorem savedInto_save {contacts : ContactTable} {exchange : ReceiverExchange}
    (savedInto : SavedInto contacts exchange) (ok : Bool) (contactList : List RSContact) :
    SavedInto contacts (exchange.save ok contactList) := by
  dsimp only [SavedInto, save]
  rw [saveContactList_table, savedInto]
  cases ok with
  | false =>
      rw [if_neg Bool.false_ne_true, if_neg Bool.false_ne_true, List.append_nil]
  | true =>
      rw [if_pos rfl, if_pos rfl, rowsOf_append, Table.insertOrReplaceAll_append]

theorem savedInto_serviceEvent {contacts : ContactTable} {exchange : ReceiverExchange}
    (savedInto : SavedInto contacts exchange) (ok : Bool) (delivered : Delivered) :
    SavedInto contacts (serviceEvent ok exchange delivered) := by
  cases delivered with
  | next object =>
      cases object with
      | resp resp => exact savedInto_save savedInto ok resp.contactArray
      | response response => exact savedInto
  | error error => exact savedInto
  | completed => exact savedInto

theorem savedInto_viewModelEvent {contacts : ContactTable} {exchange : ReceiverExchange}
    (savedInto : SavedInto contacts exchange) (delivered : Delivered) :
    SavedInto contacts (viewModelEvent exchange delivered) := by
  cases delivered with
  | next object => exact savedInto
  | error error => exact savedInto
  | completed => exact savedInto

theorem savedInto_serviceAnswer {contacts : ContactTable} {exchange : ReceiverExchange}
    (savedInto : SavedInto contacts exchange) (ok : Bool) (outcome : Except NSError NSData) :
    SavedInto contacts (serviceAnswer parsePKG parseFromData ok outcome exchange) := by
  unfold serviceAnswer
  split_ifs
  · apply invariant_run
    · intro exchange delivered savedInto
      exact savedInto_serviceEvent savedInto ok delivered
    · exact savedInto
  · exact savedInto

theorem savedInto_viewModelAnswer {contacts : ContactTable} {exchange : ReceiverExchange}
    (savedInto : SavedInto contacts exchange) (outcome : Except NSError NSData) :
    SavedInto contacts (viewModelAnswer parsePKG parseFromData outcome exchange) := by
  unfold viewModelAnswer
  split_ifs
  · apply invariant_run
    · intro exchange delivered savedInto
      exact savedInto_viewModelEvent savedInto delivered
    · exact savedInto
  · exact savedInto

theorem savedInto_step {contacts : ContactTable} (exchange : ReceiverExchange) (event : ReceiverExchangeEvent)
    (savedInto : SavedInto contacts exchange) :
    SavedInto contacts (step parsePKG parseFromData exchange event) := by
  cases event with
  | serviceAnswer ok outcome => exact savedInto_serviceAnswer savedInto ok outcome
  | viewModelAnswer outcome => exact savedInto_viewModelAnswer savedInto outcome
  | saveContactList ok contactList => exact savedInto_save savedInto ok contactList

theorem savedInto_loadData (login : RSLoginService) (contacts : ContactTable)
    (viewModel : RSReceiverListViewModel) : SavedInto contacts (loadData login contacts viewModel) := rfl

/-! ## The list -/

theorem item_mem_refresh {exchange : ReceiverExchange} {contact : RSContact}
    (admitted : Admitted exchange.login contact) (there : modelOfContact contact ∈ exchange.contacts.rows) :
    itemOfContact exchange.viewModel.selectedData (modelOfContact contact).extract ∈
      exchange.refresh.viewModel.listData := by
  apply List.mem_map_of_mem
  apply List.mem_filter_of_mem
  · apply List.mem_map_of_mem
    apply List.mem_filter_of_mem there
    have exists' : (modelOfContact contact).delFlag = 0 := by
      rw [modelOfContact, admitted.1]
      rfl
    exact decide_eq_true exists'
  · exact admitted.2

theorem containsContacts_refresh (contactList : List RSContact) (exchange : ReceiverExchange) :
    ContainsContacts contactList exchange.refresh ↔
      ∀ contact ∈ contactList, Admitted exchange.login contact →
        modelOfContact contact ∈ exchange.contacts.rows := by
  apply forall₂_congr
  intro contact _
  apply imp_congr_right
  intro admitted
  exact and_iff_left_of_imp (item_mem_refresh admitted)

theorem answered_request (parsePKG : NSData → Option RSPKG)
    (parseFromData : NSData → Except NSError RSGetAllContactResp) (data : NSData) :
    Answered (RSGetAllContactResp.respClass parseFromData) (((parsePKG data).map RSPKG.data_p).getD [])
      (RSNetWorkService.sendRequest parsePKG (request parseFromData) (.ok data)) := by
  have hasClass : (request parseFromData).respClass = some (RSGetAllContactResp.respClass parseFromData) := rfl
  exact completionHandler_answered parsePKG hasClass data

/-- The view model refreshes its list and completes for a response, and does neither for an error. -/
inductive ViewModelStep (exchange : ReceiverExchange) :
    Option RSGetAllContactResp → ReceiverExchange → Prop where
  | failed (error : NSError) :
      ViewModelStep exchange none { exchange with errorSignal := exchange.errorSignal ++ [error] }
  | completed (resp : RSGetAllContactResp) :
      ViewModelStep exchange (some resp)
        { exchange.refresh with completeSignal := exchange.completeSignal + 1 }

theorem viewModelStep_of_answered {data : NSData} {events : List Delivered} (exchange : ReceiverExchange)
    (answered : Answered (RSGetAllContactResp.respClass parseFromData) data events) :
    ViewModelStep exchange (accepted (RSGetAllContactResp.respClass parseFromData) data)
      (events.foldl viewModelEvent exchange) := by
  cases answered with
  | refused error none =>
      rw [none]
      exact .failed error
  | resp resp some =>
      rw [some]
      exact .completed resp

theorem viewModelStep_answer (parsePKG : NSData → Option RSPKG)
    (parseFromData : NSData → Except NSError RSGetAllContactResp) (outcome : Except NSError NSData)
    (exchange : ReceiverExchange) :
    ViewModelStep exchange (contactResp parsePKG parseFromData outcome)
      ((RSNetWorkService.sendRequest parsePKG (request parseFromData) outcome).foldl viewModelEvent
        exchange) := by
  cases outcome with
  | error error => exact .failed error
  | ok data => exact viewModelStep_of_answered exchange (answered_request parsePKG parseFromData data)

theorem freshOnCompletion_of_step (exchange : ReceiverExchange) {after : ReceiverExchange}
    {answer : Option RSGetAllContactResp} (stepped : ViewModelStep exchange answer after) :
    (after.completeSignal ≠ exchange.completeSignal → ∀ resp, answer = some resp →
      ContainsContacts resp.contactArray after) ↔
      ∀ resp, answer = some resp → ∀ contact ∈ resp.contactArray, Admitted exchange.login contact →
        modelOfContact contact ∈ exchange.contacts.rows := by
  cases stepped with
  | failed error =>
      constructor
      · intro _ resp noResp
        cases noResp
      · intro _ fired
        exact absurd rfl fired
  | completed resp =>
      have fired : exchange.completeSignal + 1 ≠ exchange.completeSignal := Nat.succ_ne_self _
      constructor
      · intro fresh resp is
        exact (containsContacts_refresh resp.contactArray exchange).mp (fresh fired resp is)
      · intro there _ resp is
        exact (containsContacts_refresh resp.contactArray exchange).mpr (there resp is)

theorem freshOnCompletion_iff {contacts : ContactTable} {exchange : ReceiverExchange}
    (savedInto : SavedInto contacts exchange) (event : ReceiverExchangeEvent) :
    FreshOnCompletion parsePKG parseFromData exchange event ↔
      SavedBefore contacts parsePKG parseFromData exchange event := by
  cases event with
  | serviceAnswer ok outcome =>
      constructor
      · intro _ _ resp noResp
        cases noResp
      · intro _ _ resp noResp
        cases noResp
  | saveContactList ok contactList =>
      constructor
      · intro _ _ resp noResp
        cases noResp
      · intro _ _ resp noResp
        cases noResp
  | viewModelAnswer outcome =>
      dsimp only [FreshOnCompletion, SavedBefore, step, viewModelAnswer, viewModelResp]
      by_cases waits : exchange.viewModelWaits = true
      · rw [if_pos waits]
        have stepped := viewModelStep_answer parsePKG parseFromData outcome
          { exchange with viewModelWaits := false }
        simp only [waits, forall_const, ← mem_rows_iff_savedLast savedInto]
        exact freshOnCompletion_of_step { exchange with viewModelWaits := false } stepped
      · rw [if_neg waits]
        constructor
        · intro _ isWaiting
          exact absurd isWaiting waits
        · intro _ fired
          exact absurd rfl fired

theorem list_fresh_iff (parsePKG : NSData → Option RSPKG)
    (parseFromData : NSData → Except NSError RSGetAllContactResp) (login : RSLoginService)
    (contacts : ContactTable) (viewModel : RSReceiverListViewModel) (events : List ReceiverExchangeEvent) :
    EveryStep (step parsePKG parseFromData) (FreshOnCompletion parsePKG parseFromData)
        (loadData login contacts viewModel) events ↔
      EveryStep (step parsePKG parseFromData) (SavedBefore contacts parsePKG parseFromData)
        (loadData login contacts viewModel) events := by
  have states : EveryState (step parsePKG parseFromData) (SavedInto contacts)
      (loadData login contacts viewModel) events :=
    everyState_of_invariant savedInto_step (savedInto_loadData login contacts viewModel) events
  constructor
  · apply everyStep_of_everyState _ states
    intro exchange event savedInto
    exact (freshOnCompletion_iff savedInto event).mp
  · apply everyStep_of_everyState _ states
    intro exchange event savedInto
    exact (freshOnCompletion_iff savedInto event).mpr

def bob : RSContact := { userName := "bob" }

/-- The view model gets its answer first, and the list is complete without the contact. -/
theorem list_completes_before_save :
    ¬EveryStep (step (fun data => some { data_p := data }) fun _ => .ok { contactArray := [bob] })
      (FreshOnCompletion (fun data => some { data_p := data }) fun _ => .ok { contactArray := [bob] })
      (loadData {} ∅ {}) [.viewModelAnswer (.ok [10]), .serviceAnswer true (.ok [10])] := by
  rintro ⟨fresh, -⟩
  obtain ⟨row, -⟩ := fresh Nat.one_ne_zero _ rfl bob List.mem_cons_self ⟨rfl, rfl⟩
  cases row

/-! ## The usual order -/

theorem saved_serviceAnswer {exchange : ReceiverExchange} {outcome : Except NSError NSData}
    {resp : RSGetAllContactResp} (waits : exchange.serviceWaits = true)
    (is : contactResp parsePKG parseFromData outcome = some resp) :
    (serviceAnswer parsePKG parseFromData true outcome exchange).saved =
      exchange.saved ++ resp.contactArray := by
  cases outcome with
  | error error => cases is
  | ok data =>
      have answered := answered_request parsePKG parseFromData data
      rw [contactResp] at is
      rw [serviceAnswer, if_pos waits]
      obtain ⟨events, eventsAre⟩ :
          ∃ events, RSNetWorkService.sendRequest parsePKG (request parseFromData) (.ok data) = events := ⟨_, rfl⟩
      rw [eventsAre] at answered ⊢
      cases answered with
      | refused error none =>
          rw [none] at is
          cases is
      | resp other some =>
          rw [some] at is
          cases is
          rfl

/-- Where the save comes first and both answers bring the same contacts, the list is fresh. -/
theorem freshOnCompletion_of_saved {exchange : ReceiverExchange} {contacts : ContactTable}
    {outcome : Except NSError NSData} {resp : RSGetAllContactResp} (savedInto : SavedInto contacts exchange)
    (waits : exchange.serviceWaits = true) (is : contactResp parsePKG parseFromData outcome = some resp)
    (distinct : (resp.contactArray.map RSContact.userName).Nodup) :
    FreshOnCompletion parsePKG parseFromData
      (serviceAnswer parsePKG parseFromData true outcome exchange) (.viewModelAnswer outcome) := by
  apply (freshOnCompletion_iff (savedInto_serviceAnswer savedInto true outcome) _).mpr
  intro _ other otherIs contact member _
  cases is.symm.trans otherIs
  rw [SavedLast, saved_serviceAnswer waits is, Table.lastVersion_append,
    Table.lastVersion_of_nodup distinct member]
  rfl

end RealSocial.Proof
