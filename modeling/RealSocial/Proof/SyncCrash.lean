import RealSocial.Library.Run
import RealSocial.Proof.SyncHandlers
import RealSocial.System.SyncDevice
import RealSocial.System.SyncServer

namespace RealSocial.Proof

open Library RSSyncService RSContactService

/-! # The stored cursor and the contacts it stands for -/

def AnswersFollow (server : SyncServer) (device : SyncDevice) : SyncDeviceEvent → Prop
  | .saveContact i _ resp => ∀ s, Waiting i s device.state → resp.baseResp.errCode = 0 →
      server s.req.syncBuff = some resp
  | _ => True

section Invariant

variable (server : SyncServer) (login : RSLoginService) (initial : ContactTable)

structure InStep (ps : List RSSyncResp) (device : SyncDevice) : Prop where
  holds : server.feed.Holds upsert none initial ps device.state.cursor device.state.contacts
  expected : ∀ i s page, Waiting i s device.state → server s.req.syncBuff = some page →
    server.feed.Expected upsert initial ps device.state.cursor device.state.contacts page
  absorbed : ∀ i page, device.handling = some (i, page) →
    server.feed.Absorbed upsert initial ps device.state.cursor device.state.contacts page
  requested : ∀ i page, device.handling = some (i, page) → ∀ j s, Waiting j s device.state → j ≠ i →
    s.req.syncBuff = device.state.syncBuff

structure Consistent (device : SyncDevice) : Prop where
  account : device.state.login.loginInfo = login.loginInfo
  saved : device.state.login.keychain = some login.loginInfo
  single : SingleFlight device.state
  inStep : ∃ ps, InStep server initial ps device

end Invariant

variable {server : SyncServer} {login : RSLoginService} {initial : ContactTable} {ps : List RSSyncResp}
  {device : SyncDevice}

theorem expected_current {state : RSSyncState} {page : RSSyncResp}
    (page_eq : server state.syncBuff = some page) :
    server.feed.Expected upsert initial ps state.cursor state.contacts page := by
  rw [RSSyncState.syncBuff_eq] at page_eq
  exact .inl page_eq

theorem InStep.dispose (inStep : InStep server initial ps device) (i : Nat) :
    InStep server initial ps { device with state := dispose i device.state } where
  holds := inStep.holds
  expected := fun j s page waiting => inStep.expected j s page (waiting_dispose.mp waiting).1
  absorbed := inStep.absorbed
  requested := fun j page handling k s waiting =>
    inStep.requested j page handling k s (waiting_dispose.mp waiting).1

theorem InStep.loadData (inStep : InStep server initial ps device) :
    InStep server initial ps { device with state := loadData device.state } where
  holds := by simpa using inStep.holds
  expected := by
    intro i s page waiting page_eq
    simp only [loadData_cursor, loadData_contacts]
    rcases waiting_of_loadData waiting with rfl | old
    · exact expected_current page_eq
    · exact inStep.expected i s page old page_eq
  absorbed := by simpa using inStep.absorbed
  requested := by
    intro i page handling j s waiting other
    rw [loadData_syncBuff]
    rcases waiting_of_loadData waiting with rfl | old
    · rfl
    · exact inStep.requested i page handling j s old other

theorem InStep.upserted {state : RSSyncState} {i : Nat} {s : RSSyncSubscription} {page : RSSyncResp}
    (single : SingleFlight state) (inStep : InStep server initial ps { state }) (waiting : Waiting i s state)
    (page_eq : server s.req.syncBuff = some page) :
    InStep server initial ps
      { state := { state with contacts := upsert state.contacts page }, handling := some (i, page) } := by
  obtain ⟨holds, absorbed⟩ :=
    inStep.holds.absorb_expected upsert_idem (inStep.expected i s page waiting page_eq)
  refine ⟨holds, ?_, ?_, ?_⟩
  · intro j t page' waiting' page_eq'
    have same : j = i := single.unique waiting' waiting
    subst same
    rw [Waiting.unique waiting' waiting, page_eq] at page_eq'
    simp only [Option.some.injEq] at page_eq'
    subst page_eq'
    exact absorbed.expected
  · rintro j page' handling
    simp only [Option.some.injEq, Prod.mk.injEq] at handling
    rw [← handling.2]
    exact absorbed
  · rintro j page' handling k t waiting' other
    simp only [Option.some.injEq, Prod.mk.injEq] at handling
    have same : k = i := single.unique waiting' waiting
    exact absurd (same.trans handling.1) other

theorem Consistent.loadData (consistent : Consistent server login initial device) :
    Consistent server login initial (device.step .loadData) := by
  obtain ⟨ps, inStep⟩ := consistent.inStep
  exact ⟨by simpa [SyncDevice.step] using consistent.account,
    by simpa [SyncDevice.step] using consistent.saved, consistent.single.loadData, ps, inStep.loadData⟩

theorem Consistent.sendError (consistent : Consistent server login initial device) (i : Nat) :
    Consistent server login initial (device.step (.sendError i)) := by
  obtain ⟨ps, inStep⟩ := consistent.inStep
  exact ⟨consistent.account, consistent.saved, consistent.single.dispose i, ps, inStep.dispose i⟩

theorem Consistent.kill (consistent : Consistent server login initial device) :
    Consistent server login initial (device.step .kill) := by
  obtain ⟨ps, inStep⟩ := consistent.inStep
  have account : device.state.login.restart.loginInfo = device.state.login.loginInfo := by
    rw [RSLoginService.restart, consistent.saved, consistent.account]
    rfl
  have cursor : (device.step .kill).state.cursor = device.state.cursor := by
    change RSKeyValueService.stored device.state.login.restart.loginInfo.uid _ _ = _
    rw [account]
    rfl
  have quiet : ∀ i s, ¬ Waiting i s (device.step .kill).state := fun _ _ => not_waiting_launch
  refine ⟨account.trans consistent.account, consistent.saved, singleFlight_launch _ _ _, ps, ?_⟩
  refine ⟨?_, ?_, ?_, ?_⟩
  · rw [cursor]
    exact inStep.holds
  · intro i s page waiting
    exact absurd waiting (quiet i s)
  · intro i page handling
    contradiction
  · intro i page handling
    contradiction

theorem saveContact_cases (device : SyncDevice) (i : Nat) (ok : Bool) (resp : RSSyncResp) :
    device.step (.saveContact i ok resp) = device ∨
    device.step (.saveContact i ok resp) = device.step (.sendError i) ∨
    ∃ s, Waiting i s device.state ∧ resp.baseResp.errCode = 0 ∧ device.handling = none ∧
      device.step (.saveContact i ok resp) =
        { state := { device.state with contacts := upsert device.state.contacts resp }
          handling := some (i, resp) } := by
  obtain ⟨state, handling⟩ := device
  cases handling with
  | some busy => exact .inl rfl
  | none =>
      by_cases live : Live i state
      · by_cases parsed : resp.baseResp.errCode = 0
        · by_cases stops : ok = false ∨ resp.contactListArray = []
          · refine .inr (.inl ?_)
            rcases stops with rfl | empty
            · simp [SyncDevice.step, SyncDevice.saveContact, live, parsed, RSSyncService.saveContact,
                saveContactList_failed]
            · simp [SyncDevice.step, SyncDevice.saveContact, live, parsed, RSSyncService.saveContact,
                empty, saveContactList_nil]
          · simp only [not_or, Bool.not_eq_false] at stops
            obtain ⟨rfl, carries⟩ := stops
            obtain ⟨s, waiting⟩ := live_iff.mp live
            refine .inr (.inr ⟨s, waiting, parsed, rfl, ?_⟩)
            simp [SyncDevice.step, SyncDevice.saveContact, live, parsed, RSSyncService.saveContact,
              saveContactList_ok carries, saveGroup, upsert]
        · exact .inr (.inl (by simp [SyncDevice.step, SyncDevice.saveContact, live, parsed]))
      · exact .inl (by simp [SyncDevice.step, SyncDevice.saveContact, live])

theorem Consistent.saveContact (consistent : Consistent server login initial device) (i : Nat) (ok : Bool)
    (resp : RSSyncResp) (follows : AnswersFollow server device (.saveContact i ok resp)) :
    Consistent server login initial (device.step (.saveContact i ok resp)) := by
  rcases saveContact_cases device i ok resp with same | ended | ⟨s, waiting, parsed, idle, absorbed⟩
  · rw [same]
    exact consistent
  · rw [ended]
    exact consistent.sendError i
  · obtain ⟨ps, inStep⟩ := consistent.inStep
    obtain ⟨state, handling⟩ := device
    subst idle
    rw [absorbed]
    exact ⟨consistent.account, consistent.saved, consistent.single, ps,
      inStep.upserted consistent.single waiting (follows s waiting parsed)⟩

theorem saveSyncBuff_cases (device : SyncDevice) (ok : Bool) :
    device.step (.saveSyncBuff ok) = device ∨
    ∃ i page, device.handling = some (i, page) ∧
      (device.step (.saveSyncBuff ok) = { state := dispose i device.state } ∨
        ∃ stored : RSSyncState, stored.login = device.state.login ∧
          stored.contacts = device.state.contacts ∧ stored.cursor = some page.syncBuff ∧
          stored.disp = device.state.disp ∧ stored.subscriptions = device.state.subscriptions ∧
          (device.step (.saveSyncBuff ok) = { state := dispose i stored } ∨
            device.step (.saveSyncBuff ok) = { state := dispose i (RSSyncService.loadData stored) })) := by
  obtain ⟨state, handling⟩ := device
  cases handling with
  | none => exact .inl rfl
  | some busy =>
      obtain ⟨i, page⟩ := busy
      refine .inr ⟨i, page, rfl, ?_⟩
      cases ok with
      | false =>
          exact .inl (by simp [SyncDevice.step, SyncDevice.saveSyncBuff, RSSyncService.saveSyncBuff])
      | true =>
          refine .inr ⟨(RSSyncService.saveSyncBuff true page state).2, rfl, rfl, ?_, rfl, rfl, ?_⟩
          · exact RSKeyValueService.stored_saveData_ok _ _ _ _
          · by_cases more : page.isEnd = 0
            · exact .inr (by simp [SyncDevice.step, SyncDevice.saveSyncBuff, RSSyncService.saveSyncBuff, more])
            · exact .inl (by simp [SyncDevice.step, SyncDevice.saveSyncBuff, more])

theorem InStep.stored {i : Nat} {page : RSSyncResp} {stored : RSSyncState}
    (inStep : InStep server initial ps device) (handling : device.handling = some (i, page))
    (contacts : stored.contacts = device.state.contacts) (cursor : stored.cursor = some page.syncBuff)
    (subscriptions : stored.subscriptions = device.state.subscriptions) :
    ∃ qs, InStep server initial qs { state := RSSyncService.dispose i stored } := by
  obtain ⟨qs, holds, expected⟩ := inStep.holds.store (inStep.absorbed i page handling)
  refine ⟨qs, ?_, ?_, ?_, ?_⟩
  · simpa [contacts, cursor] using holds
  · intro j s page' waiting page_eq
    obtain ⟨waiting, other⟩ := waiting_dispose.mp waiting
    rw [Waiting, subscriptions] at waiting
    rw [inStep.requested i page handling j s waiting other, RSSyncState.syncBuff_eq] at page_eq
    simpa [contacts, cursor] using expected page' page_eq
  · intro j page' none_handled
    contradiction
  · intro j page' none_handled
    contradiction

theorem InStep.disposed_loadData {i : Nat} {stored : RSSyncState}
    (inStep : InStep server initial ps { state := RSSyncService.dispose i stored }) :
    InStep server initial ps { state := RSSyncService.dispose i (RSSyncService.loadData stored) } := by
  refine ⟨by simpa using inStep.holds, ?_, ?_, ?_⟩
  · intro j s page waiting page_eq
    simp only [dispose_cursor, loadData_cursor, dispose_contacts, loadData_contacts]
    obtain ⟨waiting, other⟩ := waiting_dispose.mp waiting
    rcases waiting_of_loadData waiting with rfl | old
    · exact expected_current page_eq
    · exact inStep.expected j s page (waiting_dispose.mpr ⟨old, other⟩) page_eq
  · intro j page none_handled
    contradiction
  · intro j page none_handled
    contradiction

theorem InStep.stopped {i : Nat} (inStep : InStep server initial ps device) :
    InStep server initial ps { state := RSSyncService.dispose i device.state } where
  holds := inStep.holds
  expected := (inStep.dispose i).expected
  absorbed := fun _ _ none_handled => by contradiction
  requested := fun _ _ none_handled => by contradiction

theorem Consistent.saveSyncBuff (consistent : Consistent server login initial device) (ok : Bool) :
    Consistent server login initial (device.step (.saveSyncBuff ok)) := by
  obtain ⟨ps, inStep⟩ := consistent.inStep
  rcases saveSyncBuff_cases device ok with same | ⟨i, page, handling, failed | stored⟩
  · rw [same]
    exact consistent
  · rw [failed]
    exact ⟨consistent.account, consistent.saved, consistent.single.dispose i, ps, inStep.stopped⟩
  · obtain ⟨stored, account, contacts, cursor, disp, subscriptions, after⟩ := stored
    obtain ⟨qs, inStepStored⟩ := inStep.stored handling contacts cursor subscriptions
    have single : SingleFlight stored := by
      intro j s waiting
      rw [Waiting, subscriptions] at waiting
      rw [disp]
      exact consistent.single j s waiting
    have info : stored.login.loginInfo = login.loginInfo := by rw [account, consistent.account]
    have keychain : stored.login.keychain = some login.loginInfo := by rw [account, consistent.saved]
    rcases after with last | more
    · rw [last]
      exact ⟨info, keychain, single.dispose i, qs, inStepStored⟩
    · rw [more]
      exact ⟨by simpa using info, by simpa using keychain, single.loadData.dispose i, qs,
        inStepStored.disposed_loadData⟩

theorem Consistent.step (device : SyncDevice) (event : SyncDeviceEvent)
    (consistent : Consistent server login initial device) (follows : AnswersFollow server device event) :
    Consistent server login initial (device.step event) := by
  cases event with
  | loadData => exact consistent.loadData
  | saveContact i ok resp => exact consistent.saveContact i ok resp follows
  | saveSyncBuff ok => exact consistent.saveSyncBuff ok
  | sendError i => exact consistent.sendError i
  | kill => exact consistent.kill

theorem consistent_launch {keyValues : KeyValueTable} (saved : login.keychain = some login.loginInfo)
    (unsynced : (launch login initial keyValues).cursor = none) :
    Consistent server login initial { state := launch login initial keyValues } := by
  refine ⟨rfl, saved, singleFlight_launch _ _ _, [], ?_, ?_, ?_, ?_⟩
  · rw [unsynced]
    exact .even .nil
  · intro i s page waiting
    exact absurd waiting not_waiting_launch
  · intro i page handling
    contradiction
  · intro i page handling
    contradiction

/-! ## What the stored cursor stands for -/

section Statement

variable (server : SyncServer) (initial : ContactTable)

/-- The chain up to and including the page whose cursor is `c`, with the cursor seen once. -/
def ChainTo (c : NSData) (pages : List RSSyncResp) : Prop :=
  server.feed.Served none pages (some c) ∧ ∀ page ∈ pages.dropLast, page.syncBuff ≠ c

def Continues (pages rest : List RSSyncResp) : Prop := ∃ d, server.feed.Served none (pages ++ rest) d

def ContactsKept (table : ContactTable) (pages rest : List RSSyncResp) : Prop :=
  ∀ before contact after, pages.flatMap RSSyncResp.contactListArray = before ++ contact :: after →
    table.find (some contact.userName) = some (modelOfContact contact) ∨
    ∃ newer ∈ after ++ rest.flatMap RSSyncResp.contactListArray,
      newer.userName = contact.userName ∧
      table.find (some contact.userName) = some (modelOfContact newer)

structure CrashConsistent (device : SyncDevice) : Prop where
  behind : ∀ c pages, device.state.cursor = some c → ChainTo server c pages →
    ∃ rest, Continues server pages rest ∧ ContactsKept device.state.contacts pages rest
  replay : ∀ page rest, server device.state.syncBuff = some page →
    ∃ ps, server.feed.Served none ps device.state.cursor ∧
      (page :: rest).foldl upsert device.state.contacts = (ps ++ page :: rest).foldl upsert initial

end Statement

theorem contactsKept_of_upserted {table : ContactTable} {pages rest : List RSSyncResp}
    (upserted : table = (pages ++ rest).foldl upsert initial) : ContactsKept table pages rest := by
  intro before contact after split
  rw [foldl_upsert, List.flatMap_append, split, List.append_assoc, List.cons_append] at upserted
  rw [upserted]
  exact find_upserted initial before (after ++ rest.flatMap RSSyncResp.contactListArray) contact

theorem Consistent.crashConsistent (consistent : Consistent server login initial device) :
    CrashConsistent server initial device := by
  obtain ⟨ps, inStep⟩ := consistent.inStep
  constructor
  · intro c pages cursor chain
    have holds := inStep.holds
    rw [cursor] at holds
    obtain ⟨ahead, upserted, d, served⟩ := holds.pages
    have first : ∀ page ∈ pages.dropLast, server.feed.cursor page ≠ some c := by
      intro page member same
      exact chain.2 page member (Option.some.inj same)
    obtain ⟨more, rfl⟩ := chain.1.prefix_of_first first (by simp) holds.served
    rw [List.append_assoc] at upserted served
    exact ⟨more ++ ahead, ⟨d, served⟩, contactsKept_of_upserted upserted⟩
  · intro page rest page_eq
    rw [RSSyncState.syncBuff_eq] at page_eq
    refine ⟨ps, inStep.holds.served, ?_⟩
    rw [List.foldl_cons, inStep.holds.absorb_next upsert_idem page_eq, List.foldl_append]
    rfl

theorem sync_crashConsistent (server : SyncServer) (resp : RSLoginResp) (before : RSLoginService)
    (initial : ContactTable) (keyValues : KeyValueTable) (events : List SyncDeviceEvent)
    (unsynced : (launch (before.updateWithLoginResp resp) initial keyValues).cursor = none)
    (follows : EveryStep SyncDevice.step (AnswersFollow server)
      { state := launch (before.updateWithLoginResp resp) initial keyValues } events) :
    EveryState SyncDevice.step (CrashConsistent server initial)
      { state := launch (before.updateWithLoginResp resp) initial keyValues } events :=
  (everyState_of_steps Consistent.step (consistent_launch rfl unsynced) follows).mono
    fun _ consistent => consistent.crashConsistent

def bobPage : RSSyncResp where
  syncBuff := [1]
  isEnd := 1
  contactListArray := [{ userName := "bob", nickName := "a" }, { userName := "bob", nickName := "b" }]

def bobServer : SyncServer := fun syncBuff => if syncBuff = none then some bobPage else none

def aliceLogin : RSLoginResp := { userName := "alice", sessionKey := [1] }

def bobDevice : SyncDevice := { state := launch (({} : RSLoginService).updateWithLoginResp aliceLogin) ∅ ∅ }

-- the first try is killed between its two writes, the second one is not
def bobEvents : List SyncDeviceEvent :=
  [.loadData, .saveContact 0 true bobPage, .kill, .loadData, .saveContact 0 true bobPage, .saveSyncBuff true]

theorem bobEvents_follow : EveryStep SyncDevice.step (AnswersFollow bobServer) bobDevice bobEvents := by
  have asked : ∀ s, Waiting 0 s (RSSyncService.loadData bobDevice.state) → s.req.syncBuff = none := by
    intro s waiting
    rw [← Option.some.inj waiting.1]
    decide
  have askedAgain : ∀ s, Waiting 0 s (run SyncDevice.step bobDevice (bobEvents.take 4)).state →
      s.req.syncBuff = none := by
    intro s waiting
    rw [← Option.some.inj waiting.1]
    decide
  refine ⟨trivial, ?_, trivial, trivial, ?_, trivial, trivial⟩
  · intro s waiting _
    simp [bobServer, asked s waiting]
  · intro s waiting _
    simp [bobServer, askedAgain s waiting]

theorem sync_crashConsistent_bob :
    EveryState SyncDevice.step (CrashConsistent bobServer ∅) bobDevice bobEvents :=
  sync_crashConsistent bobServer aliceLogin {} ∅ ∅ bobEvents (by decide) bobEvents_follow

/-- As `ContactsKept`, with only a later page taken to supersede a contact. -/
def ContactsKeptByPages (table : ContactTable) (pages rest : List RSSyncResp) : Prop :=
  ∀ before page after, pages = before ++ page :: after → ∀ contact ∈ page.contactListArray,
    table.find (some contact.userName) = some (modelOfContact contact) ∨
    ∃ newer ∈ (after ++ rest).flatMap RSSyncResp.contactListArray, newer.userName = contact.userName

theorem bob_replaced_within_page :
    EveryStep SyncDevice.step (AnswersFollow bobServer) bobDevice bobEvents ∧
    (run SyncDevice.step bobDevice bobEvents).state.cursor = some [1] ∧
    ChainTo bobServer [1] [bobPage] ∧
    ¬ ∃ rest, Continues bobServer [bobPage] rest ∧
      ContactsKeptByPages (run SyncDevice.step bobDevice bobEvents).state.contacts [bobPage] rest := by
  refine ⟨bobEvents_follow, by decide, ⟨.snoc .nil rfl, by simp⟩, ?_⟩
  rintro ⟨rest, ⟨d, served⟩, kept⟩
  cases rest with
  | nil =>
      rcases kept [] bobPage [] rfl { userName := "bob", nickName := "a" } (by decide) with here | later
      · revert here
        decide
      · simp at later
  | cons next rest =>
      obtain ⟨c, two⟩ := served.take 2
      change bobServer.feed.Served none ([bobPage] ++ [next]) c at two
      obtain ⟨-, c', one, page⟩ := two.snoc_inv
      change bobServer.feed.Served none ([] ++ [bobPage]) c' at one
      rw [one.snoc_inv.1] at page
      contradiction

end RealSocial.Proof
