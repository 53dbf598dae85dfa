import RealSocial.Library.Run
import RealSocial.Proof.SyncHandlers

namespace RealSocial.Proof

open Library RSSyncService

/-! # One sync run over a chain of pages -/

structure PageChain where
  pages : List RSSyncResp
  last : RSSyncResp
  parsed : ∀ page ∈ pages ++ [last], page.baseResp.errCode = 0
  more : ∀ page ∈ pages, page.isEnd = 0
  finished : last.isEnd ≠ 0

-- the transport answers the request that is waiting, and both writes of its handler succeed
def answer (state : RSSyncState) (page : RSSyncResp) : RSSyncState :=
  match state.disp with
  | some i => response i true true page state
  | none => state

def syncRun (chain : PageChain) (state : RSSyncState) : RSSyncState :=
  run answer (loadData state) (chain.pages ++ [chain.last])

def RequestsNext (page : RSSyncResp) (before after : RSSyncState) : Prop :=
  ∃ s, Waiting before.subscriptions.length s after ∧ s.req.syncBuff = WCDB.unarchive page.syncBuff

structure PageHandled (before : RSSyncState) (page : RSSyncResp) : Prop where
  stored : (answer before page).cursor = some page.syncBuff
  continued : RequestsNext page before (answer before page) ↔ page.isEnd = 0

structure Completes (chain : PageChain) (state : RSSyncState) : Prop where
  handled : EveryStep answer PageHandled (loadData state) (chain.pages ++ [chain.last])
  cursor : (syncRun chain state).cursor = some chain.last.syncBuff
  contacts : (syncRun chain state).contacts = state.contacts.insertOrReplaceAll
    (RSContactService.rowsOf ((chain.pages ++ [chain.last]).flatMap RSSyncResp.contactListArray))

/-- Every page carries contacts; on the last page they may be missing when its cursor is already
the stored one. -/
def CarriesContacts (chain : PageChain) (state : RSSyncState) : Prop :=
  (∀ page ∈ chain.pages, page.contactListArray ≠ []) ∧
  (chain.last.contactListArray ≠ [] ∨
    (chain.pages.getLast?.map RSSyncResp.syncBuff).or state.cursor = some chain.last.syncBuff)

def Requesting (state : RSSyncState) : Prop :=
  state.login.isLogined = true ∧ ∃ i s, state.disp = some i ∧ Waiting i s state

theorem loadData_requesting {state : RSSyncState} (logined : state.login.isLogined = true) :
    Requesting (loadData state) := by
  refine ⟨by simpa using logined, state.subscriptions.length, newSubscription state, ?_, ?_⟩
  · exact disp_loadData logined
  · rw [waiting_loadData logined]
    exact .inl ⟨rfl, rfl⟩

theorem answer_eq {state : RSSyncState} {page : RSSyncResp} (requesting : Requesting state)
    (parsed : page.baseResp.errCode = 0) : ∃ i s, Waiting i s state ∧ state.disp = some i ∧
      answer state page = dispose i
        (if !page.contactListArray.isEmpty && page.isEnd = 0 then loadData (written true true page state)
        else written true true page state) := by
  obtain ⟨-, i, s, current, waiting⟩ := requesting
  refine ⟨i, s, waiting, current, ?_⟩
  rw [answer, current]
  simp only [response_of_next parsed waiting.live, cursorSaved, Bool.true_and, Bool.and_true]

theorem answer_contacts {state : RSSyncState} {page : RSSyncResp} (requesting : Requesting state)
    (parsed : page.baseResp.errCode = 0) : (answer state page).contacts =
      state.contacts.insertOrReplaceAll (RSContactService.rowsOf page.contactListArray) := by
  obtain ⟨i, s, -, -, result⟩ := answer_eq requesting parsed
  rw [result]
  split_ifs <;> simp [written_contacts]

theorem answer_cursor {state : RSSyncState} {page : RSSyncResp} (requesting : Requesting state)
    (parsed : page.baseResp.errCode = 0) : (answer state page).cursor =
      if page.contactListArray = [] then state.cursor else some page.syncBuff := by
  obtain ⟨i, s, -, -, result⟩ := answer_eq requesting parsed
  rw [result]
  split_ifs with more empty empty <;> simp_all [written_cursor, cursorSaved]

theorem answer_requestsNext {state : RSSyncState} {page : RSSyncResp} (requesting : Requesting state)
    (parsed : page.baseResp.errCode = 0) : RequestsNext page state (answer state page) ↔
      page.contactListArray ≠ [] ∧ page.isEnd = 0 := by
  obtain ⟨i, s, waiting, -, result⟩ := answer_eq requesting parsed
  rw [result]
  by_cases more : page.contactListArray ≠ [] ∧ page.isEnd = 0
  · have branch : (!page.contactListArray.isEmpty && decide (page.isEnd = 0)) = true := by simp [more]
    rw [if_pos branch]
    refine ⟨fun _ => more, fun _ => ⟨newSubscription (written true true page state), ?_, ?_⟩⟩
    · rw [waiting_dispose, waiting_loadData (by simpa using requesting.1)]
      exact ⟨.inl ⟨rfl, rfl⟩, Nat.ne_of_gt waiting.lt_length⟩
    · change (written true true page state).syncBuff = _
      rw [RSSyncState.syncBuff_eq, written_cursor]
      simp [cursorSaved, more]
  · have branch : (!page.contactListArray.isEmpty && decide (page.isEnd = 0)) = false := by
      simpa using more
    simp only [branch, more, iff_false]
    rintro ⟨t, requested, -⟩
    rw [waiting_dispose] at requested
    exact Nat.lt_irrefl _ requested.1.lt_length

theorem answer_requesting {state : RSSyncState} {page : RSSyncResp} (requesting : Requesting state)
    (parsed : page.baseResp.errCode = 0) (more : page.isEnd = 0) (carries : page.contactListArray ≠ []) :
    Requesting (answer state page) := by
  obtain ⟨i, s, waiting, -, result⟩ := answer_eq requesting parsed
  have logined : (written true true page state).login.isLogined = true := requesting.1
  have branch : (!page.contactListArray.isEmpty && decide (page.isEnd = 0)) = true := by
    simp [more, carries]
  rw [result, branch, if_pos rfl]
  refine ⟨by simpa using logined, state.subscriptions.length,
    newSubscription (written true true page state), ?_, ?_⟩
  · simp [disp_loadData logined]
  · rw [waiting_dispose, waiting_loadData logined]
    exact ⟨.inl ⟨rfl, rfl⟩, Nat.ne_of_gt waiting.lt_length⟩

theorem pageHandled_iff {state : RSSyncState} {page : RSSyncResp} (requesting : Requesting state)
    (parsed : page.baseResp.errCode = 0) : PageHandled state page ↔
      page.contactListArray ≠ [] ∨ page.isEnd ≠ 0 ∧ state.cursor = some page.syncBuff := by
  have cursor := answer_cursor requesting parsed
  have next := answer_requestsNext requesting parsed
  constructor
  · rintro ⟨stored, continued⟩
    by_cases empty : page.contactListArray = []
    · rw [next] at continued
      rw [cursor, if_pos empty] at stored
      exact .inr ⟨by simpa [empty] using continued, stored⟩
    · exact .inl empty
  · rintro (carries | ⟨finished, same⟩)
    · exact ⟨by rw [cursor, if_neg carries], by rw [next]; simp [carries]⟩
    · refine ⟨?_, by rw [next]; simp [finished]⟩
      rw [cursor]
      split_ifs
      · exact same
      · rfl

theorem pagesHandled_iff {pages : List RSSyncResp} {state : RSSyncState} (requesting : Requesting state)
    (parsed : ∀ page ∈ pages, page.baseResp.errCode = 0) (more : ∀ page ∈ pages, page.isEnd = 0) :
    EveryStep answer PageHandled state pages ↔ ∀ page ∈ pages, page.contactListArray ≠ [] := by
  induction pages generalizing state with
  | nil => simp [EveryStep]
  | cons page pages ih =>
      rw [List.forall_mem_cons] at parsed more
      rw [EveryStep, pageHandled_iff requesting parsed.1, List.forall_mem_cons]
      simp only [more.1, ne_eq, not_true_eq_false, false_and, or_false]
      apply and_congr_right
      intro carries
      exact ih (answer_requesting requesting parsed.1 more.1 carries) parsed.2 more.2

theorem pages_run {pages : List RSSyncResp} {state : RSSyncState} (requesting : Requesting state)
    (parsed : ∀ page ∈ pages, page.baseResp.errCode = 0) (more : ∀ page ∈ pages, page.isEnd = 0)
    (carries : ∀ page ∈ pages, page.contactListArray ≠ []) :
    Requesting (run answer state pages) ∧
    (run answer state pages).cursor = (pages.getLast?.map RSSyncResp.syncBuff).or state.cursor ∧
    (run answer state pages).contacts = state.contacts.insertOrReplaceAll
      (RSContactService.rowsOf (pages.flatMap RSSyncResp.contactListArray)) := by
  induction pages generalizing state with
  | nil => exact ⟨requesting, rfl, rfl⟩
  | cons page pages ih =>
      rw [List.forall_mem_cons] at parsed more carries
      obtain ⟨running, cursor, contacts⟩ :=
        ih (answer_requesting requesting parsed.1 more.1 carries.1) parsed.2 more.2 carries.2
      refine ⟨running, ?_, ?_⟩
      · rw [run_cons, cursor, answer_cursor requesting parsed.1, if_neg carries.1]
        cases last : pages.getLast? <;> simp [List.getLast?_cons, last]
      · rw [run_cons, contacts, answer_contacts requesting parsed.1, List.flatMap_cons,
          RSContactService.rowsOf_append, Table.insertOrReplaceAll_append]

theorem loadData_completes_iff (chain : PageChain) (state : RSSyncState)
    (logined : state.login.isLogined = true) : Completes chain state ↔ CarriesContacts chain state := by
  have requesting := loadData_requesting logined
  have parsed : ∀ page ∈ chain.pages, page.baseResp.errCode = 0 := by
    intro page member
    exact chain.parsed page (List.mem_append_left _ member)
  have lastParsed : chain.last.baseResp.errCode = 0 := chain.parsed chain.last (by simp)
  have handled := pagesHandled_iff requesting parsed chain.more
  constructor
  · rintro ⟨steps, -, -⟩
    rw [everyStep_append, handled] at steps
    obtain ⟨carries, lastHandled, -⟩ := steps
    obtain ⟨running, cursor, -⟩ := pages_run requesting parsed chain.more carries
    rw [pageHandled_iff running lastParsed, cursor, loadData_cursor] at lastHandled
    exact ⟨carries, lastHandled.imp_right And.right⟩
  · rintro ⟨carries, lastCarries⟩
    obtain ⟨running, cursor, contacts⟩ := pages_run requesting parsed chain.more carries
    rw [loadData_cursor] at cursor
    rw [loadData_contacts] at contacts
    have lastHandled : PageHandled (run answer (loadData state) chain.pages) chain.last := by
      rw [pageHandled_iff running lastParsed, cursor]
      exact lastCarries.imp_right fun same => ⟨chain.finished, same⟩
    refine ⟨everyStep_append.mpr ⟨handled.mpr carries, lastHandled, trivial⟩, ?_, ?_⟩
    · rw [syncRun, run_append]
      exact lastHandled.stored
    · rw [syncRun, run_append, run_cons, run_nil, answer_contacts running lastParsed, contacts,
        ← Table.insertOrReplaceAll_append, ← RSContactService.rowsOf_append, List.flatMap_append]
      simp

def alice : RSLoginService :=
  RSLoginService.updateWithLoginResp { userName := "alice", sessionKey := [1], uin := 7 } {}

def friendsThenEnd : PageChain where
  pages := [{ syncBuff := [1], contactListArray := [{ userName := "bob" }] }]
  last := { syncBuff := [2], isEnd := 1, contactListArray := [{ userName := "bob", nickName := "b" }] }
  parsed := by decide
  more := by decide
  finished := by decide

theorem loadData_completes_friends : Completes friendsThenEnd (launch alice ∅ ∅) :=
  (loadData_completes_iff friendsThenEnd (launch alice ∅ ∅) (by decide)).mpr
    ⟨by decide, .inl (by decide)⟩

-- a page of group changes before a page of contacts
def groupsThenFriends : PageChain where
  pages := [{ syncBuff := [1], groupListArray := [{ headImgURL := "g" }] }]
  last := { syncBuff := [2], isEnd := 1, contactListArray := [{ userName := "bob" }] }
  parsed := by decide
  more := by decide
  finished := by decide

theorem groupPage_stalls_sync : ¬ Completes groupsThenFriends (launch alice ∅ ∅) ∧
    (syncRun groupsThenFriends (launch alice ∅ ∅)).cursor = none := by
  have stalled : (syncRun groupsThenFriends (launch alice ∅ ∅)).cursor = none := by decide
  refine ⟨?_, stalled⟩
  intro completes
  have stored := completes.cursor
  rw [stalled] at stored
  contradiction

end RealSocial.Proof
