import RealSocial.Services.ContactService
import RealSocial.Services.KeyValueService

namespace RealSocial

open Library

/-- A subscription to `sendRequest:`. The account and the number of logouts at the time of
sending are not known to the code. -/
structure RSSyncSubscription where
  req : RSSyncReq
  uid : String
  logouts : Nat
  live : Bool
  deriving DecidableEq, Repr

structure RSSyncState where
  login : RSLoginService
  contacts : ContactTable
  keyValues : KeyValueTable
  disp : Option Nat := none
  subscriptions : List RSSyncSubscription := []
  logouts : Nat := 0

namespace RSSyncState

def uid (state : RSSyncState) : String := state.login.loginInfo.uid

def syncBuff (state : RSSyncState) : Option NSData :=
  RSKeyValueService.dataWithKey state.uid kKeyValueSyncBuff state.keyValues

def cursor (state : RSSyncState) : Option NSData :=
  RSKeyValueService.stored state.uid kKeyValueSyncBuff state.keyValues

theorem syncBuff_eq (state : RSSyncState) : state.syncBuff = state.cursor.bind WCDB.unarchive :=
  RSKeyValueService.dataWithKey_eq state.uid kKeyValueSyncBuff state.keyValues

end RSSyncState

namespace RSSyncService

-- the application as it starts, with what its database holds
def launch (login : RSLoginService) (contacts : ContactTable) (keyValues : KeyValueTable) : RSSyncState :=
  { login, contacts, keyValues }

def dispose (i : Nat) (state : RSSyncState) : RSSyncState :=
  { state with subscriptions := state.subscriptions.modify i fun s => { s with live := false } }

def disposeCurrent (state : RSSyncState) : RSSyncState :=
  match state.disp with
  | some i => dispose i state
  | none => state

def syncReq (state : RSSyncState) : RSSyncReq where
  baseReq := RSRequestFactory.baseReq state.login
  syncBuff := state.syncBuff
  selector := 0xffffffff

def subscribe (state : RSSyncState) : RSSyncState :=
  { state with
    disp := some state.subscriptions.length
    subscriptions := state.subscriptions ++
      [{ req := syncReq state, uid := state.uid, logouts := state.logouts, live := true }] }

def loadData (state : RSSyncState) : RSSyncState :=
  if state.login.isLogined then subscribe (disposeCurrent state) else state

def saveContact (ok : Bool) (array : List RSContact) (state : RSSyncState) : Bool × RSSyncState :=
  let (result, contacts) := RSContactService.saveContactList ok array state.contacts
  (result, { state with contacts })

def saveGroup (_array : List RSGroup) : Bool := true

def saveSyncBuff (ok : Bool) (resp : RSSyncResp) (state : RSSyncState) : Bool × RSSyncState :=
  let (result, keyValues) :=
    RSKeyValueService.saveData ok state.uid resp.syncBuff kKeyValueSyncBuff state.keyValues
  (result, { state with keyValues })

-- the next block of the subscription; `contactOk` and `cursorOk` tell whether its two writes succeed
def subscribeNext (contactOk cursorOk : Bool) (resp : RSSyncResp) (state : RSSyncState) : RSSyncState :=
  let (contactResult, state) := saveContact contactOk resp.contactListArray state
  let groupResult := saveGroup resp.groupListArray
  if contactResult && groupResult then
    let (syncBuffResult, state) := saveSyncBuff cursorOk resp state
    if syncBuffResult && resp.isEnd = 0 then loadData state else state
  else state

def Live (i : Nat) (state : RSSyncState) : Prop :=
  ∃ s, state.subscriptions[i]? = some s ∧ s.live = true

instance (i : Nat) (state : RSSyncState) : Decidable (Live i state) :=
  decidable_of_iff ((state.subscriptions[i]?).any (·.live) = true) (by simp [Live, Option.any_eq_true])

/-- `sendRequest:` hands a parsed response on: an error code goes to the error block, which only
logs, and anything else to the next block. Either way the subscription is over. -/
def response (i : Nat) (contactOk cursorOk : Bool) (resp : RSSyncResp) (state : RSSyncState) :
    RSSyncState :=
  if Live i state then
    if resp.baseResp.errCode ≠ 0 then dispose i state
    else dispose i (subscribeNext contactOk cursorOk resp state)
  else state

def sendError (i : Nat) (state : RSSyncState) : RSSyncState := dispose i state

end RSSyncService

end RealSocial
