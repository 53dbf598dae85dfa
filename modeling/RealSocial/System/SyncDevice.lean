import RealSocial.Services.SyncService

namespace RealSocial

open Library

/-! # The sync of one account, interrupted anywhere

The next block of a subscription is taken apart at its two writes. Between them the
application may be killed, and a trigger on another thread may call `loadData`. -/

structure SyncDevice where
  state : RSSyncState
  handling : Option (Nat × RSSyncResp) := none

inductive SyncDeviceEvent where
  | loadData
  | saveContact (i : Nat) (ok : Bool) (resp : RSSyncResp)
  | saveSyncBuff (ok : Bool)
  | sendError (i : Nat)
  | kill

namespace SyncDevice

open RSSyncService

def saveContact (i : Nat) (ok : Bool) (resp : RSSyncResp) (device : SyncDevice) : SyncDevice :=
  match device.handling with
  | some _ => device -- the main queue runs one block after another
  | none =>
      if Live i device.state then
        if resp.baseResp.errCode ≠ 0 then { device with state := dispose i device.state }
        else
          let (contactResult, state) := RSSyncService.saveContact ok resp.contactListArray device.state
          if contactResult && saveGroup resp.groupListArray then { state, handling := some (i, resp) }
          else { state := dispose i state }
      else device

def saveSyncBuff (ok : Bool) (device : SyncDevice) : SyncDevice :=
  match device.handling with
  | none => device
  | some (i, resp) =>
      let (syncBuffResult, state) := RSSyncService.saveSyncBuff ok resp device.state
      { state := dispose i (if syncBuffResult && resp.isEnd = 0 then loadData state else state) }

def kill (device : SyncDevice) : SyncDevice where
  state := launch device.state.login.restart device.state.contacts device.state.keyValues

def step (device : SyncDevice) : SyncDeviceEvent → SyncDevice
  | .loadData => { device with state := RSSyncService.loadData device.state }
  | .saveContact i ok resp => device.saveContact i ok resp
  | .saveSyncBuff ok => device.saveSyncBuff ok
  | .sendError i => { device with state := dispose i device.state }
  | .kill => device.kill

/-- With nothing in between, the two halves are the response handler in one step. -/
theorem step_response (state : RSSyncState) (i : Nat) (contactOk cursorOk : Bool) (resp : RSSyncResp) :
    (step (step { state } (.saveContact i contactOk resp)) (.saveSyncBuff cursorOk)) =
      { state := response i contactOk cursorOk resp state } := by
  unfold step saveContact response
  by_cases live : Live i state
  · by_cases failed : resp.baseResp.errCode ≠ 0
    · simp [live, failed, saveSyncBuff]
    · cases written : (RSSyncService.saveContact contactOk resp.contactListArray state).1 with
      | true => simp [live, failed, saveSyncBuff, subscribeNext, written, saveGroup]
      | false => simp [live, failed, saveSyncBuff, subscribeNext, written, saveGroup]
  · simp [live, saveSyncBuff]

end SyncDevice

end RealSocial
