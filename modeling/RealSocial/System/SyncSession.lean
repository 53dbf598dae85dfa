import RealSocial.Services.SyncService

namespace RealSocial

open Library

/-! # The sync under logins and logouts

The launch, a change of the network and a login all call `loadData`; each trigger and each
response is one step. -/

inductive SyncEvent where
  | loadData
  | response (i : Nat) (contactOk cursorOk : Bool) (resp : RSSyncResp)
  | sendError (i : Nat)
  | login (resp : RSLoginResp)
  | logout

namespace RSSyncService

def login (resp : RSLoginResp) (state : RSSyncState) : RSSyncState :=
  loadData { state with login := state.login.updateWithLoginResp resp }

def logout (state : RSSyncState) : RSSyncState :=
  { state with login := state.login.logout, logouts := state.logouts + 1 }

def step (state : RSSyncState) : SyncEvent → RSSyncState
  | .loadData => loadData state
  | .response i contactOk cursorOk resp => response i contactOk cursorOk resp state
  | .sendError i => sendError i state
  | .login resp => login resp state
  | .logout => logout state

end RSSyncService

end RealSocial
