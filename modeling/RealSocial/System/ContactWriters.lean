import RealSocial.Services.SyncService
import RealSocial.System.SyncSession

namespace RealSocial

open Library

/-! # The full load and the incremental sync on one contact table

The server keeps one line of contact versions, numbered as they are made. An answer brings some
of them, and may arrive at any time after others. -/

abbrev ContactVersion (history : List RSContact) := Fin history.length

structure ContactWriters (history : List RSContact) where
  sync : RSSyncState
  /-- The saving subscriptions to `GetAllContact` requests, true while they wait for an answer. -/
  fullLoads : List Bool := []
  delivered : List (ContactVersion history) := []
  saved : List (ContactVersion history) := []

inductive ContactWritersEvent (history : List RSContact) where
  | syncLoadData
  | syncError (i : Nat)
  | syncPage (i : Nat) (versions : List (ContactVersion history)) (syncBuff : NSData) (isEnd : UInt32)
      (groupList : List RSGroup) (contactOk cursorOk : Bool)
  | contactLoadData
  | contactError (j : Nat)
  | allContacts (j : Nat) (versions : List (ContactVersion history)) (ok : Bool)
  | login (resp : RSLoginResp)
  | logout

namespace ContactWriters

variable {history : List RSContact}

def versionName (n : ContactVersion history) : String := (history.get n).userName

def versionRow (n : ContactVersion history) : RSContactModel := RSContactService.modelOfContact (history.get n)

-- the latest version of every contact among the first `t`, as a full load brings them
def Snapshot (t : Nat) (versions : List (ContactVersion history)) : Prop :=
  ∀ n, n ∈ versions ↔ n.val < t ∧ ∀ m : ContactVersion history, m.val < t → versionName m = versionName n → m ≤ n

-- the versions made between two cursors, as a sync page brings them
def Changes (a b : Nat) (versions : List (ContactVersion history)) : Prop :=
  versions.Pairwise (· < ·) ∧ ∀ n : ContactVersion history, n ∈ versions ↔ a ≤ n.val ∧ n.val < b

def deliver (ok : Bool) (versions : List (ContactVersion history)) (writers : ContactWriters history) :
    ContactWriters history :=
  { writers with
    delivered := writers.delivered ++ versions
    saved := writers.saved ++ if ok then versions else [] }

def syncPage (i : Nat) (contactOk cursorOk : Bool) (versions : List (ContactVersion history))
    (page : RSSyncResp) (writers : ContactWriters history) : ContactWriters history :=
  let resp := { page with contactListArray := versions.map history.get }
  if RSSyncService.Live i writers.sync then
    { writers with sync := RSSyncService.response i contactOk cursorOk resp writers.sync }.deliver
      contactOk versions
  else writers

def allContacts (j : Nat) (ok : Bool) (versions : List (ContactVersion history))
    (writers : ContactWriters history) : ContactWriters history :=
  let resp : RSGetAllContactResp := { contactArray := versions.map history.get }
  if writers.fullLoads[j]? = some true then
    { writers with
      sync := { writers.sync with
        contacts := (RSContactService.saveAllContactResp ok resp writers.sync.contacts).2 }
      fullLoads := writers.fullLoads.set j false }.deliver ok versions
  else writers

def step (writers : ContactWriters history) : ContactWritersEvent history → ContactWriters history
  | .syncLoadData => { writers with sync := RSSyncService.loadData writers.sync }
  | .syncError i => { writers with sync := RSSyncService.sendError i writers.sync }
  | .syncPage i versions syncBuff isEnd groupListArray contactOk cursorOk =>
      writers.syncPage i contactOk cursorOk versions { syncBuff, isEnd, groupListArray }
  | .contactLoadData => { writers with fullLoads := writers.fullLoads ++ [true] }
  | .contactError j => { writers with fullLoads := writers.fullLoads.set j false }
  | .allContacts j versions ok => writers.allContacts j ok versions
  | .login resp => { writers with sync := RSSyncService.login resp writers.sync }
  | .logout => { writers with sync := RSSyncService.logout writers.sync }

end ContactWriters

end RealSocial
