import RealSocial.Features.SpaceLine
import RealSocial.Library.Run
import RealSocial.Services.SyncService
import RealSocial.System.ContactStore

namespace RealSocial

open Library

/-! # One device, one account after the other

Of a device this keeps the stores that the contact list, the contact lookups and the story line
read, and what the answers of a session and its lookups do to them. -/

structure Device where
  login : RSLoginService := {}
  contactStore : RSContactStore := RSContactStore.launch ∅
  spaces : SpaceTable := ∅

inductive AccountEvent where
  | syncResponse (ok : Bool) (resp : RSSyncResp)
  | allContacts (ok : Bool) (resp : RSGetAllContactResp)
  | allSpace (ok : Nat → Bool) (resp : RSGetAllSpaceResp)
  | getContactByUid (uid : String)

/-- What happens in an event, without the data that the server sends. -/
inductive AccountSlot where
  | syncResponse (ok : Bool)
  | allContacts (ok : Bool)
  | allSpace (ok : Nat → Bool)
  | getContactByUid (uid : String)

def AccountEvent.slot : AccountEvent → AccountSlot
  | .syncResponse ok _ => .syncResponse ok
  | .allContacts ok _ => .allContacts ok
  | .allSpace ok _ => .allSpace ok
  | .getContactByUid uid => .getContactByUid uid

namespace Device

variable (data : RSSpace → NSData)

def saveContacts (ok : Bool) (contactList : List RSContact) (device : Device) : Option Device :=
  (RSContactStore.step (some device.contactStore) (.saveContactList ok contactList)).map fun contactStore =>
    { device with contactStore }

def step : Option Device → AccountEvent → Option Device
  | none, _ => none
  | some device, .syncResponse ok resp => device.saveContacts ok resp.contactListArray
  | some device, .allContacts ok resp => device.saveContacts ok resp.contactArray
  | some device, .allSpace ok resp =>
      some { device with spaces := (RSSpaceLineViewModel.saveToDB data ok resp device.spaces).2 }
  | some device, .getContactByUid uid =>
      (RSContactStore.step (some device.contactStore) (.getContactByUid uid)).map fun contactStore =>
        { device with contactStore }

def session (resp : RSLoginResp) (events : List AccountEvent) (device : Option Device) : Option Device :=
  run (step data)
    (device.map fun device => { device with login := device.login.updateWithLoginResp resp }) events

-- the logout takes the login information away and shows the login view, and nothing else
def logout (device : Device) : Device := { device with login := device.login.logout }

def twoSessions (first : RSLoginResp) (firstEvents : List AccountEvent) (second : RSLoginResp)
    (secondEvents : List AccountEvent) : Option Device :=
  session data second secondEvents ((session data first firstEvents (some {})).map logout)

structure Reads where
  existContacts : List RSContactModel
  contactByUid : String → Option (Option RSContactModel)
  timeline : ℚ → List RSSpaceModel

def reads (order : WCDB.OrderDescending RSSpaceModel.updateTimeColumn) (device : Device) : Reads where
  existContacts := RSContactService.getExistContact device.contactStore.contacts
  contactByUid uid :=
    (RSContactService.getContactByUid uid device.contactStore.contacts device.contactStore.dic).map Prod.fst
  timeline now := RSSpaceLineViewModel.getSpacesFromDBIn24Hour order now device.spaces

end Device

end RealSocial
