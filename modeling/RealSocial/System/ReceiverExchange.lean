import RealSocial.Features.ReceiverList

namespace RealSocial

open Library

/-! # Loading the receiver list

The request signal is cold: the contact service subscribes to it to save the contacts, the view model
subscribes to it again to refresh the list, and each subscription sends a request of its own. -/

def RSGetAllContactResp.respClass (parseFromData : NSData → Except NSError RSGetAllContactResp) :
    RespClass RSGetAllContactResp where
  parseFromData := parseFromData
  baseResp resp := some resp.baseResp

/-- `saved` keeps the contacts that were written to the table since the list was loaded. -/
structure ReceiverExchange where
  login : RSLoginService
  contacts : ContactTable
  viewModel : RSReceiverListViewModel
  serviceWaits : Bool := true
  viewModelWaits : Bool := true
  updateSignal : Nat := 0
  completeSignal : Nat := 0
  errorSignal : List NSError := []
  saved : List RSContact := []

/-- The answers to the two subscriptions, and the saves of others into the contact table. -/
inductive ReceiverExchangeEvent where
  | serviceAnswer (ok : Bool) (outcome : Except NSError NSData)
  | viewModelAnswer (outcome : Except NSError NSData)
  | saveContactList (ok : Bool) (contactList : List RSContact)

namespace ReceiverExchange

def refresh (exchange : ReceiverExchange) : ReceiverExchange :=
  let contactList := RSContactService.getExistContact exchange.contacts
  { exchange with viewModel := exchange.viewModel.updateListData exchange.login contactList }

def loadData (login : RSLoginService) (contacts : ContactTable) (viewModel : RSReceiverListViewModel) :
    ReceiverExchange :=
  refresh { login, contacts, viewModel }

def save (ok : Bool) (contactList : List RSContact) (exchange : ReceiverExchange) : ReceiverExchange :=
  { exchange with
    contacts := (RSContactService.saveContactList ok contactList exchange.contacts).2
    saved := exchange.saved ++ if ok then contactList else [] }

abbrev Delivered := SignalEvent (RSObject RSGetAllContactResp) NSError

/-- The subscription in `loadData` of the contact service. -/
def serviceEvent (ok : Bool) (exchange : ReceiverExchange) : Delivered → ReceiverExchange
  | .next (.resp resp) => exchange.save ok resp.contactArray
  -- a request with a response class delivers only messages
  | .next (.response _) => exchange
  | .error _ => exchange
  | .completed => { exchange with updateSignal := exchange.updateSignal + 1 }

/-- The subscription in `loadData` of the view model. -/
def viewModelEvent (exchange : ReceiverExchange) : Delivered → ReceiverExchange
  | .next _ => exchange
  | .error error => { exchange with errorSignal := exchange.errorSignal ++ [error] }
  | .completed => { exchange.refresh with completeSignal := exchange.completeSignal + 1 }

section

variable (parsePKG : NSData → Option RSPKG) (parseFromData : NSData → Except NSError RSGetAllContactResp)

def request : RSRequest RSGetAllContactResp :=
  RSRequestFactory.requestWithReqResp false (some (RSGetAllContactResp.respClass parseFromData)) none

def serviceAnswer (ok : Bool) (outcome : Except NSError NSData) (exchange : ReceiverExchange) :
    ReceiverExchange :=
  if exchange.serviceWaits then
    (RSNetWorkService.sendRequest parsePKG (request parseFromData) outcome).foldl (serviceEvent ok)
      { exchange with serviceWaits := false }
  else exchange

def viewModelAnswer (outcome : Except NSError NSData) (exchange : ReceiverExchange) : ReceiverExchange :=
  if exchange.viewModelWaits then
    (RSNetWorkService.sendRequest parsePKG (request parseFromData) outcome).foldl viewModelEvent
      { exchange with viewModelWaits := false }
  else exchange

def step (exchange : ReceiverExchange) : ReceiverExchangeEvent → ReceiverExchange
  | .serviceAnswer ok outcome => exchange.serviceAnswer parsePKG parseFromData ok outcome
  | .viewModelAnswer outcome => exchange.viewModelAnswer parsePKG parseFromData outcome
  | .saveContactList ok contactList => exchange.save ok contactList

end

end ReceiverExchange

end RealSocial
