import RealSocial.Features.GroupSpace
import RealSocial.Library.Run

namespace RealSocial

open Library

/-! # Choosing the authors of a group, in the session of one account

Contacts are saved, the list is loaded from them and its rows are tapped, in any order. -/

inductive GroupAuthorsEvent where
  | saveContactList (ok : Bool) (contactList : List RSContact)
  | loadData
  | tap (row : Nat)
  | unselectAll
  deriving DecidableEq

/-- `loaded` keeps the contacts as they were when the list was loaded. -/
structure GroupAuthors where
  contacts : ContactTable
  screen : RSReceiverListViewController
  loaded : ContactTable := ∅

namespace GroupAuthors

def viewDidLoad (contacts : ContactTable) (defaultToUsers : List String) : GroupAuthors where
  contacts := contacts
  screen := .viewDidLoad defaultToUsers

def step (login : RSLoginService) (state : GroupAuthors) : GroupAuthorsEvent → GroupAuthors
  | .saveContactList ok contactList =>
      { state with contacts := (RSContactService.saveContactList ok contactList state.contacts).2 }
  | .loadData =>
      { state with
        screen := state.screen.step (.listData login (RSContactService.getExistContact state.contacts))
        loaded := state.contacts }
  | .tap row => { state with screen := state.screen.step (.tap row) }
  | .unselectAll => { state with screen := state.screen.step .unselectAll }

def createGroup (login : RSLoginService) (time name : String) (dic : ContactDictionary)
    (state : GroupAuthors) : Option (Except NSError RSCreateSpaceReq × ContactDictionary) :=
  state.screen.viewModel.getSelectedUsers.bind fun authors =>
    RSReceiverSpaceViewModel.createGroupSpaceWithAuthors login time authors name state.contacts dic

end GroupAuthors

end RealSocial
