import RealSocial.Library.Selection
import RealSocial.Services.ContactService

namespace RealSocial

open Library

structure RSReceiverListItemViewModel where
  avatarUrl : Option String
  name : Option String
  uid : Option String
  isSelected : Bool
  deriving DecidableEq, Repr

instance : Selectable RSReceiverListItemViewModel (Option String) where
  name item := item.uid
  isSelected item := item.isSelected
  select on item := { item with isSelected := on }
  isSelected_select _ _ := rfl
  name_select _ _ := rfl

/-- `selectedData` holds the keys of the dictionary. -/
structure RSReceiverListViewModel where
  listData : List RSReceiverListItemViewModel := []
  selectedData : List String := []
  deriving DecidableEq, Repr

namespace RSReceiverListViewModel

def setDefaultToUsers (users : List String) (viewModel : RSReceiverListViewModel) : RSReceiverListViewModel :=
  { viewModel with selectedData := users }

-- `objectForKey:` finds nothing under nil
def preselected (selectedData : List String) (contact : RSContactModel) : Bool :=
  match contact.uid with
  | some uid => uid ∈ selectedData
  | none => false

theorem preselected_nil (contact : RSContactModel) : preselected [] contact = false := by
  rw [preselected]
  cases contact.uid with
  | none => rfl
  | some uid => exact decide_eq_false List.not_mem_nil

def admits (login : RSLoginService) (contact : RSContactModel) : Bool :=
  contact.uid ≠ some login.loginInfo.uid

def itemOfContact (selectedData : List String) (contact : RSContactModel) : RSReceiverListItemViewModel where
  name := contact.nickName
  uid := contact.uid
  avatarUrl := contact.avatarUrl
  isSelected := preselected selectedData contact

def updateListData (login : RSLoginService) (contactList : List RSContactModel)
    (viewModel : RSReceiverListViewModel) : RSReceiverListViewModel :=
  { viewModel with
    listData := (contactList.filter (admits login)).map (itemOfContact viewModel.selectedData) }

/-- `none` when `addObject:` is given nil: the one that SafeKit puts in asserts. -/
def getSelectedUsers (viewModel : RSReceiverListViewModel) : Option (List String) :=
  (viewModel.listData.filter (·.isSelected)).mapM (·.uid)

end RSReceiverListViewModel

/-- The urls of the avatars in it, from left to right. -/
abbrev RSReceiverAvatarStackView := List (Option String)

namespace RSReceiverAvatarStackView

def addReceiver (url : Option String) (view : RSReceiverAvatarStackView) : RSReceiverAvatarStackView :=
  if view.length ≥ 5 then view else view ++ [url]

-- a nil url is equal to no string
def removeReceiver (url : Option String) (view : RSReceiverAvatarStackView) : RSReceiverAvatarStackView :=
  match url with
  | some url => view.erase (some url)
  | none => view

end RSReceiverAvatarStackView

structure RSReceiverListViewController where
  viewModel : RSReceiverListViewModel := {}
  selectedCount : Int := 0
  avatarContentView : RSReceiverAvatarStackView := []
  allowsSelection : Bool := true
  deriving DecidableEq, Repr

namespace RSReceiverListViewController

def viewDidLoad (defaultToUsers : List String) : RSReceiverListViewController where
  viewModel := RSReceiverListViewModel.setDefaultToUsers defaultToUsers {}

def didSelectRowAtIndexPath (row : Nat) (controller : RSReceiverListViewController) :
    RSReceiverListViewController :=
  match controller.viewModel.listData[row]? with
  | some item =>
      let item := { item with isSelected := !item.isSelected }
      let listData := controller.viewModel.listData.set row item
      let controller := { controller with viewModel := { controller.viewModel with listData } }
      if item.isSelected then
        { controller with
          selectedCount := controller.selectedCount + 1
          avatarContentView := RSReceiverAvatarStackView.addReceiver item.avatarUrl controller.avatarContentView }
      else
        { controller with
          selectedCount := controller.selectedCount - 1
          avatarContentView := RSReceiverAvatarStackView.removeReceiver item.avatarUrl controller.avatarContentView }
  | none =>
      { controller with
        selectedCount := controller.selectedCount - 1
        avatarContentView := RSReceiverAvatarStackView.removeReceiver none controller.avatarContentView }

def setAllunSelected (controller : RSReceiverListViewController) : RSReceiverListViewController :=
  let listData := controller.viewModel.listData
  { controller with
    viewModel := { controller.viewModel with
      listData := listData.map fun item => { item with isSelected := false } }
    selectedCount := controller.selectedCount - listData.countP (·.isSelected)
    avatarContentView := [] }

def updateListData (login : RSLoginService) (contactList : List RSContactModel)
    (controller : RSReceiverListViewController) : RSReceiverListViewController :=
  { controller with viewModel := controller.viewModel.updateListData login contactList }

end RSReceiverListViewController

inductive ReceiverListEvent where
  | tap (row : Nat)
  | unselectAll
  | listData (login : RSLoginService) (contactList : List RSContactModel)
  deriving DecidableEq

namespace RSReceiverListViewController

/-- A tap reaches a row that the table shows, while the table allows selection. -/
def step (controller : RSReceiverListViewController) : ReceiverListEvent → RSReceiverListViewController
  | .tap row =>
      if controller.allowsSelection ∧ row < controller.viewModel.listData.length then
        controller.didSelectRowAtIndexPath row
      else controller
  | .unselectAll => controller.setAllunSelected
  | .listData login contactList => controller.updateListData login contactList

end RSReceiverListViewController

end RealSocial
