import RealSocial.Library.Selection
import RealSocial.Protoc.Space
import RealSocial.Services.ContactService

namespace RealSocial

open Library

inductive RSReceiverSpaceItemViewModelType where
  | normal
  | add
  deriving DecidableEq, Repr

structure RSReceiverSpaceItemViewModel where
  avatarUrls : List String := []
  name : String := ""
  num : Option String := none
  isSelected : Bool := false
  spaceId : Int64 := 0
  type : RSReceiverSpaceItemViewModelType := .normal
  deriving DecidableEq

instance : Selectable RSReceiverSpaceItemViewModel Int64 where
  name item := item.spaceId
  isSelected item := item.isSelected
  select on item := { item with isSelected := on }
  isSelected_select _ _ := rfl
  name_select _ _ := rfl

structure RSReceiverSpaceViewModel where
  listData : List RSReceiverSpaceItemViewModel := []
  deriving DecidableEq

namespace RSReceiverSpaceViewModel

/-- `none` when a contact has no avatar url and `addObject:` raises. -/
def itemOfSpace (contacts : ContactTable) (space : RSSpace) : Option RSReceiverSpaceItemViewModel := do
  let avatarUrls ← (RSContactService.getContactsByUids space.authorArray contacts).mapM (·.avatarUrl)
  return {
    avatarUrls
    name := space.name
    spaceId := space.spaceId.svrId.toInt64
    num := some ("(" ++ toString space.authorArray.length ++ ")") }

def itemsOf (contacts : ContactTable) (resp : RSGetAllMySpaceResp) :
    Option (List RSReceiverSpaceItemViewModel) :=
  (resp.listArray.filter (·.type = RSenSpaceType_SpaceTypeGroup)).mapM (itemOfSpace contacts)

/-- An exception leaves the list as it is. -/
def loadData (contacts : ContactTable) (resp : RSGetAllMySpaceResp) (viewModel : RSReceiverSpaceViewModel) :
    RSReceiverSpaceViewModel :=
  match itemsOf contacts resp with
  | some items => { viewModel with listData := items.reverse }
  | none => viewModel

def getSelectedSpaces (viewModel : RSReceiverSpaceViewModel) : List Int64 :=
  (viewModel.listData.filter fun item => item.isSelected ∧ item.type = .normal).map (·.spaceId)

end RSReceiverSpaceViewModel

structure RSReceiverSpaceCollectionViewCell where
  viewModel : RSReceiverSpaceItemViewModel
  selectedImage : String := ""
  deriving DecidableEq

namespace RSReceiverSpaceCollectionViewCell

def setSelected (isSelected : Bool) (cell : RSReceiverSpaceCollectionViewCell) :
    RSReceiverSpaceCollectionViewCell :=
  { cell with selectedImage := if isSelected then "checkbox-selected" else "checkbox-nor" }

def setViewModel (viewModel : RSReceiverSpaceItemViewModel) (cell : RSReceiverSpaceCollectionViewCell) :
    RSReceiverSpaceCollectionViewCell :=
  let cell := { cell with viewModel }
  if viewModel.type = .normal then cell.setSelected viewModel.isSelected else cell

def named (name : String) : RSReceiverSpaceCollectionViewCell :=
  { viewModel := {} : RSReceiverSpaceCollectionViewCell }.setViewModel { name }

end RSReceiverSpaceCollectionViewCell

structure RSReceiverSpaceView where
  viewModel : RSReceiverSpaceViewModel := {}
  selectedCount : Int := 0
  allowsSelection : Bool := true
  allFriendCell : RSReceiverSpaceCollectionViewCell := .named "分享所有好友"
  memoriesCell : RSReceiverSpaceCollectionViewCell := .named "我的回忆录"
  deriving DecidableEq

namespace RSReceiverSpaceView

def didSelectItemAtIndexPath (row : Nat) (view : RSReceiverSpaceView) : RSReceiverSpaceView :=
  match view.viewModel.listData[row]? with
  | some item =>
      let item := { item with isSelected := !item.isSelected }
      let view := { view with viewModel := { listData := view.viewModel.listData.set row item } }
      if item.isSelected then { view with selectedCount := view.selectedCount + 1 }
      else { view with selectedCount := view.selectedCount - 1 }
  | none => { view with selectedCount := view.selectedCount - 1 }

def setAllunSelected (view : RSReceiverSpaceView) : RSReceiverSpaceView :=
  let listData := view.viewModel.listData
  { view with
    viewModel := { listData := listData.map fun item => { item with isSelected := false } }
    selectedCount := view.selectedCount - listData.countP (·.isSelected) }

def loadData (contacts : ContactTable) (resp : RSGetAllMySpaceResp) (view : RSReceiverSpaceView) :
    RSReceiverSpaceView :=
  { view with viewModel := view.viewModel.loadData contacts resp }

end RSReceiverSpaceView

inductive ReceiverSpaceEvent where
  | tap (row : Nat)
  | unselectAll
  | loaded (contacts : ContactTable) (resp : RSGetAllMySpaceResp)

namespace RSReceiverSpaceView

def step (view : RSReceiverSpaceView) : ReceiverSpaceEvent → RSReceiverSpaceView
  | .tap row =>
      if view.allowsSelection ∧ row < view.viewModel.listData.length then view.didSelectItemAtIndexPath row
      else view
  | .unselectAll => view.setAllunSelected
  | .loaded contacts resp => view.loadData contacts resp

end RSReceiverSpaceView

end RealSocial
