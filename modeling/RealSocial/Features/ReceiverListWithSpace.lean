import RealSocial.Features.ReceiverList
import RealSocial.Features.ReceiverSpaceView

namespace RealSocial

structure RSReceiverListWithSpaceViewController extends RSReceiverListViewController where
  spaceView : RSReceiverSpaceView := {}
  bottomOperationBarLabel : String := ""
  deriving DecidableEq

namespace RSReceiverSpaceView

def isAllFriendSelected (view : RSReceiverSpaceView) : Bool := view.allFriendCell.viewModel.isSelected

def isMemoriesSelected (view : RSReceiverSpaceView) : Bool := view.memoriesCell.viewModel.isSelected

def assignAllFriend (isSelected : Bool) (view : RSReceiverSpaceView) : RSReceiverSpaceView :=
  { view with allFriendCell := { view.allFriendCell with
      viewModel := { view.allFriendCell.viewModel with isSelected } } }

def assignMemories (isSelected : Bool) (view : RSReceiverSpaceView) : RSReceiverSpaceView :=
  { view with memoriesCell := { view.memoriesCell with
      viewModel := { view.memoriesCell.viewModel with isSelected } } }

end RSReceiverSpaceView

namespace RSReceiverListWithSpaceViewController

def onSpaceView (change : RSReceiverSpaceView → RSReceiverSpaceView)
    (controller : RSReceiverListWithSpaceViewController) : RSReceiverListWithSpaceViewController :=
  { controller with spaceView := change controller.spaceView }

def onList (change : RSReceiverListViewController → RSReceiverListViewController)
    (controller : RSReceiverListWithSpaceViewController) : RSReceiverListWithSpaceViewController :=
  { controller with
    toRSReceiverListViewController := change controller.toRSReceiverListViewController }

def setAllowsSelection (allows : Bool) (controller : RSReceiverListWithSpaceViewController) :
    RSReceiverListWithSpaceViewController :=
  { controller with
    allowsSelection := allows
    spaceView := { controller.spaceView with allowsSelection := allows } }

/-! The three blocks that `viewDidLoad` subscribes, in this order. -/

def tipsBlock (controller : RSReceiverListWithSpaceViewController) : RSReceiverListWithSpaceViewController :=
  let tips := ""
  let tips := if controller.spaceView.isAllFriendSelected then "所有好友可见" else tips
  let tips := if controller.spaceView.isMemoriesSelected then "保存到我的回忆录，仅自己可见" else tips
  let controller := { controller with bottomOperationBarLabel := tips }
  if tips.length ≤ 0 then controller.setAllowsSelection true else controller

-- the last assignment runs the other cell's block, which does nothing for `NO`, and the tips
def allFriendBlock (controller : RSReceiverListWithSpaceViewController) :
    RSReceiverListWithSpaceViewController :=
  if controller.spaceView.isAllFriendSelected then
    let controller := controller.onList RSReceiverListViewController.setAllunSelected
    let controller := controller.onSpaceView RSReceiverSpaceView.setAllunSelected
    let controller := controller.setAllowsSelection false
    let controller := controller.onSpaceView fun view =>
      { view with memoriesCell := view.memoriesCell.setSelected false }
    (controller.onSpaceView (RSReceiverSpaceView.assignMemories false)).tipsBlock
  else controller

def memoriesBlock (controller : RSReceiverListWithSpaceViewController) :
    RSReceiverListWithSpaceViewController :=
  if controller.spaceView.isMemoriesSelected then
    let controller := controller.onList RSReceiverListViewController.setAllunSelected
    let controller := controller.onSpaceView RSReceiverSpaceView.setAllunSelected
    let controller := controller.setAllowsSelection false
    let controller := controller.onSpaceView fun view =>
      { view with allFriendCell := view.allFriendCell.setSelected false }
    (controller.onSpaceView (RSReceiverSpaceView.assignAllFriend false)).tipsBlock
  else controller

/-- Each block runs once on subscription, and the merged signal twice. The lists that `loadData` gave
before are those of the first events. -/
def viewDidLoad : RSReceiverListWithSpaceViewController :=
  let controller : RSReceiverListWithSpaceViewController :=
    { toRSReceiverListViewController := RSReceiverListViewController.viewDidLoad [] }
  controller.allFriendBlock.memoriesBlock.tipsBlock.tipsBlock

def tapAllFriendCell (controller : RSReceiverListWithSpaceViewController) :
    RSReceiverListWithSpaceViewController :=
  let isSelected := !controller.spaceView.isAllFriendSelected
  let controller := controller.onSpaceView (RSReceiverSpaceView.assignAllFriend isSelected)
  let controller := controller.allFriendBlock.tipsBlock
  controller.onSpaceView fun view =>
    { view with allFriendCell := view.allFriendCell.setSelected view.isAllFriendSelected }

def tapMemoriesCell (controller : RSReceiverListWithSpaceViewController) :
    RSReceiverListWithSpaceViewController :=
  let isSelected := !controller.spaceView.isMemoriesSelected
  let controller := controller.onSpaceView (RSReceiverSpaceView.assignMemories isSelected)
  let controller := controller.memoriesBlock.tipsBlock
  controller.onSpaceView fun view =>
    { view with memoriesCell := view.memoriesCell.setSelected view.isMemoriesSelected }

end RSReceiverListWithSpaceViewController

inductive ReceiverListWithSpaceEvent where
  | tapAllFriendCell
  | tapMemoriesCell
  | tapUser (row : Nat)
  | tapSpace (row : Nat)
  | listData (login : RSLoginService) (contactList : List RSContactModel)
  | loaded (contacts : ContactTable) (resp : RSGetAllMySpaceResp)

/-- What the screen that pushed the receivers does when the user confirms. -/
inductive SpaceCreateAction where
  | createToAllFriends
  | createToMemories
  | showTip (message : String)
  | create (toUsers : List String) (toSpaces : List Int64)
  deriving DecidableEq, Repr

namespace RSSpaceCreateViewController

def spaceCompletionHandler (toUsers : List String) (spaceIds : List Int64)
    (isSelectedAllFriend isSelectedMemories : Bool) : SpaceCreateAction :=
  if isSelectedAllFriend then .createToAllFriends
  else if isSelectedMemories then .createToMemories
  else if toUsers.length ≤ 0 ∧ spaceIds.length ≤ 0 then .showTip "必须选择一个对象"
  else .create toUsers spaceIds

end RSSpaceCreateViewController

namespace RSReceiverListWithSpaceViewController

def step (controller : RSReceiverListWithSpaceViewController) :
    ReceiverListWithSpaceEvent → RSReceiverListWithSpaceViewController
  | .tapAllFriendCell => controller.tapAllFriendCell
  | .tapMemoriesCell => controller.tapMemoriesCell
  | .tapUser row => controller.onList fun list => list.step (.tap row)
  | .tapSpace row => controller.onSpaceView fun view => view.step (.tap row)
  | .listData login contactList => controller.onList fun list => list.step (.listData login contactList)
  | .loaded contacts resp => controller.onSpaceView fun view => view.step (.loaded contacts resp)

/-- `none` when `getSelectedUsers` does not return. -/
def finishButton (controller : RSReceiverListWithSpaceViewController) : Option SpaceCreateAction := do
  let toUsers ← controller.viewModel.getSelectedUsers
  return RSSpaceCreateViewController.spaceCompletionHandler toUsers
    controller.spaceView.viewModel.getSelectedSpaces controller.spaceView.isAllFriendSelected
    controller.spaceView.isMemoriesSelected

end RSReceiverListWithSpaceViewController

end RealSocial
