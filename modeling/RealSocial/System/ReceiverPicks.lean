import RealSocial.Features.ReceiverList
import RealSocial.Features.ReceiverSpaceView
import RealSocial.Library.Run

namespace RealSocial

open Library

/-! # The receiver screens with what the user picked on them -/

structure UserPicks where
  screen : RSReceiverListViewController
  chosen : List (Option String) := []

namespace UserPicks

def viewDidLoad (defaultToUsers : List String) : UserPicks where
  screen := .viewDidLoad defaultToUsers

def step (picks : UserPicks) (event : ReceiverListEvent) : UserPicks where
  screen := picks.screen.step event
  chosen :=
    match event with
    | .tap row =>
        if picks.screen.allowsSelection then
          SelectionList.pick picks.screen.viewModel.listData row picks.chosen
        else picks.chosen
    | .unselectAll => []
    | .listData _ _ => picks.chosen

def selection (picks : UserPicks) : SelectionList RSReceiverListItemViewModel where
  items := picks.screen.viewModel.listData
  count := picks.screen.selectedCount
  chosen := picks.chosen

end UserPicks

structure SpacePicks where
  screen : RSReceiverSpaceView := {}
  chosen : List Int64 := []

namespace SpacePicks

def step (picks : SpacePicks) (event : ReceiverSpaceEvent) : SpacePicks where
  screen := picks.screen.step event
  chosen :=
    match event with
    | .tap row =>
        if picks.screen.allowsSelection then
          SelectionList.pick picks.screen.viewModel.listData row picks.chosen
        else picks.chosen
    | .unselectAll => []
    | .loaded _ _ => picks.chosen

def selection (picks : SpacePicks) : SelectionList RSReceiverSpaceItemViewModel where
  items := picks.screen.viewModel.listData
  count := picks.screen.selectedCount
  chosen := picks.chosen

end SpacePicks

end RealSocial
