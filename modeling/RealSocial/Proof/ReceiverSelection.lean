import RealSocial.Library.Traverse
import RealSocial.System.ReceiverPicks

namespace RealSocial.Proof

open Library Selectable

/-! # What the receiver screens count and return -/

/-! ## Each operation of a screen is one of its selection list -/

theorem userPicks_tap {picks : UserPicks} (allows : picks.screen.allowsSelection = true) (row : Nat) :
    (picks.step (.tap row)).selection = picks.selection.tap row := by
  apply SelectionList.eq_tap
  · exact if_pos allows
  · intro outside
    have unchanged : (picks.step (.tap row)).screen = picks.screen :=
      if_neg fun both => Nat.not_lt.mpr (List.getElem?_eq_none_iff.mp outside) both.2
    exact ⟨congrArg (·.viewModel.listData) unchanged, congrArg (·.selectedCount) unchanged⟩
  · intro item tapped
    have delivered : (picks.step (.tap row)).screen = picks.screen.didSelectRowAtIndexPath row :=
      if_pos ⟨allows, (List.getElem?_eq_some_iff.mp tapped).1⟩
    have found : picks.screen.viewModel.listData[row]? = some item := tapped
    rw [UserPicks.selection, delivered, RSReceiverListViewController.didSelectRowAtIndexPath]
    simp only [found]
    cases on : item.isSelected with
    | false => simp [on, isSelected, select, UserPicks.selection]
    | true => simp [on, isSelected, select, UserPicks.selection]

theorem userPicks_unselectAll (picks : UserPicks) :
    (picks.step .unselectAll).selection = picks.selection.unselectAll := rfl

theorem userPicks_listData (picks : UserPicks) (login : RSLoginService) (contactList : List RSContactModel) :
    (picks.step (.listData login contactList)).selection =
      picks.selection.reload (picks.screen.viewModel.updateListData login contactList).listData := rfl

theorem spacePicks_tap {picks : SpacePicks} (allows : picks.screen.allowsSelection = true) (row : Nat) :
    (picks.step (.tap row)).selection = picks.selection.tap row := by
  apply SelectionList.eq_tap
  · exact if_pos allows
  · intro outside
    have unchanged : (picks.step (.tap row)).screen = picks.screen :=
      if_neg fun both => Nat.not_lt.mpr (List.getElem?_eq_none_iff.mp outside) both.2
    exact ⟨congrArg (·.viewModel.listData) unchanged, congrArg (·.selectedCount) unchanged⟩
  · intro item tapped
    have delivered : (picks.step (.tap row)).screen = picks.screen.didSelectItemAtIndexPath row :=
      if_pos ⟨allows, (List.getElem?_eq_some_iff.mp tapped).1⟩
    have found : picks.screen.viewModel.listData[row]? = some item := tapped
    rw [SpacePicks.selection, delivered, RSReceiverSpaceView.didSelectItemAtIndexPath]
    simp only [found]
    cases on : item.isSelected with
    | false => simp [on, isSelected, select, SpacePicks.selection]
    | true => simp [on, isSelected, select, SpacePicks.selection]

theorem spacePicks_unselectAll (picks : SpacePicks) :
    (picks.step .unselectAll).selection = picks.selection.unselectAll := rfl

theorem spacePicks_loaded (picks : SpacePicks) (contacts : ContactTable) (resp : RSGetAllMySpaceResp) :
    (picks.step (.loaded contacts resp)).selection =
      picks.selection.reload (picks.screen.viewModel.loadData contacts resp).listData := rfl

theorem userScreen_frame (screen : RSReceiverListViewController) (event : ReceiverListEvent) :
    (screen.step event).allowsSelection = screen.allowsSelection ∧
      (screen.step event).viewModel.selectedData = screen.viewModel.selectedData := by
  cases event with
  | unselectAll => exact ⟨rfl, rfl⟩
  | listData login contactList => exact ⟨rfl, rfl⟩
  | tap row =>
      rw [RSReceiverListViewController.step]
      split_ifs with delivered
      · rw [RSReceiverListViewController.didSelectRowAtIndexPath]
        cases screen.viewModel.listData[row]? with
        | none => exact ⟨rfl, rfl⟩
        | some item => cases on : item.isSelected <;> simp [on]
      · exact ⟨rfl, rfl⟩

theorem spaceScreen_frame (screen : RSReceiverSpaceView) (event : ReceiverSpaceEvent) :
    (screen.step event).allowsSelection = screen.allowsSelection ∧
      (screen.step event).allFriendCell = screen.allFriendCell ∧
      (screen.step event).memoriesCell = screen.memoriesCell := by
  cases event with
  | unselectAll => exact ⟨rfl, rfl, rfl⟩
  | loaded contacts resp => exact ⟨rfl, rfl, rfl⟩
  | tap row =>
      rw [RSReceiverSpaceView.step]
      split_ifs with delivered
      · rw [RSReceiverSpaceView.didSelectItemAtIndexPath]
        cases screen.viewModel.listData[row]? with
        | none => exact ⟨rfl, rfl, rfl⟩
        | some item => cases on : item.isSelected <;> simp [on]
      · exact ⟨rfl, rfl, rfl⟩

/-! ## The lists that are loaded -/

open RSReceiverListViewModel RSReceiverSpaceViewModel

theorem selected_updateListData (login : RSLoginService) (contactList : List RSContactModel)
    (viewModel : RSReceiverListViewModel) :
    (viewModel.updateListData login contactList).listData.countP (·.isSelected) =
      contactList.countP fun contact => admits login contact && preselected viewModel.selectedData contact := by
  rw [updateListData, List.countP_map, List.countP_filter]
  apply List.countP_congr
  intro contact _
  rw [Function.comp_apply, itemOfContact, Bool.and_comm]

abbrev IsGroup (space : RSSpace) : Prop := space.type = RSenSpaceType_SpaceTypeGroup

/-- Every known author of the groups has an avatar. -/
def HaveAvatars (contacts : ContactTable) (resp : RSGetAllMySpaceResp) : Prop :=
  ∀ space ∈ resp.listArray, IsGroup space →
    ∀ contact ∈ RSContactService.getContactsByUids space.authorArray contacts, contact.avatarUrl.isSome

theorem itemOfSpace_isSome (contacts : ContactTable) (space : RSSpace) :
    (itemOfSpace contacts space).isSome ↔
      ∀ contact ∈ RSContactService.getContactsByUids space.authorArray contacts, contact.avatarUrl.isSome := by
  rw [← mapM_exists_iff, itemOfSpace]
  cases (RSContactService.getContactsByUids space.authorArray contacts).mapM (·.avatarUrl) with
  | none => simp
  | some avatarUrls => simp

theorem itemOfSpace_eq_some {contacts : ContactTable} {space : RSSpace} {item : RSReceiverSpaceItemViewModel}
    (made : itemOfSpace contacts space = some item) :
    item.isSelected = false ∧ item.type = .normal ∧ item.spaceId = space.spaceId.svrId.toInt64 := by
  rw [itemOfSpace] at made
  obtain ⟨avatarUrls, -, same⟩ := Option.bind_eq_some_iff.mp made
  rw [← Option.some.inj same]
  exact ⟨rfl, rfl, rfl⟩

theorem haveAvatars_iff (contacts : ContactTable) (resp : RSGetAllMySpaceResp) :
    HaveAvatars contacts resp ↔ ∃ items, itemsOf contacts resp = some items := by
  rw [itemsOf, mapM_exists_iff]
  constructor
  · intro have_avatars space member
    obtain ⟨listed, group⟩ := List.mem_filter.mp member
    exact (itemOfSpace_isSome contacts space).mpr (have_avatars space listed (of_decide_eq_true group))
  · intro made space listed group
    exact (itemOfSpace_isSome contacts space).mp (made space (List.mem_filter.mpr ⟨listed, decide_eq_true group⟩))

theorem loadData_raises {contacts : ContactTable} {resp : RSGetAllMySpaceResp}
    (raises : ¬ HaveAvatars contacts resp) (viewModel : RSReceiverSpaceViewModel) :
    viewModel.loadData contacts resp = viewModel := by
  rw [haveAvatars_iff] at raises
  rw [loadData]
  cases made : itemsOf contacts resp with
  | none => rfl
  | some items => exact absurd ⟨items, made⟩ raises

theorem loadData_loads {contacts : ContactTable} {resp : RSGetAllMySpaceResp}
    (have_avatars : HaveAvatars contacts resp) (viewModel : RSReceiverSpaceViewModel) :
    ∃ items : List RSReceiverSpaceItemViewModel, (viewModel.loadData contacts resp).listData = items.reverse ∧
      (resp.listArray.filter fun space => IsGroup space).map (itemOfSpace contacts) = items.map some := by
  obtain ⟨items, made⟩ := (haveAvatars_iff contacts resp).mp have_avatars
  refine ⟨items, ?_, mapM_eq_some_iff.mp made⟩
  rw [loadData, made]

theorem loaded_item {contacts : ContactTable} {resp : RSGetAllMySpaceResp}
    (have_avatars : HaveAvatars contacts resp) {viewModel : RSReceiverSpaceViewModel}
    {item : RSReceiverSpaceItemViewModel} (member : item ∈ (viewModel.loadData contacts resp).listData) :
    item.isSelected = false ∧ item.type = .normal ∧
      ∃ space ∈ resp.listArray, IsGroup space ∧ item.spaceId = space.spaceId.svrId.toInt64 := by
  obtain ⟨items, loaded, made⟩ := loadData_loads have_avatars viewModel
  rw [loaded, List.mem_reverse] at member
  have there : some item ∈ items.map some := List.mem_map_of_mem member
  rw [← made] at there
  obtain ⟨space, group, built⟩ := List.mem_map.mp there
  obtain ⟨listed, isGroup⟩ := List.mem_filter.mp group
  obtain ⟨unselected, normal, named⟩ := itemOfSpace_eq_some built
  exact ⟨unselected, normal, space, listed, of_decide_eq_true isGroup, named⟩

theorem loaded_space {contacts : ContactTable} {resp : RSGetAllMySpaceResp}
    (have_avatars : HaveAvatars contacts resp) (viewModel : RSReceiverSpaceViewModel) {space : RSSpace}
    (listed : space ∈ resp.listArray) (group : IsGroup space) :
    ∃ item ∈ (viewModel.loadData contacts resp).listData, item.spaceId = space.spaceId.svrId.toInt64 := by
  obtain ⟨items, loaded, made⟩ := loadData_loads have_avatars viewModel
  have there : itemOfSpace contacts space ∈ items.map some := by
    rw [← made]
    exact List.mem_map_of_mem (List.mem_filter.mpr ⟨listed, decide_eq_true group⟩)
  obtain ⟨item, member, built⟩ := List.mem_map.mp there
  refine ⟨item, ?_, (itemOfSpace_eq_some built.symm).2.2⟩
  rw [loaded, List.mem_reverse]
  exact member

theorem spaceScreen_normal {screen : RSReceiverSpaceView}
    (normal : ∀ item ∈ screen.viewModel.listData, item.type = .normal) (event : ReceiverSpaceEvent) :
    ∀ item ∈ (screen.step event).viewModel.listData, item.type = .normal := by
  cases event with
  | tap row =>
      rw [RSReceiverSpaceView.step]
      split_ifs with delivered
      · have inside : row < screen.viewModel.listData.length := delivered.2
        rw [RSReceiverSpaceView.didSelectItemAtIndexPath, List.getElem?_eq_getElem inside]
        have toggled : ∀ item ∈ screen.viewModel.listData.set row
            { screen.viewModel.listData[row] with isSelected := !screen.viewModel.listData[row].isSelected },
            item.type = .normal := by
          intro item member
          rcases List.mem_or_eq_of_mem_set member with old | new
          · exact normal item old
          · rw [new]
            exact normal screen.viewModel.listData[row] (List.getElem_mem inside)
        cases on : screen.viewModel.listData[row].isSelected <;> simpa [on] using toggled
      · exact normal
  | unselectAll =>
      intro item member
      obtain ⟨before, listed, cleared⟩ := List.mem_map.mp member
      rw [← cleared]
      exact normal before listed
  | loaded contacts resp =>
      by_cases have_avatars : HaveAvatars contacts resp
      · exact fun item member => (loaded_item have_avatars member).2.1
      · rw [RSReceiverSpaceView.step, RSReceiverSpaceView.loadData, loadData_raises have_avatars]
        exact normal

/-! ## The number that is shown -/

def UserCountShown (screen : RSReceiverListViewController) : Prop :=
  screen.selectedCount = screen.viewModel.listData.countP (·.isSelected) ∧ 0 ≤ screen.selectedCount

def SpaceCountShown (view : RSReceiverSpaceView) : Prop :=
  view.selectedCount = view.viewModel.listData.countP (·.isSelected) ∧ 0 ≤ view.selectedCount

/-- A list of users that comes has as many preselected users as were selected before. -/
def KeepsUserCount (screen : RSReceiverListViewController) (event : ReceiverListEvent) : Prop :=
  match event with
  | .listData login contactList =>
      (contactList.countP fun contact =>
        admits login contact && preselected screen.viewModel.selectedData contact) =
        screen.viewModel.listData.countP (·.isSelected)
  | _ => True

/-- A list of groups comes while none is selected. -/
def KeepsSpaceCount (view : RSReceiverSpaceView) (event : ReceiverSpaceEvent) : Prop :=
  match event with
  | .loaded contacts resp =>
      HaveAvatars contacts resp → view.viewModel.listData.countP (·.isSelected) = 0
  | _ => True

theorem userCountShown_iff (screen : RSReceiverListViewController) :
    UserCountShown screen ↔ ({ screen } : UserPicks).selection.CountAgrees := by
  constructor
  · exact And.left
  · intro agrees
    exact ⟨agrees, agrees.nonneg⟩

theorem spaceCountShown_iff (screen : RSReceiverSpaceView) :
    SpaceCountShown screen ↔ ({ screen } : SpacePicks).selection.CountAgrees := by
  constructor
  · exact And.left
  · intro agrees
    exact ⟨agrees, agrees.nonneg⟩

theorem userCountShown_step {screen : RSReceiverListViewController} (allows : screen.allowsSelection = true)
    (shown : UserCountShown screen) (event : ReceiverListEvent) :
    UserCountShown (screen.step event) ↔ KeepsUserCount screen event := by
  have agrees := (userCountShown_iff screen).mp shown
  rw [userCountShown_iff]
  cases event with
  | tap row =>
      have tapped := @userPicks_tap { screen } allows row
      have counted := agrees.tap row
      rw [← tapped] at counted
      exact ⟨fun _ => trivial, fun _ => counted⟩
  | unselectAll =>
      have cleared := agrees.unselectAll
      rw [← userPicks_unselectAll] at cleared
      exact ⟨fun _ => trivial, fun _ => cleared⟩
  | listData login contactList =>
      have reloaded := agrees.reload_iff (screen.viewModel.updateListData login contactList).listData
      rw [← userPicks_listData { screen } login contactList] at reloaded
      rw [KeepsUserCount, ← selected_updateListData]
      exact reloaded

theorem selected_loadData {contacts : ContactTable} {resp : RSGetAllMySpaceResp}
    (have_avatars : HaveAvatars contacts resp) (viewModel : RSReceiverSpaceViewModel) :
    (viewModel.loadData contacts resp).listData.countP (·.isSelected) = 0 := by
  apply List.countP_eq_zero.mpr
  intro item member
  rw [(loaded_item have_avatars member).1]
  exact Bool.false_ne_true

theorem spaceCountShown_step {screen : RSReceiverSpaceView} (allows : screen.allowsSelection = true)
    (shown : SpaceCountShown screen) (event : ReceiverSpaceEvent) :
    SpaceCountShown (screen.step event) ↔ KeepsSpaceCount screen event := by
  have agrees := (spaceCountShown_iff screen).mp shown
  cases event with
  | tap row =>
      have tapped := @spacePicks_tap { screen } allows row
      have counted := agrees.tap row
      rw [← tapped] at counted
      exact ⟨fun _ => trivial, fun _ => (spaceCountShown_iff _).mpr counted⟩
  | unselectAll =>
      have cleared := agrees.unselectAll
      rw [← spacePicks_unselectAll] at cleared
      exact ⟨fun _ => trivial, fun _ => (spaceCountShown_iff _).mpr cleared⟩
  | loaded contacts resp =>
      by_cases have_avatars : HaveAvatars contacts resp
      · have none_selected := selected_loadData have_avatars screen.viewModel
        have reloaded := agrees.reload_iff (screen.viewModel.loadData contacts resp).listData
        rw [← spacePicks_loaded { screen } contacts resp,
          show (screen.viewModel.loadData contacts resp).listData.countP isSelected = 0 from none_selected]
          at reloaded
        rw [spaceCountShown_iff]
        refine reloaded.trans ?_
        exact ⟨fun zero _ => zero.symm, fun keeps => (keeps have_avatars).symm⟩
      · have unchanged : screen.step (.loaded contacts resp) = screen := by
          rw [RSReceiverSpaceView.step, RSReceiverSpaceView.loadData, loadData_raises have_avatars]
        rw [unchanged]
        exact ⟨fun _ loads => absurd loads have_avatars, fun _ => shown⟩

/-- The shown counts stay right exactly as long as each new list of users has as many preselected users as
were selected, and each new list of groups finds none selected. -/
theorem selected_count_iff (defaultToUsers : List String) (userEvents : List ReceiverListEvent)
    (spaceEvents : List ReceiverSpaceEvent) :
    (EveryState RSReceiverListViewController.step UserCountShown (.viewDidLoad defaultToUsers) userEvents ↔
      EveryStep RSReceiverListViewController.step KeepsUserCount (.viewDidLoad defaultToUsers) userEvents) ∧
    (EveryState RSReceiverSpaceView.step SpaceCountShown {} spaceEvents ↔
      EveryStep RSReceiverSpaceView.step KeepsSpaceCount {} spaceEvents) := by
  constructor
  · exact everyState_iff_everyStep
      (fun screen event allows => (userScreen_frame screen event).1.trans allows)
      (fun screen event allows shown => userCountShown_step allows shown event) rfl ⟨rfl, Int.le_refl 0⟩ userEvents
  · exact everyState_iff_everyStep
      (fun screen event allows => (spaceScreen_frame screen event).1.trans allows)
      (fun screen event allows shown => spaceCountShown_step allows shown event) rfl ⟨rfl, Int.le_refl 0⟩ spaceEvents

def ming : RSContactModel where
  uid := some "ming"
  nickName := some "Ming"
  avatarUrl := some "http://ming"
  sex := 1
  delFlag := 0

/-- Ming is selected in the cached list, and the server's list comes. -/
def selectedThenLoaded : List ReceiverListEvent := [.listData {} [ming], .tap 0, .listData {} [ming]]

theorem count_outlives_selection :
    ¬ EveryState RSReceiverListViewController.step UserCountShown (.viewDidLoad []) selectedThenLoaded := by
  intro every
  have counted := every.last.1
  revert counted
  decide

/-! ## What the user picked -/

/-- What was picked and is in the list is selected and returned. -/
def UserPicksKept (picks : UserPicks) : Prop :=
  ∀ item ∈ picks.screen.viewModel.listData, item.uid ∈ picks.chosen →
    (∃ kept ∈ picks.screen.viewModel.listData, kept.uid = item.uid ∧ kept.isSelected = true) ∧
    ∃ users, picks.screen.viewModel.getSelectedUsers = some users ∧ item.uid ∈ users.map some

def SpacePicksKept (picks : SpacePicks) : Prop :=
  ∀ item ∈ picks.screen.viewModel.listData, item.spaceId ∈ picks.chosen →
    (∃ kept ∈ picks.screen.viewModel.listData, kept.spaceId = item.spaceId ∧ kept.isSelected = true) ∧
    item.spaceId ∈ picks.screen.viewModel.getSelectedSpaces

/-- A tapped contact has a uid, and what was picked is preselected in each new list that has it. -/
def KeepsUserPicks (picks : UserPicks) (event : ReceiverListEvent) : Prop :=
  match event with
  | .tap row => ∀ item, picks.screen.viewModel.listData[row]? = some item → item.uid ≠ none
  | .unselectAll => True
  | .listData login contactList =>
      ∀ contact ∈ contactList, admits login contact → contact.uid ∈ picks.chosen →
        preselected picks.screen.viewModel.selectedData contact

/-- No new list has a group that was picked. -/
def KeepsSpacePicks (picks : SpacePicks) (event : ReceiverSpaceEvent) : Prop :=
  match event with
  | .loaded contacts resp =>
      HaveAvatars contacts resp →
        ∀ space ∈ resp.listArray, IsGroup space → space.spaceId.svrId.toInt64 ∉ picks.chosen
  | _ => True

theorem getSelectedUsers_eq_some {viewModel : RSReceiverListViewModel} {users : List String} :
    viewModel.getSelectedUsers = some users ↔
      (viewModel.listData.filter (·.isSelected)).map (·.uid) = users.map some := mapM_eq_some_iff

/-- Selected users have a uid. -/
def SelectedNamed (viewModel : RSReceiverListViewModel) : Prop :=
  ∀ item ∈ viewModel.listData, item.isSelected = true → item.uid ≠ none

theorem selectedNamed_iff {viewModel : RSReceiverListViewModel} :
    SelectedNamed viewModel ↔ ∃ users, viewModel.getSelectedUsers = some users := by
  rw [RSReceiverListViewModel.getSelectedUsers, mapM_exists_iff]
  constructor
  · intro named item chosen
    obtain ⟨listed, on⟩ := List.mem_filter.mp chosen
    exact Option.isSome_iff_ne_none.mpr (named item listed on)
  · intro returned item listed on
    exact Option.isSome_iff_ne_none.mp (returned item (List.mem_filter.mpr ⟨listed, on⟩))

theorem selectedNamed_tap {screen : RSReceiverListViewController} (allows : screen.allowsSelection = true)
    (named : SelectedNamed screen.viewModel) (row : Nat) :
    SelectedNamed (screen.step (.tap row)).viewModel ↔
      ∀ item, screen.viewModel.listData[row]? = some item → item.uid ≠ none := by
  have tapped := @userPicks_tap { screen } allows row
  constructor
  · intro after item found nameless
    have off : item.isSelected = false := by
      by_contra on
      exact named item (List.mem_of_getElem? found) (eq_true_of_ne_false on) nameless
    have toggled := tapped.trans (SelectionList.tap_on (s := UserPicks.selection { screen }) found off)
    have inside : row < screen.viewModel.listData.length := (List.getElem?_eq_some_iff.mp found).1
    have member : select true item ∈ (screen.step (.tap row)).viewModel.listData := by
      rw [show (screen.step (.tap row)).viewModel.listData = _ from congrArg (·.items) toggled]
      exact List.mem_set inside _
    exact after _ member rfl nameless
  · intro keeps item member selected
    have toggled : item ∈ ((UserPicks.selection { screen }).tap row).items := tapped ▸ member
    rcases SelectionList.mem_tap toggled with old | ⟨before, found, same⟩
    · exact named item old selected
    · rw [same]
      exact keeps before found

/-- `getSelectedUsers` raises no exception. -/
structure UsersInOrder (picks : UserPicks) : Prop where
  allows : picks.screen.allowsSelection = true
  kept : picks.selection.Kept
  named : SelectedNamed picks.screen.viewModel

theorem UsersInOrder.picksKept {picks : UserPicks} (good : UsersInOrder picks) : UserPicksKept picks := by
  intro item member picked
  obtain ⟨kept, stays, same, selected⟩ := good.kept item member picked
  refine ⟨⟨kept, stays, same, selected⟩, ?_⟩
  obtain ⟨users, returned⟩ := selectedNamed_iff.mp good.named
  refine ⟨users, returned, ?_⟩
  rw [← getSelectedUsers_eq_some.mp returned, ← show kept.uid = item.uid from same]
  exact List.mem_map_of_mem (List.mem_filter.mpr ⟨stays, selected⟩)

theorem usersInOrder_step {picks : UserPicks} (good : UsersInOrder picks) {event : ReceiverListEvent}
    (keeps : KeepsUserPicks picks event) : UsersInOrder (picks.step event) := by
  have allows : (picks.step event).screen.allowsSelection = true :=
    (userScreen_frame picks.screen event).1.trans good.allows
  cases event with
  | tap row =>
      have tapped := userPicks_tap good.allows row
      exact ⟨allows, tapped ▸ good.kept.tap row, (selectedNamed_tap good.allows good.named row).mpr keeps⟩
  | unselectAll =>
      refine ⟨allows, ?_, ?_⟩
      · rw [userPicks_unselectAll]
        exact SelectionList.Kept.unselectAll picks.selection
      · intro item member selected
        obtain ⟨before, -, cleared⟩ := List.mem_map.mp member
        rw [← cleared] at selected
        contradiction
  | listData login contactList =>
      refine ⟨allows, ?_, ?_⟩
      · rw [userPicks_listData]
        intro item member picked
        obtain ⟨contact, admitted, made⟩ := List.mem_map.mp member
        obtain ⟨listed, admission⟩ := List.mem_filter.mp admitted
        rw [← made] at picked ⊢
        exact ⟨_, List.mem_map_of_mem admitted, rfl, keeps contact listed admission picked⟩
      · intro item member selected
        obtain ⟨contact, -, made⟩ := List.mem_map.mp member
        rw [← made] at selected ⊢
        have known : preselected picks.screen.viewModel.selectedData contact = true := selected
        intro nameless
        rw [preselected, show contact.uid = none from nameless] at known
        contradiction

theorem userPicksKept_step {picks : UserPicks} (good : UsersInOrder picks) (event : ReceiverListEvent) :
    UserPicksKept (picks.step event) ↔ KeepsUserPicks picks event := by
  constructor
  · intro kept
    cases event with
    | unselectAll => trivial
    | tap row =>
        intro item tapped nameless
        have off : item.isSelected = false := by
          by_contra on
          exact good.named item (List.mem_of_getElem? tapped) (eq_true_of_ne_false on) nameless
        have after := (userPicks_tap good.allows row).trans
          (SelectionList.tap_on (s := picks.selection) tapped off)
        have inside : row < picks.screen.viewModel.listData.length := (List.getElem?_eq_some_iff.mp tapped).1
        -- it is picked without a uid, and nothing that is returned is that
        have member : select true item ∈ (picks.step (.tap row)).selection.items := by
          rw [after]
          exact List.mem_set inside _
        have picked : item.uid ∈ (picks.step (.tap row)).selection.chosen := by
          rw [after]
          exact List.mem_cons_self
        obtain ⟨-, users, -, returned⟩ := kept _ member picked
        obtain ⟨user, -, some_user⟩ := List.mem_map.mp returned
        exact Option.some_ne_none user (some_user.trans nameless)
    | listData login contactList =>
        intro contact listed admission picked
        have member : itemOfContact picks.screen.viewModel.selectedData contact ∈
            (picks.step (.listData login contactList)).screen.viewModel.listData :=
          List.mem_map_of_mem (List.mem_filter.mpr ⟨listed, admission⟩)
        obtain ⟨⟨item, stays, same, selected⟩, -⟩ := kept _ member picked
        obtain ⟨other, -, made⟩ := List.mem_map.mp stays
        rw [← made] at same selected
        have uids : other.uid = contact.uid := same
        have known : preselected picks.screen.viewModel.selectedData other = true := selected
        rw [preselected, uids] at known
        exact known
  · intro keeps
    exact (usersInOrder_step good keeps).picksKept

structure SpacesInOrder (picks : SpacePicks) : Prop where
  allows : picks.screen.allowsSelection = true
  kept : picks.selection.Kept
  normal : ∀ item ∈ picks.screen.viewModel.listData, item.type = .normal

theorem SpacesInOrder.picksKept {picks : SpacePicks} (good : SpacesInOrder picks) : SpacePicksKept picks := by
  intro item member picked
  obtain ⟨kept, stays, same, selected⟩ := good.kept item member picked
  refine ⟨⟨kept, stays, same, selected⟩, ?_⟩
  rw [← show kept.spaceId = item.spaceId from same]
  apply List.mem_map_of_mem (f := RSReceiverSpaceItemViewModel.spaceId)
  exact List.mem_filter.mpr ⟨stays, decide_eq_true ⟨selected, good.normal kept stays⟩⟩

theorem spacesInOrder_step {picks : SpacePicks} (good : SpacesInOrder picks) {event : ReceiverSpaceEvent}
    (keeps : KeepsSpacePicks picks event) : SpacesInOrder (picks.step event) := by
  have allows : (picks.step event).screen.allowsSelection = true :=
    (spaceScreen_frame picks.screen event).1.trans good.allows
  refine ⟨allows, ?_, spaceScreen_normal good.normal event⟩
  cases event with
  | tap row =>
      rw [spacePicks_tap good.allows row]
      exact good.kept.tap row
  | unselectAll =>
      rw [spacePicks_unselectAll]
      exact SelectionList.Kept.unselectAll picks.selection
  | loaded contacts resp =>
      by_cases have_avatars : HaveAvatars contacts resp
      · rw [spacePicks_loaded]
        intro item member picked
        obtain ⟨-, -, space, listed, group, named⟩ := loaded_item have_avatars member
        have ours : item.spaceId ∈ picks.chosen := picked
        rw [named] at ours
        exact absurd ours (keeps have_avatars space listed group)
      · have unchanged : picks.step (.loaded contacts resp) = picks := by
          rw [SpacePicks.step, RSReceiverSpaceView.step, RSReceiverSpaceView.loadData,
            loadData_raises have_avatars]
        rw [unchanged]
        exact good.kept

theorem spacePicksKept_step {picks : SpacePicks} (good : SpacesInOrder picks) (event : ReceiverSpaceEvent) :
    SpacePicksKept (picks.step event) ↔ KeepsSpacePicks picks event := by
  constructor
  · intro kept
    cases event with
    | tap row => trivial
    | unselectAll => trivial
    | loaded contacts resp =>
        intro have_avatars space listed group picked
        obtain ⟨item, member, named⟩ := loaded_space have_avatars picks.screen.viewModel listed group
        obtain ⟨⟨other, stays, -, selected⟩, -⟩ := kept item member (named ▸ picked)
        rw [(loaded_item have_avatars stays).1] at selected
        contradiction
  · intro keeps
    exact (spacesInOrder_step good keeps).picksKept

/-- What the user picked stays exactly as long as it is preselected in each new list of users that has it,
no tapped contact is without a uid, and no new list of groups has a picked group. -/
theorem picks_kept_iff (defaultToUsers : List String) (userEvents : List ReceiverListEvent)
    (spaceEvents : List ReceiverSpaceEvent) :
    (EveryState UserPicks.step UserPicksKept (.viewDidLoad defaultToUsers) userEvents ↔
      EveryStep UserPicks.step KeepsUserPicks (.viewDidLoad defaultToUsers) userEvents) ∧
    (EveryState SpacePicks.step SpacePicksKept {} spaceEvents ↔
      EveryStep SpacePicks.step KeepsSpacePicks {} spaceEvents) := by
  have noUsers : UsersInOrder (.viewDidLoad defaultToUsers) :=
    { allows := rfl
      kept := fun item member => absurd member List.not_mem_nil
      named := fun item member => absurd member List.not_mem_nil }
  have noSpaces : SpacesInOrder {} :=
    { allows := rfl
      kept := fun item member => absurd member List.not_mem_nil
      normal := fun item member => absurd member List.not_mem_nil }
  constructor
  · apply everyState_iff_of_good (G := UsersInOrder)
    · exact fun picks good => good.picksKept
    · exact fun picks event good => userPicksKept_step good event
    · exact fun picks event good keeps => usersInOrder_step good keeps
    · exact noUsers
  · apply everyState_iff_of_good (G := SpacesInOrder)
    · exact fun picks good => good.picksKept
    · exact fun picks event good => spacePicksKept_step good event
    · exact fun picks event good keeps => spacesInOrder_step good keeps
    · exact noSpaces

theorem pick_lost_on_load :
    ¬ EveryState UserPicks.step UserPicksKept (.viewDidLoad []) selectedThenLoaded := by
  intro every
  obtain ⟨⟨kept, member, -, selected⟩, -⟩ := every.last _ (List.mem_singleton.mpr rfl) List.mem_cons_self
  rw [List.mem_singleton.mp member] at selected
  contradiction

end RealSocial.Proof
