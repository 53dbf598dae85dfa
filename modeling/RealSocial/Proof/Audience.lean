import RealSocial.Features.ReceiverListWithSpace
import RealSocial.Proof.ReceiverSelection

namespace RealSocial.Proof

open Library RSReceiverListWithSpaceViewController

/-! # The audience of a new space -/

def checkbox (isSelected : Bool) : String := if isSelected then "checkbox-selected" else "checkbox-nor"

inductive Receiver where
  | allFriends
  | memories
  | user (uid : Option String)
  | space (spaceId : Int64)
  deriving DecidableEq

/-- The receivers that the screen shows as selected. -/
def shownReceivers (screen : RSReceiverListWithSpaceViewController) : List Receiver :=
  (if screen.spaceView.allFriendCell.selectedImage = "checkbox-selected" then [.allFriends] else []) ++
  (if screen.spaceView.memoriesCell.selectedImage = "checkbox-selected" then [.memories] else []) ++
  (screen.viewModel.listData.filter (·.isSelected)).map (fun item => .user item.uid) ++
  (screen.spaceView.viewModel.listData.filter (·.isSelected)).map fun item => .space item.spaceId

/-- The receivers that a confirmed action creates the space for. -/
def servedReceivers : SpaceCreateAction → List Receiver
  | .createToAllFriends => [.allFriends]
  | .createToMemories => [.memories]
  | .showTip _ => []
  | .create toUsers toSpaces => toUsers.map (fun uid => .user (some uid)) ++ toSpaces.map .space

def SpecialSelected (screen : RSReceiverListWithSpaceViewController) : Prop :=
  screen.spaceView.isAllFriendSelected = true ∨ screen.spaceView.isMemoriesSelected = true

def NoneSelected (screen : RSReceiverListWithSpaceViewController) : Prop :=
  (∀ item ∈ screen.viewModel.listData, item.isSelected = false) ∧
    ∀ item ∈ screen.spaceView.viewModel.listData, item.isSelected = false

/-- At most one special cell is selected, and beside it nothing in the lists. -/
def AudienceExclusive (screen : RSReceiverListWithSpaceViewController) : Prop :=
  ¬ (screen.spaceView.isAllFriendSelected = true ∧ screen.spaceView.isMemoriesSelected = true) ∧
    (SpecialSelected screen → NoneSelected screen)

/-- Confirming acts, and drops no receiver that is shown as selected. -/
def ConfirmsShown (screen : RSReceiverListWithSpaceViewController) : Prop :=
  ∃ action, screen.finishButton = some action ∧
    ∀ receiver ∈ shownReceivers screen, receiver ∈ servedReceivers action

/-- A contact that a tap reaches has a uid. -/
def TapsNamed (screen : RSReceiverListWithSpaceViewController) : ReceiverListWithSpaceEvent → Prop
  | .tapUser row =>
      screen.allowsSelection = true →
        ∀ item, screen.viewModel.listData[row]? = some item → item.uid ≠ none
  | _ => True

structure AudienceInOrder (screen : RSReceiverListWithSpaceViewController) : Prop where
  unset : screen.viewModel.selectedData = []
  normal : ∀ item ∈ screen.spaceView.viewModel.listData, item.type = .normal
  exclusive : AudienceExclusive screen
  closed : SpecialSelected screen →
    screen.allowsSelection = false ∧ screen.spaceView.allowsSelection = false
  allFriendShown : screen.spaceView.allFriendCell.selectedImage = checkbox screen.spaceView.isAllFriendSelected
  memoriesShown : screen.spaceView.memoriesCell.selectedImage = checkbox screen.spaceView.isMemoriesSelected

theorem AudienceInOrder.noSpecial {screen : RSReceiverListWithSpaceViewController}
    (inv : AudienceInOrder screen) (someone : ¬ NoneSelected screen) :
    screen.spaceView.isAllFriendSelected = false ∧ screen.spaceView.isMemoriesSelected = false := by
  constructor
  · exact Bool.eq_false_iff.mpr fun on => someone (inv.exclusive.2 (Or.inl on))
  · exact Bool.eq_false_iff.mpr fun on => someone (inv.exclusive.2 (Or.inr on))

/-! ## What a tap on a special cell does -/

section Special

variable {screen : RSReceiverListWithSpaceViewController}

theorem tapAllFriendCell_on (off : screen.spaceView.isAllFriendSelected = false) :
    tapAllFriendCell screen =
      { toRSReceiverListViewController :=
          { screen.toRSReceiverListViewController.setAllunSelected with allowsSelection := false }
        spaceView :=
          { screen.spaceView.setAllunSelected with
            allowsSelection := false
            allFriendCell :=
              { viewModel := { screen.spaceView.allFriendCell.viewModel with isSelected := true }
                selectedImage := checkbox true }
            memoriesCell :=
              { viewModel := { screen.spaceView.memoriesCell.viewModel with isSelected := false }
                selectedImage := checkbox false } }
        bottomOperationBarLabel := "所有好友可见" } := by
  unfold RSReceiverSpaceView.isAllFriendSelected at off
  simp [tapAllFriendCell, allFriendBlock, tipsBlock, onSpaceView, onList, setAllowsSelection,
    RSReceiverSpaceView.isAllFriendSelected, RSReceiverSpaceView.isMemoriesSelected,
    RSReceiverSpaceView.assignAllFriend, RSReceiverSpaceView.assignMemories, off,
    RSReceiverListViewController.setAllunSelected, RSReceiverSpaceView.setAllunSelected,
    RSReceiverSpaceCollectionViewCell.setSelected, checkbox]

theorem tapMemoriesCell_on (off : screen.spaceView.isMemoriesSelected = false) :
    tapMemoriesCell screen =
      { toRSReceiverListViewController :=
          { screen.toRSReceiverListViewController.setAllunSelected with allowsSelection := false }
        spaceView :=
          { screen.spaceView.setAllunSelected with
            allowsSelection := false
            allFriendCell :=
              { viewModel := { screen.spaceView.allFriendCell.viewModel with isSelected := false }
                selectedImage := checkbox false }
            memoriesCell :=
              { viewModel := { screen.spaceView.memoriesCell.viewModel with isSelected := true }
                selectedImage := checkbox true } }
        bottomOperationBarLabel := "保存到我的回忆录，仅自己可见" } := by
  unfold RSReceiverSpaceView.isMemoriesSelected at off
  simp [tapMemoriesCell, memoriesBlock, tipsBlock, onSpaceView, onList, setAllowsSelection,
    RSReceiverSpaceView.isMemoriesSelected, RSReceiverSpaceView.assignAllFriend, RSReceiverSpaceView.assignMemories, off,
    RSReceiverListViewController.setAllunSelected, RSReceiverSpaceView.setAllunSelected,
    RSReceiverSpaceCollectionViewCell.setSelected, checkbox]

theorem tapAllFriendCell_off (on : screen.spaceView.isAllFriendSelected = true)
    (other : screen.spaceView.isMemoriesSelected = false) :
    tapAllFriendCell screen =
      { toRSReceiverListViewController := { screen.toRSReceiverListViewController with allowsSelection := true }
        spaceView :=
          { screen.spaceView with
            allowsSelection := true
            allFriendCell :=
              { viewModel := { screen.spaceView.allFriendCell.viewModel with isSelected := false }
                selectedImage := checkbox false } }
        bottomOperationBarLabel := "" } := by
  unfold RSReceiverSpaceView.isAllFriendSelected at on
  unfold RSReceiverSpaceView.isMemoriesSelected at other
  simp [tapAllFriendCell, allFriendBlock, tipsBlock, onSpaceView, setAllowsSelection,
    RSReceiverSpaceView.isAllFriendSelected, RSReceiverSpaceView.isMemoriesSelected,
    RSReceiverSpaceView.assignAllFriend, on, other, RSReceiverSpaceCollectionViewCell.setSelected, checkbox]

theorem tapMemoriesCell_off (on : screen.spaceView.isMemoriesSelected = true)
    (other : screen.spaceView.isAllFriendSelected = false) :
    tapMemoriesCell screen =
      { toRSReceiverListViewController := { screen.toRSReceiverListViewController with allowsSelection := true }
        spaceView :=
          { screen.spaceView with
            allowsSelection := true
            memoriesCell :=
              { viewModel := { screen.spaceView.memoriesCell.viewModel with isSelected := false }
                selectedImage := checkbox false } }
        bottomOperationBarLabel := "" } := by
  unfold RSReceiverSpaceView.isMemoriesSelected at on
  unfold RSReceiverSpaceView.isAllFriendSelected at other
  simp [tapMemoriesCell, memoriesBlock, tipsBlock, onSpaceView, setAllowsSelection,
    RSReceiverSpaceView.isAllFriendSelected, RSReceiverSpaceView.isMemoriesSelected,
    RSReceiverSpaceView.assignMemories, on, other, RSReceiverSpaceCollectionViewCell.setSelected, checkbox]

theorem noneSelected_setAllunSelected :
    (∀ item ∈ screen.toRSReceiverListViewController.setAllunSelected.viewModel.listData,
      item.isSelected = false) ∧
    ∀ item ∈ screen.spaceView.setAllunSelected.viewModel.listData, item.isSelected = false := by
  constructor
  · intro item member
    obtain ⟨before, -, cleared⟩ := List.mem_map.mp member
    rw [← cleared]
  · intro item member
    obtain ⟨before, -, cleared⟩ := List.mem_map.mp member
    rw [← cleared]

theorem audienceInOrder_tapAllFriendCell (inv : AudienceInOrder screen) :
    AudienceInOrder screen.tapAllFriendCell := by
  have normal := spaceScreen_normal inv.normal .unselectAll
  cases on : screen.spaceView.isAllFriendSelected with
  | false =>
      rw [tapAllFriendCell_on on]
      exact
        { unset := inv.unset
          normal := normal
          exclusive := ⟨fun both => Bool.false_ne_true both.2, fun _ => noneSelected_setAllunSelected⟩
          closed := fun _ => ⟨rfl, rfl⟩
          allFriendShown := rfl
          memoriesShown := rfl }
  | true =>
      have other : screen.spaceView.isMemoriesSelected = false :=
        Bool.eq_false_iff.mpr fun memories => inv.exclusive.1 ⟨on, memories⟩
      rw [tapAllFriendCell_off on other]
      have nothing : ¬ (false = true ∨ screen.spaceView.isMemoriesSelected = true) := by
        rw [other]
        decide
      exact
        { unset := inv.unset
          normal := inv.normal
          exclusive := ⟨fun both => Bool.false_ne_true both.1, fun special => absurd special nothing⟩
          closed := fun special => absurd special nothing
          allFriendShown := rfl
          memoriesShown := inv.memoriesShown }

theorem audienceInOrder_tapMemoriesCell (inv : AudienceInOrder screen) :
    AudienceInOrder screen.tapMemoriesCell := by
  have normal := spaceScreen_normal inv.normal .unselectAll
  cases on : screen.spaceView.isMemoriesSelected with
  | false =>
      rw [tapMemoriesCell_on on]
      exact
        { unset := inv.unset
          normal := normal
          exclusive := ⟨fun both => Bool.false_ne_true both.1, fun _ => noneSelected_setAllunSelected⟩
          closed := fun _ => ⟨rfl, rfl⟩
          allFriendShown := rfl
          memoriesShown := rfl }
  | true =>
      have other : screen.spaceView.isAllFriendSelected = false :=
        Bool.eq_false_iff.mpr fun allFriends => inv.exclusive.1 ⟨allFriends, on⟩
      rw [tapMemoriesCell_off on other]
      have nothing : ¬ (screen.spaceView.isAllFriendSelected = true ∨ false = true) := by
        rw [other]
        decide
      exact
        { unset := inv.unset
          normal := inv.normal
          exclusive := ⟨fun both => Bool.false_ne_true both.2, fun special => absurd special nothing⟩
          closed := fun special => absurd special nothing
          allFriendShown := inv.allFriendShown
          memoriesShown := rfl }

end Special

/-! ## What the lists do -/

section Lists

variable {screen : RSReceiverListWithSpaceViewController}

theorem audienceInOrder_list (inv : AudienceInOrder screen) (event : ReceiverListEvent)
    (calm : SpecialSelected screen →
      ∀ item ∈ (screen.toRSReceiverListViewController.step event).viewModel.listData,
        item.isSelected = false) :
    AudienceInOrder (screen.onList fun list => list.step event) := by
  obtain ⟨allows, preselects⟩ := userScreen_frame screen.toRSReceiverListViewController event
  exact
    { unset := preselects.trans inv.unset
      normal := inv.normal
      exclusive := ⟨inv.exclusive.1, fun special => ⟨calm special, (inv.exclusive.2 special).2⟩⟩
      closed := fun special => ⟨allows.trans (inv.closed special).1, (inv.closed special).2⟩
      allFriendShown := inv.allFriendShown
      memoriesShown := inv.memoriesShown }

theorem audienceInOrder_space (inv : AudienceInOrder screen) (event : ReceiverSpaceEvent)
    (calm : SpecialSelected screen →
      ∀ item ∈ (screen.spaceView.step event).viewModel.listData, item.isSelected = false) :
    AudienceInOrder (screen.onSpaceView fun view => view.step event) := by
  obtain ⟨allows, allFriends, memories⟩ := spaceScreen_frame screen.spaceView event
  have sameAllFriend : (screen.spaceView.step event).isAllFriendSelected = screen.spaceView.isAllFriendSelected :=
    congrArg (fun cell => cell.viewModel.isSelected) allFriends
  have sameMemories : (screen.spaceView.step event).isMemoriesSelected = screen.spaceView.isMemoriesSelected :=
    congrArg (fun cell => cell.viewModel.isSelected) memories
  have same : SpecialSelected (screen.onSpaceView fun view => view.step event) ↔ SpecialSelected screen := by
    show (_ = true ∨ _ = true) ↔ (_ = true ∨ _ = true)
    rw [← sameAllFriend, ← sameMemories]
    rfl
  refine
    { unset := inv.unset
      normal := spaceScreen_normal inv.normal event
      exclusive := ⟨?_, fun special => ⟨(inv.exclusive.2 (same.mp special)).1, calm (same.mp special)⟩⟩
      closed := fun special =>
        ⟨(inv.closed (same.mp special)).1, allows.trans (inv.closed (same.mp special)).2⟩
      allFriendShown := ?_
      memoriesShown := ?_ }
  · show ¬ ((screen.spaceView.step event).isAllFriendSelected = true ∧
      (screen.spaceView.step event).isMemoriesSelected = true)
    rw [sameAllFriend, sameMemories]
    exact inv.exclusive.1
  · show (screen.spaceView.step event).allFriendCell.selectedImage =
      checkbox (screen.spaceView.step event).isAllFriendSelected
    rw [sameAllFriend, allFriends]
    exact inv.allFriendShown
  · show (screen.spaceView.step event).memoriesCell.selectedImage =
      checkbox (screen.spaceView.step event).isMemoriesSelected
    rw [sameMemories, memories]
    exact inv.memoriesShown

theorem audienceInOrder_step (inv : AudienceInOrder screen) (event : ReceiverListWithSpaceEvent) :
    AudienceInOrder (screen.step event) := by
  cases event with
  | tapAllFriendCell => exact audienceInOrder_tapAllFriendCell inv
  | tapMemoriesCell => exact audienceInOrder_tapMemoriesCell inv
  | tapUser row =>
      apply audienceInOrder_list inv (.tap row)
      intro special
      have refused : screen.toRSReceiverListViewController.step (.tap row) =
          screen.toRSReceiverListViewController := by
        apply if_neg
        rw [(inv.closed special).1]
        exact fun both => Bool.false_ne_true both.1
      rw [refused]
      exact (inv.exclusive.2 special).1
  | tapSpace row =>
      apply audienceInOrder_space inv (.tap row)
      intro special
      have refused : screen.spaceView.step (.tap row) = screen.spaceView := by
        apply if_neg
        rw [(inv.closed special).2]
        exact fun both => Bool.false_ne_true both.1
      rw [refused]
      exact (inv.exclusive.2 special).2
  | listData login contactList =>
      apply audienceInOrder_list inv (.listData login contactList)
      intro _ item member
      obtain ⟨contact, -, made⟩ := List.mem_map.mp member
      rw [← made, inv.unset]
      exact RSReceiverListViewModel.preselected_nil contact
  | loaded contacts resp =>
      apply audienceInOrder_space inv (.loaded contacts resp)
      intro special item member
      by_cases have_avatars : HaveAvatars contacts resp
      · exact (loaded_item have_avatars member).1
      · rw [RSReceiverSpaceView.step, RSReceiverSpaceView.loadData, loadData_raises have_avatars] at member
        exact (inv.exclusive.2 special).2 item member

end Lists

/-! ## What the user confirms -/

theorem mem_shownReceivers {screen : RSReceiverListWithSpaceViewController} {receiver : Receiver} :
    receiver ∈ shownReceivers screen ↔
      screen.spaceView.allFriendCell.selectedImage = "checkbox-selected" ∧ receiver = .allFriends ∨
      screen.spaceView.memoriesCell.selectedImage = "checkbox-selected" ∧ receiver = .memories ∨
      (∃ item ∈ screen.viewModel.listData, item.isSelected = true ∧ receiver = .user item.uid) ∨
      ∃ item ∈ screen.spaceView.viewModel.listData, item.isSelected = true ∧ receiver = .space item.spaceId := by
  simp only [shownReceivers, List.mem_append, List.mem_map, List.mem_filter, and_assoc, or_assoc,
    List.mem_ite_nil_right, List.mem_singleton, eq_comm]

theorem checkbox_eq_selected {isSelected : Bool} : checkbox isSelected = "checkbox-selected" ↔ isSelected = true := by
  cases isSelected with
  | false => exact ⟨fun same => absurd same (by decide), fun same => absurd same Bool.false_ne_true⟩
  | true => exact ⟨fun _ => rfl, fun _ => rfl⟩

theorem selected_user_returned {viewModel : RSReceiverListViewModel} {toUsers : List String}
    (returned : viewModel.getSelectedUsers = some toUsers) {item : RSReceiverListItemViewModel}
    (listed : item ∈ viewModel.listData) (selected : item.isSelected = true) :
    ∃ uid ∈ toUsers, some uid = item.uid := by
  have there : item.uid ∈ (viewModel.listData.filter (·.isSelected)).map (·.uid) :=
    List.mem_map_of_mem (List.mem_filter.mpr ⟨listed, selected⟩)
  rw [getSelectedUsers_eq_some.mp returned] at there
  exact List.mem_map.mp there

theorem selected_space_returned {viewModel : RSReceiverSpaceViewModel} {item : RSReceiverSpaceItemViewModel}
    (listed : item ∈ viewModel.listData) (selected : item.isSelected = true) (normal : item.type = .normal) :
    item.spaceId ∈ viewModel.getSelectedSpaces :=
  List.mem_map_of_mem (List.mem_filter.mpr ⟨listed, decide_eq_true ⟨selected, normal⟩⟩)

theorem spaceCompletionHandler_lists {toUsers : List String} {spaceIds : List Int64}
    (chosen : ¬ (toUsers = [] ∧ spaceIds = [])) :
    RSSpaceCreateViewController.spaceCompletionHandler toUsers spaceIds false false = .create toUsers spaceIds := by
  rw [RSSpaceCreateViewController.spaceCompletionHandler, if_neg Bool.false_ne_true,
    if_neg Bool.false_ne_true, if_neg]
  rw [Nat.le_zero, Nat.le_zero, List.length_eq_zero_iff, List.length_eq_zero_iff]
  exact chosen

theorem AudienceInOrder.serves {screen : RSReceiverListWithSpaceViewController} (inv : AudienceInOrder screen)
    {action : SpaceCreateAction} (confirmed : screen.finishButton = some action) {receiver : Receiver}
    (shown : receiver ∈ shownReceivers screen) : receiver ∈ servedReceivers action := by
  obtain ⟨toUsers, returned, handled⟩ := Option.bind_eq_some_iff.mp confirmed
  rw [mem_shownReceivers, inv.allFriendShown, inv.memoriesShown, checkbox_eq_selected, checkbox_eq_selected]
    at shown
  rw [← Option.some.inj handled]
  rcases shown with ⟨allFriends, rfl⟩ | ⟨memories, rfl⟩ | ⟨item, listed, selected, rfl⟩ |
    ⟨item, listed, selected, rfl⟩
  · rw [RSSpaceCreateViewController.spaceCompletionHandler, if_pos allFriends]
    exact List.mem_singleton.mpr rfl
  · have other : ¬ screen.spaceView.isAllFriendSelected = true := fun allFriends =>
      inv.exclusive.1 ⟨allFriends, memories⟩
    rw [RSSpaceCreateViewController.spaceCompletionHandler, if_neg other, if_pos memories]
    exact List.mem_singleton.mpr rfl
  · have someone : ¬ NoneSelected screen := by
      intro none_selected
      exact Bool.false_ne_true ((none_selected.1 item listed).symm.trans selected)
    obtain ⟨noAllFriend, noMemories⟩ := inv.noSpecial someone
    obtain ⟨uid, there, named⟩ := selected_user_returned returned listed selected
    rw [noAllFriend, noMemories, spaceCompletionHandler_lists fun empty => List.ne_nil_of_mem there empty.1]
    apply List.mem_append_left
    rw [← named]
    exact List.mem_map_of_mem there
  · have someone : ¬ NoneSelected screen := by
      intro none_selected
      exact Bool.false_ne_true ((none_selected.2 item listed).symm.trans selected)
    obtain ⟨noAllFriend, noMemories⟩ := inv.noSpecial someone
    have there := selected_space_returned listed selected (inv.normal item listed)
    rw [noAllFriend, noMemories, spaceCompletionHandler_lists fun empty => List.ne_nil_of_mem there empty.2]
    apply List.mem_append_right
    exact List.mem_map_of_mem there

theorem AudienceInOrder.confirmsShown_iff {screen : RSReceiverListWithSpaceViewController}
    (inv : AudienceInOrder screen) : ConfirmsShown screen ↔ SelectedNamed screen.viewModel := by
  rw [selectedNamed_iff]
  constructor
  · intro ⟨action, confirmed, _⟩
    obtain ⟨toUsers, returned, -⟩ := Option.bind_eq_some_iff.mp confirmed
    exact ⟨toUsers, returned⟩
  · intro ⟨toUsers, returned⟩
    have confirmed : screen.finishButton = some (RSSpaceCreateViewController.spaceCompletionHandler toUsers
        screen.spaceView.viewModel.getSelectedSpaces screen.spaceView.isAllFriendSelected
        screen.spaceView.isMemoriesSelected) := by
      simp [finishButton, returned]
    exact ⟨_, confirmed, fun receiver shown => inv.serves confirmed shown⟩

theorem selectedNamed_of_none {viewModel : RSReceiverListViewModel}
    (nobody : ∀ item ∈ viewModel.listData, item.isSelected = false) : SelectedNamed viewModel := by
  intro item listed selected
  exact absurd ((nobody item listed).symm.trans selected) Bool.false_ne_true

theorem selectedNamed_step {screen : RSReceiverListWithSpaceViewController} (inv : AudienceInOrder screen)
    (named : SelectedNamed screen.viewModel) (event : ReceiverListWithSpaceEvent) :
    SelectedNamed (screen.step event).viewModel ↔ TapsNamed screen event := by
  cases event with
  | tapUser row =>
      by_cases allows : screen.allowsSelection = true
      · have tapped := selectedNamed_tap allows named row
        exact tapped.trans ⟨fun keeps _ => keeps, fun keeps => keeps allows⟩
      · have refused : screen.toRSReceiverListViewController.step (.tap row) =
            screen.toRSReceiverListViewController := if_neg fun both => allows both.1
        have same : (screen.step (.tapUser row)).viewModel = screen.viewModel := congrArg (·.viewModel) refused
        rw [same]
        exact ⟨fun _ allowed => absurd allowed allows, fun _ => named⟩
  | tapAllFriendCell =>
      refine iff_of_true ?_ trivial
      show SelectedNamed screen.tapAllFriendCell.viewModel
      cases on : screen.spaceView.isAllFriendSelected with
      | false =>
          rw [tapAllFriendCell_on on]
          exact selectedNamed_of_none noneSelected_setAllunSelected.1
      | true =>
          rw [tapAllFriendCell_off on (Bool.eq_false_iff.mpr fun other => inv.exclusive.1 ⟨on, other⟩)]
          exact named
  | tapMemoriesCell =>
      refine iff_of_true ?_ trivial
      show SelectedNamed screen.tapMemoriesCell.viewModel
      cases on : screen.spaceView.isMemoriesSelected with
      | false =>
          rw [tapMemoriesCell_on on]
          exact selectedNamed_of_none noneSelected_setAllunSelected.1
      | true =>
          rw [tapMemoriesCell_off on (Bool.eq_false_iff.mpr fun other => inv.exclusive.1 ⟨other, on⟩)]
          exact named
  | tapSpace row => exact iff_of_true named trivial
  | loaded contacts resp => exact iff_of_true named trivial
  | listData login contactList =>
      refine iff_of_true (selectedNamed_of_none ?_) trivial
      intro item member
      obtain ⟨contact, -, made⟩ := List.mem_map.mp member
      rw [← made, inv.unset]
      exact RSReceiverListViewModel.preselected_nil contact

/-- On the screen that is pushed for a new space the audience is exclusive in every state, and confirming
serves all that is shown exactly as long as no tap selects a contact without a uid. -/
theorem audience_exclusive_iff (events : List ReceiverListWithSpaceEvent) :
    EveryState RSReceiverListWithSpaceViewController.step AudienceExclusive viewDidLoad events ∧
    (EveryState RSReceiverListWithSpaceViewController.step
      (fun screen => AudienceExclusive screen ∧ ConfirmsShown screen) viewDidLoad events ↔
        EveryStep RSReceiverListWithSpaceViewController.step TapsNamed viewDidLoad events) := by
  have initially : AudienceInOrder viewDidLoad :=
    { unset := rfl
      normal := fun item member => absurd member List.not_mem_nil
      exclusive := ⟨fun both => Bool.false_ne_true both.1, fun _ =>
        ⟨fun item member => absurd member List.not_mem_nil, fun item member => absurd member List.not_mem_nil⟩⟩
      closed := fun special => special.elim (fun on => absurd on Bool.false_ne_true)
        fun on => absurd on Bool.false_ne_true
      allFriendShown := rfl
      memoriesShown := rfl }
  have preserved : ∀ (screen : RSReceiverListWithSpaceViewController) (event : ReceiverListWithSpaceEvent),
      AudienceInOrder screen → AudienceInOrder (screen.step event) :=
    fun screen event inv => audienceInOrder_step inv event
  have states := everyState_of_invariant preserved initially events
  constructor
  · exact states.mono fun screen inv => inv.exclusive
  · have same : ∀ screen, AudienceInOrder screen →
        (AudienceExclusive screen ∧ ConfirmsShown screen ↔ SelectedNamed screen.viewModel) := by
      intro screen inv
      rw [inv.confirmsShown_iff]
      exact and_iff_right inv.exclusive
    rw [everyState_congr same states]
    exact everyState_iff_everyStep preserved
      (fun screen event inv named => selectedNamed_step inv named event) initially
      (fun item member => absurd member List.not_mem_nil) events

/-- The contacts that are listed after a contact with an empty user name was saved. -/
def contactsWithNameless : List RSContactModel :=
  RSContactService.getExistContact
    (RSContactService.saveContactList true [{ userName := "" }, { userName := "ming" }] ∅).2

theorem nameless_receiver_raises :
    ¬ EveryState RSReceiverListWithSpaceViewController.step
      (fun screen => AudienceExclusive screen ∧ ConfirmsShown screen) viewDidLoad
      [.listData {} contactsWithNameless, .tapUser 0, .tapUser 1] := by
  intro every
  obtain ⟨action, confirmed, -⟩ := every.last.2
  have raises : (run RSReceiverListWithSpaceViewController.step viewDidLoad
      [.listData {} contactsWithNameless, .tapUser 0, .tapUser 1]).finishButton = none := by decide
  rw [raises] at confirmed
  contradiction

end RealSocial.Proof
