import RealSocial.Library.CappedView
import RealSocial.Proof.ReceiverSelection

namespace RealSocial.Proof

open Library RSReceiverListViewController RSReceiverListViewModel

/-! # The avatars under the receiver list -/

section Statement

inductive SelectionChange where
  | row (row : Nat)
  | removeAll
  deriving DecidableEq

def changeSelection (screen : RSReceiverListViewController) :
    SelectionChange → RSReceiverListViewController
  | .row row => screen.step (.tap row)
  | .removeAll => screen.step .unselectAll

def openedScreen (login : RSLoginService) (contactList : List RSContactModel) (defaultToUsers : List String) :
    RSReceiverListViewController :=
  (viewDidLoad defaultToUsers).step (.listData login contactList)

def selectedUrls (items : List RSReceiverListItemViewModel) : Multiset (Option String) :=
  (items.filter (·.isSelected)).map (·.avatarUrl)

def AvatarsShown (screen : RSReceiverListViewController) : Prop :=
  Capped 5 (screen.avatarContentView : Multiset (Option String)) (selectedUrls screen.viewModel.listData)

def NonePreselected (login : RSLoginService) (contactList : List RSContactModel)
    (defaultToUsers : List String) : Prop :=
  ∀ contact ∈ contactList, admits login contact = true → preselected defaultToUsers contact = false

/-- A receiver with an avatar goes while all of the selected ones are shown or none with its avatar is; one
without goes while there are hidden receivers, one of them without an avatar. -/
def RemovalShown (screen : RSReceiverListViewController) : SelectionChange → Prop
  | .removeAll => True
  | .row row => ∀ item, screen.viewModel.listData[row]? = some item → item.isSelected = true →
      match item.avatarUrl with
      | some url =>
          screen.viewModel.listData.countP (·.isSelected) ≤ 5 ∨ some url ∉ screen.avatarContentView
      | none =>
          5 < screen.viewModel.listData.countP (·.isSelected) ∧
            (screen.avatarContentView : Multiset (Option String)).count none <
              (selectedUrls screen.viewModel.listData).count none

end Statement

/-! ## The urls of the selected receivers -/

theorem card_selectedUrls (items : List RSReceiverListItemViewModel) :
    (selectedUrls items).card = items.countP (·.isSelected) := by
  rw [selectedUrls, Multiset.coe_card, List.length_map, List.countP_eq_length_filter]

theorem selectedUrls_perm {items items' : List RSReceiverListItemViewModel} (perm : items.Perm items') :
    selectedUrls items = selectedUrls items' :=
  Multiset.coe_eq_coe.mpr ((perm.filter _).map _)

theorem selectedUrls_cons_on {item : RSReceiverListItemViewModel} (on : item.isSelected = true)
    (items : List RSReceiverListItemViewModel) :
    selectedUrls (item :: items) = item.avatarUrl ::ₘ selectedUrls items := by
  rw [selectedUrls, List.filter_cons_of_pos on, List.map_cons]
  rfl

theorem selectedUrls_cons_off {item : RSReceiverListItemViewModel} (off : item.isSelected = false)
    (items : List RSReceiverListItemViewModel) : selectedUrls (item :: items) = selectedUrls items := by
  rw [selectedUrls, List.filter_cons_of_neg (by simp [off])]
  rfl

section Tapped

variable {items : List RSReceiverListItemViewModel} {row : Nat} {item : RSReceiverListItemViewModel}

theorem selectedUrls_split (tapped : items[row]? = some item) :
    selectedUrls items = selectedUrls (item :: items.eraseIdx row) := by
  obtain ⟨inside, here⟩ := List.getElem?_eq_some_iff.mp tapped
  apply selectedUrls_perm
  rw [← here]
  exact (List.getElem_cons_eraseIdx_perm inside).symm

theorem selectedUrls_set (tapped : items[row]? = some item) (item' : RSReceiverListItemViewModel) :
    selectedUrls (items.set row item') = selectedUrls (item' :: items.eraseIdx row) :=
  selectedUrls_perm (List.set_perm_cons_eraseIdx (List.getElem?_eq_some_iff.mp tapped).1 item')

theorem selectedUrls_select (tapped : items[row]? = some item) (off : item.isSelected = false) :
    selectedUrls (items.set row { item with isSelected := true }) = item.avatarUrl ::ₘ selectedUrls items := by
  rw [selectedUrls_set tapped, selectedUrls_cons_on rfl, selectedUrls_split tapped, selectedUrls_cons_off off]

theorem selectedUrls_deselect (tapped : items[row]? = some item) (on : item.isSelected = true) :
    selectedUrls (items.set row { item with isSelected := false }) =
      (selectedUrls items).erase item.avatarUrl := by
  rw [selectedUrls_set tapped, selectedUrls_cons_off rfl, selectedUrls_split tapped, selectedUrls_cons_on on,
    Multiset.erase_cons_head]

theorem mem_selectedUrls (tapped : items[row]? = some item) (on : item.isSelected = true) :
    item.avatarUrl ∈ selectedUrls items := by
  rw [selectedUrls_split tapped, selectedUrls_cons_on on]
  exact Multiset.mem_cons_self _ _

end Tapped

/-! ## What an operation does to the stack -/

open RSReceiverAvatarStackView

theorem capped_addReceiver {view : RSReceiverAvatarStackView} {urls : Multiset (Option String)}
    (capped : Capped 5 (view : Multiset (Option String)) urls) (url : Option String) :
    Capped 5 (addReceiver url view : Multiset (Option String)) (url ::ₘ urls) := by
  rw [addReceiver]
  split_ifs with full
  · exact capped.cons_of_le full url
  · have room := capped.cons_of_lt (not_le.mp full) url
    rw [Multiset.cons_coe] at room
    rw [Multiset.coe_eq_coe.mpr (List.perm_append_singleton url view)]
    exact room

theorem coe_removeReceiver (url : String) (view : RSReceiverAvatarStackView) :
    (removeReceiver (some url) view : Multiset (Option String)) =
      (view : Multiset (Option String)).erase (some url) := by
  rw [removeReceiver, Multiset.coe_erase]
  congr!

theorem changeSelection_select {screen : RSReceiverListViewController} {row : Nat}
    {item : RSReceiverListItemViewModel} (allows : screen.allowsSelection = true)
    (tapped : screen.viewModel.listData[row]? = some item) (off : item.isSelected = false) :
    (changeSelection screen (.row row)).viewModel.listData =
        screen.viewModel.listData.set row { item with isSelected := true } ∧
      (changeSelection screen (.row row)).avatarContentView =
        addReceiver item.avatarUrl screen.avatarContentView := by
  rw [changeSelection, step, if_pos ⟨allows, (List.getElem?_eq_some_iff.mp tapped).1⟩,
    didSelectRowAtIndexPath]
  simp [tapped, off]

theorem changeSelection_deselect {screen : RSReceiverListViewController} {row : Nat}
    {item : RSReceiverListItemViewModel} (allows : screen.allowsSelection = true)
    (tapped : screen.viewModel.listData[row]? = some item) (on : item.isSelected = true) :
    (changeSelection screen (.row row)).viewModel.listData =
        screen.viewModel.listData.set row { item with isSelected := false } ∧
      (changeSelection screen (.row row)).avatarContentView =
        removeReceiver item.avatarUrl screen.avatarContentView := by
  rw [changeSelection, step, if_pos ⟨allows, (List.getElem?_eq_some_iff.mp tapped).1⟩,
    didSelectRowAtIndexPath]
  simp [tapped, on]

theorem changeSelection_outside {screen : RSReceiverListViewController} {row : Nat}
    (outside : screen.viewModel.listData[row]? = none) : changeSelection screen (.row row) = screen :=
  if_neg fun both => Nat.not_lt.mpr (List.getElem?_eq_none_iff.mp outside) both.2

theorem avatarsShown_deselect {screen : RSReceiverListViewController} {row : Nat}
    {item : RSReceiverListItemViewModel} (allows : screen.allowsSelection = true)
    (shown : AvatarsShown screen) (tapped : screen.viewModel.listData[row]? = some item)
    (on : item.isSelected = true) :
    AvatarsShown (changeSelection screen (.row row)) ↔ RemovalShown screen (.row row) := by
  obtain ⟨listData, stack⟩ := changeSelection_deselect allows tapped on
  have member := mem_selectedUrls tapped on
  unfold AvatarsShown at shown ⊢
  rw [listData, stack, selectedUrls_deselect tapped on]
  simp only [RemovalShown, tapped, Option.some.injEq, forall_eq', on, true_imp_iff]
  rw [← card_selectedUrls]
  cases url : item.avatarUrl with
  | some url =>
      rw [url] at member
      rw [coe_removeReceiver, shown.erase_iff member, Multiset.mem_coe]
  | none =>
      rw [url] at member
      exact shown.keep_iff member

theorem avatarsShown_step {screen : RSReceiverListViewController} (allows : screen.allowsSelection = true)
    (shown : AvatarsShown screen) (change : SelectionChange) :
    AvatarsShown (changeSelection screen change) ↔ RemovalShown screen change := by
  cases change with
  | removeAll =>
      have cleared : selectedUrls (changeSelection screen .removeAll).viewModel.listData = 0 := by
        rw [← Multiset.card_eq_zero, card_selectedUrls]
        exact SelectionList.selected_map_false screen.viewModel.listData
      unfold AvatarsShown
      rw [cleared]
      exact ⟨fun _ => trivial, fun _ => capped_zero 5⟩
  | row row =>
      cases tapped : screen.viewModel.listData[row]? with
      | none =>
          rw [changeSelection_outside tapped]
          simp [RemovalShown, tapped, shown]
      | some item =>
          cases on : item.isSelected with
          | true => exact avatarsShown_deselect allows shown tapped on
          | false =>
              obtain ⟨listData, stack⟩ := changeSelection_select allows tapped on
              have added : AvatarsShown (changeSelection screen (.row row)) := by
                unfold AvatarsShown
                rw [listData, stack, selectedUrls_select tapped on]
                exact capped_addReceiver shown item.avatarUrl
              simp [RemovalShown, tapped, on, added]

/-! ## Whole runs -/

theorem changeSelection_allows (screen : RSReceiverListViewController) (change : SelectionChange)
    (allows : screen.allowsSelection = true) : (changeSelection screen change).allowsSelection = true := by
  cases change with
  | row row => exact (userScreen_frame screen (.tap row)).1.trans allows
  | removeAll => exact (userScreen_frame screen .unselectAll).1.trans allows

theorem avatarsShown_opened (login : RSLoginService) (contactList : List RSContactModel)
    (defaultToUsers : List String) :
    AvatarsShown (openedScreen login contactList defaultToUsers) ↔
      NonePreselected login contactList defaultToUsers := by
  have counted : (openedScreen login contactList defaultToUsers).viewModel.listData.countP (·.isSelected) =
      contactList.countP fun contact => admits login contact && preselected defaultToUsers contact :=
    selected_updateListData login contactList (viewDidLoad defaultToUsers).viewModel
  rw [← card_selectedUrls] at counted
  have none_shown : AvatarsShown (openedScreen login contactList defaultToUsers) ↔
      selectedUrls (openedScreen login contactList defaultToUsers).viewModel.listData = 0 := by
    change Capped 5 0 _ ↔ _
    constructor
    · intro capped
      have card := capped.1
      rw [Multiset.card_zero] at card
      rw [← Multiset.card_eq_zero]
      omega
    · intro empty
      rw [empty]
      exact capped_zero 5
  rw [none_shown, ← Multiset.card_eq_zero, counted, List.countP_eq_zero]
  simp [NonePreselected]

theorem avatars_shown_iff (login : RSLoginService) (contactList : List RSContactModel)
    (defaultToUsers : List String) (changes : List SelectionChange) :
    EveryState changeSelection AvatarsShown (openedScreen login contactList defaultToUsers) changes ↔
      NonePreselected login contactList defaultToUsers ∧
      EveryStep changeSelection RemovalShown (openedScreen login contactList defaultToUsers) changes := by
  have precise : ∀ screen change, screen.allowsSelection = true → AvatarsShown screen →
      (AvatarsShown (changeSelection screen change) ↔ RemovalShown screen change) :=
    fun _ change allows shown => avatarsShown_step allows shown change
  have steps (shown : AvatarsShown (openedScreen login contactList defaultToUsers)) :=
    everyState_iff_everyStep changeSelection_allows precise rfl shown changes
  rw [← avatarsShown_opened]
  constructor
  · intro every
    exact ⟨every.first, (steps every.first).mp every⟩
  · intro ⟨shown, every⟩
    exact (steps shown).mpr every

def sixFriends : List RSContactModel :=
  ["ann", "bob", "cat", "dan", "eve", "fay"].map fun name =>
    { uid := some name, nickName := some name, avatarUrl := some name, sex := 1, delFlag := 0 }

/-- Six receivers are selected and the first one goes: the sixth, which is selected, stays hidden. -/
theorem removed_avatar_leaves_gap :
    ¬ EveryState changeSelection AvatarsShown (openedScreen {} sixFriends [])
      ([0, 1, 2, 3, 4, 5, 0].map .row) := by
  intro every
  have shown := every.last.1
  revert shown
  decide

end RealSocial.Proof
