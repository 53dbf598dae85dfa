import RealSocial.Library.Traverse
import RealSocial.Proof.ReceiverSelection
import RealSocial.System.GroupAuthors

namespace RealSocial.Proof

open Library GroupAuthors RSReceiverListViewModel

/-! # The authors of a group -/

section Statement

variable (login : RSLoginService)

/-- The selected users and then the creator, each of them once, and the users were contacts when the list
was loaded. -/
structure RequestRight (state : GroupAuthors) (req : RSCreateSpaceReq) : Prop where
  creator : req.space.creator = login.loginInfo.uid
  nodup : req.space.authorArray.Nodup
  once : req.space.authorArray.count req.space.creator = 1
  contacts : ∀ author ∈ req.space.authorArray, author = req.space.creator ∨
    ∃ row ∈ state.loaded.rows, row.uid = some author ∧ row.delFlag = 0
  authors : req.space.authorArray.map some =
    (state.screen.viewModel.listData.filter (·.isSelected)).map (·.uid) ++ [some req.space.creator]

/-- Whatever the time, the name and the contacts that were looked up, the request is right. It is made where
users are selected who all have a uid, and the group has a name or the creator a uid to name it by. -/
def AuthorsRight (state : GroupAuthors) : Prop :=
  ∀ time name dic,
    (∀ req dic', state.createGroup login time name dic = some (.ok req, dic') →
      RequestRight login state req) ∧
    ((∃ item ∈ state.screen.viewModel.listData, item.isSelected = true) →
      SelectedNamed state.screen.viewModel → name ≠ "" ∨ login.loginInfo.uid ≠ "" →
        ∃ req dic', state.createGroup login time name dic = some (.ok req, dic'))

def listUids (contacts : ContactTable) : List (Option String) :=
  ((RSContactService.getExistContact contacts).filter (admits login)).map (·.uid)

/-- The rows are those of the contacts that the list was loaded from. -/
def RowsLoaded (state : GroupAuthors) : Prop :=
  state.screen.viewModel.listData.map (·.uid) = listUids login state.loaded

end Statement

variable {login : RSLoginService}

/-! ## The uids in a list -/

theorem mem_listUids {contacts : ContactTable} {uid : String} (listed : some uid ∈ listUids login contacts) :
    uid ≠ login.loginInfo.uid ∧ ∃ row ∈ contacts.rows, row.uid = some uid ∧ row.delFlag = 0 := by
  obtain ⟨contact, inList, named⟩ := List.mem_map.mp listed
  obtain ⟨exists_now, admitted⟩ := List.mem_filter.mp inList
  obtain ⟨row, found, rfl⟩ := List.mem_map.mp exists_now
  obtain ⟨stored, kept⟩ := List.mem_filter.mp found
  constructor
  · intro own
    rw [admits, named, own] at admitted
    simp at admitted
  · obtain ⟨key, keyed, read⟩ := Option.bind_eq_some_iff.mp named
    refine ⟨row, stored, ?_, of_decide_eq_true kept⟩
    rw [keyed, (WCDB.unarchiveString_eq_some_iff.mp read).1]

theorem listUids_nodup (contacts : ContactTable) : ((listUids login contacts).filterMap id).Nodup := by
  have stored : ((contacts.rows.map (·.uid)).filterMap fun uid => uid.bind WCDB.unarchiveString).Nodup := by
    apply contacts.unique.filterMap
    intro uid uid' name named named'
    obtain ⟨key, rfl, read⟩ := Option.bind_eq_some_iff.mp named
    obtain ⟨key', rfl, read'⟩ := Option.bind_eq_some_iff.mp named'
    obtain ⟨same, -⟩ := WCDB.unarchiveString_eq_some_iff.mp read
    obtain ⟨same', -⟩ := WCDB.unarchiveString_eq_some_iff.mp read'
    exact congrArg some (same.trans same'.symm)
  rw [List.filterMap_map] at stored
  apply List.Sublist.nodup ?_ stored
  rw [listUids, List.filterMap_map]
  apply (List.filter_sublist.filterMap _).trans
  rw [RSContactService.getExistContact, WCDB.getObjects, List.filterMap_map]
  exact List.filter_sublist.filterMap _

/-! ## The request -/

section Request

variable {state : GroupAuthors} {authors : List String}

theorem selected_sublist (loaded : RowsLoaded login state)
    (selected : state.screen.viewModel.getSelectedUsers = some authors) :
    (authors.map some).Sublist (listUids login state.loaded) := by
  rw [← mapM_eq_some_iff.mp selected, ← loaded]
  exact List.filter_sublist.map _

theorem mem_selected (loaded : RowsLoaded login state)
    (selected : state.screen.viewModel.getSelectedUsers = some authors) {author : String}
    (member : author ∈ authors) :
    author ≠ login.loginInfo.uid ∧ ∃ row ∈ state.loaded.rows, row.uid = some author ∧ row.delFlag = 0 :=
  mem_listUids ((selected_sublist loaded selected).subset (List.mem_map_of_mem member))

theorem selected_nodup (loaded : RowsLoaded login state)
    (selected : state.screen.viewModel.getSelectedUsers = some authors) : authors.Nodup := by
  have part := (selected_sublist loaded selected).filterMap id
  rw [List.filterMap_map, Function.id_comp, List.filterMap_some] at part
  exact part.nodup (listUids_nodup state.loaded)

theorem createGroup_request {time name : String} {dic dic' : ContactDictionary} {req : RSCreateSpaceReq}
    (sent : state.createGroup login time name dic = some (.ok req, dic')) :
    ∃ authors, state.screen.viewModel.getSelectedUsers = some authors ∧
      req.space.creator = login.loginInfo.uid ∧
      req.space.authorArray = authors ++ [login.loginInfo.uid] := by
  obtain ⟨authors, selected, created⟩ := Option.bind_eq_some_iff.mp sent
  refine ⟨authors, selected, ?_⟩
  rw [RSReceiverSpaceViewModel.createGroupSpaceWithAuthors] at created
  split_ifs at created with empty
  · cases created
  · obtain ⟨made, built, same⟩ := Option.map_eq_some_iff.mp created
    obtain ⟨named, -, whole⟩ := Option.map_eq_some_iff.mp built
    subst whole
    cases same
    exact ⟨rfl, rfl⟩

theorem getNickNameByUid_answers {uid : String} (known : uid ≠ "") (table : ContactTable)
    (dic : ContactDictionary) : ∃ answer, RSContactService.getNickNameByUid uid table dic = some answer := by
  have looked : ∃ answer, RSContactService.getContactByUid uid table dic = some answer := by
    rw [RSContactService.getContactByUid]
    cases dic uid with
    | some model => exact ⟨_, rfl⟩
    | none =>
        rw [List.head?_map, WCDB.getObjects_key]
        cases found : table.find (some uid) with
        | none => exact ⟨_, rfl⟩
        | some row =>
            have named : row.extract.uid = some uid := by
              have key : row.uid = some uid := Table.find_key found
              rw [RSContactModel.extract, key]
              exact WCDB.unarchiveString_eq_some_iff.mpr ⟨rfl, known⟩
            exact ⟨_, Option.map_eq_some_iff.mpr ⟨uid, named, rfl⟩⟩
  obtain ⟨answer, found⟩ := looked
  exact ⟨_, Option.map_eq_some_iff.mpr ⟨answer, found, rfl⟩⟩

theorem groupName_answers {name : String} (nameable : name ≠ "" ∨ login.loginInfo.uid ≠ "")
    (contacts : ContactTable) (dic : ContactDictionary) :
    ∃ answer, RSReceiverSpaceViewModel.groupName login name contacts dic = some answer := by
  rw [RSReceiverSpaceViewModel.groupName]
  split_ifs with long
  · exact ⟨_, rfl⟩
  · have known : login.loginInfo.uid ≠ "" := by
      apply nameable.resolve_left
      rw [not_not, ← String.length_eq_zero_iff]
      exact Nat.eq_zero_of_not_pos long
    obtain ⟨answer, found⟩ := getNickNameByUid_answers known contacts dic
    exact ⟨_, Option.map_eq_some_iff.mpr ⟨answer, found, rfl⟩⟩

theorem createGroup_sends {name : String}
    (someone : ∃ item ∈ state.screen.viewModel.listData, item.isSelected = true)
    (named : SelectedNamed state.screen.viewModel) (nameable : name ≠ "" ∨ login.loginInfo.uid ≠ "")
    (time : String) (dic : ContactDictionary) :
    ∃ req dic', state.createGroup login time name dic = some (.ok req, dic') := by
  obtain ⟨authors, selected⟩ := selectedNamed_iff.mp named
  have chosen : ¬ authors.length ≤ 0 := by
    obtain ⟨item, listed, on⟩ := someone
    have there : item.uid ∈ (state.screen.viewModel.listData.filter (·.isSelected)).map (·.uid) :=
      List.mem_map_of_mem (List.mem_filter.mpr ⟨listed, on⟩)
    rw [getSelectedUsers_eq_some.mp selected] at there
    rw [Nat.le_zero, List.length_eq_zero_iff]
    intro empty
    rw [empty] at there
    exact absurd there List.not_mem_nil
  obtain ⟨⟨groupName, dic'⟩, found⟩ := groupName_answers nameable state.contacts dic
  rw [createGroup, selected, Option.bind_some, RSReceiverSpaceViewModel.createGroupSpaceWithAuthors,
    if_neg chosen]
  simp [RSReceiverSpaceViewModel.buildRequestWithClientId, found]

theorem requestRight_of_rowsLoaded (loaded : RowsLoaded login state) {time name : String}
    {dic dic' : ContactDictionary} {req : RSCreateSpaceReq}
    (sent : state.createGroup login time name dic = some (.ok req, dic')) : RequestRight login state req := by
  obtain ⟨authors, selected, creator, authorArray⟩ := createGroup_request sent
  have stranger : login.loginInfo.uid ∉ authors :=
    fun member => (mem_selected loaded selected member).1 rfl
  constructor
  · exact creator
  · rw [authorArray, List.nodup_append_comm, List.singleton_append, List.nodup_cons]
    exact ⟨stranger, selected_nodup loaded selected⟩
  · rw [creator, authorArray, List.count_append, List.count_eq_zero.mpr stranger, List.count_singleton_self]
  · intro author member
    rw [authorArray] at member
    rw [creator]
    rcases List.mem_append.mp member with chosen | own
    · exact .inr (mem_selected loaded selected chosen).2
    · exact .inl (List.mem_singleton.mp own)
  · rw [creator, authorArray, List.map_append, ← mapM_eq_some_iff.mp selected]
    rfl

end Request

/-! ## Whole runs -/

theorem rowsLoaded_screen {state : GroupAuthors} (loaded : RowsLoaded login state)
    {screen : RSReceiverListViewController}
    (same : screen.viewModel.listData.map (·.uid) = state.screen.viewModel.listData.map (·.uid)) :
    RowsLoaded login { state with screen } := same.trans loaded

theorem tap_uids (screen : RSReceiverListViewController) (row : Nat) :
    (screen.step (.tap row)).viewModel.listData.map (·.uid) = screen.viewModel.listData.map (·.uid) := by
  rw [RSReceiverListViewController.step]
  split_ifs with delivered
  · rw [RSReceiverListViewController.didSelectRowAtIndexPath]
    cases tapped : screen.viewModel.listData[row]? with
    | none => rfl
    | some item =>
        have kept := map_set_of_same (f := (·.uid)) (y := { item with isSelected := !item.isSelected }) tapped
          rfl
        cases on : item.isSelected with
        | true => simpa [on] using kept
        | false => simpa [on] using kept
  · rfl

theorem rowsLoaded_step (state : GroupAuthors) (event : GroupAuthorsEvent) (loaded : RowsLoaded login state) :
    RowsLoaded login (state.step login event) := by
  cases event with
  | saveContactList ok contactList => exact loaded
  | loadData =>
      change ((_ : List RSContactModel).map _).map _ = _
      rw [List.map_map]
      rfl
  | tap row => exact rowsLoaded_screen loaded (tap_uids state.screen row)
  | unselectAll =>
      apply rowsLoaded_screen loaded
      change (List.map _ _).map _ = _
      rw [List.map_map]
      rfl

theorem group_authors (login : RSLoginService) (contacts : ContactTable) (defaultToUsers : List String)
    (events : List GroupAuthorsEvent) :
    EveryState (GroupAuthors.step login) (AuthorsRight login) (GroupAuthors.viewDidLoad contacts defaultToUsers)
      events := by
  have initially : RowsLoaded login (GroupAuthors.viewDidLoad contacts defaultToUsers) := rfl
  have states := everyState_of_invariant rowsLoaded_step initially events
  apply states.mono
  intro state loaded time name dic
  exact ⟨fun req dic' sent => requestRight_of_rowsLoaded loaded sent,
    fun someone named nameable => createGroup_sends someone named nameable time dic⟩

def contactsOfMe : ContactTable :=
  (RSContactService.saveContactList true
    [{ userName := "ming" }, { userName := "me" }, { userName := "hong" }, { userName := "li", delFlag := 1 }] ∅).2

def ofMe : RSLoginService := { loginInfo := { wxuid := some "me" } }

/-- The rows of hong and of ming are tapped, in this order, and li comes back after the list was loaded. -/
def choosesTwo : List GroupAuthorsEvent :=
  [.loadData, .tap 1, .saveContactList true [{ userName := "li" }], .tap 0]

theorem group_authors_two : ∃ req dic',
    (run (GroupAuthors.step ofMe) (.viewDidLoad contactsOfMe []) choosesTwo).createGroup ofMe
      "1520000000.000000" "trip" (fun _ => none) = some (.ok req, dic') ∧
    req.space.authorArray.map some = [some "ming", some "hong", some "me"] := by
  obtain ⟨right, sends⟩ :=
    (group_authors ofMe contactsOfMe [] choosesTwo).last "1520000000.000000" "trip" fun _ => none
  obtain ⟨req, dic', sent⟩ := sends (by decide)
    (selectedNamed_iff.mpr ⟨["ming", "hong"], by decide⟩) (.inl (by decide))
  refine ⟨req, dic', sent, ?_⟩
  rw [(right req dic' sent).authors, (right req dic' sent).creator]
  decide

end RealSocial.Proof
