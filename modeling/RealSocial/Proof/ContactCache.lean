import RealSocial.Library.Run
import RealSocial.System.ContactStore

namespace RealSocial.Proof

open Library RSContactService RSContactStore

/-! # Lookups against the contact table -/

structure LooksUp (store : RSContactStore) : Prop where
  contact : ∀ uid, (getContactByUid uid store.contacts store.dic).map Prod.fst =
    some (held uid store.contacts)
  nickName : ∀ uid, (getNickNameByUid uid store.contacts store.dic).map Prod.fst =
    some (match held uid store.contacts with
      | some model => model.nickName
      | none => some "")
  avatarUrl : ∀ uid, (getAvatarUrlByUid uid store.contacts store.dic).map Prod.fst =
    some (match held uid store.contacts with
      | some model => model.avatarUrl
      | none => some "")

def Coherent (state : Option RSContactStore) : Prop := ∃ store, state = some store ∧ LooksUp store

/-- A save leaves what was looked up as it is, and names every contact. -/
def KeepsLookedUp (state : Option RSContactStore) : ContactEvent → Prop
  | .saveContactList true contactList => ∀ store, state = some store →
      (∀ contact ∈ contactList, contact.userName ≠ "") ∧
      ∀ uid model contact, store.dic uid = some model →
        Table.lastVersion RSContact.userName contactList uid = some contact →
        (modelOfContact contact).extract = model
  | _ => True

theorem head_getObjects (uid : String) (contacts : ContactTable) :
    ((WCDB.getObjects (fun row => row.uid = some uid) contacts).map RSContactModel.extract).head? =
      held uid contacts := by
  rw [List.head?_map, WCDB.getObjects_key, held]

theorem held_uid {uid : String} {contacts : ContactTable} {model : RSContactModel}
    (found : held uid contacts = some model) : model.uid = WCDB.unarchiveString uid := by
  obtain ⟨row, inTable, rfl⟩ := Option.map_eq_some_iff.mp found
  have key := Table.find_key inTable
  simp [RSContactModel.extract, key]

theorem getContactByUid_eq {store : RSContactStore} (named : held "" store.contacts = none) (uid : String) :
    getContactByUid uid store.contacts store.dic =
      some ((store.view.lookup uid).1, (store.view.lookup uid).2.cache) := by
  simp only [getContactByUid, head_getObjects, LookAside.lookup, view_cache, view_backing]
  cases cached : store.dic uid with
  | some model => rfl
  | none =>
      cases found : held uid store.contacts with
      | none => rfl
      | some model =>
          have nonempty : uid ≠ "" := by
            rintro rfl
            rw [named] at found
            contradiction
          have read := WCDB.unarchiveString_eq_some_iff.mpr ⟨rfl, nonempty⟩
          simp [held_uid found, read]

theorem getContactByUid_raises {store : RSContactStore} {model : RSContactModel} (miss : store.dic "" = none)
    (found : held "" store.contacts = some model) :
    getContactByUid "" store.contacts store.dic = none := by
  have noKey : model.uid = none := held_uid found
  rw [getContactByUid, head_getObjects, miss, found]
  simp [noKey]

theorem looksUp_iff {store : RSContactStore} (miss : store.dic "" = none) :
    LooksUp store ↔ held "" store.contacts = none ∧ store.view.Coherent := by
  constructor
  · intro looksUp
    have named : held "" store.contacts = none := by
      by_contra found
      obtain ⟨model, found⟩ := Option.ne_none_iff_exists'.mp found
      have contact := looksUp.contact ""
      rw [getContactByUid_raises miss found] at contact
      contradiction
    refine ⟨named, ?_⟩
    intro uid
    have contact := looksUp.contact uid
    rw [getContactByUid_eq named] at contact
    exact Option.some.inj contact
  · rintro ⟨named, coherent⟩
    have contact : ∀ uid, (store.view.lookup uid).1 = held uid store.contacts := coherent
    refine ⟨?_, ?_, ?_⟩
    · intro uid
      rw [getContactByUid_eq named, Option.map_some, contact]
    · intro uid
      rw [getNickNameByUid, getContactByUid_eq named, ← contact uid]
      cases (store.view.lookup uid).1 <;> rfl
    · intro uid
      rw [getAvatarUrlByUid, getContactByUid_eq named, ← contact uid]
      cases (store.view.lookup uid).1 <;> rfl

/-! ## Steps -/

def NoEmptyKey (state : Option RSContactStore) : Prop := ∀ store, state = some store → store.dic "" = none

theorem step_lookup (store : RSContactStore) (uid : String) :
    step (some store) (.getContactByUid uid) = store.looked (getContactByUid uid store.contacts store.dic) ∧
    step (some store) (.getNickNameByUid uid) = step (some store) (.getContactByUid uid) ∧
    step (some store) (.getAvatarUrlByUid uid) = step (some store) (.getContactByUid uid) := by
  refine ⟨rfl, ?_, ?_⟩
  · simp only [step, looked, getNickNameByUid, Option.map_map]
    rfl
  · simp only [step, looked, getAvatarUrlByUid, Option.map_map]
    rfl

theorem noEmptyKey_lookup {store : RSContactStore} (miss : store.dic "" = none) (uid : String) :
    NoEmptyKey (step (some store) (.getContactByUid uid)) := by
  intro after found
  simp only [step, looked, getContactByUid, head_getObjects] at found
  cases cached : store.dic uid with
  | some model =>
      simp only [cached, Option.map_some, Option.some.injEq] at found
      rw [← found]
      exact miss
  | none =>
      cases row : held uid store.contacts with
      | none =>
          simp only [cached, row, Option.map_some, Option.some.injEq] at found
          rw [← found]
          exact miss
      | some model =>
          simp only [cached, row, Option.map_map, Option.map_eq_some_iff] at found
          obtain ⟨key, isKey, rfl⟩ := found
          rw [held_uid row] at isKey
          have nonempty := (WCDB.unarchiveString_eq_some_iff.mp isKey).2
          simp [nonempty.symm, miss]

theorem noEmptyKey_step (state : Option RSContactStore) (event : ContactEvent) (noEmpty : NoEmptyKey state) :
    NoEmptyKey (step state event) := by
  cases state with
  | none =>
      intro store found
      contradiction
  | some store =>
      have miss := noEmpty store rfl
      cases event with
      | saveContactList ok contactList =>
          intro after found
          simp only [step, Option.some.injEq] at found
          rw [← found]
          exact miss
      | getContactByUid uid => exact noEmptyKey_lookup miss uid
      | getNickNameByUid uid =>
          rw [(step_lookup store uid).2.1]
          exact noEmptyKey_lookup miss uid
      | getAvatarUrlByUid uid =>
          rw [(step_lookup store uid).2.2]
          exact noEmptyKey_lookup miss uid

theorem coherent_lookup {store : RSContactStore} (miss : store.dic "" = none) (looksUp : LooksUp store)
    (uid : String) : Coherent (step (some store) (.getContactByUid uid)) := by
  obtain ⟨named, coherent⟩ := (looksUp_iff miss).mp looksUp
  let after : RSContactStore := { store with dic := (store.view.lookup uid).2.cache }
  have found : step (some store) (.getContactByUid uid) = some after := by
    simp only [step, looked, getContactByUid_eq named, Option.map_some]
    rfl
  have viewed : after.view = (store.view.lookup uid).2 :=
    LookAside.ext (LookAside.lookup_backing store.view uid).symm rfl
  have miss' := noEmptyKey_lookup miss uid after found
  refine ⟨after, found, (looksUp_iff miss').mpr ⟨named, ?_⟩⟩
  rw [viewed]
  exact coherent.lookup uid

theorem held_saved (contacts : ContactTable) (contactList : List RSContact) (uid : String) :
    held uid (contacts.insertOrReplaceAll (rowsOf contactList)) =
      ((Table.lastVersion RSContact.userName contactList uid).map fun contact =>
        (modelOfContact contact).extract).or (held uid contacts) := by
  have key : ∀ contact, (modelOfContact contact).uid = some contact.userName := fun _ => rfl
  have last : Table.lastVersion RSContactModel.uid (rowsOf contactList) (some uid) =
      (Table.lastVersion RSContact.userName contactList uid).map modelOfContact :=
    Table.lastVersion_map (fun _ _ => Option.some.inj) key contactList uid
  rw [held, Table.find_insertOrReplaceAll, last, Option.map_or, Option.map_map]
  rfl

theorem looksUp_saved {store : RSContactStore} (miss : store.dic "" = none) (looksUp : LooksUp store)
    (contactList : List RSContact) :
    LooksUp { store with contacts := store.contacts.insertOrReplaceAll (rowsOf contactList) } ↔
      (∀ contact ∈ contactList, contact.userName ≠ "") ∧
      ∀ uid model contact, store.dic uid = some model →
        Table.lastVersion RSContact.userName contactList uid = some contact →
        (modelOfContact contact).extract = model := by
  obtain ⟨named, coherent⟩ := (looksUp_iff miss).mp looksUp
  let after : RSContactStore :=
    { store with contacts := store.contacts.insertOrReplaceAll (rowsOf contactList) }
  have viewed : after.view = store.view.write fun uid => held uid after.contacts := rfl
  have agrees := LookAside.coherent_iff.mp coherent
  rw [looksUp_iff (show after.dic "" = none from miss), viewed, coherent.write_iff]
  apply and_congr
  · rw [← Table.lastVersion_eq_none, held_saved, named, Option.or_none, Option.map_eq_none_iff]
  · simp only [after, held_saved, view_cache, view_backing]
    constructor
    · intro keeps uid model contact cached last
      have kept := keeps uid (by simp [cached])
      have row := agrees uid model cached
      rw [view_backing] at row
      rw [last, row] at kept
      exact Option.some.inj kept
    · intro keeps uid cached
      obtain ⟨model, cached⟩ := Option.ne_none_iff_exists'.mp cached
      cases last : Table.lastVersion RSContact.userName contactList uid with
      | none => rfl
      | some contact =>
          have row := agrees uid model cached
          rw [view_backing] at row
          rw [row, ← keeps uid model contact cached last]
          rfl

theorem coherent_step (state : Option RSContactStore) (event : ContactEvent) (noEmpty : NoEmptyKey state)
    (coherent : Coherent state) : Coherent (step state event) ↔ KeepsLookedUp state event := by
  obtain ⟨store, rfl, looksUp⟩ := coherent
  have miss := noEmpty store rfl
  cases event with
  | saveContactList ok contactList =>
      simp only [step, Coherent, Option.some.injEq, exists_eq_left', saveContactList_table]
      cases ok with
      | false => exact iff_of_true looksUp trivial
      | true =>
          rw [if_pos rfl, looksUp_saved miss looksUp]
          simp [KeepsLookedUp]
  | getContactByUid uid => exact iff_of_true (coherent_lookup miss looksUp uid) trivial
  | getNickNameByUid uid =>
      rw [(step_lookup store uid).2.1]
      exact iff_of_true (coherent_lookup miss looksUp uid) trivial
  | getAvatarUrlByUid uid =>
      rw [(step_lookup store uid).2.2]
      exact iff_of_true (coherent_lookup miss looksUp uid) trivial

theorem lookups_coherent_iff (contacts : ContactTable) (events : List ContactEvent) :
    EveryState step Coherent (some (launch contacts)) events ↔
      held "" contacts = none ∧ EveryStep step KeepsLookedUp (some (launch contacts)) events := by
  have noEmpty : NoEmptyKey (some (launch contacts)) := by
    intro store found
    rw [← Option.some.inj found]
    rfl
  have fresh : (launch contacts).view.Coherent := by
    rw [LookAside.coherent_iff]
    intro uid model cached
    contradiction
  have initially : Coherent (some (launch contacts)) ↔ held "" contacts = none := by
    simp only [Coherent, Option.some.injEq, exists_eq_left']
    rw [looksUp_iff (noEmpty _ rfl)]
    exact and_iff_left fresh
  constructor
  · intro every
    have coherent := every.first
    exact ⟨initially.mp coherent,
      (everyState_iff_everyStep noEmptyKey_step coherent_step noEmpty coherent events).mp every⟩
  · rintro ⟨named, steps⟩
    exact (everyState_iff_everyStep noEmptyKey_step coherent_step noEmpty (initially.mpr named) events).mpr
      steps

-- bob changes his nickname after he was looked up
def renamedBob : List ContactEvent :=
  [.saveContactList true [{ userName := "bob", nickName := "a" }], .getContactByUid "bob",
    .saveContactList true [{ userName := "bob", nickName := "b" }]]

theorem renamed_contact_is_stale : ¬ EveryState step Coherent (some (launch ∅)) renamedBob := by
  intro every
  obtain ⟨store, found, looksUp⟩ := every.last
  have contact := looksUp.contact "bob"
  rw [← Option.some.inj found] at contact
  revert contact
  decide

end RealSocial.Proof
