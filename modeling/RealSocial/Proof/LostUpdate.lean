import Mathlib.Order.Fin.Basic
import RealSocial.Library.Run
import RealSocial.Proof.SyncHandlers
import RealSocial.System.ContactWriters

namespace RealSocial.Proof

open Library ContactWriters RSContactService

/-! # The newest version of each contact against the row in the table -/

variable {history : List RSContact}

def NewestDelivered (delivered : List (ContactVersion history)) (n : ContactVersion history) : Prop :=
  n ∈ delivered ∧ ∀ m ∈ delivered, versionName m = versionName n → m ≤ n

def NoLostUpdate (writers : ContactWriters history) : Prop :=
  ∀ n, NewestDelivered writers.delivered n →
    writers.sync.contacts.find (some (versionName n)) = some (versionRow n)

/-- The answer saved last among those that mention a contact brings its newest version, or one with
the same contents; where no answer was saved, the row from before already had them. -/
def SavedInOrder (initial : ContactTable) (writers : ContactWriters history) : Prop :=
  ∀ n, NewestDelivered writers.delivered n →
    ((Table.lastVersion versionName writers.saved (versionName n)).map versionRow).or
      (initial.find (some (versionName n))) = some (versionRow n)

def SavedRows (initial : ContactTable) (writers : ContactWriters history) : Prop :=
  writers.sync.contacts = initial.insertOrReplaceAll (writers.saved.map versionRow)

theorem rowsOf_versions (versions : List (ContactVersion history)) :
    rowsOf (versions.map history.get) = versions.map versionRow := List.map_map

theorem SavedRows.deliver {initial : ContactTable} {before after : ContactWriters history}
    {versions : List (ContactVersion history)} {ok : Bool} (savedRows : SavedRows initial before)
    (same : after.saved = before.saved)
    (contacts : after.sync.contacts =
      if ok then before.sync.contacts.insertOrReplaceAll (versions.map versionRow)
      else before.sync.contacts) : SavedRows initial (after.deliver ok versions) := by
  change after.sync.contacts = _
  rw [contacts, ContactWriters.deliver, same, savedRows]
  cases ok with
  | false => simp
  | true => simp [Table.insertOrReplaceAll_append]

theorem savedRows_step {initial : ContactTable} (writers : ContactWriters history)
    (event : ContactWritersEvent history) (savedRows : SavedRows initial writers) :
    SavedRows initial (writers.step event) := by
  cases event with
  | syncLoadData => exact (RSSyncService.loadData_contacts writers.sync).trans savedRows
  | syncError i => exact savedRows
  | syncPage i versions syncBuff isEnd groupListArray contactOk cursorOk =>
      simp only [ContactWriters.step, ContactWriters.syncPage]
      split_ifs with live
      · refine savedRows.deliver rfl ?_
        rw [(RSSyncService.response_stores live rfl).1, RSSyncService.written_contacts, rowsOf_versions]
      · exact savedRows
  | contactLoadData => exact savedRows
  | contactError j => exact savedRows
  | allContacts j versions ok =>
      simp only [ContactWriters.step, ContactWriters.allContacts]
      split_ifs with waiting
      · refine savedRows.deliver rfl ?_
        simp only [saveAllContactResp, saveContactList_table, rowsOf_versions]
      · exact savedRows
  | login resp => exact (RSSyncService.loadData_contacts _).trans savedRows
  | logout => exact savedRows

theorem find_savedRows {initial : ContactTable} {writers : ContactWriters history}
    (savedRows : SavedRows initial writers) (name : String) :
    writers.sync.contacts.find (some name) =
      ((Table.lastVersion versionName writers.saved name).map versionRow).or (initial.find (some name)) := by
  have key : ∀ n : ContactVersion history, (versionRow n).uid = some (versionName n) := fun _ => rfl
  rw [savedRows, Table.find_insertOrReplaceAll]
  congr 1
  exact Table.lastVersion_map (fun _ _ => Option.some.inj) key writers.saved name

theorem savedInOrder_of_sorted {initial : ContactTable} {writers : ContactWriters history}
    (all : writers.delivered = writers.saved)
    (sorted : writers.saved.Pairwise fun m n => versionName m = versionName n → m ≤ n) :
    SavedInOrder initial writers := by
  intro n newest
  rw [all] at newest
  obtain ⟨before, after, split⟩ := List.append_of_mem newest.1
  cases last : Table.lastVersion versionName writers.saved (versionName n) with
  | none => exact absurd rfl (Table.lastVersion_eq_none.mp last n newest.1)
  | some m =>
      obtain ⟨member, same⟩ := Table.lastVersion_mem last
      have upper : m ≤ n := newest.2 m member same
      have lower : n ≤ m := by
        rw [split, Table.lastVersion_append, Table.lastVersion, if_pos rfl] at last
        cases later : Table.lastVersion versionName after (versionName n) with
        | none =>
            rw [later] at last
            exact le_of_eq (Option.some.inj last)
        | some m' =>
            rw [later] at last
            obtain ⟨isLater, sameName⟩ := Table.lastVersion_mem later
            rw [split, List.pairwise_append, List.pairwise_cons] at sorted
            rw [← Option.some.inj last]
            exact sorted.2.1.1 m' isLater sameName.symm
      rw [Option.map_some, Option.some_or, le_antisymm upper lower]

theorem noLostUpdate_iff (history : List RSContact) (sync : RSSyncState) (fullLoads : List Bool)
    (events : List (ContactWritersEvent history)) :
    NoLostUpdate (run step { sync, fullLoads } events) ↔
      SavedInOrder sync.contacts (run step { sync, fullLoads } events) := by
  let start : ContactWriters history := { sync, fullLoads }
  have initially : SavedRows sync.contacts start := rfl
  have savedRows : SavedRows sync.contacts (run step start events) :=
    invariant_run savedRows_step initially events
  refine forall₂_congr ?_
  intro n _
  rw [find_savedRows savedRows]

-- bob, and then bob deleted
def bobHistory : List RSContact := [{ userName := "bob" }, { userName := "bob", delFlag := 1 }]

def bobAdded : ContactVersion bobHistory := ⟨0, by decide⟩
def bobDeleted : ContactVersion bobHistory := ⟨1, by decide⟩

def bobWriters : ContactWriters bobHistory := { sync := RSSyncService.launch {} ∅ ∅ }

-- the full load is answered before bob is deleted, and arrives after the sync page
def lateSnapshot : List (ContactWritersEvent bobHistory) :=
  [.login { userName := "alice", sessionKey := [1] }, .contactLoadData,
    .syncPage 0 [bobAdded, bobDeleted] [2] 1 [] true true, .allContacts 0 [bobAdded] true]

theorem late_snapshot_revives_bob :
    Snapshot 1 [bobAdded] ∧ Changes 0 2 [bobAdded, bobDeleted] ∧
    (run step bobWriters lateSnapshot).sync.cursor = some [2] ∧
    (run step bobWriters lateSnapshot).fullLoads = [false] ∧
    ¬ RSSyncService.Live 0 (run step bobWriters lateSnapshot).sync ∧
    ¬ NoLostUpdate (run step bobWriters lateSnapshot) := by
  refine ⟨by unfold Snapshot; decide, by unfold Changes; decide, by decide, by decide, by decide, ?_⟩
  intro noLost
  have row := noLost bobDeleted (by unfold NewestDelivered; decide)
  revert row
  decide

end RealSocial.Proof
