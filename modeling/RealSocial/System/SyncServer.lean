import RealSocial.Library.Feed
import RealSocial.Services.SyncService

namespace RealSocial

open Library

/-! # The server side of the sync, as far as the client relies on it

The server answers the cursor of a request with the page that follows it. -/

abbrev SyncServer := Option NSData → Option RSSyncResp

-- the pages as the client walks through them: it sends the cursor it reads back from its table
def SyncServer.feed (server : SyncServer) : Feed (Option NSData) RSSyncResp where
  next stored := server (stored.bind WCDB.unarchive)
  cursor page := some page.syncBuff

@[simp] theorem SyncServer.feed_cursor (server : SyncServer) (page : RSSyncResp) :
    server.feed.cursor page = some page.syncBuff := rfl

namespace RSContactService

def upsert (table : ContactTable) (page : RSSyncResp) : ContactTable :=
  table.insertOrReplaceAll (rowsOf page.contactListArray)

theorem upsert_idem (table : ContactTable) (page : RSSyncResp) :
    upsert (upsert table page) page = upsert table page :=
  Table.insertOrReplaceAll_idem table (rowsOf page.contactListArray)

theorem foldl_upsert (pages : List RSSyncResp) (table : ContactTable) :
    pages.foldl upsert table =
      table.insertOrReplaceAll (rowsOf (pages.flatMap RSSyncResp.contactListArray)) := by
  induction pages generalizing table with
  | nil => rfl
  | cons page pages ih =>
      rw [List.foldl_cons, ih, upsert, List.flatMap_cons, rowsOf_append, Table.insertOrReplaceAll_append]

theorem find_upserted (table : ContactTable) (before after : List RSContact) (contact : RSContact) :
    (table.insertOrReplaceAll (rowsOf (before ++ contact :: after))).find (some contact.userName) =
        some (modelOfContact contact) ∨
      ∃ newer ∈ after, newer.userName = contact.userName ∧
        (table.insertOrReplaceAll (rowsOf (before ++ contact :: after))).find (some contact.userName) =
          some (modelOfContact newer) := by
  have key : (modelOfContact contact).uid = some contact.userName := rfl
  have rows : rowsOf (before ++ contact :: after) =
      rowsOf before ++ modelOfContact contact :: rowsOf after := by
    rw [rowsOf_append]
    rfl
  rw [rows, Table.find_insertOrReplaceAll, Table.lastVersion_append, Table.lastVersion, if_pos key]
  cases later : Table.lastVersion RSContactModel.uid (rowsOf after) (some contact.userName) with
  | none => exact .inl rfl
  | some row =>
      obtain ⟨member, same⟩ := Table.lastVersion_mem later
      obtain ⟨newer, isLater, rfl⟩ := List.mem_map.mp member
      exact .inr ⟨newer, isLater, Option.some.inj same, rfl⟩

end RSContactService

end RealSocial
