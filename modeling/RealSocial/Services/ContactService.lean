import Mathlib.Logic.Function.Basic
import RealSocial.Services.LoginService

namespace RealSocial

open Library

structure RSContactModel where
  uid : Option String
  nickName : Option String
  avatarUrl : Option String
  sex : Int32
  delFlag : Int32
  deriving DecidableEq, Repr

abbrev ContactTable := Table RSContactModel.uid

/-- `_dic`, the contacts that were looked up, by their uid. -/
abbrev ContactDictionary := String → Option RSContactModel

namespace RSContactModel

def extract (row : RSContactModel) : RSContactModel :=
  { row with
    uid := row.uid.bind WCDB.unarchiveString
    nickName := row.nickName.bind WCDB.unarchiveString
    avatarUrl := row.avatarUrl.bind WCDB.unarchiveString }

end RSContactModel

namespace RSContactService

def modelOfContact (contact : RSContact) : RSContactModel where
  uid := some contact.userName
  nickName := some contact.nickName
  avatarUrl := some contact.headImgURL
  sex := contact.sex.toInt32
  delFlag := contact.delFlag.toInt32

def saveContactList (ok : Bool) (contactList : List RSContact) (table : ContactTable) :
    Bool × ContactTable :=
  WCDB.insertOrReplaceObjects ok (contactList.map modelOfContact) table

def saveAllContactResp (ok : Bool) (resp : RSGetAllContactResp) (table : ContactTable) :
    Bool × ContactTable :=
  saveContactList ok resp.contactArray table

def getExistContact (table : ContactTable) : List RSContactModel :=
  (WCDB.getObjects (fun row => row.delFlag = 0) table).map RSContactModel.extract

def getContactsByUids (uids : List String) (table : ContactTable) : List RSContactModel :=
  (WCDB.getObjects (fun row => row.uid ∈ uids.map some) table).map RSContactModel.extract

/-- The contact found and the dictionary after the lookup, or `none` when `setObject:forKey:` is
given a nil key and raises. -/
def getContactByUid (uid : String) (table : ContactTable) (dic : ContactDictionary) :
    Option (Option RSContactModel × ContactDictionary) :=
  match dic uid with
  | some model => some (some model, dic)
  | none =>
      match ((WCDB.getObjects (fun row => row.uid = some uid) table).map RSContactModel.extract).head? with
      | some model => model.uid.map fun key => (some model, Function.update dic key (some model))
      | none => some (none, dic)

def getNickNameByUid (uid : String) (table : ContactTable) (dic : ContactDictionary) :
    Option (Option String × ContactDictionary) :=
  (getContactByUid uid table dic).map fun (model, dic) =>
    (match model with
      | some model => model.nickName
      | none => some "", dic)

def getAvatarUrlByUid (uid : String) (table : ContactTable) (dic : ContactDictionary) :
    Option (Option String × ContactDictionary) :=
  (getContactByUid uid table dic).map fun (model, dic) =>
    (match model with
      | some model => model.avatarUrl
      | none => some "", dic)

def rowsOf (contactList : List RSContact) : List RSContactModel := contactList.map modelOfContact

@[simp] theorem rowsOf_append (contacts others : List RSContact) :
    rowsOf (contacts ++ others) = rowsOf contacts ++ rowsOf others := List.map_append

theorem saveContactList_nil (ok : Bool) (table : ContactTable) :
    saveContactList ok [] table = (false, table) := rfl

theorem saveContactList_failed (contacts : List RSContact) (table : ContactTable) :
    saveContactList false contacts table = (false, table) := by
  cases contacts <;> rfl

theorem saveContactList_ok {contacts : List RSContact} (carries : contacts ≠ []) (table : ContactTable) :
    saveContactList true contacts table = (true, table.insertOrReplaceAll (rowsOf contacts)) := by
  cases contacts with
  | nil => contradiction
  | cons contact contacts => rfl

theorem saveContactList_result (ok : Bool) (contacts : List RSContact) (table : ContactTable) :
    (saveContactList ok contacts table).1 = (ok && !contacts.isEmpty) := by
  cases contacts with
  | nil => simp [saveContactList_nil]
  | cons contact contacts => cases ok <;> rfl

theorem saveContactList_table (ok : Bool) (contacts : List RSContact) (table : ContactTable) :
    (saveContactList ok contacts table).2 =
      if ok then table.insertOrReplaceAll (rowsOf contacts) else table := by
  cases ok with
  | false => rw [saveContactList_failed]; rfl
  | true =>
      cases contacts with
      | nil => rfl
      | cons contact contacts => rfl

end RSContactService

end RealSocial
