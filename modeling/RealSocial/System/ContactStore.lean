import RealSocial.Library.LookAside
import RealSocial.Services.ContactService

namespace RealSocial

open Library

/-! # The contact service over a run: its table and its dictionary of looked-up contacts -/

structure RSContactStore where
  contacts : ContactTable
  dic : ContactDictionary

inductive ContactEvent where
  | saveContactList (ok : Bool) (contactList : List RSContact)
  | getContactByUid (uid : String)
  | getNickNameByUid (uid : String)
  | getAvatarUrlByUid (uid : String)

namespace RSContactStore

open RSContactService

def launch (contacts : ContactTable) : RSContactStore := { contacts, dic := fun _ => none }

def looked {α : Type} (store : RSContactStore) (result : Option (α × ContactDictionary)) :
    Option RSContactStore :=
  result.map fun (_, dic) => { store with dic }

/-- `none` is the application stopped by an exception. -/
def step : Option RSContactStore → ContactEvent → Option RSContactStore
  | none, _ => none
  | some store, .saveContactList ok contactList =>
      some { store with contacts := (saveContactList ok contactList store.contacts).2 }
  | some store, .getContactByUid uid => store.looked (getContactByUid uid store.contacts store.dic)
  | some store, .getNickNameByUid uid => store.looked (getNickNameByUid uid store.contacts store.dic)
  | some store, .getAvatarUrlByUid uid => store.looked (getAvatarUrlByUid uid store.contacts store.dic)

def held (uid : String) (contacts : ContactTable) : Option RSContactModel :=
  (contacts.find (some uid)).map RSContactModel.extract

def view (store : RSContactStore) : LookAside String RSContactModel where
  backing uid := held uid store.contacts
  cache := store.dic

@[simp] theorem view_backing (store : RSContactStore) (uid : String) :
    store.view.backing uid = held uid store.contacts := rfl

@[simp] theorem view_cache (store : RSContactStore) : store.view.cache = store.dic := rfl

end RSContactStore

end RealSocial
