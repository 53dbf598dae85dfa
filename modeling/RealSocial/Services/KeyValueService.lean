import RealSocial.Services.LoginService

namespace RealSocial

open Library

structure RSKeyValueModel where
  key : String
  data : NSData
  deriving DecidableEq, Repr

abbrev KeyValueTable := Table RSKeyValueModel.key

def kKeyValueSyncBuff : String := "kKeyValueSyncBuff"

namespace RSKeyValueService

def realKey (uid key : String) : String := key ++ "_" ++ uid

def realGlobalKey (key : String) : String := key ++ "_global"

def saveDataRealKey (ok : Bool) (data : NSData) (realKey : String) (table : KeyValueTable) :
    Bool × KeyValueTable :=
  WCDB.insertOrReplaceObject ok { key := WCDB.cString realKey, data } table

def saveData (ok : Bool) (uid : String) (data : NSData) (key : String) (table : KeyValueTable) :
    Bool × KeyValueTable :=
  saveDataRealKey ok data (realKey uid key) table

def saveGlobalData (ok : Bool) (data : NSData) (key : String) (table : KeyValueTable) :
    Bool × KeyValueTable :=
  saveDataRealKey ok data (realGlobalKey key) table

def dataWithRealKey (realKey : String) (table : KeyValueTable) : Option NSData :=
  (WCDB.getObjects (fun model => model.key = WCDB.cString realKey) table).head?.bind fun model =>
    WCDB.unarchive model.data

def dataWithKey (uid key : String) (table : KeyValueTable) : Option NSData :=
  dataWithRealKey (realKey uid key) table

def globalDataWithKey (key : String) (table : KeyValueTable) : Option NSData :=
  dataWithRealKey (realGlobalKey key) table

def stored (uid key : String) (table : KeyValueTable) : Option NSData :=
  (table.find (WCDB.cString (realKey uid key))).map RSKeyValueModel.data

theorem dataWithKey_eq (uid key : String) (table : KeyValueTable) :
    dataWithKey uid key table = (stored uid key table).bind WCDB.unarchive := by
  rw [dataWithKey, dataWithRealKey, WCDB.getObjects_key, stored, Option.bind_map]
  rfl

@[simp] theorem saveData_result (ok : Bool) (uid key : String) (data : NSData) (table : KeyValueTable) :
    (saveData ok uid data key table).1 = ok := by
  cases ok <;> rfl

@[simp] theorem saveData_failed (uid key : String) (data : NSData) (table : KeyValueTable) :
    (saveData false uid data key table).2 = table := rfl

@[simp] theorem stored_saveData_ok (uid key : String) (data : NSData) (table : KeyValueTable) :
    stored uid key (saveData true uid data key table).2 = some data := by
  simp [saveData, saveDataRealKey, WCDB.insertOrReplaceObject, stored, Table.find_insertOrReplace]

theorem find_saveData_ne {uid key text : String} (ok : Bool) (data : NSData) (table : KeyValueTable)
    (other : text ≠ WCDB.cString (realKey uid key)) :
    (saveData ok uid data key table).2.find text = table.find text := by
  cases ok with
  | true =>
      simp [saveData, saveDataRealKey, WCDB.insertOrReplaceObject, Table.find_insertOrReplace, other.symm]
  | false => rfl

end RSKeyValueService

end RealSocial
