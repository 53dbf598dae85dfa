import RealSocial.Library.SharedStore
import RealSocial.Services.KeyValueService

namespace RealSocial

open Library

/-! # The key-value service over a run -/

inductive KeyValueScope where
  | account (uid : String)
  | global
  deriving DecidableEq, Repr

structure KeyValueName where
  scope : KeyValueScope
  key : String
  deriving DecidableEq, Repr

def KeyValueName.realKey : KeyValueName → String
  | ⟨.account uid, key⟩ => RSKeyValueService.realKey uid key
  | ⟨.global, key⟩ => RSKeyValueService.realGlobalKey key

/-- The text of its row. -/
def KeyValueName.rowKey (name : KeyValueName) : String := WCDB.cString name.realKey

/-- `saves` are the saves that succeeded, with the newest first. -/
structure KeyValueRuns where
  uid : String
  table : KeyValueTable := ∅
  saves : List (KeyValueName × NSData) := []

/-- The flag `ok` of a save is the result of its database write. -/
inductive KeyValueEvent where
  | login (uid : String)
  | saveData (ok : Bool) (data : NSData) (key : String)
  | saveGlobalData (ok : Bool) (data : NSData) (key : String)
  | dataWithKey (key : String)
  | globalDataWithKey (key : String)
  deriving DecidableEq, Repr

namespace KeyValueRuns

open RSKeyValueService

def recorded (ok : Bool) (name : KeyValueName) (data : NSData) (saves : List (KeyValueName × NSData)) :
    List (KeyValueName × NSData) :=
  if ok then (name, data) :: saves else saves

def step (run : KeyValueRuns) : KeyValueEvent → KeyValueRuns
  | .login uid => { run with uid }
  | .saveData ok data key =>
      { run with
        table := (saveData ok run.uid data key run.table).2
        saves := recorded ok ⟨.account run.uid, key⟩ data run.saves }
  | .saveGlobalData ok data key =>
      { run with
        table := (saveGlobalData ok data key run.table).2
        saves := recorded ok ⟨.global, key⟩ data run.saves }
  | .dataWithKey _ => run
  | .globalDataWithKey _ => run

end KeyValueRuns

end RealSocial
