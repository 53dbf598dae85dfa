import Mathlib.Data.Rat.Floor
import RealSocial.Library.Newest
import RealSocial.Protoc.Space

namespace RealSocial

open Library

structure RSSpaceModel where
  spaceId : String
  updateTime : UInt32
  isReaded : Bool
  spaceData : Option NSData
  deriving DecidableEq, Repr

abbrev SpaceTable := Table RSSpaceModel.spaceId

namespace WCDB

-- the block's writes are kept when it answers YES and rolled back otherwise
def runTransaction {α : Type} (block : α → Bool × α) (db : α) : Bool × α :=
  match block db with
  | (true, after) => (true, after)
  | (false, _) => (false, db)

/-- A descending `ORDER BY`: rows with equal columns come in any order. -/
structure OrderDescending {ρ : Type} (column : ρ → Int) where
  sort : List ρ → List ρ
  perm : ∀ rows, (sort rows).Perm rows
  sorted : ∀ rows, (sort rows).Pairwise fun a b => column b ≤ column a

def getObjectsOrderedLimit {ρ κ : Type} {key : ρ → κ} {column : ρ → Int} (condition : ρ → Bool)
    (order : OrderDescending column) (limit : Nat) (table : Table key) : List ρ :=
  (order.sort (table.rows.filter condition)).take limit

end WCDB

namespace RSSpaceModel

def extract (row : RSSpaceModel) : RSSpaceModel :=
  { row with spaceData := row.spaceData.bind WCDB.unarchive }

def updateTimeColumn (row : RSSpaceModel) : Int := WCDB.int32Column row.updateTime

def updateSeconds (model : RSSpaceModel) : Nat := model.updateTime.toNat

section Encoding

-- `[space data]`, the encoding of a message by the protobuf runtime
variable (data : RSSpace → NSData)

def initWithSpace (space : RSSpace) : RSSpaceModel where
  spaceId := toString space.spaceId.svrId
  updateTime := space.updateTime
  isReaded := false
  spaceData := some (data space)

end Encoding

-- `parseFromData:error:` of the protobuf runtime, for which nil is a message without fields
def toSpace (parseFromData : NSData → Option RSSpace) (model : RSSpaceModel) : RSSpace :=
  (parseFromData (model.spaceData.getD [])).getD {}

end RSSpaceModel

structure RSSpaceLineItemViewModel where
  space : RSSpace
  isReaded : Bool := false
  deriving DecidableEq, Repr

namespace RSSpaceLineItemViewModel

def updateWithSpaceModel (parseFromData : NSData → Option RSSpace) (spaceModel : RSSpaceModel) :
    RSSpaceLineItemViewModel where
  space := spaceModel.toSpace parseFromData
  isReaded := spaceModel.isReaded

/-- Nothing looks at the result of the update. -/
def saveReadedToDB (data : RSSpace → NSData) (ok : Bool) (table : SpaceTable)
    (item : RSSpaceLineItemViewModel) : RSSpaceLineItemViewModel × SpaceTable :=
  let item := { item with isReaded := true }
  let spaceModel := { RSSpaceModel.initWithSpace data item.space with isReaded := item.isReaded }
  let (_, table) := WCDB.updateRows ok (fun row => { row with isReaded := spaceModel.isReaded })
    (fun _ => rfl) (fun row => row.spaceId = spaceModel.spaceId) table
  (item, table)

end RSSpaceLineItemViewModel

namespace RSSpaceLineViewModel

section Encoding

variable (data : RSSpace → NSData)

def saveSpace (ok : Bool) (space : RSSpace) (table : SpaceTable) : SpaceTable :=
  let spaceModel := RSSpaceModel.initWithSpace data space
  let spaceModels := ((WCDB.getObjects (fun row => row.spaceId = spaceModel.spaceId) table).take 1).map
    RSSpaceModel.extract
  match spaceModels.head? with
  | some spaceModelDB =>
      if spaceModelDB.updateTime < spaceModel.updateTime then
        (WCDB.insertOrReplaceObject ok spaceModel table).2
      else table
  | none => (WCDB.insertOrReplaceObject ok spaceModel table).2

/-- The results of the inserts are not looked at: the block always answers YES. -/
def saveToDB (ok : Nat → Bool) (resp : RSGetAllSpaceResp) (table : SpaceTable) : Bool × SpaceTable :=
  WCDB.runTransaction (fun table =>
    (true, resp.listArray.zipIdx.foldl (fun table (space, i) => saveSpace data (ok i) space table) table))
    table

end Encoding

-- `NSInteger hour24 = now - 86400` cuts the fraction off, towards zero
def hour24 (now : ℚ) : Int :=
  if 0 ≤ now - 86400 then ⌊now - 86400⌋ else ⌈now - 86400⌉

def getSpacesFromDBIn24Hour (order : WCDB.OrderDescending RSSpaceModel.updateTimeColumn) (now : ℚ)
    (table : SpaceTable) : List RSSpaceModel :=
  (WCDB.getObjectsOrderedLimit (fun row => hour24 now < row.updateTimeColumn) order 50 table).map
    RSSpaceModel.extract

end RSSpaceLineViewModel

end RealSocial
