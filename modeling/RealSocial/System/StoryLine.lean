import RealSocial.Features.SpaceLine

namespace RealSocial

/-! # The story line and its table -/

structure StoryLine where
  table : SpaceTable
  listData : List RSSpaceLineItemViewModel := []

/-- The flags `ok` are the results of the writes: of each insert of a response, and of the update when
the space in a row of the list is opened. -/
inductive StoryLineEvent where
  | saved (resp : RSGetAllSpaceResp) (ok : Nat → Bool)
  | loaded (order : WCDB.OrderDescending RSSpaceModel.updateTimeColumn) (now : ℚ)
  | opened (row : Nat) (ok : Bool)

namespace StoryLine

variable (data : RSSpace → NSData) (parseFromData : NSData → Option RSSpace)

def step (line : StoryLine) : StoryLineEvent → StoryLine
  | .saved resp ok => { line with table := (RSSpaceLineViewModel.saveToDB data ok resp line.table).2 }
  | .loaded order now =>
      let spaces := RSSpaceLineViewModel.getSpacesFromDBIn24Hour order now line.table
      { line with
        listData := spaces.map (RSSpaceLineItemViewModel.updateWithSpaceModel parseFromData) }
  | .opened row ok =>
      match line.listData[row]? with
      | none => line
      | some item =>
          let (item, table) := item.saveReadedToDB data ok line.table
          { table, listData := line.listData.set row item }

end StoryLine

end RealSocial
