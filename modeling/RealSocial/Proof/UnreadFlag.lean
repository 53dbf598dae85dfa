import RealSocial.Library.LastWrite
import RealSocial.Proof.SpaceTimeline
import RealSocial.System.StoryLine

namespace RealSocial.Proof

open Library RSSpaceModel RSSpaceLineViewModel

/-! # The unread flag of a space -/

section Flag

variable (data : RSSpace → NSData) (parseFromData : NSData → Option RSSpace)

/-- The step changes the version that is stored of a space. -/
def Stores (line : StoryLine) (event : StoryLineEvent) (id : String) : Prop :=
  ((line.step data parseFromData event).table.find id).map updateTime ≠
    (line.table.find id).map updateTime

def openedId (line : StoryLine) (row : Nat) : Option String :=
  line.listData[row]?.map fun item => toString item.space.spaceId.svrId

/-- The user opened the space, with a result that counts, and no later step stored another version. -/
def OpenedSinceStored (counts : Bool → Prop) (start : StoryLine) (events : List StoryLineEvent)
    (id : String) : Prop :=
  ∃ before row ok after, events = before ++ .opened row ok :: after ∧ counts ok ∧
    openedId (run (StoryLine.step data parseFromData) start before) row = some id ∧
    EveryStep (StoryLine.step data parseFromData)
      (fun line event => ¬ Stores data parseFromData line event id)
      (run (StoryLine.step data parseFromData) start (before ++ [.opened row ok])) after

def FlagsAgree (counts : Bool → Prop) (events : List StoryLineEvent) : Prop :=
  ∀ row ∈ (run (StoryLine.step data parseFromData) { table := ∅ } events).table.rows,
    row.isReaded = true ↔ OpenedSinceStored data parseFromData counts { table := ∅ } events row.spaceId

end Flag

/-! ## Saving a response -/

def versionsOf (data : RSSpace → NSData) (resp : RSGetAllSpaceResp) (ok : Nat → Bool) : List RSSpaceModel :=
  (resp.listArray.zipIdx.filter fun (_, i) => ok i).map fun (space, _) => versionOf data space

theorem saveToDB_find (data : RSSpace → NSData) (ok : Nat → Bool) (resp : RSGetAllSpaceResp)
    (table : SpaceTable) (id : String) :
    (saveToDB data ok resp table).2.find id =
      newest spaceId updateSeconds id (table.find id) (versionsOf data resp ok) := by
  rw [← Table.find_insertAllIfNewer]
  congr 1
  change resp.listArray.zipIdx.foldl _ table = _
  unfold versionsOf
  induction resp.listArray.zipIdx generalizing table with
  | nil => rfl
  | cons entry entries ih =>
      obtain ⟨space, i⟩ := entry
      rw [List.foldl_cons]
      change entries.foldl _ (saveSpace data (ok i) space table) = _
      cases done : ok i with
      | true =>
          rw [List.filter_cons_of_pos (by simpa using done), List.map_cons, List.foldl_cons, ← ih, saveSpace_eq]
      | false => rw [List.filter_cons_of_neg (by simpa using done), ← ih, saveSpace_unwritten]

theorem mem_versionsOf {data : RSSpace → NSData} {resp : RSGetAllSpaceResp} {ok : Nat → Bool}
    {version : RSSpaceModel} :
    version ∈ versionsOf data resp ok ↔
      ∃ space i, resp.listArray[i]? = some space ∧ ok i = true ∧ versionOf data space = version := by
  simp [versionsOf, List.mem_zipIdx_iff_getElem?, and_assoc]

/-- What a response leaves of a row: the row itself, or a newer version that is unread. -/
theorem saveToDB_cases (data : RSSpace → NSData) (ok : Nat → Bool) (resp : RSGetAllSpaceResp)
    (table : SpaceTable) (id : String) :
    (saveToDB data ok resp table).2.find id = table.find id ∨
    ∃ version, (saveToDB data ok resp table).2.find id = some version ∧ version.isReaded = false ∧
      ∀ old, table.find id = some old → old.updateTime < version.updateTime := by
  rw [saveToDB_find]
  cases found : newest spaceId updateSeconds id (table.find id) (versionsOf data resp ok) with
  | none =>
      exact Or.inl (newest_eq_none found).symm
  | some version =>
      rcases newest_cases found with ⟨here, -⟩ | ⟨before, after, split, -, newer, -, -⟩
      · exact Or.inl here.symm
      · have member : version ∈ versionsOf data resp ok := by simp [split]
        obtain ⟨space, -, -, -, rfl⟩ := mem_versionsOf.mp member
        exact Or.inr ⟨_, rfl, rfl, fun old isOld => UInt32.lt_iff_toNat_lt.mpr (newer old isOld)⟩

/-! ## Steps -/

section Steps

variable {data : RSSpace → NSData} {parseFromData : NSData → Option RSSpace}

instance (line : StoryLine) (event : StoryLineEvent) (id : String) :
    Decidable (Stores data parseFromData line event id) := inferInstanceAs (Decidable (_ ≠ _))

/-- The flag that a step gives to a space. -/
def flagWritten (data : RSSpace → NSData) (parseFromData : NSData → Option RSSpace) (id : String)
    (line : StoryLine) : StoryLineEvent → Option Bool
  | .saved resp ok => if Stores data parseFromData line (.saved resp ok) id then some false else none
  | .loaded _ _ => none
  | .opened row ok => if ok = true ∧ openedId line row = some id then some true else none

def FlagIs (id : String) (written : Option Bool) (line : StoryLine) : Prop :=
  ∀ row, line.table.find id = some row → (row.isReaded = true ↔ written = some true)

theorem opened_find (line : StoryLine) (row : Nat) (ok : Bool) (id : String) :
    (line.step data parseFromData (.opened row ok)).table.find id = (line.table.find id).map fun old =>
      if ok = true ∧ openedId line row = some id then { old with isReaded := true } else old := by
  cases shown : line.listData[row]? with
  | none => simp [StoryLine.step, openedId, shown]
  | some item =>
      have updated := WCDB.find_updateRows ok (fun old : RSSpaceModel => { old with isReaded := true })
        (fun _ => rfl) (fun old => old.spaceId = toString item.space.spaceId.svrId) line.table id
      simp only [StoryLine.step, openedId, shown]
      refine updated.trans (Option.map_congr ?_)
      intro old found
      have named : old.spaceId = id := Table.find_key found
      have turned : id = toString item.space.spaceId.svrId ↔
          toString item.space.spaceId.svrId = id := eq_comm
      simp only [named, turned, Bool.and_eq_true, decide_eq_true_eq, Option.map_some, Option.some.injEq]

theorem not_stores_opened (line : StoryLine) (row : Nat) (ok : Bool) (id : String) :
    ¬ Stores data parseFromData line (.opened row ok) id := by
  rw [Stores, not_not, opened_find, Option.map_map]
  apply Option.map_congr
  intro old _
  simp only [Function.comp_apply]
  split_ifs <;> rfl

theorem flagIs_step (id : String) (written : Option Bool) (line : StoryLine) (event : StoryLineEvent)
    (flag : FlagIs id written line) :
    FlagIs id ((flagWritten data parseFromData id line event).or written)
      (line.step data parseFromData event) := by
  cases event with
  | saved resp ok =>
      rcases saveToDB_cases data ok resp line.table id with same | ⟨version, stored, unread, newer⟩
      · have kept : ¬ Stores data parseFromData line (.saved resp ok) id := by
          rw [Stores, not_not]
          exact congrArg (Option.map updateTime) same
        rw [flagWritten, if_neg kept, Option.none_or]
        intro row found
        exact flag row (same.symm.trans found)
      · have changes : Stores data parseFromData line (.saved resp ok) id := by
          intro same
          rw [show ((line.step data parseFromData (.saved resp ok)).table.find id) = some version from stored]
            at same
          obtain ⟨old, isOld, equal⟩ := Option.map_eq_some_iff.mp same.symm
          exact absurd (newer old isOld) (equal ▸ UInt32.lt_irrefl _)
        rw [flagWritten, if_pos changes, Option.some_or]
        intro row found
        obtain rfl : version = row := Option.some.inj (stored.symm.trans found)
        simp [unread]
  | loaded order now => exact flag
  | opened row ok =>
      intro new found
      rw [opened_find, Option.map_eq_some_iff] at found
      obtain ⟨old, foundOld, rfl⟩ := found
      rw [flagWritten]
      split_ifs
      · simp
      · rw [Option.none_or]
        exact flag old foundOld

theorem lastFlag_of_not_stores {id : String} {line : StoryLine} {events : List StoryLineEvent}
    (kept : EveryStep (StoryLine.step data parseFromData)
      (fun line event => ¬ Stores data parseFromData line event id) line events) :
    lastWrite (StoryLine.step data parseFromData) (flagWritten data parseFromData id) line events ≠
      some false := by
  intro last
  obtain ⟨before, event, after, rfl, written, -⟩ := lastWrite_eq_some.mp last
  have here := (everyStep_append.mp kept).2.1
  cases event with
  | saved resp ok =>
      rw [flagWritten, if_neg here] at written
      cases written
  | loaded order now => cases written
  | opened row ok =>
      rw [flagWritten] at written
      split_ifs at written
      cases written

theorem openedSinceStored_iff (start : StoryLine) (events : List StoryLineEvent) (id : String) :
    OpenedSinceStored data parseFromData (fun ok => ok = true) start events id ↔
      lastWrite (StoryLine.step data parseFromData) (flagWritten data parseFromData id) start events =
        some true := by
  constructor
  · rintro ⟨before, row, ok, after, rfl, success, shown, kept⟩
    have here : flagWritten data parseFromData id (run (StoryLine.step data parseFromData) start before)
        (.opened row ok) = some true := if_pos ⟨success, shown⟩
    rw [run_append] at kept
    have later := lastFlag_of_not_stores kept
    rw [lastWrite_append, lastWrite, here]
    change lastWrite _ _ (StoryLine.step data parseFromData _ (.opened row ok)) after ≠ _ at later
    revert later
    rcases lastWrite _ _ (StoryLine.step data parseFromData _ (.opened row ok)) after with _ | _ | _ <;> simp
  · intro last
    obtain ⟨before, event, after, rfl, written, untouched⟩ := lastWrite_eq_some.mp last
    cases event with
    | saved resp ok =>
        rw [flagWritten] at written
        split_ifs at written
        cases written
    | loaded order now => cases written
    | opened row ok =>
        rw [flagWritten] at written
        split_ifs at written with success
        refine ⟨before, row, ok, after, rfl, success.1, success.2, ?_⟩
        rw [run_append]
        refine untouched.mono ?_
        intro line event unwritten
        cases event with
        | saved resp ok =>
            intro changes
            rw [flagWritten, if_pos changes] at unwritten
            cases unwritten
        | loaded order now => exact fun changes => changes rfl
        | opened row ok => exact not_stores_opened line row ok id

theorem flagsAgree (events : List StoryLineEvent) :
    FlagsAgree data parseFromData (fun ok => ok = true) events := by
  intro row member
  rw [openedSinceStored_iff]
  have fresh : FlagIs row.spaceId none ({ table := ∅ } : StoryLine) := by
    intro old found
    cases found
  have flag := lastWrite_run (@flagIs_step data parseFromData row.spaceId) fresh events
  rw [Option.or_none] at flag
  exact flag row (Table.mem_rows_iff.mp member)

theorem saved_keeps_row {line : StoryLine} {resp : RSGetAllSpaceResp} {row : RSSpaceModel}
    (member : row ∈ line.table.rows)
    (older : ∀ space ∈ resp.listArray, toString space.spaceId.svrId = row.spaceId →
      space.updateTime ≤ row.updateTime) (ok : Nat → Bool) :
    row ∈ (line.step data parseFromData (.saved resp ok)).table.rows := by
  rw [Table.mem_rows_iff] at member ⊢
  refine (saveToDB_find data ok resp line.table row.spaceId).trans ?_
  rw [member]
  apply newest_of_le
  intro version written named
  obtain ⟨space, i, received, -, rfl⟩ := mem_versionsOf.mp written
  exact UInt32.le_iff_toNat_le.mp (older space (List.mem_of_getElem? received) named)

theorem saved_marks_unread {line : StoryLine} {resp : RSGetAllSpaceResp} {row : RSSpaceModel}
    (member : row ∈ line.table.rows) {i : Nat} {space : RSSpace} (received : resp.listArray[i]? = some space)
    (named : toString space.spaceId.svrId = row.spaceId) (newer : row.updateTime < space.updateTime)
    {ok : Nat → Bool} (success : ok i = true) :
    ∃ stored ∈ (line.step data parseFromData (.saved resp ok)).table.rows,
      stored.spaceId = row.spaceId ∧ stored.isReaded = false ∧ space.updateTime ≤ stored.updateTime := by
  rw [Table.mem_rows_iff] at member
  have written : versionOf data space ∈ versionsOf data resp ok :=
    mem_versionsOf.mpr ⟨space, i, received, success, rfl⟩
  cases found : newest spaceId updateSeconds row.spaceId (line.table.find row.spaceId)
      (versionsOf data resp ok) with
  | none =>
      rw [newest_eq_none found] at member
      cases member
  | some stored =>
      have after := (saveToDB_find data ok resp line.table row.spaceId).trans found
      have here : stored.spaceId = row.spaceId := Table.find_key after
      have least : space.updateTime ≤ stored.updateTime :=
        UInt32.le_iff_toNat_le.mpr (le_newest found written named)
      refine ⟨stored, Table.mem_of_find after, here, ?_, least⟩
      rcases newest_cases found with ⟨old, -⟩ | ⟨before, later, split, -, -, -, -⟩
      · obtain rfl : row = stored := Option.some.inj (member.symm.trans old)
        exact absurd newer (UInt32.not_lt.mpr least)
      · have received : stored ∈ versionsOf data resp ok := by simp [split]
        obtain ⟨source, -, -, -, rfl⟩ := mem_versionsOf.mp received
        rfl

end Steps

/-! ## The rows that are listed -/

/-- The row was made from a space. -/
def MadeFrom (data : RSSpace → NSData) (row : RSSpaceModel) : Prop :=
  ∃ space : RSSpace, row.spaceId = toString space.spaceId.svrId ∧ row.spaceData = some (data space)

theorem madeFrom_step {data : RSSpace → NSData} {parseFromData : NSData → Option RSSpace} (line : StoryLine)
    (event : StoryLineEvent) (made : ∀ row ∈ line.table.rows, MadeFrom data row) :
    ∀ row ∈ (line.step data parseFromData event).table.rows, MadeFrom data row := by
  intro row member
  rw [Table.mem_rows_iff] at member
  cases event with
  | loaded order now => exact made row (Table.mem_of_find member)
  | saved resp ok =>
      rcases newest_mem ((saveToDB_find data ok resp line.table row.spaceId).symm.trans member) with
        old | ⟨received, -⟩
      · exact made row (Table.mem_of_find old)
      · obtain ⟨space, -, -, -, rfl⟩ := mem_versionsOf.mp received
        exact ⟨space, rfl, rfl⟩
  | opened i ok =>
      rw [opened_find] at member
      obtain ⟨old, found, same⟩ := Option.map_eq_some_iff.mp member
      obtain ⟨space, named, bytes⟩ := made old (Table.mem_of_find found)
      refine ⟨space, ?_, ?_⟩
      · rw [← named, ← same]
        split_ifs <;> rfl
      · rw [← bytes, ← same]
        split_ifs <;> rfl

theorem toSpace_of_madeFrom {data : RSSpace → NSData} {parseFromData : NSData → Option RSSpace}
    (undoes : ∀ space, parseFromData (data space) = some space) {row : RSSpaceModel} {space : RSSpace}
    (bytes : row.spaceData = some (data space)) : row.extract.toSpace parseFromData = space := by
  have read : row.extract.spaceData.getD [] = data space := by
    rw [extract, bytes, Option.bind_some, WCDB.unarchive]
    split_ifs with something
    · rfl
    · exact (List.length_eq_zero_iff.mp (Nat.eq_zero_of_not_pos something)).symm
  rw [toSpace, read, undoes]
  rfl

/-- Where parsing undoes the encoding, the items of a list that was just loaded have the ids of their rows. -/
theorem listData_named {data : RSSpace → NSData} {parseFromData : NSData → Option RSSpace}
    (undoes : ∀ space, parseFromData (data space) = some space) (events : List StoryLineEvent)
    (order : WCDB.OrderDescending RSSpaceModel.updateTimeColumn) (now : ℚ) :
    (run (StoryLine.step data parseFromData) { table := ∅ } (events ++ [.loaded order now])).listData.map
        (fun item => toString item.space.spaceId.svrId) =
      (getSpacesFromDBIn24Hour order now
        (run (StoryLine.step data parseFromData) { table := ∅ } events).table).map spaceId := by
  have made : ∀ row ∈ (run (StoryLine.step data parseFromData) { table := ∅ } events).table.rows,
      MadeFrom data row := by
    have preserved : ∀ (line : StoryLine) (event : StoryLineEvent),
        (∀ row ∈ line.table.rows, MadeFrom data row) →
          ∀ row ∈ (line.step data parseFromData event).table.rows, MadeFrom data row :=
      fun line event => madeFrom_step line event
    exact invariant_run preserved (fun row member => absurd member List.not_mem_nil) events
  rw [run_append]
  change (List.map _ _).map _ = _
  rw [List.map_map]
  apply List.map_congr_left
  intro row listed
  obtain ⟨source, inWindow, rfl⟩ := List.mem_map.mp listed
  have inRows := (mem_passing.mp (List.mem_of_mem_take inWindow)).1
  obtain ⟨space, named, bytes⟩ := made source inRows
  show toString (source.extract.toSpace parseFromData).spaceId.svrId = source.spaceId
  rw [toSpace_of_madeFrom undoes bytes, named]

/-- Openings whose update fails do not count. -/
theorem unread_flag (data : RSSpace → NSData) (parseFromData : NSData → Option RSSpace) :
    (∀ events, FlagsAgree data parseFromData (fun ok => ok = true) events) ∧
    ∀ (line : StoryLine) (resp : RSGetAllSpaceResp) (ok : Nat → Bool), ∀ row ∈ line.table.rows,
      ((∀ space ∈ resp.listArray, toString space.spaceId.svrId = row.spaceId →
          space.updateTime ≤ row.updateTime) →
        row ∈ (line.step data parseFromData (.saved resp ok)).table.rows) ∧
      ∀ i space, resp.listArray[i]? = some space → ok i = true →
        toString space.spaceId.svrId = row.spaceId → row.updateTime < space.updateTime →
          ∃ stored ∈ (line.step data parseFromData (.saved resp ok)).table.rows,
            stored.spaceId = row.spaceId ∧ stored.isReaded = false ∧ space.updateTime ≤ stored.updateTime :=
  ⟨flagsAgree, fun _ _ ok _ member => ⟨fun older => saved_keeps_row member older ok,
    fun _ _ received success named newer => saved_marks_unread member received named newer success⟩⟩

def trip : RSSpace where
  spaceId := { svrId := 7 }
  updateTime := 1520000000

def tripShown : List StoryLineEvent :=
  [.saved { listArray := [trip] } fun _ => true, .loaded stableOrder 1520000100]

def tripBytes : NSData := [10, 2, 8, 7, 32, 128, 184, 229, 212, 5]

def tripRow : RSSpaceModel where
  spaceId := "7"
  updateTime := 1520000000
  isReaded := false
  spaceData := some tripBytes

theorem trip_listed {table : SpaceTable} (rows : table.rows = [tripRow]) :
    getSpacesFromDBIn24Hour stableOrder 1520000100 table = [tripRow] := by
  have hour : hour24 1520000100 = 1519913700 := by
    rw [hour24, if_pos (by norm_num)]
    norm_num
  have passes : table.rows.filter (fun row => hour24 1520000100 < row.updateTimeColumn) = [tripRow] := by
    rw [rows, hour]
    rfl
  have sorted := List.perm_singleton.mp (stableOrder.perm [tripRow])
  rw [getSpacesFromDBIn24Hour, WCDB.getObjectsOrderedLimit, passes, sorted]
  rfl

-- the trip is opened from the list, and the update of its row fails
theorem opened_trip_stays_unread :
    ¬ FlagsAgree (fun _ => tripBytes) (fun _ => some trip) (fun _ => True)
      (tripShown ++ [.opened 0 false]) := by
  intro agree
  let reached := run (StoryLine.step (fun _ => tripBytes) fun _ => some trip) { table := ∅ } tripShown
  have rows : reached.table.rows = [tripRow] := by decide
  have listed : reached.listData = [{ space := trip }] :=
    congrArg (List.map (RSSpaceLineItemViewModel.updateWithSpaceModel fun _ => some trip)) (trip_listed rows)
  have found : reached.table.find tripRow.spaceId = some tripRow :=
    Table.find_of_mem (by rw [rows]; exact List.mem_singleton.mpr rfl)
  have kept := @opened_find (fun _ => tripBytes) (fun _ => some trip) reached 0 false tripRow.spaceId
  rw [found] at kept
  have opened : OpenedSinceStored (fun _ => tripBytes) (fun _ => some trip) (fun _ => True) { table := ∅ }
      (tripShown ++ [.opened 0 false]) tripRow.spaceId := by
    refine ⟨tripShown, 0, false, [], rfl, trivial, ?_, trivial⟩
    change reached.listData[0]?.map _ = _
    rw [listed]
    decide
  have read := (agree tripRow (by rw [run_append]; exact Table.mem_of_find kept)).mpr opened
  exact Bool.false_ne_true read

end RealSocial.Proof
