import RealSocial.Proof.SpaceTimeline

namespace RealSocial.Proof

open Library RSSpaceModel RSSpaceLineViewModel

/-! # Merging a response into the table of the spaces -/

section Statement

variable (data : RSSpace → NSData)

def mergeSpaces (resp : RSGetAllSpaceResp) (table : SpaceTable) : SpaceTable :=
  (saveToDB data (fun _ => true) resp table).2

def incoming (resp : RSGetAllSpaceResp) : List RSSpaceModel := resp.listArray.map (versionOf data)

def OneVersionEach (versions : List RSSpaceModel) : Prop :=
  ∀ v ∈ versions, ∀ w ∈ versions, v.spaceId = w.spaceId → v.updateTime = w.updateTime → v = w

/-- The loop calls `insertOrReplaceObject:` for the space. -/
def insertCalled (space : RSSpace) (table : SpaceTable) : Bool :=
  match table.find (versionOf data space).spaceId with
  | some spaceModelDB => spaceModelDB.updateTime < space.updateTime
  | none => true

def insertResults (ok : Nat → Bool) : SpaceTable → List (RSSpace × Nat) → List Bool
  | _, [] => []
  | table, (space, i) :: rest =>
      let results := insertResults ok (saveSpace data (ok i) space table) rest
      if insertCalled data space table then ok i :: results else results

def SavedAtomically (ok : Nat → Bool) (resp : RSGetAllSpaceResp) (table : SpaceTable) : Prop :=
  ((saveToDB data ok resp table).1 = true ↔
    ∀ result ∈ insertResults data ok table resp.listArray.zipIdx, result = true) ∧
  ((saveToDB data ok resp table).1 = false → (saveToDB data ok resp table).2 = table)

/-- A version that is as new as the space's, in the table or earlier in the list. -/
def OldAt (table : SpaceTable) (before : List RSSpace) (space : RSSpace) : Prop :=
  table.Holds updateSeconds (versionOf data space) ∨
  ∃ earlier ∈ before, earlier.spaceId.svrId = space.spaceId.svrId ∧ space.updateTime ≤ earlier.updateTime

/-- Where an insert would fail, it has nothing newer to write. -/
def FailuresOld (ok : Nat → Bool) (resp : RSGetAllSpaceResp) (table : SpaceTable) : Prop :=
  ∀ i space, resp.listArray[i]? = some space → ok i = false →
    OldAt data table (resp.listArray.take i) space

end Statement

variable {data : RSSpace → NSData}

/-! ## The merge law -/

theorem spaceId_versionOf (space other : RSSpace) :
    (versionOf data space).spaceId = (versionOf data other).spaceId ↔
      space.spaceId.svrId = other.spaceId.svrId := by
  change Nat.repr space.spaceId.svrId.toNat = Nat.repr other.spaceId.svrId.toNat ↔ _
  constructor
  · intro same
    have digits := congrArg (fun text : String => Nat.ofDigitChars 10 text.toList 0) same
    simp only [Nat.toList_repr, Nat.ofDigitChars_ten_toDigits] at digits
    exact UInt64.toNat_inj.mp digits
  · intro same
    rw [same]

theorem mergeSpaces_find (resp : RSGetAllSpaceResp) (table : SpaceTable) (id : String) :
    (mergeSpaces data resp table).find id =
      newest spaceId updateSeconds id (table.find id) (incoming data resp) := by
  rw [mergeSpaces, saveToDB_eq]
  exact Table.find_insertAllIfNewer table (incoming data resp) id

theorem mergeSpaces_newest (resp : RSGetAllSpaceResp) (table : SpaceTable) (id : String)
    (row : RSSpaceModel) :
    (mergeSpaces data resp table).find id = some row ↔ row.spaceId = id ∧
      IsNewest spaceId updateSeconds ((table.find id).toList ++ incoming data resp) row := by
  rw [mergeSpaces_find, ← newest_eq_some_iff]
  cases found : table.find id with
  | none => rfl
  | some old =>
      rw [Option.toList_some, List.singleton_append, newest_cons_old (Table.find_key found)]

theorem mergeSpaces_absent (resp : RSGetAllSpaceResp) (table : SpaceTable) (id : String)
    (absent : ∀ version ∈ incoming data resp, version.spaceId ≠ id) :
    (mergeSpaces data resp table).find id = table.find id := by
  rw [mergeSpaces_find]
  exact newest_eq_of_absent absent

theorem mergeSpaces_mono (resp : RSGetAllSpaceResp) (table : SpaceTable) {id : String} {old : RSSpaceModel}
    (held : table.find id = some old) :
    ∃ row, (mergeSpaces data resp table).find id = some row ∧ old.updateTime ≤ row.updateTime := by
  cases found : (mergeSpaces data resp table).find id with
  | none =>
      rw [mergeSpaces_find] at found
      rw [newest_eq_none found] at held
      cases held
  | some row =>
      refine ⟨row, rfl, ?_⟩
      rw [mergeSpaces_find, held] at found
      rw [UInt32.le_iff_toNat_le]
      rcases newest_cases found with ⟨here, -⟩ | ⟨before, after, -, -, newer, -, -⟩
      · rw [Option.some.inj here]
      · exact (newer old rfl).le

theorem mergeSpaces_idem (resp : RSGetAllSpaceResp) (table : SpaceTable) :
    mergeSpaces data resp (mergeSpaces data resp table) = mergeSpaces data resp table := by
  simp only [mergeSpaces, saveToDB_eq]
  exact Table.foldl_insertIfNewer_idem table _

theorem mergeSpaces_comm (resp other : RSGetAllSpaceResp) (table : SpaceTable)
    (each : OneVersionEach (incoming data resp ++ incoming data other)) (id : String) :
    (mergeSpaces data other (mergeSpaces data resp table)).find id =
      (mergeSpaces data resp (mergeSpaces data other table)).find id := by
  rw [mergeSpaces_find, mergeSpaces_find, mergeSpaces_find, mergeSpaces_find, ← newest_append, ← newest_append]
  apply newest_perm List.perm_append_comm
  intro v memV w memW sameId sameTime
  exact each v memV w memW sameId (UInt32.toNat_inj.mp sameTime)

theorem space_merge_law (data : RSSpace → NSData) (resp other : RSGetAllSpaceResp) (table : SpaceTable) :
    (∀ a b : RSSpace, (versionOf data a).spaceId = (versionOf data b).spaceId ↔
      a.spaceId.svrId = b.spaceId.svrId) ∧
    (∀ id row, (mergeSpaces data resp table).find id = some row ↔ row.spaceId = id ∧
      IsNewest spaceId updateSeconds ((table.find id).toList ++ incoming data resp) row) ∧
    (∀ id, (∀ version ∈ incoming data resp, version.spaceId ≠ id) →
      (mergeSpaces data resp table).find id = table.find id) ∧
    (∀ id old, table.find id = some old →
      ∃ row, (mergeSpaces data resp table).find id = some row ∧ old.updateTime ≤ row.updateTime) ∧
    mergeSpaces data resp (mergeSpaces data resp table) = mergeSpaces data resp table ∧
    (OneVersionEach (incoming data resp ++ incoming data other) →
      ∀ id, (mergeSpaces data other (mergeSpaces data resp table)).find id =
        (mergeSpaces data resp (mergeSpaces data other table)).find id) :=
  ⟨spaceId_versionOf, mergeSpaces_newest resp table, mergeSpaces_absent resp table,
    fun _ _ => mergeSpaces_mono resp table, mergeSpaces_idem resp table, mergeSpaces_comm resp other table⟩

def spaceSeven (updateTime : UInt32) (name : String) : RSSpace := { spaceId := { svrId := 7 }, updateTime, name }

def nameBytes (space : RSSpace) : NSData := space.name.toList.map Char.toUInt8

/-- Space 7 is in the table, and a response brings it three times, twice with one time. -/
theorem space_merge_law_ties :
    (mergeSpaces nameBytes { listArray := [spaceSeven 5 "b", spaceSeven 9 "c", spaceSeven 9 "d"] }
      (mergeSpaces nameBytes { listArray := [spaceSeven 6 "a"] } ∅)).find "7" =
        some { spaceId := "7", updateTime := 9, isReaded := false, spaceData := some [99] } := by
  apply ((space_merge_law nameBytes _ {} _).2.1 "7" _).mpr
  refine ⟨rfl, [versionOf nameBytes (spaceSeven 6 "a"), versionOf nameBytes (spaceSeven 5 "b")],
    [versionOf nameBytes (spaceSeven 9 "d")], by decide, by decide, by decide⟩

/-! ## Failing inserts -/

theorem insertCalled_iff (space : RSSpace) (table : SpaceTable) :
    insertCalled data space table = true ↔ ¬ table.Holds updateSeconds (versionOf data space) := by
  unfold insertCalled Table.Holds
  cases table.find (versionOf data space).spaceId with
  | none => simp
  | some old =>
      simp only [decide_eq_true_eq, Option.some.injEq, exists_eq_left', not_le]
      exact UInt32.lt_iff_toNat_lt

theorem saveSpace_of_not_called {space : RSSpace} {table : SpaceTable} (ok : Bool)
    (idle : insertCalled data space table = false) :
    saveSpace data ok space table = table.insertIfNewer updateSeconds (versionOf data space) := by
  have holds : table.Holds updateSeconds (versionOf data space) := by
    rw [← not_not (a := table.Holds updateSeconds _), ← insertCalled_iff, idle]
    exact Bool.false_ne_true
  cases ok with
  | true => exact saveSpace_eq data space table
  | false => rw [saveSpace_unwritten, Table.insertIfNewer_of_holds holds]

theorem oldAt_cons {table : SpaceTable} {first : RSSpace} {before : List RSSpace} {space : RSSpace} :
    OldAt data table (first :: before) space ↔
      OldAt data (table.insertIfNewer updateSeconds (versionOf data first)) before space := by
  have here : first.spaceId.svrId = space.spaceId.svrId ∧ space.updateTime ≤ first.updateTime ↔
      (versionOf data first).spaceId = (versionOf data space).spaceId ∧
        (versionOf data space).updateSeconds ≤ (versionOf data first).updateSeconds := by
    rw [spaceId_versionOf]
    exact and_congr_right fun _ => UInt32.le_iff_toNat_le
  unfold OldAt
  rw [Table.holds_insertIfNewer, List.exists_mem_cons_iff, here, or_assoc]

theorem oldAt_nil {table : SpaceTable} {space : RSSpace} :
    OldAt data table [] space ↔ insertCalled data space table = false := by
  rw [← Bool.not_eq_true, insertCalled_iff, not_not]
  simp [OldAt]

theorem failuresOld_cons (ok : Nat → Bool) (table : SpaceTable) (first : RSSpace) (spaces : List RSSpace)
    (n : Nat) :
    (∀ i space, (first :: spaces)[i]? = some space → ok (n + i) = false →
      OldAt data table ((first :: spaces).take i) space) ↔
    (ok n = false → insertCalled data first table = false) ∧
      ∀ i space, spaces[i]? = some space → ok (n + 1 + i) = false →
        OldAt data (table.insertIfNewer updateSeconds (versionOf data first)) (spaces.take i) space := by
  constructor
  · intro old
    constructor
    · intro failed
      exact oldAt_nil.mp (old 0 first rfl failed)
    · intro i space found failed
      rw [← oldAt_cons]
      exact old (i + 1) space found (by rw [← failed]; congr 1; omega)
  · intro ⟨head, tail⟩ i space found failed
    cases i with
    | zero =>
        cases found
        exact oldAt_nil.mpr (head failed)
    | succ i =>
        rw [List.take_succ_cons, oldAt_cons]
        exact tail i space found (by rw [← failed]; congr 1; omega)

theorem insertResults_done (ok : Nat → Bool) (table : SpaceTable) (spaces : List RSSpace) (n : Nat) :
    (∀ result ∈ insertResults data ok table (spaces.zipIdx n), result = true) ↔
      ∀ i space, spaces[i]? = some space → ok (n + i) = false → OldAt data table (spaces.take i) space := by
  induction spaces generalizing table n with
  | nil => simp [insertResults]
  | cons first spaces ih =>
      rw [List.zipIdx_cons, insertResults, failuresOld_cons]
      cases called : insertCalled data first table with
      | true =>
          simp only [if_true, List.forall_mem_cons]
          cases written : ok n with
          | true =>
              rw [saveSpace_eq, ih]
              simp
          | false => simp
      | false =>
          simp only [Bool.false_eq_true, if_false]
          rw [saveSpace_of_not_called (ok n) called, ih]
          simp

theorem saveToDB_atomic_iff (data : RSSpace → NSData) (ok : Nat → Bool) (resp : RSGetAllSpaceResp)
    (table : SpaceTable) : SavedAtomically data ok resp table ↔ FailuresOld data ok resp table := by
  have saved : (saveToDB data ok resp table).1 = true := rfl
  have done := @insertResults_done data ok table resp.listArray 0
  simp only [Nat.zero_add] at done
  unfold SavedAtomically
  rw [saved, done]
  simp [FailuresOld]

/-- The space is new and its insert fails: nothing is written and the block answers YES. -/
theorem saveToDB_not_atomic :
    ¬ SavedAtomically (fun _ => []) (fun _ => false) { listArray := [{}] } ∅ := by
  unfold SavedAtomically
  intro atomic
  have done := atomic.1.mp rfl false
  simp [insertResults, insertCalled] at done

end RealSocial.Proof
