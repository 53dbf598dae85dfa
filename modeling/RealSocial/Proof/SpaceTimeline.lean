import Mathlib.Data.List.Perm.Subperm
import RealSocial.Features.SpaceLine

namespace RealSocial.Proof

open Library RSSpaceModel RSSpaceLineViewModel

/-! # The story line against the abstract timeline -/

/-- The row that a space of a response stands for. -/
def versionOf (data : RSSpace → NSData) (space : RSSpace) : RSSpaceModel where
  spaceId := toString space.spaceId.svrId
  updateTime := space.updateTime
  isReaded := false
  spaceData := some (data space)

theorem initWithSpace_eq (data : RSSpace → NSData) (space : RSSpace) :
    initWithSpace data space = versionOf data space := rfl

def receivedVersions (data : RSSpace → NSData) (responses : List RSGetAllSpaceResp) : List RSSpaceModel :=
  responses.flatMap fun resp => resp.listArray.map (versionOf data)

def saveAll (data : RSSpace → NSData) (responses : List RSGetAllSpaceResp) (table : SpaceTable) : SpaceTable :=
  responses.foldl (fun table resp => (saveToDB data (fun _ => true) resp table).2) table

section Timeline

variable (now : ℚ) (received : List RSSpaceModel)

def InWindow (version : RSSpaceModel) : Prop :=
  IsNewest spaceId updateSeconds received version ∧ now - 86400 < version.updateSeconds

/-- The newest version of each space of the last 24 hours, by non-increasing `updateTime`, and of
these the first 50. -/
def IsTimeline (shown : List RSSpaceModel) : Prop :=
  ∃ window : List RSSpaceModel, (window.map spaceId).Nodup ∧
    (∀ version, version ∈ window ↔ InWindow now received version) ∧
    window.Pairwise (fun a b => b.updateSeconds ≤ a.updateSeconds) ∧
    shown = (window.take 50).map extract

def SameHalf : Prop :=
  (∀ version, InWindow now received version → version.updateSeconds < 2 ^ 31) ∨
  (∀ version, InWindow now received version → 2 ^ 31 ≤ version.updateSeconds)

def PassesFilter (version : RSSpaceModel) : Prop := hour24 now < version.updateTimeColumn

def EnoughPass : Prop :=
  (∀ version, InWindow now received version → PassesFilter now version) ∨
  ∃ versions : List RSSpaceModel, 50 ≤ versions.length ∧ (versions.map spaceId).Nodup ∧
    ∀ version ∈ versions, IsNewest spaceId updateSeconds received version ∧ PassesFilter now version

end Timeline

/-! ## The table holds the newest versions -/

theorem saveSpace_eq (data : RSSpace → NSData) (space : RSSpace) (table : SpaceTable) :
    saveSpace data true space table = table.insertIfNewer updateSeconds (versionOf data space) := by
  rw [← initWithSpace_eq]
  have read : (((WCDB.getObjects (fun row => row.spaceId = (initWithSpace data space).spaceId) table).take
      1).map extract).head? = (table.find (initWithSpace data space).spaceId).map extract := by
    rw [List.head?_map, List.head?_take, if_neg (by decide), WCDB.getObjects_key]
  unfold saveSpace Table.insertIfNewer
  simp only [read]
  cases table.find (initWithSpace data space).spaceId with
  | none => rfl
  | some old =>
      have compared : old.extract.updateTime < (initWithSpace data space).updateTime ↔
          old.updateSeconds < (initWithSpace data space).updateSeconds := UInt32.lt_iff_toNat_lt
      by_cases later : old.updateSeconds < (initWithSpace data space).updateSeconds
      · simp [compared, later, WCDB.insertOrReplaceObject]
      · simp [compared, later]

theorem saveSpace_unwritten (data : RSSpace → NSData) (space : RSSpace) (table : SpaceTable) :
    saveSpace data false space table = table := by
  simp only [saveSpace, WCDB.insertOrReplaceObject_failed]
  split
  · split_ifs <;> rfl
  · rfl

theorem saveToDB_eq (data : RSSpace → NSData) (resp : RSGetAllSpaceResp) (table : SpaceTable) :
    (saveToDB data (fun _ => true) resp table).2 =
      (resp.listArray.map (versionOf data)).foldl (Table.insertIfNewer updateSeconds) table := by
  simp only [saveToDB, WCDB.runTransaction, saveSpace_eq, List.foldl_map]
  conv_rhs => rw [← List.zipIdx_map_fst 0 resp.listArray, List.foldl_map]

theorem saveAll_eq (data : RSSpace → NSData) (responses : List RSGetAllSpaceResp) (table : SpaceTable) :
    saveAll data responses table =
      (receivedVersions data responses).foldl (Table.insertIfNewer updateSeconds) table := by
  induction responses generalizing table with
  | nil => rfl
  | cons resp responses ih =>
      rw [receivedVersions, List.flatMap_cons, List.foldl_append, ← saveToDB_eq]
      exact ih _

theorem mem_saveAll {data : RSSpace → NSData} {responses : List RSGetAllSpaceResp} {row : RSSpaceModel} :
    row ∈ (saveAll data responses ∅).rows ↔
      IsNewest spaceId updateSeconds (receivedVersions data responses) row := by
  rw [Table.mem_rows_iff, saveAll_eq, Table.find_insertAllIfNewer, Table.find_empty,
    newest_eq_some_iff]
  exact and_iff_right rfl

/-! ## The signed column -/

theorem column_of_lt {version : RSSpaceModel} (small : version.updateSeconds < 2 ^ 31) :
    version.updateTimeColumn = version.updateSeconds := by
  unfold updateTimeColumn WCDB.int32Column updateSeconds at *
  change BitVec.toInt version.updateTime.toBitVec = _
  rw [BitVec.toInt_eq_toNat_cond, if_pos]
  · rfl
  · change 2 * version.updateTime.toNat < 2 ^ 32
    omega

theorem column_of_ge {version : RSSpaceModel} (big : 2 ^ 31 ≤ version.updateSeconds) :
    version.updateTimeColumn = version.updateSeconds - 2 ^ 32 := by
  unfold updateTimeColumn WCDB.int32Column updateSeconds at *
  change BitVec.toInt version.updateTime.toBitVec = _
  rw [BitVec.toInt_eq_toNat_cond, if_neg]
  · rfl
  · change ¬ 2 * version.updateTime.toNat < 2 ^ 32
    omega

theorem column_neg {version : RSSpaceModel} (big : 2 ^ 31 ≤ version.updateSeconds) :
    version.updateTimeColumn < 0 := by
  rw [column_of_ge big]
  have bound : version.updateSeconds < 2 ^ 32 := version.updateTime.toNat_lt
  omega

theorem passesFilter_recent {now : ℚ} {version : RSSpaceModel} (passes : PassesFilter now version) :
    now - 86400 < version.updateSeconds := by
  unfold PassesFilter hour24 at passes
  rcases Nat.lt_or_ge version.updateSeconds (2 ^ 31) with small | big
  · rw [column_of_lt small] at passes
    split_ifs at passes
    · exact_mod_cast Int.floor_lt.mp passes
    · exact lt_of_le_of_lt (Int.le_ceil _) (by exact_mod_cast passes)
  · have negative := column_neg big
    split_ifs at passes with positive
    · have floor := Int.floor_nonneg.mpr positive
      omega
    · have nonneg : (0 : ℚ) ≤ version.updateSeconds := Nat.cast_nonneg _
      exact lt_of_lt_of_le (not_le.mp positive) nonneg

theorem SameHalf.le {now : ℚ} {received : List RSSpaceModel} (sameHalf : SameHalf now received)
    {a b : RSSpaceModel} (inA : InWindow now received a) (inB : InWindow now received b)
    (le : b.updateTimeColumn ≤ a.updateTimeColumn) : b.updateSeconds ≤ a.updateSeconds := by
  rcases sameHalf with small | big
  · rw [column_of_lt (small a inA), column_of_lt (small b inB)] at le
    exact_mod_cast le
  · rw [column_of_ge (big a inA), column_of_ge (big b inB)] at le
    omega

/-! ## The query against the window -/

section Query

variable {order : WCDB.OrderDescending updateTimeColumn} {now : ℚ} {received : List RSSpaceModel}
  {table : SpaceTable}

def passing (order : WCDB.OrderDescending updateTimeColumn) (now : ℚ) (table : SpaceTable) :
    List RSSpaceModel :=
  order.sort (table.rows.filter fun row => hour24 now < row.updateTimeColumn)

def missing (order : WCDB.OrderDescending updateTimeColumn) (now : ℚ) (table : SpaceTable) :
    List RSSpaceModel :=
  order.sort (table.rows.filter fun row =>
    now - 86400 < row.updateSeconds ∧ ¬ hour24 now < row.updateTimeColumn)

theorem mem_passing {version : RSSpaceModel} :
    version ∈ passing order now table ↔ version ∈ table.rows ∧ PassesFilter now version := by
  rw [passing, (order.perm _).mem_iff, List.mem_filter, decide_eq_true_iff]
  rfl

theorem mem_missing {version : RSSpaceModel} : version ∈ missing order now table ↔
    version ∈ table.rows ∧ now - 86400 < version.updateSeconds ∧ ¬ PassesFilter now version := by
  rw [missing, (order.perm _).mem_iff, List.mem_filter, decide_eq_true_iff]
  rfl

theorem nodup_sort_filter (condition : RSSpaceModel → Bool) :
    (order.sort (table.rows.filter condition)).Nodup :=
  (order.perm _).nodup_iff.mpr ((List.Nodup.of_map _ table.unique).filter condition)

theorem nodup_window : ((passing order now table ++ missing order now table).map spaceId).Nodup := by
  have apart : (passing order now table ++ missing order now table).Nodup := by
    rw [List.nodup_append]
    refine ⟨nodup_sort_filter _, nodup_sort_filter _, ?_⟩
    rintro a inPassing b inMissing rfl
    exact (mem_missing.mp inMissing).2.2 (mem_passing.mp inPassing).2
  refine apart.map_on ?_
  intro a inA b inB same
  have inRows : ∀ version ∈ passing order now table ++ missing order now table, version ∈ table.rows := by
    intro version member
    rcases List.mem_append.mp member with inPassing | inMissing
    · exact (mem_passing.mp inPassing).1
    · exact (mem_missing.mp inMissing).1
  exact List.inj_on_of_nodup_map table.unique (inRows a inA) (inRows b inB) same

variable (held : ∀ row, row ∈ table.rows ↔ IsNewest spaceId updateSeconds received row)
include held

theorem mem_window {version : RSSpaceModel} :
    version ∈ passing order now table ++ missing order now table ↔ InWindow now received version := by
  rw [List.mem_append, mem_passing, mem_missing, held, InWindow]
  constructor
  · rintro (⟨isNewest, passes⟩ | ⟨isNewest, recent, -⟩)
    · exact ⟨isNewest, passesFilter_recent passes⟩
    · exact ⟨isNewest, recent⟩
  · rintro ⟨isNewest, recent⟩
    by_cases passes : PassesFilter now version
    · exact .inl ⟨isNewest, passes⟩
    · exact .inr ⟨isNewest, recent, passes⟩

theorem pairwise_window (sameHalf : SameHalf now received) :
    (passing order now table ++ missing order now table).Pairwise
      fun a b => b.updateSeconds ≤ a.updateSeconds := by
  have inWindow : ∀ version ∈ passing order now table ++ missing order now table,
      InWindow now received version := fun version member => (mem_window held).mp member
  refine List.Pairwise.imp_of_mem (fun {a b} inA inB le => sameHalf.le (inWindow a inA) (inWindow b inB) le) ?_
  rw [List.pairwise_append]
  refine ⟨order.sorted _, order.sorted _, ?_⟩
  intro a inPassing b inMissing
  have passes : hour24 now < a.updateTimeColumn := (mem_passing.mp inPassing).2
  have misses : ¬ hour24 now < b.updateTimeColumn := (mem_missing.mp inMissing).2.2
  omega

theorem isTimeline_of_enough (sameHalf : SameHalf now received) (enough : EnoughPass now received) :
    IsTimeline now received (getSpacesFromDBIn24Hour order now table) := by
  refine ⟨passing order now table ++ missing order now table, nodup_window, fun version => mem_window held,
    pairwise_window held sameHalf, ?_⟩
  have taken : (passing order now table).take 50 =
      (passing order now table ++ missing order now table).take 50 := by
    rcases enough with all | ⟨versions, many, distinct, pass⟩
    · have none_missing : missing order now table = [] := by
        rw [List.eq_nil_iff_forall_not_mem]
        intro version member
        obtain ⟨inRows, recent, misses⟩ := mem_missing.mp member
        exact misses (all version ⟨(held version).mp inRows, recent⟩)
      rw [none_missing, List.append_nil]
    · have covered : versions ⊆ passing order now table := by
        intro version member
        exact mem_passing.mpr ⟨(held version).mpr (pass version member).1, (pass version member).2⟩
      have length := (List.subperm_of_subset (List.Nodup.of_map _ distinct) covered).length_le
      rw [List.take_append_of_le_length (many.trans length)]
  exact congrArg (List.map extract) taken

theorem enough_of_isTimeline (timeline : IsTimeline now received (getSpacesFromDBIn24Hour order now table)) :
    EnoughPass now received := by
  obtain ⟨window, distinct, inWindow, -, shown⟩ := timeline
  have lengths : min 50 (passing order now table).length = min 50 window.length := by
    have same := congrArg List.length shown
    simpa [getSpacesFromDBIn24Hour, WCDB.getObjectsOrderedLimit, passing] using same
  have covered : passing order now table ⊆ window := by
    intro version member
    obtain ⟨inRows, passes⟩ := mem_passing.mp member
    exact (inWindow version).mpr ⟨(held version).mp inRows, passesFilter_recent passes⟩
  by_cases many : 50 ≤ (passing order now table).length
  · refine .inr ⟨passing order now table, many, ?_, ?_⟩
    · have nodup : ((passing order now table ++ missing order now table).map spaceId).Nodup := nodup_window
      rw [List.map_append, List.nodup_append] at nodup
      exact nodup.1
    · intro version member
      obtain ⟨inRows, passes⟩ := mem_passing.mp member
      exact ⟨(held version).mp inRows, passes⟩
  · refine .inl ?_
    intro version inside
    have bound : window.length ≤ (passing order now table).length := by omega
    have perm := (List.subperm_of_subset (nodup_sort_filter _) covered).perm_of_length_le bound
    exact (mem_passing.mp (perm.mem_iff.mpr ((inWindow version).mpr inside))).2

theorem sameHalf_of_isTimeline (timeline : IsTimeline now received (getSpacesFromDBIn24Hour order now table)) :
    SameHalf now received := by
  obtain ⟨window, -, inWindow, ordered, shown⟩ := timeline
  by_contra mixed
  simp only [SameHalf, not_or, not_forall, not_lt, not_le] at mixed
  obtain ⟨⟨big, inBig, isBig⟩, small, inSmall, isSmall⟩ := mixed
  cases window with
  | nil => simpa using (inWindow big).mpr inBig
  | cons first rest =>
      have firstBig : 2 ^ 31 ≤ first.updateSeconds := by
        rcases List.mem_cons.mp ((inWindow big).mpr inBig) with rfl | later
        · exact isBig
        · exact isBig.trans (List.rel_of_pairwise_cons ordered later)
      change ((passing order now table).take 50).map extract = _ at shown
      cases head : passing order now table with
      | nil => simp [head] at shown
      | cons top others =>
          rw [head] at shown
          simp only [List.take_succ_cons, List.map_cons, List.cons.injEq] at shown
          have sameSeconds : top.updateSeconds = first.updateSeconds := by
            have read := congrArg updateSeconds shown.1
            exact read
          have topBig : top.updateTimeColumn < 0 := column_neg (by omega)
          have topPasses : hour24 now < top.updateTimeColumn :=
            (mem_passing.mp (show top ∈ passing order now table by simp [head])).2
          have smallColumn := column_of_lt isSmall
          have smallPasses : small ∈ passing order now table := by
            refine mem_passing.mpr ⟨(held small).mpr inSmall.1, ?_⟩
            change hour24 now < small.updateTimeColumn
            omega
          have sorted : (passing order now table).Pairwise
              fun a b => b.updateTimeColumn ≤ a.updateTimeColumn := order.sorted _
          rw [head] at sorted smallPasses
          rcases List.mem_cons.mp smallPasses with rfl | later
          · omega
          · have below := List.rel_of_pairwise_cons sorted later
            omega

end Query

/-! ## What being the timeline means -/

section Meaning

variable {now : ℚ} {received shown : List RSSpaceModel}

theorem IsTimeline.no_duplicate (timeline : IsTimeline now received shown) : (shown.map spaceId).Nodup := by
  obtain ⟨window, distinct, -, -, rfl⟩ := timeline
  rw [List.map_map]
  have ids : (spaceId ∘ extract) = spaceId := rfl
  rw [ids]
  exact distinct.sublist ((List.take_sublist 50 window).map spaceId)

theorem IsTimeline.omits_only_older (timeline : IsTimeline now received shown) {version : RSSpaceModel}
    (inside : InWindow now received version) (omitted : version.extract ∉ shown) :
    shown.length = 50 ∧ ∀ other ∈ shown, version.updateSeconds ≤ other.updateSeconds := by
  obtain ⟨window, -, inWindow, ordered, rfl⟩ := timeline
  have member := (inWindow version).mpr inside
  rw [← List.take_append_drop 50 window, List.mem_append] at member
  rcases member with taken | dropped
  · exact absurd (List.mem_map_of_mem taken) omitted
  · have long : 50 < window.length := by
      by_contra short
      rw [List.drop_of_length_le (by omega)] at dropped
      contradiction
    refine ⟨by simp; omega, ?_⟩
    intro other isShown
    obtain ⟨source, taken, rfl⟩ := List.mem_map.mp isShown
    rw [← List.take_append_drop 50 window, List.pairwise_append] at ordered
    exact ordered.2.2 source taken version dropped

end Meaning

theorem timeline_iff (data : RSSpace → NSData) (order : WCDB.OrderDescending updateTimeColumn)
    (responses : List RSGetAllSpaceResp) (now : ℚ) :
    IsTimeline now (receivedVersions data responses)
        (getSpacesFromDBIn24Hour order now (saveAll data responses ∅)) ↔
      SameHalf now (receivedVersions data responses) ∧ EnoughPass now (receivedVersions data responses) := by
  have held : ∀ row, row ∈ (saveAll data responses ∅).rows ↔
      IsNewest spaceId updateSeconds (receivedVersions data responses) row := fun _ => mem_saveAll
  constructor
  · intro timeline
    exact ⟨sameHalf_of_isTimeline held timeline, enough_of_isTimeline held timeline⟩
  · rintro ⟨sameHalf, enough⟩
    exact isTimeline_of_enough held sameHalf enough

def stableOrder : WCDB.OrderDescending updateTimeColumn where
  sort rows := rows.mergeSort fun a b => b.updateTimeColumn ≤ a.updateTimeColumn
  perm rows := List.mergeSort_perm rows _
  sorted rows := by
    have sorted := @List.pairwise_mergeSort _ (fun a b => decide (b.updateTimeColumn ≤ a.updateTimeColumn))
      (by intro a b c; simp only [decide_eq_true_eq]; omega)
      (by intro a b; simp only [Bool.or_eq_true, decide_eq_true_eq]; omega) rows
    simpa using sorted

-- a space of the second in which `int32_t` overflows, looked at in that second
def spaceOf2038 : RSGetAllSpaceResp where
  listArray := [{ spaceId := { svrId := 1 }, updateTime := 2147483648 }]

theorem space_of_2038_is_hidden :
    ¬ IsTimeline 2147483648 (receivedVersions (fun _ => [1]) [spaceOf2038])
      (getSpacesFromDBIn24Hour stableOrder 2147483648 (saveAll (fun _ => [1]) [spaceOf2038] ∅)) := by
  rintro ⟨window, -, inWindow, -, shown⟩
  have hidden : passing stableOrder 2147483648 (saveAll (fun _ => [1]) [spaceOf2038] ∅) = [] := by
    rw [List.eq_nil_iff_forall_not_mem]
    intro version member
    obtain ⟨inRows, passes⟩ := mem_passing.mp member
    have only : version ∈ receivedVersions (fun _ => [1]) [spaceOf2038] := (mem_saveAll.mp inRows).mem
    have big : 2 ^ 31 ≤ version.updateSeconds := by
      rw [List.mem_singleton.mp only]
      decide
    have negative := column_neg big
    have later : 0 ≤ hour24 2147483648 := by
      rw [hour24, if_pos (by norm_num)]
      exact Int.floor_nonneg.mpr (by norm_num)
    unfold PassesFilter at passes
    omega
  have empty : window = [] := by
    change (List.take 50 (passing _ _ _)).map extract = _ at shown
    rw [hidden] at shown
    simpa using shown.symm
  have member : versionOf (fun _ => [1]) { spaceId := { svrId := 1 }, updateTime := 2147483648 } ∈ window := by
    rw [inWindow]
    refine ⟨⟨[], [], rfl, by simp, by simp⟩, ?_⟩
    change (2147483648 : ℚ) - 86400 < ((2147483648 : Nat) : ℚ)
    norm_num
  rw [empty] at member
  contradiction

end RealSocial.Proof
