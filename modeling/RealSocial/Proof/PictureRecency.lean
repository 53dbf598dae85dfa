import RealSocial.Features.PictureList
import RealSocial.Proof.PictureFiles

namespace RealSocial.Proof

open Library SavePictureCall

/-! # The latest pictures -/

section Statement

structure PictureHistory where
  saves : List SavePictureCall
  succeed : EveryStep savePicture (fun store save => (save.call store).1 = true) {} saves
  distinct : (saves.map pictureId).Nodup

variable {MGFaceInfo : Type} (json : Option String → Option (List MGFaceInfo))

def RecentFirst (order : WCDB.NullableOrderDescending RSPictureModel.createTime)
    (history : PictureHistory) : Prop :=
  (RSPictureListViewModel.loadData json order (run savePicture {} history.saves)).map
      (fun item => item.pictureModel.pictureId) =
    ((history.saves.map pictureId).reverse.take 10).map WCDB.unarchiveString

end Statement

/-! ## The rows of a history -/

theorem call_row {store : PictureStore} {save : SavePictureCall} (succeeds : (save.call store).1 = true) :
    ∃ row, (savePicture store save).rows = store.rows ++ [row] ∧ row.pictureId = save.pictureId ∧
      row.createTime = none := by
  unfold savePicture
  cases save with
  | mediaService directory written inserted fileData pictureId =>
      cases directory with
      | false => cases succeeds
      | true =>
          cases written with
          | false => cases succeeds
          | true =>
              cases inserted with
              | false => cases succeeds
              | true => exact ⟨_, rfl, rfl, rfl⟩
  | imageUpload directory written inserted faceInfos fileData pictureId =>
      cases directory with
      | false => cases succeeds
      | true =>
          cases written with
          | false => cases succeeds
          | true =>
              cases inserted with
              | false => cases succeeds
              | true => exact ⟨_, rfl, rfl, rfl⟩

theorem rows_of_saves {store : PictureStore} {saves : List SavePictureCall}
    (unset : ∀ row ∈ store.rows, row.createTime = none)
    (succeed : EveryStep savePicture (fun store save => (save.call store).1 = true) store saves) :
    (run savePicture store saves).rows.map (·.pictureId) =
        store.rows.map (·.pictureId) ++ saves.map pictureId ∧
      ∀ row ∈ (run savePicture store saves).rows, row.createTime = none := by
  induction saves generalizing store with
  | nil => exact ⟨by simp, unset⟩
  | cons save saves ih =>
      obtain ⟨row, rows, named, fresh⟩ := call_row succeed.1
      have unset' : ∀ row ∈ (savePicture store save).rows, row.createTime = none := by
        rw [rows, List.forall_mem_append, List.forall_mem_singleton]
        exact ⟨unset, fresh⟩
      obtain ⟨ids, times⟩ := ih unset' succeed.2
      refine ⟨?_, times⟩
      rw [run_cons, ids, rows, List.map_append, List.append_assoc, List.map_singleton, named]
      rfl

theorem history_rows (history : PictureHistory) :
    (run savePicture {} history.saves).rows.map (·.pictureId) = history.saves.map pictureId ∧
      ∀ row ∈ (run savePicture {} history.saves).rows, row.createTime = none :=
  rows_of_saves (fun _ member => absurd member List.not_mem_nil) history.succeed

/-! ## The order of the rows -/

theorem stable_sort {rows : List RSPictureModel} (unset : ∀ row ∈ rows, row.createTime = none) :
    (WCDB.NullableOrderDescending.stable RSPictureModel.createTime).sort rows = rows := by
  apply List.mergeSort_of_pairwise
  rw [List.pairwise_iff_forall_sublist]
  intro a b both
  have inRows := both.subset
  have first := unset a (inRows (by simp))
  have second := unset b (inRows (by simp))
  simp [first, second, WCDB.nullableLe]

theorem short_of_take_reverse {α : Type*} {xs : List α} {n : Nat} (distinct : xs.Nodup)
    (same : xs.take (n + 1) = xs.reverse.take (n + 1)) : xs.length ≤ 1 := by
  cases xs with
  | nil => simp
  | cons x rest =>
      have last : (x :: rest).getLast? = some x := by
        have heads := congrArg List.head? same
        rw [List.head?_take, List.head?_take, if_neg (Nat.succ_ne_zero n), if_neg (Nat.succ_ne_zero n),
          List.head?_reverse] at heads
        exact heads.symm
      cases rest with
      | nil => simp
      | cons y rest =>
          rw [List.getLast?_cons_cons] at last
          exact absurd (List.mem_of_getLast? last) (List.nodup_cons.mp distinct).1

theorem take_reverse_of_short {α : Type*} {xs : List α} (short : xs.length ≤ 1) : xs.reverse = xs := by
  cases xs with
  | nil => rfl
  | cons x rest =>
      cases rest with
      | nil => rfl
      | cons y rest => simp at short

section Recency

variable {MGFaceInfo : Type} (json : Option String → Option (List MGFaceInfo)) (history : PictureHistory)

-- no two ids are read back as the same
theorem recentFirst_iff (order : WCDB.NullableOrderDescending RSPictureModel.createTime) :
    RecentFirst json order history ↔
      ((order.sort (run savePicture {} history.saves).rows).map (·.pictureId)).take 10 =
        (history.saves.map pictureId).reverse.take 10 := by
  rw [← (List.map_injective_iff.mpr WCDB.unarchiveString_injective).eq_iff, ← List.map_take, List.map_map]
  rw [RecentFirst, RSPictureListViewModel.loadData, List.map_map]
  rfl

theorem recentFirst_stable :
    RecentFirst json (.stable RSPictureModel.createTime) history ↔ history.saves.length ≤ 1 := by
  obtain ⟨ids, unset⟩ := history_rows history
  rw [recentFirst_iff, stable_sort unset, ids]
  constructor
  · intro same
    have short := short_of_take_reverse history.distinct same
    rw [List.length_map] at short
    exact short
  · intro short
    rw [take_reverse_of_short (by rw [List.length_map]; exact short)]

theorem recentFirst_short (order : WCDB.NullableOrderDescending RSPictureModel.createTime)
    (short : history.saves.length ≤ 1) : RecentFirst json order history := by
  obtain ⟨ids, -⟩ := history_rows history
  have sorted := (order.perm (run savePicture {} history.saves).rows).map (·.pictureId)
  rw [ids] at sorted
  have same : (order.sort (run savePicture {} history.saves).rows).map (·.pictureId) =
      history.saves.map pictureId := by
    cases saves : history.saves.map pictureId with
    | nil =>
        rw [saves] at sorted
        exact sorted.eq_nil
    | cons name rest =>
        have only : rest = [] := by
          have length := congrArg List.length saves
          simp only [List.length_map, List.length_cons] at length
          exact List.length_eq_zero_iff.mp (by omega)
        rw [saves, only] at sorted
        rw [only]
        exact sorted.eq_singleton
  rw [recentFirst_iff, same, take_reverse_of_short (by rw [List.length_map]; exact short)]

/-- No save sets the time that the query orders by, so the list is right only where there is nothing to
order, whether the database keeps the rows as they were inserted or is free to order them. -/
theorem picture_recency_iff :
    ((∀ order, RecentFirst json order history) ↔ history.saves.length ≤ 1) ∧
      (RecentFirst json (.stable RSPictureModel.createTime) history ↔ history.saves.length ≤ 1) := by
  refine ⟨⟨?_, ?_⟩, recentFirst_stable json history⟩
  · intro every
    exact (recentFirst_stable json history).mp (every _)
  · intro short order
    exact recentFirst_short json history order short

end Recency

def twoSaves : PictureHistory where
  saves := [.mediaService true true true [1] "first", .imageUpload true true true none [2] "second"]
  succeed := ⟨rfl, rfl, trivial⟩
  distinct := by decide

/-- The picture that was saved first is listed first. -/
theorem oldest_picture_first :
    ¬ RecentFirst (fun _ => (none : Option (List Unit))) (.stable RSPictureModel.createTime)
      twoSaves := by
  rw [recentFirst_stable]
  decide

end RealSocial.Proof
