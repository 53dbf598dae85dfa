import RealSocial.Services.MediaService

namespace RealSocial

namespace WCDB

-- NULL is less than all else
def nullableLe : Option Int → Option Int → Bool
  | none, _ => true
  | some _, none => false
  | some a, some b => a ≤ b

theorem nullableLe_trans {a b c : Option Int} (first : nullableLe a b = true) (second : nullableLe b c = true) :
    nullableLe a c = true := by
  cases a with
  | none => rfl
  | some a =>
      cases b with
      | none => cases first
      | some b =>
          cases c with
          | none => cases second
          | some c =>
              simp only [nullableLe, decide_eq_true_eq] at first second ⊢
              exact Int.le_trans first second

theorem nullableLe_total (a b : Option Int) : nullableLe a b = true ∨ nullableLe b a = true := by
  cases a with
  | none => exact .inl rfl
  | some a =>
      cases b with
      | none => exact .inr rfl
      | some b =>
          simp only [nullableLe, decide_eq_true_eq]
          exact Int.le_total a b

/-- A descending `ORDER BY` on a column that may be NULL: rows with equal columns come in any order. -/
structure NullableOrderDescending {ρ : Type} (column : ρ → Option Int) where
  sort : List ρ → List ρ
  perm : ∀ rows, (sort rows).Perm rows
  sorted : ∀ rows, (sort rows).Pairwise fun a b => nullableLe (column b) (column a) = true

/-- The order that keeps rows with equal columns as they were inserted. -/
def NullableOrderDescending.stable {ρ : Type} (column : ρ → Option Int) : NullableOrderDescending column where
  sort rows := rows.mergeSort fun a b => nullableLe (column b) (column a)
  perm rows := List.mergeSort_perm rows _
  sorted rows := by
    apply List.pairwise_mergeSort
    · intro a b c first second
      exact nullableLe_trans second first
    · intro a b
      rw [Bool.or_eq_true]
      exact nullableLe_total (column b) (column a)

end WCDB

/-- A picture model as it is read from its row. -/
structure ReadPictureModel where
  pictureId : Option String
  info : Option String
  status : RSPictureStatus
  createTime : Option Int
  deriving DecidableEq, Repr

def RSPictureModel.extract (row : RSPictureModel) : ReadPictureModel where
  pictureId := WCDB.unarchiveString row.pictureId
  info := row.info.bind WCDB.unarchiveString
  status := row.status
  createTime := row.createTime

structure RSPictureListItemViewModel (MGFaceInfo : Type) where
  pictureModel : ReadPictureModel
  faceInfos : Option (List MGFaceInfo)
  deriving DecidableEq, Repr

/-- `yy_modelArrayWithClass:json:` reads the faces, and nil of no text. -/
def RSPictureListViewModel.loadData {MGFaceInfo : Type} (json : Option String → Option (List MGFaceInfo))
    (order : WCDB.NullableOrderDescending RSPictureModel.createTime) (store : PictureStore) :
    List (RSPictureListItemViewModel MGFaceInfo) :=
  ((order.sort store.rows).take 10).map fun row =>
    { pictureModel := row.extract, faceInfos := json row.extract.info }

end RealSocial
