import RealSocial.Features.ImageUpload
import RealSocial.Library.Run

namespace RealSocial.Proof

open Library RSMediaService SavePictureCall

/-! # The files and the rows of the pictures -/

def rowsWithId (pictureId : String) (store : PictureStore) : List RSPictureModel :=
  store.rows.filter fun row => row.pictureId = pictureId

/-- A YES has stored the picture with one row, and a NO has changed nothing. -/
def CallConsistent (store : PictureStore) (save : SavePictureCall) : Prop :=
  ((save.call store).1 = true →
    (save.call store).2.files (localPicturePathWithPictureId save.pictureId) = some save.fileData ∧
      (rowsWithId save.pictureId (save.call store).2).length = 1) ∧
  ((save.call store).1 = false →
    (save.call store).2.files = store.files ∧ (save.call store).2.rows = store.rows)

def RowsHaveFiles (store : PictureStore) : Prop :=
  ∀ row ∈ store.rows, store.files (localPicturePathWithPictureId row.pictureId) ≠ none

/-- A picture whose file is written was not saved before. -/
def SavesNew (store : PictureStore) (save : SavePictureCall) : Prop :=
  save.writesFile = true → ∀ row ∈ store.rows, row.pictureId ≠ save.pictureId

/-! ## What a call does -/

inductive Saved (store : PictureStore) (fileData : NSData) (pictureId : String) :
    Bool → Bool × PictureStore → Prop where
  | refused : Saved store fileData pictureId false (false, store)
  | stored (row : RSPictureModel) (named : row.pictureId = pictureId) :
      Saved store fileData pictureId true (true, { store with
        files := Function.update store.files (localPicturePathWithPictureId pictureId) (some fileData)
        rows := store.rows ++ [row] })
  | rolledBack :
      Saved store fileData pictureId true (false, { store with
        files := Function.update store.files (localPicturePathWithPictureId pictureId) none })

theorem saved_removed (store : PictureStore) (fileData : NSData) (pictureId : String) :
    Saved store fileData pictureId true (false, { store with
      files := Function.update
        (Function.update store.files (localPicturePathWithPictureId pictureId) (some fileData))
        (localPicturePathWithPictureId pictureId) none }) := by
  rw [Function.update_idem]
  exact .rolledBack

theorem saved_call (store : PictureStore) (save : SavePictureCall) :
    Saved store save.fileData save.pictureId save.writesFile (save.call store) := by
  cases save with
  | mediaService directory written inserted fileData pictureId =>
      cases directory with
      | false => exact .refused
      | true =>
          cases written with
          | false => exact .refused
          | true =>
              cases inserted with
              | true => exact .stored { pictureId } rfl
              | false => exact saved_removed store fileData pictureId
  | imageUpload directory written inserted faceInfos fileData pictureId =>
      cases directory with
      | false => exact .refused
      | true =>
          cases written with
          | false => exact .refused
          | true =>
              cases inserted with
              | true => exact .stored { pictureId, info := faceInfos } rfl
              | false => exact saved_removed store fileData pictureId

theorem localPicturePath_inj {pictureId pictureId' : String}
    (same : localPicturePathWithPictureId pictureId = localPicturePathWithPictureId pictureId') :
    pictureId = pictureId' := by
  have texts := congrArg String.toList same
  simp only [localPicturePathWithPictureId, String.toList_append, List.append_assoc, List.append_cancel_left_eq,
    List.append_cancel_right_eq] at texts
  exact String.toList_inj.mp texts

/-! ## Runs -/

structure PicturesInOrder (store : PictureStore) : Prop where
  rowsHaveFiles : RowsHaveFiles store
  filesHaveRows : ∀ pictureId, store.files (localPicturePathWithPictureId pictureId) ≠ none →
    ∃ row ∈ store.rows, row.pictureId = pictureId

theorem rowsWithId_eq_nil {store : PictureStore} {pictureId : String}
    (unsaved : ∀ row ∈ store.rows, row.pictureId ≠ pictureId) : rowsWithId pictureId store = [] := by
  rw [rowsWithId, List.filter_eq_nil_iff]
  intro row member
  simpa using unsaved row member

theorem PicturesInOrder.no_file {store : PictureStore} (good : PicturesInOrder store) {pictureId : String}
    (unsaved : ∀ row ∈ store.rows, row.pictureId ≠ pictureId) :
    store.files (localPicturePathWithPictureId pictureId) = none := by
  by_contra file
  obtain ⟨row, member, named⟩ := good.filesHaveRows pictureId file
  exact unsaved row member named

theorem PicturesInOrder.files_restored {store : PictureStore} (good : PicturesInOrder store)
    {pictureId : String} (unsaved : ∀ row ∈ store.rows, row.pictureId ≠ pictureId) :
    Function.update store.files (localPicturePathWithPictureId pictureId) none = store.files := by
  rw [Function.update_eq_self_iff]
  exact (good.no_file unsaved).symm

theorem callConsistent_iff {store : PictureStore} (good : PicturesInOrder store) (save : SavePictureCall) :
    CallConsistent store save ↔ SavesNew store save := by
  have saved := saved_call store save
  unfold CallConsistent SavesNew
  generalize save.call store = result at saved ⊢
  generalize save.writesFile = writes at saved ⊢
  cases saved with
  | refused => simp
  | stored row named =>
      have both : rowsWithId save.pictureId { store with rows := store.rows ++ [row] } =
          rowsWithId save.pictureId store ++ [row] := by
        rw [rowsWithId, List.filter_append, List.filter_singleton, named, decide_eq_true rfl]
        rfl
      constructor
      · rintro ⟨stored, -⟩ - other member same
        have one := (stored rfl).2
        change (rowsWithId save.pictureId { store with rows := store.rows ++ [row] }).length = 1 at one
        rw [both, List.length_append, List.length_singleton] at one
        have here : other ∈ rowsWithId save.pictureId store := List.mem_filter.mpr ⟨member, decide_eq_true same⟩
        have positive := List.length_pos_of_mem here
        omega
      · intro unsaved
        refine ⟨fun _ => ⟨Function.update_self .., ?_⟩, fun no => Bool.noConfusion no⟩
        change (rowsWithId save.pictureId { store with rows := store.rows ++ [row] }).length = 1
        rw [both, rowsWithId_eq_nil (unsaved rfl)]
        rfl
  | rolledBack =>
      constructor
      · rintro ⟨-, unchanged⟩ - row member same
        have files : Function.update store.files (localPicturePathWithPictureId save.pictureId) none =
            store.files := (unchanged rfl).1
        have lost := good.rowsHaveFiles row member
        rw [same, ← files, Function.update_self] at lost
        exact lost rfl
      · intro unsaved
        exact ⟨fun yes => Bool.noConfusion yes, fun _ => ⟨good.files_restored (unsaved rfl), rfl⟩⟩

theorem picturesInOrder_call {store : PictureStore} {save : SavePictureCall} (good : PicturesInOrder store)
    (new : SavesNew store save) : PicturesInOrder (save.call store).2 := by
  have saved := saved_call store save
  unfold SavesNew at new
  generalize save.call store = result at saved ⊢
  generalize save.writesFile = writes at saved new
  cases saved with
  | refused => exact good
  | stored row named =>
      constructor
      · intro other member
        rcases List.mem_append.mp member with old | added
        · have apart : localPicturePathWithPictureId other.pictureId ≠
              localPicturePathWithPictureId save.pictureId :=
            fun same => new rfl other old (localPicturePath_inj same)
          dsimp only
          rw [Function.update_of_ne apart]
          exact good.rowsHaveFiles other old
        · obtain rfl := List.mem_singleton.mp added
          dsimp only
          rw [named, Function.update_self]
          exact Option.some_ne_none save.fileData
      · intro pictureId file
        by_cases same : pictureId = save.pictureId
        · exact ⟨row, List.mem_append_right _ List.mem_cons_self, named.trans same.symm⟩
        · have apart : localPicturePathWithPictureId pictureId ≠
              localPicturePathWithPictureId save.pictureId := fun equal => same (localPicturePath_inj equal)
          dsimp only at file
          rw [Function.update_of_ne apart] at file
          obtain ⟨old, member, here⟩ := good.filesHaveRows pictureId file
          exact ⟨old, List.mem_append_left _ member, here⟩
  | rolledBack =>
      rw [good.files_restored (new rfl)]
      exact good

theorem picturesInOrder_init : PicturesInOrder {} where
  rowsHaveFiles := fun _ member => absurd member List.not_mem_nil
  filesHaveRows := fun _ file => absurd rfl file

def savePicture (store : PictureStore) (save : SavePictureCall) : PictureStore := (save.call store).2

theorem pictures_consistent_iff (saves : List SavePictureCall) :
    EveryStep savePicture CallConsistent {} saves ∧ EveryState savePicture RowsHaveFiles {} saves ↔
      EveryStep savePicture SavesNew {} saves := by
  have kept : ∀ (store : PictureStore) (save : SavePictureCall), PicturesInOrder store →
      SavesNew store save → PicturesInOrder (savePicture store save) :=
    fun store save good new => picturesInOrder_call good new
  have steps := everyStep_iff_of_good (fun _ save good => callConsistent_iff good save) kept
    picturesInOrder_init saves
  rw [steps, and_iff_left_iff_imp]
  intro new
  have states := everyState_of_steps kept picturesInOrder_init new
  exact states.mono fun store good => good.rowsHaveFiles

-- the same picture again, and the second insert fails
def savedAgain : List SavePictureCall :=
  [.mediaService true true true [1] "sea", .mediaService true true false [1] "sea"]

theorem saved_again_loses_file :
    (run savePicture {} savedAgain).files (localPicturePathWithPictureId "sea") = none ∧
    ¬ (EveryStep savePicture CallConsistent {} savedAgain ∧
      EveryState savePicture RowsHaveFiles {} savedAgain) := by
  have lost : (run savePicture {} savedAgain).files (localPicturePathWithPictureId "sea") = none := by
    decide
  refine ⟨lost, ?_⟩
  rintro ⟨-, states⟩
  exact states.last { pictureId := "sea" } (List.mem_singleton.mpr rfl) lost

end RealSocial.Proof
