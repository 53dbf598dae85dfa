import RealSocial.Library.Run
import RealSocial.Services.MediaService

namespace RealSocial.Proof

open Library Attempt PictureStore RSMediaService

/-! # The status of a picture against its own uploads -/

def uploadResult (isOK : Bool) : RSPictureStatus := if isOK then .uploadFinish else .uploadFail

def statusOfUpload : Option (Attempt String Bool) → RSPictureStatus
  | none => .init
  | some { outcome := none, .. } => .uploading
  | some { outcome := some isOK, .. } => uploadResult isOK

def ownStatus (pictureId : String) (store : PictureStore) : RSPictureStatus :=
  statusOfUpload (latest pictureId store.uploads)

def StatusesAgree (store : PictureStore) : Prop :=
  ∀ row ∈ store.rows, row.status = ownStatus row.pictureId store

/-- A picture is saved before its uploads; a status that is written to all rows is that of every other
picture too, and comes from the latest upload or is what that one says; a status that is not written
was there before. -/
def KeepsStatuses (store : PictureStore) : PictureEvent → Prop
  | .save _ pictureId directory written inserted =>
      directory && written && inserted → latest pictureId store.uploads = none
  | .upload pictureId true =>
      ∀ row ∈ store.rows, row.pictureId ≠ pictureId → ownStatus row.pictureId store = .uploading
  | .upload pictureId false =>
      ∀ row ∈ store.rows, row.pictureId = pictureId → ownStatus row.pictureId store = .uploading
  | .uploaded number isOK true =>
      ∀ pictureId, Pending number pictureId store.uploads → ∀ row ∈ store.rows,
        row.pictureId = pictureId ∧ ¬ Superseded number pictureId store.uploads ∨
          ownStatus row.pictureId store = uploadResult isOK
  | .uploaded number _ false =>
      ∀ pictureId, Pending number pictureId store.uploads → ∀ row ∈ store.rows,
        row.pictureId = pictureId → Superseded number pictureId store.uploads

/-! ## What a step leaves in the rows -/

theorem statusesAgree_written {store : PictureStore} {status : RSPictureStatus}
    {uploads : List (Attempt String Bool)} :
    StatusesAgree { store with rows := store.rows.map (fun row => { row with status }), uploads } ↔
      ∀ row ∈ store.rows, status = statusOfUpload (latest row.pictureId uploads) :=
  List.forall_mem_map

theorem statusesAgree_unwritten {store : PictureStore} (agree : StatusesAgree store)
    {uploads : List (Attempt String Bool)} :
    StatusesAgree { store with uploads } ↔
      ∀ row ∈ store.rows,
        ownStatus row.pictureId store = statusOfUpload (latest row.pictureId uploads) := by
  apply forall₂_congr
  intro row member
  rw [agree row member]
  rfl

theorem statusesAgree_save {store : PictureStore} (agree : StatusesAgree store) (fileData : NSData)
    (pictureId : String) (directory written inserted : Bool) :
    StatusesAgree (step store (.save fileData pictureId directory written inserted)) ↔
      KeepsStatuses store (.save fileData pictureId directory written inserted) := by
  cases directory with
  | false => exact ⟨fun _ saved => by contradiction, fun _ => agree⟩
  | true =>
      cases written with
      | false => exact ⟨fun _ saved => by contradiction, fun _ => agree⟩
      | true =>
          cases inserted with
          | false => exact ⟨fun _ saved => by contradiction, fun _ => agree⟩
          | true =>
              have added : StatusesAgree (step store (.save fileData pictureId true true true)) ↔
                  ∀ row ∈ store.rows ++ [({ pictureId := pictureId } : RSPictureModel)],
                    row.status = ownStatus row.pictureId store := Iff.rfl
              rw [added, List.forall_mem_append, List.forall_mem_singleton]
              constructor
              · rintro ⟨-, fresh⟩ -
                cases last : latest pictureId store.uploads with
                | none => rfl
                | some upload =>
                    rcases upload with ⟨key, _ | isOK⟩
                    · rw [ownStatus, last] at fresh
                      contradiction
                    · rw [ownStatus, last] at fresh
                      cases isOK <;> contradiction
              · intro unstarted
                refine ⟨agree, ?_⟩
                rw [ownStatus, unstarted rfl]
                rfl

theorem statusesAgree_upload {store : PictureStore} (agree : StatusesAgree store) (pictureId : String)
    (ok : Bool) :
    StatusesAgree (step store (.upload pictureId ok)) ↔ KeepsStatuses store (.upload pictureId ok) := by
  cases ok with
  | true =>
      refine statusesAgree_written.trans (forall₂_congr fun row _ => ?_)
      rw [latest_start]
      by_cases own : pictureId = row.pictureId
      · rw [if_pos own]
        exact ⟨fun _ other => absurd own.symm other, fun _ => rfl⟩
      · rw [if_neg own]
        exact ⟨fun same _ => same.symm, fun kept => (kept (Ne.symm own)).symm⟩
  | false =>
      refine (statusesAgree_unwritten agree).trans (forall₂_congr fun row _ => ?_)
      rw [latest_start]
      by_cases own : pictureId = row.pictureId
      · rw [if_pos own]
        exact ⟨fun same _ => same, fun kept => kept own.symm⟩
      · rw [if_neg own]
        exact ⟨fun _ same => absurd same.symm own, fun _ => rfl⟩

theorem step_uploaded_pending {store : PictureStore} {number : Nat} {pictureId : String}
    (pending : Pending number pictureId store.uploads) (isOK ok : Bool) :
    step store (.uploaded number isOK ok) =
      { uploadComplete isOK ok pictureId store with
        uploads := store.uploads.set number { key := pictureId, outcome := some isOK } } := by
  rw [step, show store.uploads[number]? = some { key := pictureId } from pending]

theorem step_uploaded_settled {store : PictureStore} {number : Nat}
    (settled : ∀ pictureId, ¬ Pending number pictureId store.uploads) (isOK ok : Bool) :
    step store (.uploaded number isOK ok) = store := by
  rw [step]
  split
  · exact absurd ‹_› (settled _)
  · rfl

theorem uploadResult_ne_uploading (isOK : Bool) : uploadResult isOK ≠ .uploading := by
  cases isOK with
  | false => exact nofun
  | true => exact nofun

theorem statusesAgree_uploaded {store : PictureStore} (agree : StatusesAgree store) {number : Nat}
    {pictureId : String} (pending : Pending number pictureId store.uploads) (isOK ok : Bool) :
    StatusesAgree (step store (.uploaded number isOK ok)) ↔
      KeepsStatuses store (.uploaded number isOK ok) := by
  have named : ∀ other, Pending number other store.uploads → other = pictureId := by
    intro other also
    exact congrArg Attempt.key (Option.some.inj (also.symm.trans pending))
  rw [step_uploaded_pending pending]
  cases ok with
  | true =>
      have written : StatusesAgree
          { uploadComplete isOK true pictureId store with
            uploads := store.uploads.set number { key := pictureId, outcome := some isOK } } ↔
          ∀ row ∈ store.rows, row.pictureId = pictureId ∧ ¬ Superseded number pictureId store.uploads ∨
            ownStatus row.pictureId store = uploadResult isOK := by
        refine statusesAgree_written.trans (forall₂_congr fun row _ => ?_)
        rw [latest_settle pending]
        by_cases own : pictureId = row.pictureId ∧ ¬ Superseded number pictureId store.uploads
        · rw [if_pos own]
          exact ⟨fun _ => Or.inl ⟨own.1.symm, own.2⟩, fun _ => rfl⟩
        · rw [if_neg own]
          constructor
          · exact fun same => Or.inr same.symm
          · rintro (latest_own | same)
            · exact absurd ⟨latest_own.1.symm, latest_own.2⟩ own
            · exact same.symm
      rw [written]
      constructor
      · intro kept other also
        rw [named other also]
        exact kept
      · exact fun kept => kept pictureId pending
  | false =>
      have unwritten : StatusesAgree
          { uploadComplete isOK false pictureId store with
            uploads := store.uploads.set number { key := pictureId, outcome := some isOK } } ↔
          ∀ row ∈ store.rows, row.pictureId = pictureId → Superseded number pictureId store.uploads := by
        refine (statusesAgree_unwritten agree).trans (forall₂_congr fun row _ => ?_)
        rw [latest_settle pending]
        by_cases own : pictureId = row.pictureId ∧ ¬ Superseded number pictureId store.uploads
        · have flying : ownStatus row.pictureId store = .uploading := by
            rw [ownStatus, ← own.1, latest_of_pending pending own.2]
            rfl
          rw [if_pos own, flying]
          constructor
          · exact fun same => absurd same.symm (uploadResult_ne_uploading isOK)
          · exact fun later => absurd (later own.1.symm) own.2
        · rw [if_neg own]
          refine ⟨fun _ same => ?_, fun _ => rfl⟩
          by_contra last
          exact own ⟨same.symm, last⟩
      rw [unwritten]
      constructor
      · intro kept other also
        rw [named other also]
        exact kept
      · exact fun kept => kept pictureId pending

theorem statusesAgree_step {store : PictureStore} (agree : StatusesAgree store) (event : PictureEvent) :
    StatusesAgree (step store event) ↔ KeepsStatuses store event := by
  cases event with
  | save fileData pictureId directory written inserted =>
      exact statusesAgree_save agree fileData pictureId directory written inserted
  | upload pictureId ok => exact statusesAgree_upload agree pictureId ok
  | uploaded number isOK ok =>
      by_cases waits : ∃ pictureId, Pending number pictureId store.uploads
      · obtain ⟨pictureId, pending⟩ := waits
        exact statusesAgree_uploaded agree pending isOK ok
      · have settled := not_exists.mp waits
        rw [step_uploaded_settled settled]
        refine ⟨fun _ => ?_, fun _ => agree⟩
        cases ok with
        | true => exact fun pictureId pending => absurd pending (settled pictureId)
        | false => exact fun pictureId pending => absurd pending (settled pictureId)

/-! ## Runs -/

/-- Every picture's status is that of its own latest upload in every state exactly when each step keeps it so. -/
theorem picture_status_iff (events : List PictureEvent) :
    EveryState step StatusesAgree {} events ↔ EveryStep step KeepsStatuses {} events := by
  apply everyState_iff_of_good
  · exact fun store agree => agree
  · exact fun store event agree => statusesAgree_step agree event
  · exact fun store event agree kept => (statusesAgree_step agree event).mpr kept
  · exact fun row member => absurd member List.not_mem_nil

-- two pictures are saved, and only one of them is uploaded
def seaUploaded : List PictureEvent :=
  [.save [1] "sea" true true true, .save [2] "hill" true true true, .upload "sea" true]

theorem other_picture_uploading : ¬ EveryState step StatusesAgree {} seaUploaded := by
  intro every
  have hill := every.last { pictureId := "hill", status := .uploading } (by decide)
  exact absurd hill (by decide)

end RealSocial.Proof
