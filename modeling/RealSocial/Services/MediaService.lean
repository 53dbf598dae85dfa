import Mathlib.Logic.Function.Basic
import RealSocial.Library.Attempts
import RealSocial.Store.WCDB

namespace RealSocial

open Library

inductive RSPictureStatus where
  | init
  | uploading
  | uploadFinish
  | uploadFail
  deriving DecidableEq, Repr

structure RSPictureModel where
  pictureId : String
  info : Option String := none
  status : RSPictureStatus := .init
  createTime : Option Int := none
  deriving DecidableEq, Repr

/-- The files by their paths, the rows of the picture table in the order of their inserts, and the
uploads to the CDN. -/
structure PictureStore where
  files : String → Option NSData := fun _ => none
  rows : List RSPictureModel := []
  uploads : List (Attempt String Bool) := []

namespace RSMediaService

def localPictureDir : String := "Documents/pictures"

def localPicturePathWithPictureId (pictureId : String) : String :=
  localPictureDir ++ "/" ++ "picture_" ++ pictureId ++ ".jpg"

-- the table has no key, so nothing is replaced
def insertOrReplaceObject (ok : Bool) (pictureModel : RSPictureModel) (store : PictureStore) :
    Bool × PictureStore :=
  if ok then (true, { store with rows := store.rows ++ [pictureModel] }) else (false, store)

/-- The flags are the results of making the directory, where it is missing, of writing the file and of
the insert. -/
def savePictureLocal (directory written inserted : Bool) (fileData : NSData) (pictureId : String)
    (store : PictureStore) : Bool × PictureStore :=
  if !directory then (false, store)
  else
    let picturePath := localPicturePathWithPictureId pictureId
    if !written then (false, store)
    else
      let store := { store with files := Function.update store.files picturePath (some fileData) }
      let (result, store) := insertOrReplaceObject inserted { pictureId } store
      if !result then
        (false, { store with files := Function.update store.files picturePath none })
      else (true, store)

-- the model carries the picture id, and the update has no condition that would use it
def updateStatus (ok : Bool) (_pictureId : String) (status : RSPictureStatus) (store : PictureStore) :
    PictureStore :=
  if ok then { store with rows := store.rows.map fun row => { row with status } } else store

def uploadPictureCDN (ok : Bool) (pictureId : String) (store : PictureStore) : PictureStore :=
  let store := updateStatus ok pictureId .uploading store
  { store with uploads := store.uploads ++ [{ key := pictureId }] }

def uploadComplete (isOK ok : Bool) (pictureId : String) (store : PictureStore) : PictureStore :=
  updateStatus ok pictureId (if isOK then .uploadFinish else .uploadFail) store

end RSMediaService

/-- An answer names its upload by number; the flag `ok` is the result of the update of the status. -/
inductive PictureEvent where
  | save (fileData : NSData) (pictureId : String) (directory written inserted : Bool)
  | upload (pictureId : String) (ok : Bool)
  | uploaded (number : Nat) (isOK : Bool) (ok : Bool)
  deriving DecidableEq, Repr

namespace PictureStore

open RSMediaService

def step (store : PictureStore) : PictureEvent → PictureStore
  | .save fileData pictureId directory written inserted =>
      (savePictureLocal directory written inserted fileData pictureId store).2
  | .upload pictureId ok => uploadPictureCDN ok pictureId store
  | .uploaded number isOK ok =>
      match store.uploads[number]? with
      | some { key := pictureId, outcome := none } =>
          let uploads := store.uploads.set number { key := pictureId, outcome := some isOK }
          { uploadComplete isOK ok pictureId store with uploads }
      | _ => store

end PictureStore

end RealSocial
