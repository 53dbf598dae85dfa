import RealSocial.Services.MediaService

namespace RealSocial

/-! # The older way to save a picture

It has its own copies of the paths, which name the same files, and it keeps the faces that it detects in
the picture. -/

namespace RSImageUploadViewModel

def localPictureDir : String := "Documents/pictures"

def localPicturePathWithPictureId (pictureId : String) : String :=
  localPictureDir ++ "/" ++ "picture_" ++ pictureId ++ ".jpg"

/-- The flags are those of the media service; `faceInfos` is the JSON of the faces, or nil. -/
def savePictureLocal (directory written inserted : Bool) (faceInfos : Option String) (fileData : NSData)
    (pictureId : String) (store : PictureStore) : Bool × PictureStore :=
  if !directory then (false, store)
  else
    let picturePath := localPicturePathWithPictureId pictureId
    if written then
      let store := { store with files := Function.update store.files picturePath (some fileData) }
      let (result, store) :=
        RSMediaService.insertOrReplaceObject inserted { pictureId, info := faceInfos } store
      if !result then
        (false, { store with files := Function.update store.files picturePath none })
      else (true, store)
    else (false, store)

end RSImageUploadViewModel

inductive SavePictureCall where
  | mediaService (directory written inserted : Bool) (fileData : NSData) (pictureId : String)
  | imageUpload (directory written inserted : Bool) (faceInfos : Option String) (fileData : NSData)
      (pictureId : String)
  deriving DecidableEq, Repr

namespace SavePictureCall

def fileData : SavePictureCall → NSData
  | .mediaService _ _ _ fileData _ => fileData
  | .imageUpload _ _ _ _ fileData _ => fileData

def pictureId : SavePictureCall → String
  | .mediaService _ _ _ _ pictureId => pictureId
  | .imageUpload _ _ _ _ _ pictureId => pictureId

/-- The call gets as far as the insert. -/
def writesFile : SavePictureCall → Bool
  | .mediaService directory written _ _ _ => directory && written
  | .imageUpload directory written _ _ _ _ => directory && written

def call (store : PictureStore) : SavePictureCall → Bool × PictureStore
  | .mediaService directory written inserted fileData pictureId =>
      RSMediaService.savePictureLocal directory written inserted fileData pictureId store
  | .imageUpload directory written inserted faceInfos fileData pictureId =>
      RSImageUploadViewModel.savePictureLocal directory written inserted faceInfos fileData pictureId store

end SavePictureCall

end RealSocial
