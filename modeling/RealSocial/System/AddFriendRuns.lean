import RealSocial.Features.AddFriends
import RealSocial.Library.Attempts
import RealSocial.Library.Run

namespace RealSocial

open Library

/-! # Attempts to add friends on the screen of the user

Photos are taken, the CDN and the server answer what was sent to them, and the user retries, in any
order. -/

inductive AddFriendEvent (Image : Type) where
  | openAddFriends
  | didFinishWithImage (image : Image) (login : RSLoginService) (time : String)
  | uploaded (number : Nat) (info : QNResponseInfo) (login : RSLoginService)
  | answered (number : Nat) (outcome : Except NSError NSData)
  | reTry (login : RSLoginService) (time : String)

structure PictureUpload (Image : Type) where
  image : Image
  pictureId : String
  deriving DecidableEq, Repr

structure AddFriendCall (Image : Type) where
  image : Image
  req : RSAddFriendReq
  deriving DecidableEq, Repr

structure AddFriendRuns (Image : Type) where
  addFriend : Option (RSAddFriendsViewController Image) := none
  sharedError : ErrorType := .uploadImageToCDNError
  uploads : List (Attempt (PictureUpload Image) Bool) := []
  requests : List (Attempt (AddFriendCall Image) Unit) := []

namespace AddFriendRuns

variable {Image : Type}

def addFriendsWithPictureId (login : RSLoginService) (image : Image) (pictureId : String)
    (runs : AddFriendRuns Image) : AddFriendRuns Image :=
  { runs with
    requests := runs.requests ++
      [{ key := { image, req := RSAddFriendsViewModel.addFriendReq login pictureId } }] }

def retried (runs : AddFriendRuns Image) : Option (ReTry Image) :=
  runs.addFriend.bind fun controller => controller.reTryAddFrinends runs.sharedError

section Picture

variable (UIImageJPEGRepresentation : Image → Option NSData) (md5String : Option NSData → String)

def pictureId (login : RSLoginService) (time : String) (image : Image) : String :=
  RSMediaService.pictureIdWithData md5String login time (UIImageJPEGRepresentation image)

def uploadImageAndAddFriends (login : RSLoginService) (time : String) (image : Image) (isUploadImage : Bool)
    (runs : AddFriendRuns Image) : AddFriendRuns Image :=
  let pictureId := pictureId UIImageJPEGRepresentation md5String login time image
  if isUploadImage then runs.addFriendsWithPictureId login image pictureId
  else { runs with uploads := runs.uploads ++ [{ key := { image, pictureId } }] }

def step (parsePKG : NSData → Option RSPKG) (parseFromData : NSData → Except NSError RSAddFriendResp)
    (runs : AddFriendRuns Image) : AddFriendEvent Image → AddFriendRuns Image
  | .openAddFriends => { runs with addFriend := some {} }
  | .didFinishWithImage image login time =>
      runs.uploadImageAndAddFriends UIImageJPEGRepresentation md5String login time image false
  | .uploaded number info login =>
      match runs.uploads[number]? with
      | some { key := upload, outcome := none } =>
          let (subject, isOK) :=
            RSAddFriendsViewModel.uploadAnswered info { sharedError := runs.sharedError }
          let runs := { runs with
            uploads := runs.uploads.set number { key := upload, outcome := some info.isOK }
            sharedError := subject.sharedError
            addFriend := RSMineViewController.heard upload.image subject runs.addFriend }
          if isOK then runs.addFriendsWithPictureId login upload.image upload.pictureId else runs
      | _ => runs
  | .answered number outcome =>
      match runs.requests[number]? with
      | some { key := call, outcome := none } =>
          let subject := RSAddFriendsViewModel.addFriendAnswered parsePKG parseFromData outcome
            { sharedError := runs.sharedError }
          { runs with
            requests := runs.requests.set number { key := call, outcome := some () }
            sharedError := subject.sharedError
            addFriend := RSMineViewController.heard call.image subject runs.addFriend }
      | _ => runs
  | .reTry login time =>
      match runs.retried with
      | some (.uploadImageAndAddFriends image isUploadImage) =>
          runs.uploadImageAndAddFriends UIImageJPEGRepresentation md5String login time image isUploadImage
      | _ => runs

end Picture

def Uploaded (runs : AddFriendRuns Image) (pictureId : String) : Prop :=
  ∃ upload ∈ runs.uploads, upload.key.pictureId = pictureId ∧ upload.outcome = some true

def RequestsUploaded (runs : AddFriendRuns Image) : Prop :=
  ∀ request ∈ runs.requests, ∃ pictureId, runs.Uploaded pictureId ∧
    request.key.req.imgurl = RSMediaService.urlWithPictureId pictureId

end AddFriendRuns

end RealSocial
