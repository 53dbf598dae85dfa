import RealSocial.Services.SpaceService

namespace RealSocial

open Library

inductive ErrorType where
  | uploadImageToCDNError
  | addFriendNetError
  | addFriendImageError
  deriving DecidableEq, Repr

structure RSAddFriendReq where
  baseReq : RSBaseReq
  imgurl : String
  deriving DecidableEq, Repr

structure RSAddFriendResp where
  baseResp : RSBaseResp := {}
  opCode : UInt32 := 0
  toAddArray : List RSContact := []
  deriving DecidableEq, Repr

def RSAddFriendResp.respClass (parseFromData : NSData → Except NSError RSAddFriendResp) :
    RespClass RSAddFriendResp where
  parseFromData := parseFromData
  baseResp resp := some resp.baseResp

-- what the CDN answered to an upload
structure QNResponseInfo where
  statusCode : Int
  error : Option NSError := none
  reqId : Option String := none
  deriving DecidableEq, Repr

def QNResponseInfo.isOK (info : QNResponseInfo) : Bool :=
  info.statusCode = 200 ∧ info.error = none ∧ info.reqId ≠ none

namespace RSMediaService

/-- The digest of no data prints as `(null)`. -/
def pictureIdWithData (md5String : Option NSData → String) (login : RSLoginService) (time : String)
    (data : Option NSData) : String :=
  login.loginInfo.uid ++ "_" ++ md5String data ++ "_" ++ time

/-- What `uploadPictureCDN:` calls its completion handler with. -/
def uploadPictureCDNComplete (info : QNResponseInfo) : Bool × Option NSError :=
  if info.isOK then (true, none) else (false, info.error)

end RSMediaService

structure AddedFriend where
  opCode : String
  friendHeadImageUrl : String
  friendName : String
  deriving DecidableEq, Repr

/-- What was sent to the subject of an attempt, whose errors may be nil, and the type in the shared
error. -/
structure AddFriendSubject where
  events : List (SignalEvent AddedFriend (Option NSError)) := []
  sharedError : ErrorType := .uploadImageToCDNError
  deriving DecidableEq, Repr

namespace AddFriendSubject

def sendNext (value : AddedFriend) (subject : AddFriendSubject) : AddFriendSubject :=
  { subject with events := subject.events ++ [.next value] }

def sendError (errorType : ErrorType) (error : Option NSError) (subject : AddFriendSubject) :
    AddFriendSubject where
  events := subject.events ++ [.error error]
  sharedError := errorType

end AddFriendSubject

namespace RSAddFriendsViewModel

def addFriendReq (login : RSLoginService) (pictureId : String) : RSAddFriendReq where
  baseReq := RSRequestFactory.baseReq login
  imgurl := RSMediaService.urlWithPictureId pictureId

def addFriendResp (resp : RSAddFriendResp) (subject : AddFriendSubject) : AddFriendSubject :=
  if resp.opCode = 0 then subject.sendError .addFriendImageError none
  else
    match resp.toAddArray.getLast? with
    | some item =>
        subject.sendNext
          { opCode := toString resp.opCode
            friendHeadImageUrl := item.headImgURL
            friendName := item.nickName }
    | none => subject.sendError .addFriendImageError none

-- a request with a response class and no mock response delivers no `RSResponse`
def subscriber (subject : AddFriendSubject) :
    SignalEvent (RSObject RSAddFriendResp) NSError → AddFriendSubject
  | .next (.resp resp) => addFriendResp resp subject
  | .next (.response _) => subject
  | .error error => subject.sendError .addFriendNetError (some error)
  | .completed => subject

section Answers

variable (parsePKG : NSData → Option RSPKG) (parseFromData : NSData → Except NSError RSAddFriendResp)

def request : RSRequest RSAddFriendResp :=
  RSRequestFactory.requestWithReqResp false (some (RSAddFriendResp.respClass parseFromData)) none

def addFriendAnswered (outcome : Except NSError NSData) (subject : AddFriendSubject) : AddFriendSubject :=
  (RSNetWorkService.sendRequest parsePKG (request parseFromData) outcome).foldl subscriber subject

/-- The subject, and whether the request is made. -/
def uploadAnswered (info : QNResponseInfo) (subject : AddFriendSubject) : AddFriendSubject × Bool :=
  let (isOK, error) := RSMediaService.uploadPictureCDNComplete info
  let subject :=
    match error with
    | some error => subject.sendError .uploadImageToCDNError (some error)
    | none => subject
  (subject, isOK)

def createToAddFriends (isUploadImage : Bool) (info : QNResponseInfo) (outcome : Except NSError NSData)
    (sharedError : ErrorType) : AddFriendSubject :=
  if isUploadImage then addFriendAnswered parsePKG parseFromData outcome { sharedError }
  else
    let (subject, isOK) := uploadAnswered info { sharedError }
    if isOK then addFriendAnswered parsePKG parseFromData outcome subject else subject

end Answers

end RSAddFriendsViewModel

/-- The block in `reTry`, which is empty after an image that was not recognised. -/
inductive ReTry (Image : Type) where
  | uploadImageAndAddFriends (image : Image) (isUploadImage : Bool)
  | nothing
  deriving DecidableEq, Repr

structure RSAddFriendsViewController (Image : Type) where
  reTry : Option (ReTry Image) := none
  deriving DecidableEq, Repr

def RSAddFriendsViewController.setReTry {Image : Type} (reTry : ReTry Image)
    (controller : RSAddFriendsViewController Image) : RSAddFriendsViewController Image :=
  { controller with reTry := some reTry }

def RSAddFriendsViewController.reTryAddFrinends {Image : Type} (sharedError : ErrorType)
    (controller : RSAddFriendsViewController Image) : Option (ReTry Image) :=
  match sharedError with
  | .uploadImageToCDNError => controller.reTry
  | .addFriendNetError => controller.reTry
  | .addFriendImageError => none

namespace RSMineViewController

variable {Image : Type}

def reTryOf (image : Image) : ErrorType → ReTry Image
  | .uploadImageToCDNError => .uploadImageAndAddFriends image false
  | .addFriendNetError => .uploadImageAndAddFriends image true
  | .addFriendImageError => .nothing

/-- The subscriber of an attempt with the image; a message to a nil `addFriend` does nothing. -/
def heard (image : Image) (subject : AddFriendSubject)
    (addFriend : Option (RSAddFriendsViewController Image)) : Option (RSAddFriendsViewController Image) :=
  match SignalEvent.terminal subject.events with
  | some (.error _) => addFriend.map (.setReTry (reTryOf image subject.sharedError))
  | _ => addFriend

end RSMineViewController

end RealSocial
