import RealSocial.Library.ColdSignal
import RealSocial.Protoc.Space
import RealSocial.Services.LoginService

namespace RealSocial

open Library

inductive RSSpaceCreateModelStatus where
  | init
  | creating
  | finish
  | fail
  deriving DecidableEq, Repr

structure RSSpaceCreateModel where
  mediaId : String
  type : RSenReceiverType
  status : RSSpaceCreateModelStatus
  users : List String
  spaces : List UInt64
  createTime : Int
  creator : String
  deriving DecidableEq, Repr

abbrev SpaceCreateTable := Table RSSpaceCreateModel.mediaId

inductive RSSpaceRequest where
  | createSpace (req : RSCreateSpaceReq)
  | addStar (req : RSAddStarReq)
  deriving DecidableEq, Repr

def RSMediaService.urlWithPictureId (pictureId : String) : String :=
  "http://p3rtyrrga.bkt.clouddn.com/" ++ pictureId

namespace RSSpaceService

variable (login : RSLoginService)

def starWithPictureId (pictureId : String) (idpair : RSIdPair) : RSStar where
  starId := idpair
  type := RSenStarType_StarTypeImg
  author := login.loginInfo.uid
  img := { imgURL := RSMediaService.urlWithPictureId pictureId
           thumbURL := RSMediaService.urlWithPictureId pictureId }

def spaceWithPictureId (pictureId : String) (receiver : RSReceiver) : RSSpace where
  spaceId := { clientId := pictureId }
  type := RSenSpaceType_SpaceTypeSingle
  creator := login.loginInfo.uid
  receiver := receiver
  starListArray := [starWithPictureId login pictureId { clientId := pictureId }]

def buildRequestWithPictureIdToSpaces (pictureId : String) (spaces : List UInt64) : RSSpaceRequest :=
  let idpair : RSIdPair := { svrId := spaces.head?.getD 0, clientId := pictureId }
  .addStar
    { baseReq := RSRequestFactory.baseReq login
      spaceId := idpair
      starListArray := [starWithPictureId login pictureId idpair] }

def buildRequestWithPictureIdToUsers (pictureId : String) (users : List String) : RSSpaceRequest :=
  .createSpace
    { baseReq := RSRequestFactory.baseReq login
      space := spaceWithPictureId login pictureId
        { type := RSenReceiverType.receiverTypeList.rawValue, userNameArray := users } }

def buildRequestWithPictureIdType (pictureId : String) (type : RSenReceiverType) : RSSpaceRequest :=
  .createSpace
    { baseReq := RSRequestFactory.baseReq login
      space := spaceWithPictureId login pictureId
        { type := type.rawValue, userNameArray := [login.loginInfo.uid] } }

def sendRequest (request : RSSpaceRequest) : ColdSignal RSSpaceRequest := .request request

/-- What is transmitted at once, and the subscription that is waited for: each signal is subscribed
for its log line when it is made, and `zip:` subscribes them all. -/
def createSignalSpaceWithPictureId (pictureId : String) (users : List String) (spaces : List UInt64) :
    List RSSpaceRequest × ColdSignal RSSpaceRequest :=
  let (signals, sent) :=
    if users.length > 0 then
      let signal := sendRequest (buildRequestWithPictureIdToUsers login pictureId users)
      ([signal], signal.transmissions)
    else ([], [])
  let (signals, sent) := spaces.foldl (fun (signals, sent) spaceId =>
    let signal := sendRequest (buildRequestWithPictureIdToSpaces login pictureId [spaceId])
    (signals ++ [signal], sent ++ signal.transmissions)) (signals, sent)
  let zipped := ColdSignal.zip signals
  (sent ++ zipped.transmissions, zipped)

def createSpaceWithMediaId (mediaId : String) (type : RSenReceiverType) : List RSSpaceRequest :=
  (sendRequest (buildRequestWithPictureIdType login mediaId type)).transmissions

def spaceCreateModel (mediaId : String) (users : List String) (spaces : List UInt64)
    (type : RSenReceiverType) (createTime : Int) : RSSpaceCreateModel where
  mediaId := mediaId
  type := type
  status := .init
  users := users
  spaces := spaces
  createTime := createTime
  creator := login.loginInfo.uid

-- the model carries the media id, and the update has no condition that would use it
def updateSpaceCreateModel (ok : Bool) (_mediaId : String) (status : RSSpaceCreateModelStatus)
    (table : SpaceCreateTable) : Bool × SpaceCreateTable :=
  WCDB.updateAllRows ok (fun row => { row with status }) (fun _ => rfl) table

end RSSpaceService

end RealSocial
