import RealSocial.Features.ReceiverList
import RealSocial.Protoc.Space

namespace RealSocial

namespace RSReceiverSpaceViewModel

def groupSpace (login : RSLoginService) (clientId : String) (authors : List String) (name : String) :
    RSSpace where
  type := RSenSpaceType_SpaceTypeGroup
  name := name
  receiver := { type := RSenReceiverType.receiverTypeAuthor.rawValue }
  spaceId := { clientId }
  creator := login.loginInfo.uid
  authorArray := authors ++ [login.loginInfo.uid]

/-- The name of the space and the dictionary after the lookup, or `none` when the lookup raises. A nil
nickname leaves the field unset. -/
def groupName (login : RSLoginService) (name : String) (contacts : ContactTable) (dic : ContactDictionary) :
    Option (String × ContactDictionary) :=
  if name.length > 0 then some (name, dic)
  else
    (RSContactService.getNickNameByUid login.loginInfo.uid contacts dic).map fun (myNickName, dic) =>
      ((myNickName.map (· ++ "的圈子")).getD "", dic)

def buildRequestWithClientId (login : RSLoginService) (clientId : String) (authors : List String)
    (name : String) (contacts : ContactTable) (dic : ContactDictionary) :
    Option (RSCreateSpaceReq × ContactDictionary) :=
  (groupName login name contacts dic).map fun (name, dic) =>
    ({ baseReq := RSRequestFactory.baseReq login, space := groupSpace login clientId authors name }, dic)

/-- The request that is sent, or the error; `none` when building the request raises. -/
def createGroupSpaceWithAuthors (login : RSLoginService) (time : String) (authors : List String)
    (name : String) (contacts : ContactTable) (dic : ContactDictionary) :
    Option (Except NSError RSCreateSpaceReq × ContactDictionary) :=
  if authors.length ≤ 0 then some (.error (.errorWithString "创作者为能为空"), dic)
  else
    let pictureId := login.loginInfo.uid ++ "_" ++ time
    (buildRequestWithClientId login pictureId authors name contacts dic).map fun (req, dic) => (.ok req, dic)

end RSReceiverSpaceViewModel

end RealSocial
