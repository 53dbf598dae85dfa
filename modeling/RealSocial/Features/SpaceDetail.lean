import RealSocial.Features.PhotoBrower
import RealSocial.Protoc.Space
import RealSocial.Services.LoginService

namespace RealSocial

def RSSpaceDetailViewModel.photoUrlArray (space : RSSpace) : List String :=
  let tmp := space.starListArray.foldl (fun tmp star =>
    if star.type = RSenStarType_StarTypeImg then tmp ++ [star.img.imgURL] else tmp) []
  tmp.reverse

-- the time is the one of the call, in seconds
def RSRequestFactory.randomPairIdWithKey (login : RSLoginService) (key time : String) : RSIdPair where
  clientId := login.loginInfo.uid ++ "_" ++ key ++ "_" ++ time

structure RSSpaceDetailAddCommentViewModel where
  space : RSSpace
  starIndex : Int

namespace RSSpaceDetailAddCommentViewModel

/-- The answer, and the request that is sent. -/
def addComment (login : RSLoginService) (time content : String)
    (viewModel : RSSpaceDetailAddCommentViewModel) : Bool × Option RSAddCommentReq :=
  if content.length ≤ 0 then (false, none)
  else
    let starList := viewModel.space.starListArray.reverse
    match NSArray.objectAtIndex starList viewModel.starIndex with
    | none => (false, none)
    | some star =>
        let comment : RSComment :=
          { commentId := RSRequestFactory.randomPairIdWithKey login "addComment" time
            fromUser := login.loginInfo.uid
            content := content }
        (true, some
          { baseReq := RSRequestFactory.baseReq login
            spaceId := viewModel.space.spaceId
            starId := star.starId
            comment := comment })

end RSSpaceDetailAddCommentViewModel

end RealSocial
