import RealSocial.Protoc.Base

namespace RealSocial

/-! # Messages of `spspacecgi.proto` -/

inductive RSenReceiverType where
  | receiverTypeCreator
  | receiverTypeList
  | receiverTypeCreatorFriend
  | receiverTypeAuthor
  | receiverTypeAuthorFriend
  deriving DecidableEq, Repr

def RSenReceiverType.rawValue : RSenReceiverType → UInt32
  | .receiverTypeCreator => 1
  | .receiverTypeList => 2
  | .receiverTypeCreatorFriend => 3
  | .receiverTypeAuthor => 4
  | .receiverTypeAuthorFriend => 5

def RSenSpaceType_SpaceTypeSingle : UInt32 := 1
def RSenSpaceType_SpaceTypeGroup : UInt32 := 2
def RSenStarType_StarTypeImg : UInt32 := 1
def RSenStarType_StarTypeVideo : UInt32 := 2

structure RSIdPair where
  svrId : UInt64 := 0
  clientId : String := ""
  deriving DecidableEq, Repr

structure RSStarImg where
  thumbURL : String := ""
  imgURL : String := ""
  deriving DecidableEq, Repr

structure RSStar where
  starId : RSIdPair := {}
  type : UInt32 := 0
  author : String := ""
  createTime : UInt32 := 0
  img : RSStarImg := {}
  deriving DecidableEq, Repr

structure RSComment where
  commentId : RSIdPair := {}
  fromUser : String := ""
  content : String := ""
  deriving DecidableEq, Repr

structure RSReceiver where
  type : UInt32 := 0
  userNameArray : List String := []
  deriving DecidableEq, Repr

structure RSSpace where
  spaceId : RSIdPair := {}
  type : UInt32 := 0
  createTime : UInt32 := 0
  updateTime : UInt32 := 0
  creator : String := ""
  name : String := ""
  authorArray : List String := []
  receiver : RSReceiver := {}
  starListArray : List RSStar := []
  deriving DecidableEq, Repr

structure RSGetAllSpaceResp where
  baseResp : RSBaseResp := {}
  listArray : List RSSpace := []
  deriving DecidableEq, Repr

structure RSGetAllMySpaceResp where
  baseResp : RSBaseResp := {}
  listArray : List RSSpace := []
  deriving DecidableEq, Repr

structure RSCreateSpaceReq where
  baseReq : RSBaseReq
  space : RSSpace
  deriving DecidableEq, Repr

structure RSAddStarReq where
  baseReq : RSBaseReq
  spaceId : RSIdPair
  starListArray : List RSStar
  deriving DecidableEq, Repr

structure RSAddCommentReq where
  baseReq : RSBaseReq
  spaceId : RSIdPair
  starId : RSIdPair
  comment : RSComment
  deriving DecidableEq, Repr

end RealSocial
