import RealSocial.Store.WCDB

namespace RealSocial

/-! # Messages of `spcgicomm.proto` and `spbasecgi.proto`

A field that was not sent reads as its proto2 default. -/

structure RSBaseReq where
  uin : UInt32
  deriving DecidableEq, Repr

structure RSBaseResp where
  errCode : UInt32 := 0
  errMsg : String := ""
  deriving DecidableEq, Repr

structure RSContact where
  userName : String
  nickName : String := ""
  sex : UInt32 := 0
  headImgURL : String := ""
  delFlag : UInt32 := 0
  deriving DecidableEq, Repr

structure RSGroup where
  headImgURL : String := ""
  deriving DecidableEq, Repr

structure RSLoginResp where
  baseResp : RSBaseResp := {}
  opCode : UInt32 := 0
  userName : String := ""
  sessionKey : NSData := []
  qiniuToken : String := ""
  uin : UInt64 := 0
  deriving DecidableEq, Repr

structure RSSyncReq where
  baseReq : RSBaseReq
  syncBuff : Option NSData
  selector : UInt32
  deriving DecidableEq, Repr

structure RSSyncResp where
  baseResp : RSBaseResp := {}
  syncBuff : NSData := []
  isEnd : UInt32 := 0
  contactListArray : List RSContact := []
  groupListArray : List RSGroup := []
  deriving DecidableEq, Repr

structure RSGetAllContactResp where
  baseResp : RSBaseResp := {}
  contactArray : List RSContact := []
  deriving DecidableEq, Repr

end RealSocial
