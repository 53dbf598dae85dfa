import RealSocial.Features.AddFriends
import RealSocial.Library.Machine
import RealSocial.Qiniu.Zone

namespace RealSocial

open Library

/-! # Uploads of data to the CDN

The uploads of one manager share the zone. Their blocks and the answers to their posts come in any order. -/

namespace QNResponseInfo

variable (info : QNResponseInfo)

-- the text stands under a key of the error's userInfo
def initWithStatus (status : Int) (text : String) : QNResponseInfo where
  statusCode := status
  error := some { localizedDescription := text, code := status }

def cancel : QNResponseInfo := initWithStatus (-2) "cancelled by user"

def responseInfoWithInvalidArgument (text : String) : QNResponseInfo := initWithStatus (-3) text

def responseInfoWithInvalidToken (text : String) : QNResponseInfo := initWithStatus (-5) text

def responseInfoOfZeroData : QNResponseInfo := initWithStatus (-6) "data size is 0"

def isNotQiniu : Bool := (200 ≤ info.statusCode ∧ info.statusCode < 500) ∧ info.reqId = none

def isConnectionBroken : Bool :=
  info.statusCode = -1 ∨ (info.statusCode < -1000 ∧ info.statusCode ≠ -1003)

def needSwitchServer : Bool :=
  info.statusCode = -1 ∨ (info.statusCode < -1000 ∧ info.statusCode ≠ -1003) ∨
    (info.statusCode.tdiv 100 = 5 ∧ info.statusCode ≠ 579)

def couldRetry : Bool :=
  (500 ≤ info.statusCode ∧ info.statusCode < 600 ∧ info.statusCode ≠ 579) ∨ info.statusCode = -1 ∨
    info.statusCode = 996 ∨ info.statusCode = 406 ∨ (info.statusCode = 200 ∧ info.error ≠ none) ∨
    info.statusCode < -1000 ∨ info.isNotQiniu

end QNResponseInfo

-- whether the deadline has passed is not checked
structure QNPolicy where
  scope : Option String
  deadline : Option Int

structure QNUpToken where
  token : String
  access : String
  deriving DecidableEq, Repr

/-- The third part of a token is decoded to its policy, if it can be. -/
def QNUpToken.parse (policy : List Char → Option QNPolicy) (token : Option String) : Option QNUpToken :=
  match token.map fun token => (token, token.toList.splitOn ':') with
  | some (token, [access, _, encoded]) =>
      match policy encoded with
      | some { scope := some _, deadline := some _ } => some { token, access := String.ofList access }
      | _ => none
  | _ => none

inductive QNFormUploadStage where
  | created
  | posting
  | ended
  deriving DecidableEq, Repr

structure QNFormUpload where
  data : NSData
  key : Option String
  token : QNUpToken
  stage : QNFormUploadStage := .created
  -- of its last post
  upHost : Option String := none
  posts : Nat := 0
  deriving DecidableEq, Repr

/-- What the block of a post does with the answer. -/
inductive QNFormUploadNext where
  | complete (info : QNResponseInfo)
  | post (nextUpHost : Bool)
  deriving DecidableEq, Repr

namespace QNFormUpload

def complete (info : QNResponseInfo) (cancelled : Bool) : QNFormUploadNext :=
  if info.isOK || !info.couldRetry then .complete info
  else if cancelled then .complete .cancel
  else .post (info.isConnectionBroken || info.needSwitchServer)

def retriedComplete (info : QNResponseInfo) (cancelled : Bool) : QNFormUploadNext :=
  if info.isOK || !info.couldRetry then .complete info
  else if cancelled then .complete .cancel
  else .post (info.isConnectionBroken || info.needSwitchServer)

def thirdComplete (info : QNResponseInfo) : QNFormUploadNext := .complete info

/-- The answer to the last of so many posts. -/
def next (posts : Nat) (info : QNResponseInfo) (cancelled : Bool) : QNFormUploadNext :=
  match posts with
  | 1 => complete info cancelled
  | 2 => retriedComplete info cancelled
  | _ => thirdComplete info

end QNFormUpload

/-- The calls of `putData:` are numbered. One that is refused makes no upload. -/
structure QNUploadManager where
  zoneInfo : QNZoneInfo := QNFixedZone.zone2
  useHttps : Bool := false
  uploads : List (Option QNFormUpload) := []

inductive QNUploadEvent where
  | putData (data : Option NSData) (key token : Option String)
  | put (upload : Nat) (now : Int)
  | answered (upload : Nat) (info : QNResponseInfo) (cancelled : Bool) (now : Int)

inductive QNUploadAction where
  | up (call : QNUpHostCall)
  | post (upload : Nat) (upHost : Option String)
  | answered (upload : Nat) (info : QNResponseInfo) (cancelled : Bool)
  | completionHandler (upload : Nat) (info : QNResponseInfo)

namespace QNUploadManager

variable (policy : List Char → Option QNPolicy)

/-- The upload that `putData:` makes, or what it tells the completion handler at once. -/
def putData (data : Option NSData) (key token : Option String) : Except QNResponseInfo QNFormUpload :=
  match data with
  | none => .error (.responseInfoWithInvalidArgument "no input data")
  | some data =>
      if token = none ∨ token = some "" then .error (.responseInfoWithInvalidArgument "no token")
      else
        match QNUpToken.parse policy token with
        | none => .error (.responseInfoWithInvalidToken "invalid token")
        | some token => if data.length = 0 then .error .responseInfoOfZeroData else .ok { data, key, token }

variable (manager : QNUploadManager)

def multipartPost (number : Nat) (upload : QNFormUpload) (upHost : Option String) :
    QNUploadManager × List QNUploadAction :=
  let upload := { upload with stage := .posting, upHost, posts := upload.posts + 1 }
  ({ manager with uploads := manager.uploads.set number (some upload) }, [.post number upHost])

/-- A post to the host that the zone gives, which is told of the host that failed. -/
def postUp (number : Nat) (upload : QNFormUpload) (lastUpHost : Option String) (now : Int) :
    QNUploadManager × List QNUploadAction :=
  let (zoneInfo, call) := manager.zoneInfo.upHost manager.useHttps lastUpHost now
  let (manager, actions) := multipartPost { manager with zoneInfo } number upload call.upHost
  (manager, .up call :: actions)

def answer (number : Nat) (upload : QNFormUpload) (info : QNResponseInfo) (cancelled : Bool) (now : Int) :
    QNUploadManager × List QNUploadAction :=
  match QNFormUpload.next upload.posts info cancelled with
  | .complete info =>
      ({ manager with uploads := manager.uploads.set number (some { upload with stage := .ended }) },
        [.completionHandler number info])
  | .post true => manager.postUp number upload upload.upHost now
  | .post false => manager.multipartPost number upload upload.upHost

/-- A step, and what is done in it. -/
def step : QNUploadEvent → QNUploadManager × List QNUploadAction
  | .putData data key token =>
      match putData policy data key token with
      | .error info =>
          ({ manager with uploads := manager.uploads ++ [none] }, [.completionHandler manager.uploads.length info])
      | .ok upload => ({ manager with uploads := manager.uploads ++ [some upload] }, [])
  | .put number now =>
      match manager.uploads[number]? with
      | some (some upload) =>
          if upload.stage = .created then manager.postUp number upload none now else (manager, [])
      | _ => (manager, [])
  | .answered number info cancelled now =>
      match manager.uploads[number]? with
      | some (some upload) =>
          if upload.stage = .posting then
            let (manager, actions) := manager.answer number upload info cancelled now
            (manager, .answered number info cancelled :: actions)
          else (manager, [])
      | _ => (manager, [])

end QNUploadManager

end RealSocial
