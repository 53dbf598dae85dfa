import RealSocial.Qiniu.UploadManager

namespace RealSocial.Proof

open Library QNUploadManager

/-! # What an upload tells its completion handler -/

section History

/-- What is done for one upload. -/
inductive UploadEntry where
  | post (upHost : Option String)
  | answered (info : QNResponseInfo) (cancelled : Bool)
  | told (info : QNResponseInfo)

def entryOf : QNUploadAction → Option (Nat × UploadEntry)
  | .up _ => none
  | .post number upHost => some (number, .post upHost)
  | .answered number info cancelled => some (number, .answered info cancelled)
  | .completionHandler number info => some (number, .told info)

def history (number : Nat) (actions : List QNUploadAction) : List UploadEntry :=
  (actions.filterMap entryOf).filterMap fun each => if each.1 = number then some each.2 else none

/-- What the answers come to, of which the first is to the post of that number. -/
def verdict : Nat → List (QNResponseInfo × Bool) → Option QNResponseInfo
  | _, [] => none
  | post, (info, cancelled) :: answers =>
      match QNFormUpload.next post info cancelled with
      | .complete info => some info
      | .post _ => verdict (post + 1) answers

end History

/-! ## Runs of the manager -/

section Runs

variable {policy : List Char → Option QNPolicy} {manager : QNUploadManager}

/-- What `putData:` makes of each of its calls. -/
def calls (policy : List Char → Option QNPolicy) (events : List QNUploadEvent) :
    List (Except QNResponseInfo QNFormUpload) :=
  events.filterMap fun
    | .putData data key token => some (putData policy data key token)
    | _ => none

def outcome (call : Except QNResponseInfo QNFormUpload) (answers : List (QNResponseInfo × Bool)) : List QNResponseInfo :=
  match call with
  | .error info => [info]
  | .ok _ => (verdict 1 answers).toList

end Runs

end RealSocial.Proof
