import RealSocial.Features.AddFriends
import RealSocial.Proof.NetWorkAnswers

namespace RealSocial.Proof

open Library RSAddFriendsViewModel

/-! # What one attempt to add friends sends to its subscriber -/

section Statement

variable (parsePKG : NSData → Option RSPKG) (parseFromData : NSData → Except NSError RSAddFriendResp)
  (isUploadImage : Bool) (info : QNResponseInfo) (outcome : Except NSError NSData)

/-- The stage of the request that fails, where one does. -/
def requestStage : ErrorType :=
  match RSNetWorkService.sendRequest parsePKG (request parseFromData) outcome with
  | .error _ :: _ => .addFriendNetError
  | _ => .addFriendImageError

def failedStage : ErrorType :=
  if isUploadImage = false ∧ info.isOK = false then .uploadImageToCDNError
  else requestStage parsePKG parseFromData outcome

/-- The subscriber hears of one value, or of one error whose stage the shared error names. -/
def OneOutcome (sharedError : ErrorType) : Prop :=
  ∃ event, SignalEvent.received
      (createToAddFriends parsePKG parseFromData isUploadImage info outcome sharedError).events = [event] ∧
    ((∃ value, event = .next value) ∨
      (∃ error, event = .error error) ∧
        (createToAddFriends parsePKG parseFromData isUploadImage info outcome sharedError).sharedError =
          failedStage parsePKG parseFromData isUploadImage info outcome)

end Statement

variable {parsePKG : NSData → Option RSPKG} {parseFromData : NSData → Except NSError RSAddFriendResp}

/-! ## The request -/

theorem addFriend_delivers (parsePKG : NSData → Option RSPKG)
    (parseFromData : NSData → Except NSError RSAddFriendResp) (outcome : Except NSError NSData) :
    (∃ error, RSNetWorkService.sendRequest parsePKG (request parseFromData) outcome = [.error error]) ∨
    ∃ resp, RSNetWorkService.sendRequest parsePKG (request parseFromData) outcome =
      [.next (.resp resp), .completed] := by
  cases outcome with
  | error error => exact .inl ⟨error, rfl⟩
  | ok responseObject =>
      have completes : RSNetWorkService.sendRequest parsePKG (request parseFromData) (.ok responseObject) =
        RSNetWorkService.completionHandler parsePKG (request parseFromData) (.ok responseObject) := rfl
      have answered : Answered (RSAddFriendResp.respClass parseFromData) _
          (RSNetWorkService.completionHandler parsePKG (request parseFromData) (.ok responseObject)) :=
        completionHandler_answered parsePKG rfl responseObject
      rw [completes]
      generalize RSNetWorkService.completionHandler parsePKG (request parseFromData) (.ok responseObject) =
        events at answered ⊢
      cases answered with
      | refused error none => exact .inl ⟨error, rfl⟩
      | resp resp some => exact .inr ⟨resp, rfl⟩

theorem addFriendResp_cases (resp : RSAddFriendResp) (subject : AddFriendSubject) :
    (∃ value, addFriendResp resp subject = subject.sendNext value) ∨
    addFriendResp resp subject = subject.sendError .addFriendImageError none := by
  rw [addFriendResp]
  by_cases failed : resp.opCode = 0
  · rw [if_pos failed]
    exact .inr rfl
  · rw [if_neg failed]
    cases resp.toAddArray.getLast? with
    | none => exact .inr rfl
    | some item => exact .inl ⟨_, rfl⟩

/-- An answer to the request makes one event, and an error comes with the stage that failed. -/
theorem addFriendAnswered_cases (parsePKG : NSData → Option RSPKG)
    (parseFromData : NSData → Except NSError RSAddFriendResp) (outcome : Except NSError NSData)
    (subject : AddFriendSubject) :
    (∃ value, addFriendAnswered parsePKG parseFromData outcome subject = subject.sendNext value) ∨
    ∃ error, addFriendAnswered parsePKG parseFromData outcome subject =
      subject.sendError (requestStage parsePKG parseFromData outcome) error := by
  rw [addFriendAnswered, requestStage]
  rcases addFriend_delivers parsePKG parseFromData outcome with ⟨error, delivered⟩ | ⟨resp, delivered⟩
  · rw [delivered]
    exact .inr ⟨some error, rfl⟩
  · rw [delivered]
    rcases addFriendResp_cases resp subject with ⟨value, sent⟩ | failed
    · exact .inl ⟨value, sent⟩
    · exact .inr ⟨none, failed⟩

/-! ## The upload -/

theorem uploadAnswered_ok {info : QNResponseInfo} (ok : info.isOK = true) (subject : AddFriendSubject) :
    uploadAnswered info subject = (subject, true) := by
  rw [uploadAnswered, RSMediaService.uploadPictureCDNComplete, if_pos ok]

theorem uploadAnswered_error {info : QNResponseInfo} {error : NSError} (failed : info.error = some error)
    (subject : AddFriendSubject) :
    uploadAnswered info subject = (subject.sendError .uploadImageToCDNError (some error), false) := by
  have not_ok : info.isOK = false := by simp [QNResponseInfo.isOK, failed]
  rw [uploadAnswered, RSMediaService.uploadPictureCDNComplete, not_ok, failed]
  rfl

theorem uploadAnswered_silent {info : QNResponseInfo} (not_ok : info.isOK = false)
    (no_error : info.error = none) (subject : AddFriendSubject) :
    uploadAnswered info subject = (subject, false) := by
  rw [uploadAnswered, RSMediaService.uploadPictureCDNComplete, not_ok, no_error]
  rfl

/-! ## Both stages -/

section Attempt

variable {isUploadImage : Bool} {info : QNResponseInfo}

theorem createToAddFriends_request (outcome : Except NSError NSData) (sharedError : ErrorType)
    (requested : isUploadImage = true ∨ info.isOK = true) :
    createToAddFriends parsePKG parseFromData isUploadImage info outcome sharedError =
      addFriendAnswered parsePKG parseFromData outcome { sharedError } := by
  rw [createToAddFriends]
  cases isUploadImage with
  | true => rfl
  | false =>
      rw [uploadAnswered_ok (requested.resolve_left Bool.false_ne_true)]
      rfl

theorem oneOutcome_request (outcome : Except NSError NSData) (sharedError : ErrorType)
    (requested : isUploadImage = true ∨ info.isOK = true) :
    OneOutcome parsePKG parseFromData isUploadImage info outcome sharedError := by
  have stage : failedStage parsePKG parseFromData isUploadImage info outcome =
      requestStage parsePKG parseFromData outcome := by
    rw [failedStage, if_neg]
    intro ⟨uploads, not_ok⟩
    rw [uploads, not_ok] at requested
    exact requested.elim Bool.false_ne_true Bool.false_ne_true
  rw [OneOutcome, createToAddFriends_request outcome sharedError requested, stage]
  rcases addFriendAnswered_cases parsePKG parseFromData outcome { sharedError } with
    ⟨value, sent⟩ | ⟨error, sent⟩
  · rw [sent]
    exact ⟨.next value, rfl, .inl ⟨value, rfl⟩⟩
  · rw [sent]
    exact ⟨.error error, rfl, .inr ⟨⟨error, rfl⟩, rfl⟩⟩

theorem oneOutcome_error (outcome : Except NSError NSData) (sharedError : ErrorType) {error : NSError}
    (failed : info.error = some error) :
    OneOutcome parsePKG parseFromData false info outcome sharedError := by
  have not_ok : info.isOK = false := by simp [QNResponseInfo.isOK, failed]
  have sent : createToAddFriends parsePKG parseFromData false info outcome sharedError =
      AddFriendSubject.sendError .uploadImageToCDNError (some error) { sharedError } := by
    rw [createToAddFriends, uploadAnswered_error failed]
    rfl
  rw [OneOutcome, sent, failedStage, if_pos ⟨rfl, not_ok⟩]
  exact ⟨.error (some error), rfl, .inr ⟨⟨_, rfl⟩, rfl⟩⟩

theorem createToAddFriends_silent (outcome : Except NSError NSData) (sharedError : ErrorType)
    (not_ok : info.isOK = false) (no_error : info.error = none) :
    createToAddFriends parsePKG parseFromData false info outcome sharedError = { sharedError } := by
  rw [createToAddFriends, uploadAnswered_silent not_ok no_error]
  rfl

end Attempt

theorem one_outcome_iff (parsePKG : NSData → Option RSPKG)
    (parseFromData : NSData → Except NSError RSAddFriendResp) (isUploadImage : Bool) (info : QNResponseInfo)
    (outcome : Except NSError NSData) (sharedError : ErrorType) :
    OneOutcome parsePKG parseFromData isUploadImage info outcome sharedError ↔
      isUploadImage = true ∨ info.isOK = true ∨ info.error ≠ none := by
  by_cases requested : isUploadImage = true ∨ info.isOK = true
  · have one : OneOutcome parsePKG parseFromData isUploadImage info outcome sharedError :=
      oneOutcome_request outcome sharedError requested
    exact ⟨fun _ => requested.imp_right .inl, fun _ => one⟩
  · obtain ⟨uploads, not_ok⟩ := not_or.mp requested
    rw [Bool.not_eq_true] at uploads not_ok
    subst uploads
    cases failed : info.error with
    | some error => exact ⟨fun _ => .inr (.inr (by simp)), fun _ => oneOutcome_error outcome sharedError failed⟩
    | none =>
        rw [OneOutcome, createToAddFriends_silent outcome sharedError not_ok failed]
        simp [not_ok]

/-- The CDN answers 200 with a body and without a request id, so the upload fails and no event says so. -/
theorem upload_without_reqId_is_silent :
    ¬ OneOutcome (fun _ => none) (fun _ => .ok {}) false { statusCode := 200 } (.ok [])
      .uploadImageToCDNError := by
  intro one
  obtain ⟨event, heard, -⟩ := one
  revert heard
  simp [createToAddFriends, uploadAnswered, RSMediaService.uploadPictureCDNComplete, QNResponseInfo.isOK]

end RealSocial.Proof
