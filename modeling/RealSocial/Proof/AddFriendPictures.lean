import RealSocial.System.AddFriendRuns

namespace RealSocial.Proof

open Library AddFriendRuns

/-! # The pictures that the requests to add friends name -/

section Statement

variable {Image : Type} (UIImageJPEGRepresentation : Image → Option NSData) (md5String : Option NSData → String)

/-- A retry without an upload makes the id of a picture that was uploaded before. -/
def ReusesUploaded (runs : AddFriendRuns Image) : AddFriendEvent Image → Prop
  | .reTry login time => ∀ image, runs.retried = some (.uploadImageAndAddFriends image true) →
      runs.Uploaded (pictureId UIImageJPEGRepresentation md5String login time image)
  | _ => True

/-- A retry makes an id that no upload before it has, as the clock in the id lets it. -/
def MakesNewId (runs : AddFriendRuns Image) : AddFriendEvent Image → Prop
  | .reTry login time => ∀ image isUploadImage,
      runs.retried = some (.uploadImageAndAddFriends image isUploadImage) →
      ∀ upload ∈ runs.uploads,
        upload.key.pictureId ≠ pictureId UIImageJPEGRepresentation md5String login time image
  | _ => True

def UploadsAgain (runs : AddFriendRuns Image) : AddFriendEvent Image → Prop
  | .reTry _ _ => ∀ image, runs.retried ≠ some (.uploadImageAndAddFriends image true)
  | _ => True

end Statement

variable {Image : Type}

/-! ## Uploads and requests -/

theorem urlWithPictureId_inj {pictureId other : String} :
    RSMediaService.urlWithPictureId pictureId = RSMediaService.urlWithPictureId other ↔ pictureId = other :=
  String.append_right_inj _

theorem requestsUploaded_request (runs : AddFriendRuns Image) (login : RSLoginService) (image : Image)
    (pictureId : String) :
    (runs.addFriendsWithPictureId login image pictureId).RequestsUploaded ↔
      runs.RequestsUploaded ∧ runs.Uploaded pictureId := by
  unfold RequestsUploaded addFriendsWithPictureId
  simp only [List.forall_mem_append, List.forall_mem_singleton, RSAddFriendsViewModel.addFriendReq,
    urlWithPictureId_inj]
  apply and_congr_right
  intro _
  constructor
  · rintro ⟨other, uploaded, rfl⟩
    exact uploaded
  · intro uploaded
    exact ⟨pictureId, uploaded, rfl⟩

theorem requestsUploaded_mono {runs runs' : AddFriendRuns Image} (uploaded : runs.RequestsUploaded)
    (more : ∀ pictureId, runs.Uploaded pictureId → runs'.Uploaded pictureId)
    (same : runs'.requests.map Attempt.key = runs.requests.map Attempt.key) : runs'.RequestsUploaded := by
  intro request member
  have listed : request.key ∈ runs'.requests.map Attempt.key := List.mem_map_of_mem member
  rw [same] at listed
  obtain ⟨before, there, key⟩ := List.mem_map.mp listed
  obtain ⟨pictureId, known, names⟩ := uploaded before there
  rw [key] at names
  exact ⟨pictureId, more pictureId known, names⟩

theorem uploaded_settled {runs runs' : AddFriendRuns Image} {number : Nat} {upload : PictureUpload Image}
    {outcome : Option Bool} (pending : runs.uploads[number]? = some { key := upload })
    (settled : runs'.uploads = runs.uploads.set number { key := upload, outcome }) {pictureId : String}
    (known : runs.Uploaded pictureId) : runs'.Uploaded pictureId := by
  obtain ⟨done, member, named, ok⟩ := known
  have other : done ≠ { key := upload } := by
    rintro rfl
    cases ok
  refine ⟨done, ?_, named, ok⟩
  rw [settled]
  exact mem_set_of_ne pending member other

theorem uploaded_settled_self {runs runs' : AddFriendRuns Image} {number : Nat} {upload : PictureUpload Image}
    (pending : runs.uploads[number]? = some { key := upload })
    (settled : runs'.uploads = runs.uploads.set number { key := upload, outcome := some true }) :
    runs'.Uploaded upload.pictureId := by
  refine ⟨{ key := upload, outcome := some true }, ?_, rfl, rfl⟩
  rw [settled]
  exact List.mem_set (List.getElem?_eq_some_iff.mp pending).1 _

/-! ## Steps -/

theorem uploadAnswered_isOK (info : QNResponseInfo) (subject : AddFriendSubject) :
    (RSAddFriendsViewModel.uploadAnswered info subject).2 = info.isOK := by
  rw [RSAddFriendsViewModel.uploadAnswered, RSMediaService.uploadPictureCDNComplete]
  cases info.isOK <;> rfl

section Steps

variable (UIImageJPEGRepresentation : Image → Option NSData) (md5String : Option NSData → String)
  (parsePKG : NSData → Option RSPKG) (parseFromData : NSData → Except NSError RSAddFriendResp)

theorem requestsUploaded_upload {runs : AddFriendRuns Image} (uploaded : runs.RequestsUploaded)
    (login : RSLoginService) (time : String) (image : Image) :
    (runs.uploadImageAndAddFriends UIImageJPEGRepresentation md5String login time image
      false).RequestsUploaded := by
  apply requestsUploaded_mono uploaded
  · intro pictureId known
    obtain ⟨upload, member, done⟩ := known
    exact ⟨upload, List.mem_append_left _ member, done⟩
  · rfl

theorem step_uploaded {runs : AddFriendRuns Image} {number : Nat} {upload : PictureUpload Image}
    (pending : runs.uploads[number]? = some { key := upload }) (info : QNResponseInfo)
    (login : RSLoginService) :
    ∃ answered : AddFriendRuns Image, answered.requests = runs.requests ∧
      answered.uploads = runs.uploads.set number { key := upload, outcome := some info.isOK } ∧
      step UIImageJPEGRepresentation md5String parsePKG parseFromData runs (.uploaded number info login) =
        if info.isOK then answered.addFriendsWithPictureId login upload.image upload.pictureId
        else answered := by
  let subject := (RSAddFriendsViewModel.uploadAnswered info { sharedError := runs.sharedError }).1
  refine ⟨{ runs with
    uploads := runs.uploads.set number { key := upload, outcome := some info.isOK }
    sharedError := subject.sharedError
    addFriend := RSMineViewController.heard upload.image subject runs.addFriend }, rfl, rfl, ?_⟩
  rw [step, pending, ← uploadAnswered_isOK info { sharedError := runs.sharedError }]

theorem requestsUploaded_uploaded {runs : AddFriendRuns Image} (uploaded : runs.RequestsUploaded)
    (number : Nat) (info : QNResponseInfo) (login : RSLoginService) :
    (step UIImageJPEGRepresentation md5String parsePKG parseFromData runs
      (.uploaded number info login)).RequestsUploaded := by
  cases pending : runs.uploads[number]? with
  | none =>
      rw [step, pending]
      exact uploaded
  | some attempt =>
      obtain ⟨upload, outcome⟩ := attempt
      cases outcome with
      | some outcome =>
          rw [step, pending]
          exact uploaded
      | none =>
          obtain ⟨answered, requests, settled, stepped⟩ := step_uploaded UIImageJPEGRepresentation md5String
            parsePKG parseFromData pending info login
          have kept : answered.RequestsUploaded :=
            requestsUploaded_mono uploaded (fun _ known => uploaded_settled pending settled known)
              (congrArg (List.map Attempt.key) requests)
          rw [stepped]
          cases ok : info.isOK with
          | true =>
              rw [ok] at settled
              exact (requestsUploaded_request answered login upload.image upload.pictureId).mpr
                ⟨kept, uploaded_settled_self pending settled⟩
          | false => exact kept

theorem requestsUploaded_answered {runs : AddFriendRuns Image} (uploaded : runs.RequestsUploaded)
    (number : Nat) (outcome : Except NSError NSData) :
    (step UIImageJPEGRepresentation md5String parsePKG parseFromData runs
      (.answered number outcome)).RequestsUploaded := by
  rw [step]
  split
  · rename_i call pending
    apply requestsUploaded_mono uploaded
    · exact fun _ known => known
    · exact map_set_of_same pending rfl
  · exact uploaded

theorem requestsUploaded_reTry {runs : AddFriendRuns Image} (uploaded : runs.RequestsUploaded)
    (login : RSLoginService) (time : String) :
    (step UIImageJPEGRepresentation md5String parsePKG parseFromData runs
      (.reTry login time)).RequestsUploaded ↔
        ReusesUploaded UIImageJPEGRepresentation md5String runs (.reTry login time) := by
  rw [step, ReusesUploaded]
  cases runs.retried with
  | none => simp [uploaded]
  | some block =>
      cases block with
      | nothing => simp [uploaded]
      | uploadImageAndAddFriends image isUploadImage =>
          cases isUploadImage with
          | false =>
              have kept := requestsUploaded_upload UIImageJPEGRepresentation md5String uploaded login time image
              simp [kept]
          | true =>
              have made := requestsUploaded_request runs login image
                (pictureId UIImageJPEGRepresentation md5String login time image)
              rw [and_iff_right uploaded] at made
              refine made.trans ?_
              simp

theorem requestsUploaded_step (runs : AddFriendRuns Image) (event : AddFriendEvent Image)
    (uploaded : runs.RequestsUploaded) :
    (step UIImageJPEGRepresentation md5String parsePKG parseFromData runs event).RequestsUploaded ↔
      ReusesUploaded UIImageJPEGRepresentation md5String runs event := by
  cases event with
  | openAddFriends => exact ⟨fun _ => trivial, fun _ => uploaded⟩
  | didFinishWithImage image login time =>
      have kept := requestsUploaded_upload UIImageJPEGRepresentation md5String uploaded login time image
      exact ⟨fun _ => trivial, fun _ => kept⟩
  | uploaded number info login =>
      have kept := requestsUploaded_uploaded UIImageJPEGRepresentation md5String parsePKG parseFromData uploaded
        number info login
      exact ⟨fun _ => trivial, fun _ => kept⟩
  | answered number outcome =>
      have kept := requestsUploaded_answered UIImageJPEGRepresentation md5String parsePKG parseFromData uploaded
        number outcome
      exact ⟨fun _ => trivial, fun _ => kept⟩
  | reTry login time =>
      exact requestsUploaded_reTry UIImageJPEGRepresentation md5String parsePKG parseFromData uploaded login time

theorem reusesUploaded_of_new {runs : AddFriendRuns Image} {event : AddFriendEvent Image}
    (new : MakesNewId UIImageJPEGRepresentation md5String runs event) :
    ReusesUploaded UIImageJPEGRepresentation md5String runs event ↔ UploadsAgain runs event := by
  cases event with
  | openAddFriends => exact Iff.rfl
  | didFinishWithImage image login time => exact Iff.rfl
  | uploaded number info login => exact Iff.rfl
  | answered number outcome => exact Iff.rfl
  | reTry login time =>
      constructor
      · intro reuses image retried
        obtain ⟨upload, member, named, -⟩ := reuses image retried
        exact new image true retried upload member named
      · intro again image retried
        exact absurd retried (again image)

end Steps

/-! ## Whole runs -/

/-- Each request names an uploaded picture exactly when each retry without an upload makes an id that was
uploaded. Where the ids of retries are new, these are the runs without such retries. -/
theorem requests_uploaded_iff (UIImageJPEGRepresentation : Image → Option NSData)
    (md5String : Option NSData → String) (parsePKG : NSData → Option RSPKG)
    (parseFromData : NSData → Except NSError RSAddFriendResp) (events : List (AddFriendEvent Image)) :
    (EveryState (step UIImageJPEGRepresentation md5String parsePKG parseFromData) RequestsUploaded {} events ↔
      EveryStep (step UIImageJPEGRepresentation md5String parsePKG parseFromData)
        (ReusesUploaded UIImageJPEGRepresentation md5String) {} events) ∧
    (EveryStep (step UIImageJPEGRepresentation md5String parsePKG parseFromData)
        (MakesNewId UIImageJPEGRepresentation md5String) {} events →
      (EveryState (step UIImageJPEGRepresentation md5String parsePKG parseFromData) RequestsUploaded {}
          events ↔
        EveryStep (step UIImageJPEGRepresentation md5String parsePKG parseFromData) UploadsAgain {}
          events)) := by
  have initially : RequestsUploaded ({} : AddFriendRuns Image) :=
    fun request member => absurd member List.not_mem_nil
  have exact_runs := everyState_iff_of_good (fun _ good => good)
    (requestsUploaded_step UIImageJPEGRepresentation md5String parsePKG parseFromData)
    (fun runs event uploaded => (requestsUploaded_step UIImageJPEGRepresentation md5String parsePKG
      parseFromData runs event uploaded).mpr) initially events
  refine ⟨exact_runs, ?_⟩
  intro new
  rw [exact_runs]
  exact everyStep_congr (fun _ _ => reusesUploaded_of_new UIImageJPEGRepresentation md5String) new

def mia : RSLoginService where
  loginInfo := { wxuid := some "mia", sessionKey := some [1], qiniuToken := some "token" }

/-- The upload succeeds, the request gets no answer, and the retry a second later names another picture. -/
def retriedRequest : List (AddFriendEvent Unit) :=
  [.openAddFriends, .didFinishWithImage () mia "1520000000.000000",
    .uploaded 0 { statusCode := 200, reqId := some "r" } mia, .answered 0 (.error (.errorWithString "offline")),
    .reTry mia "1520000001.000000"]

theorem retry_names_missing_picture :
    ¬ EveryState (step (fun _ => some [7]) (fun _ => "digest") (fun _ => none) (fun _ => .ok {}))
      RequestsUploaded {} retriedRequest := by
  intro every
  obtain ⟨pictureId, ⟨upload, member, rfl, -⟩, names⟩ :=
    every.last { key := { image := (), req := _ } } (List.mem_of_getElem? (i := 1) rfl)
  obtain rfl := List.mem_singleton.mp member
  revert names
  decide

end RealSocial.Proof
