import RealSocial.Library.Run
import RealSocial.Proof.SpaceHandlers

namespace RealSocial.Proof

open Library SpaceTasks RSSpaceService

/-! # How often each request of a task is transmitted -/

def taskRequests (login : RSLoginService) (mediaId : String) (users : List String) (spaces : List UInt64) :
    List RSSpaceRequest :=
  (if users = [] then [] else [buildRequestWithPictureIdToUsers login mediaId users]) ++
    spaces.map fun spaceId => buildRequestWithPictureIdToSpaces login mediaId [spaceId]

def ExactlyOnce (mediaId : String) (users : List String) (spaces : List UInt64) (state : SpaceTasks) : Prop :=
  (sentBy mediaId state).Perm (taskRequests state.login mediaId users spaces)

def Creates (mediaId : String) : SpaceTaskEvent → Prop
  | .create name .. => name = mediaId
  | _ => False

/-! ## The signals of one task -/

theorem taskRequests_eq_nil {login : RSLoginService} {mediaId : String} {users : List String}
    {spaces : List UInt64} : taskRequests login mediaId users spaces = [] ↔ users = [] ∧ spaces = [] := by
  rw [taskRequests, List.append_eq_nil_iff, List.map_eq_nil_iff]
  by_cases empty : users = []
  · simp only [empty, if_true]
  · simp only [empty, if_false, reduceCtorEq]

theorem foldl_signals (request : UInt64 → RSSpaceRequest) (spaces : List UInt64)
    (signals : List (ColdSignal RSSpaceRequest)) (sent : List RSSpaceRequest) :
    spaces.foldl (fun (signals, sent) spaceId =>
      let signal := sendRequest (request spaceId)
      (signals ++ [signal], sent ++ signal.transmissions)) (signals, sent) =
    (signals ++ (spaces.map request).map .request, sent ++ spaces.map request) := by
  induction spaces generalizing signals sent with
  | nil => simp only [List.foldl_nil, List.map_nil, List.append_nil]
  | cons spaceId spaces ih =>
      rw [List.foldl_cons, ih, List.append_assoc, List.append_assoc]
      rfl

/-- Every request goes out once for its log line and once for the zip. -/
theorem createSignalSpace_twice (login : RSLoginService) (mediaId : String) (users : List String)
    (spaces : List UInt64) :
    createSignalSpaceWithPictureId login mediaId users spaces =
      (taskRequests login mediaId users spaces ++ taskRequests login mediaId users spaces,
        .zip ((taskRequests login mediaId users spaces).map .request)) := by
  have toUsers : (if users.length > 0 then
        let signal := sendRequest (buildRequestWithPictureIdToUsers login mediaId users)
        ([signal], signal.transmissions)
      else ([], [])) =
      ((if users = [] then [] else [buildRequestWithPictureIdToUsers login mediaId users]).map .request,
        if users = [] then [] else [buildRequestWithPictureIdToUsers login mediaId users]) := by
    cases users <;> rfl
  rw [createSignalSpaceWithPictureId, toUsers]
  simp only [foldl_signals, ← List.map_append, ColdSignal.transmissions_zip_requests]
  rfl

/-! ## Over a run -/

def Uploading (mediaId : String) (state : SpaceTasks) : Prop :=
  ∃ type users spaces, state.tasks mediaId = some (.uploading type users spaces)

structure Sent (mediaId : String) (login : RSLoginService) (requests : List RSSpaceRequest)
    (state : SpaceTasks) : Prop where
  login : state.login = login
  sent : sentBy mediaId state = requests
  uploaded : ¬ Uploading mediaId state

theorem not_uploading_setTask {mediaId : String} {state : SpaceTasks} {task : Option SpaceTask}
    (other : ∀ type users spaces, task ≠ some (.uploading type users spaces)) :
    ¬ Uploading mediaId (state.setTask mediaId task) := by
  rintro ⟨type, users, spaces, isUploading⟩
  rw [setTask_self] at isUploading
  exact other type users spaces isUploading

theorem not_uploading_requesting {mediaId : String} {state : SpaceTasks} (zipped : ColdSignal RSSpaceRequest)
    (answers : List (Option Bool)) :
    ¬ Uploading mediaId (state.setTask mediaId (some (.requesting zipped answers))) :=
  not_uploading_setTask (by simp)

theorem not_uploading_answer {mediaId : String} {state : SpaceTasks} (uploaded : ¬ Uploading mediaId state)
    (i : Nat) (success ok : Bool) (zipped : ColdSignal RSSpaceRequest) (answers : List (Option Bool)) :
    ¬ Uploading mediaId (state.answer mediaId i success ok zipped answers) := by
  simp only [SpaceTasks.answer]
  split_ifs
  · exact not_uploading_requesting zipped (answers.set i (some success))
  · exact not_uploading_requesting zipped (answers.set i (some success))
  · exact uploaded

theorem sent_createSignalSpace {mediaId : String} {state : SpaceTasks} (fresh : sentBy mediaId state = [])
    (users : List String) (spaces : List UInt64) :
    Sent mediaId state.login
      (taskRequests state.login mediaId users spaces ++ taskRequests state.login mediaId users spaces)
      (state.createSignalSpace mediaId users spaces) where
  login := rfl
  sent := by
    rw [createSignalSpace, createSignalSpace_twice]
    refine (sentBy_transmit _ mediaId).trans ?_
    rw [fresh, if_pos rfl, List.nil_append]
  uploaded := not_uploading_requesting _ _

theorem Sent.step {mediaId : String} {login : RSLoginService} {requests : List RSSpaceRequest}
    {state : SpaceTasks} (sent : Sent mediaId login requests state) {event : SpaceTaskEvent}
    (noCreate : ¬ Creates mediaId event) : Sent mediaId login requests (SpaceTasks.step state event) := by
  have isLocal := localTo_step state event
  by_cases own : event.mediaId = mediaId
  · subst own
    cases event with
    | create name users spaces type createTime ok => exact absurd rfl noCreate
    | uploaded name isOK ok =>
        rcases task : state.tasks name with _ | ⟨type, users, spaces⟩ | ⟨zipped, answers⟩
        · simpa only [SpaceTasks.step, task] using sent
        · exact absurd ⟨type, users, spaces, task⟩ sent.uploaded
        · simpa only [SpaceTasks.step, task] using sent
    | answered name i success ok =>
        rcases task : state.tasks name with _ | ⟨type, users, spaces⟩ | ⟨zipped, answers⟩
        · simpa only [SpaceTasks.step, task] using sent
        · simpa only [SpaceTasks.step, task] using sent
        · refine ⟨isLocal.login.trans sent.login, ?_, ?_⟩
          · simp only [SpaceTasks.step, task]
            exact (sentBy_answer i success ok zipped answers name).trans sent.sent
          · simp only [SpaceTasks.step, task]
            exact not_uploading_answer sent.uploaded i success ok zipped answers
  · refine ⟨isLocal.login.trans sent.login, (isLocal.sent mediaId (Ne.symm own)).trans sent.sent, ?_⟩
    rw [Uploading, isLocal.tasks mediaId (Ne.symm own)]
    exact sent.uploaded

theorem sent_run {mediaId : String} {login : RSLoginService} {requests : List RSSpaceRequest}
    {state : SpaceTasks} (sent : Sent mediaId login requests state) {events : List SpaceTaskEvent}
    (noCreate : ∀ event ∈ events, ¬ Creates mediaId event) :
    Sent mediaId login requests (run step state events) := by
  have kept : ∀ before event, Sent mediaId login requests before → ¬ Creates mediaId event →
      Sent mediaId login requests (step before event) := fun _ _ before idle => before.step idle
  exact run_of_events kept sent noCreate

structure Waits (mediaId : String) (login : RSLoginService) (users : List String) (spaces : List UInt64)
    (state : SpaceTasks) : Prop where
  login : state.login = login
  task : state.tasks mediaId = some (.uploading .receiverTypeList users spaces)
  sent : sentBy mediaId state = []

theorem Waits.other {mediaId : String} {login : RSLoginService} {users : List String} {spaces : List UInt64}
    {state : SpaceTasks} (waits : Waits mediaId login users spaces state) {event : SpaceTaskEvent}
    (other : event.mediaId ≠ mediaId) : Waits mediaId login users spaces (step state event) := by
  have isLocal := localTo_step state event
  exact ⟨isLocal.login.trans waits.login, (isLocal.tasks mediaId other.symm).trans waits.task,
    (isLocal.sent mediaId other.symm).trans waits.sent⟩

theorem waits_run {mediaId : String} {login : RSLoginService} {users : List String} {spaces : List UInt64}
    {state : SpaceTasks} (waits : Waits mediaId login users spaces state) {events : List SpaceTaskEvent}
    (others : ∀ event ∈ events, event.mediaId ≠ mediaId) :
    Waits mediaId login users spaces (run step state events) := by
  have kept : ∀ before event, Waits mediaId login users spaces before → event.mediaId ≠ mediaId →
      Waits mediaId login users spaces (step before event) := fun _ _ before other => before.other other
  exact run_of_events kept waits others

theorem waits_create {mediaId : String} {state : SpaceTasks} (fresh : sentBy mediaId state = [])
    (users : List String) (spaces : List UInt64) (createTime : Int) :
    Waits mediaId state.login users spaces
      (step state (.create mediaId users spaces .receiverTypeList createTime true)) where
  login := (localTo_create users spaces .receiverTypeList createTime true).login
  task := setTask_self mediaId _ _
  sent := (sentBy_create users spaces .receiverTypeList createTime true mediaId).trans fresh

theorem Waits.uploaded {mediaId : String} {login : RSLoginService} {users : List String}
    {spaces : List UInt64} {state : SpaceTasks} (waits : Waits mediaId login users spaces state) (ok : Bool) :
    Sent mediaId login
      (if ok then taskRequests login mediaId users spaces ++ taskRequests login mediaId users spaces else [])
      (step state (.uploaded mediaId true ok)) := by
  obtain ⟨rfl, task, sent⟩ := waits
  simp only [step, task]
  cases ok with
  | false =>
      have taken : ¬ Uploading mediaId (state.setTask mediaId none) := not_uploading_setTask (by simp)
      exact ⟨rfl, sent, taken⟩
  | true =>
      let updated := ((state.setTask mediaId none).updateStatus true mediaId .creating).2
      have fresh : sentBy mediaId updated = [] := sent
      exact sent_createSignalSpace fresh users spaces

/-- A task for the memories or for all friends has no lists, and its one signal is subscribed once. -/
theorem sentBy_creator {mediaId : String} {state : SpaceTasks} {type : RSenReceiverType} {users : List String}
    {spaces : List UInt64} (task : state.tasks mediaId = some (.uploading type users spaces))
    (creator : type = .receiverTypeCreator ∨ type = .receiverTypeCreatorFriend) :
    sentBy mediaId (step state (.uploaded mediaId true true)) =
      sentBy mediaId state ++ [buildRequestWithPictureIdType state.login mediaId type] := by
  let updated := ((state.setTask mediaId none).updateStatus true mediaId .creating).2
  have transmitted := @sentBy_transmit mediaId updated
    (createSpaceWithMediaId state.login mediaId type) mediaId
  rw [if_pos rfl] at transmitted
  simp only [step, task]
  rcases creator with rfl | rfl
  · exact transmitted
  · exact transmitted

theorem sent_twice {start : SpaceTasks} {mediaId : String} {users : List String} {spaces : List UInt64}
    {createTime : Int} {uploading answering : List SpaceTaskEvent} {ok : Bool}
    (fresh : sentBy mediaId start = []) (others : ∀ event ∈ uploading, event.mediaId ≠ mediaId)
    (noCreate : ∀ event ∈ answering, ¬ Creates mediaId event) :
    Sent mediaId start.login
      (if ok then
        taskRequests start.login mediaId users spaces ++ taskRequests start.login mediaId users spaces
      else [])
      (run step start (.create mediaId users spaces .receiverTypeList createTime true ::
        (uploading ++ .uploaded mediaId true ok :: answering))) := by
  have waits := waits_run (waits_create fresh users spaces createTime) others
  rw [run_cons, run_append, run_cons]
  exact sent_run (waits.uploaded ok) noCreate

theorem sent_exactlyOnce_iff {start : SpaceTasks} {mediaId : String} {users : List String}
    {spaces : List UInt64} {createTime : Int} {uploading answering : List SpaceTaskEvent} {ok : Bool}
    (fresh : sentBy mediaId start = []) (others : ∀ event ∈ uploading, event.mediaId ≠ mediaId)
    (noCreate : ∀ event ∈ answering, ¬ Creates mediaId event) :
    ExactlyOnce mediaId users spaces
      (run step start (.create mediaId users spaces .receiverTypeList createTime true ::
        (uploading ++ .uploaded mediaId true ok :: answering))) ↔ users = [] ∧ spaces = [] := by
  have sent := @sent_twice start mediaId users spaces createTime uploading answering ok fresh others noCreate
  rw [ExactlyOnce, sent.sent, sent.login, ← @taskRequests_eq_nil start.login mediaId]
  constructor
  · intro once
    have length := once.length_eq
    cases ok with
    | false => exact List.length_eq_zero_iff.mp length.symm
    | true =>
        rw [if_pos rfl, List.length_append] at length
        exact List.length_eq_zero_iff.mp (by omega)
  · intro none
    rw [none]
    cases ok with
    | false => exact List.Perm.refl []
    | true => exact List.Perm.refl []

def aliceSends : SpaceTasks where
  login := RSLoginService.updateWithLoginResp { userName := "alice", sessionKey := [1] } {}
  rows := ∅

-- while the picture is uploaded another task is created, and then its upload finishes
def hillUploaded : List SpaceTaskEvent :=
  [.create "hill" ["bob"] [7] .receiverTypeList 1 true, .uploaded "hill" true true]

theorem sent_exactlyOnce_nobody :
    ExactlyOnce "sea" [] [] (run step aliceSends (.create "sea" [] [] .receiverTypeList 0 true ::
      (hillUploaded ++ .uploaded "sea" true true :: [.answered "hill" 0 true true]))) := by
  have others : ∀ event ∈ hillUploaded, event.mediaId ≠ "sea" := by decide
  have noCreate : ∀ event ∈ [SpaceTaskEvent.answered "hill" 0 true true], ¬ Creates "sea" event := by
    simp [Creates]
  exact (sent_exactlyOnce_iff rfl others noCreate).mpr ⟨rfl, rfl⟩

theorem picture_for_bob_is_sent_twice :
    sentBy "sea" (run step aliceSends [.create "sea" ["bob"] [] .receiverTypeList 0 true,
      .uploaded "sea" true true]) =
      [buildRequestWithPictureIdToUsers aliceSends.login "sea" ["bob"],
        buildRequestWithPictureIdToUsers aliceSends.login "sea" ["bob"]] ∧
    ¬ ExactlyOnce "sea" ["bob"] [] (run step aliceSends [.create "sea" ["bob"] [] .receiverTypeList 0 true,
      .uploaded "sea" true true]) := by
  refine ⟨by rfl, ?_⟩
  intro once
  have length := once.length_eq
  revert length
  decide

end RealSocial.Proof
