import RealSocial.Library.Run
import RealSocial.Proof.SpaceHandlers

namespace RealSocial.Proof

open Library SpaceTasks

/-! # The status of each task against the steps of the others -/

def Frame (state : SpaceTasks) (event : SpaceTaskEvent) : Prop :=
  ∀ name, name ≠ event.mediaId → status name (step state event) = status name state

def ownEvents (mediaId : String) (events : List SpaceTaskEvent) : List SpaceTaskEvent :=
  events.filter fun event => event.mediaId = mediaId

def StatusByOwnEvents (start : SpaceTasks) (events : List SpaceTaskEvent) : Prop :=
  ∀ mediaId, status mediaId (run step start events) =
    status mediaId (run step start (ownEvents mediaId events))

def StatusIsolated (start : SpaceTasks) (events : List SpaceTaskEvent) : Prop :=
  EveryStep step Frame start events ∧ ∀ reached, reached <+: events → StatusByOwnEvents start reached

/-- The status that a step writes, when its write succeeds. -/
def statusWritten (state : SpaceTasks) : SpaceTaskEvent → Option RSSpaceCreateModelStatus
  | .create .. => none
  | .uploaded mediaId isOK ok =>
      match state.tasks mediaId with
      | some (.uploading ..) => if isOK ∧ ok then some .creating else none
      | _ => none
  | .answered mediaId i success ok =>
      match state.tasks mediaId with
      | some (.requesting zipped answers) =>
          if answers[i]? = some none ∧ zipped.emitted (answers.set i (some success)) ∧ ok then some .finish
          else none
      | _ => none

def OthersAgree (state : SpaceTasks) (event : SpaceTaskEvent) : Prop :=
  ∀ written ∈ statusWritten state event, ∀ row ∈ state.rows.rows, row.mediaId ≠ event.mediaId →
    row.status = written

/-! ## One step -/

/-- A status that a step writes is written to every row. -/
def writeStatus (written : Option RSSpaceCreateModelStatus) (status : Option RSSpaceCreateModelStatus) :
    Option RSSpaceCreateModelStatus :=
  match written with
  | some written => status.map fun _ => written
  | none => status

theorem status_uploaded (state : SpaceTasks) (mediaId : String) (isOK ok : Bool) (name : String) :
    status name (step state (.uploaded mediaId isOK ok)) =
      writeStatus (statusWritten state (.uploaded mediaId isOK ok)) (status name state) := by
  rcases task : state.tasks mediaId with _ | ⟨type, users, spaces⟩ | ⟨zipped, answers⟩
  · simp only [step, statusWritten, task, writeStatus]
  · simp only [step, statusWritten, task, status_uploadComplete]
    split_ifs <;> rfl
  · simp only [step, statusWritten, task, writeStatus]

theorem status_answered (state : SpaceTasks) (mediaId : String) (i : Nat) (success ok : Bool) (name : String) :
    status name (step state (.answered mediaId i success ok)) =
      writeStatus (statusWritten state (.answered mediaId i success ok)) (status name state) := by
  rcases task : state.tasks mediaId with _ | ⟨type, users, spaces⟩ | ⟨zipped, answers⟩
  · simp only [step, statusWritten, task, writeStatus]
  · simp only [step, statusWritten, task, writeStatus]
  · simp only [step, statusWritten, task, status_answer]
    split_ifs <;> rfl

theorem status_step_other {state : SpaceTasks} {event : SpaceTaskEvent} {name : String}
    (other : name ≠ event.mediaId) :
    status name (step state event) = writeStatus (statusWritten state event) (status name state) := by
  cases event with
  | create mediaId users spaces type createTime ok =>
      rw [step, status_create, if_neg fun both => other both.2.symm]
      rfl
  | uploaded mediaId isOK ok => exact status_uploaded state mediaId isOK ok name
  | answered mediaId i success ok => exact status_answered state mediaId i success ok name

theorem frame_iff_othersAgree (state : SpaceTasks) (event : SpaceTaskEvent) :
    Frame state event ↔ OthersAgree state event := by
  unfold Frame OthersAgree
  cases written : statusWritten state event with
  | none =>
      simp only [Option.mem_def, reduceCtorEq, false_implies, implies_true, iff_true]
      intro name other
      rw [status_step_other other, written]
      rfl
  | some new =>
      simp only [Option.mem_def, Option.some.injEq, forall_eq']
      constructor
      · intro frame row member other
        have kept := frame row.mediaId other
        rw [status_step_other other, written, status, Table.find_of_mem member] at kept
        exact (Option.some.inj kept).symm
      · intro agree name other
        rw [status_step_other other, written, status]
        cases found : state.rows.find name with
        | none => rfl
        | some row =>
            have named := Table.find_key found
            have same := agree row (Table.mem_of_find found) (named ▸ other)
            simp [same, writeStatus]

/-! ## What a task knows -/

/-- Two states that a task cannot tell apart. -/
structure Agree (mediaId : String) (left right : SpaceTasks) : Prop where
  login : left.login = right.login
  task : left.tasks mediaId = right.tasks mediaId
  status : status mediaId left = status mediaId right

theorem Agree.frame {mediaId : String} {left right : SpaceTasks} (agree : Agree mediaId left right)
    {event : SpaceTaskEvent} (other : mediaId ≠ event.mediaId) (frame : Frame left event) :
    Agree mediaId (step left event) right where
  login := (localTo_step left event).login.trans agree.login
  task := ((localTo_step left event).tasks mediaId other).trans agree.task
  status := (frame mediaId other).trans agree.status

section
variable {mediaId : String} {left right : SpaceTasks} (agree : Agree mediaId left right)
include agree

theorem Agree.setTask {task task' : Option SpaceTask} (same : task = task') :
    Agree mediaId (left.setTask mediaId task) (right.setTask mediaId task') where
  login := agree.login
  task := by rw [setTask_self, setTask_self, same]
  status := agree.status

theorem Agree.transmit (requests requests' : List RSSpaceRequest) :
    Agree mediaId (left.transmit mediaId requests) (right.transmit mediaId requests') :=
  ⟨agree.login, agree.task, agree.status⟩

theorem Agree.updateStatus (ok : Bool) (written : RSSpaceCreateModelStatus) :
    Agree mediaId (left.updateStatus ok mediaId written).2 (right.updateStatus ok mediaId written).2 where
  login := agree.login
  task := agree.task
  status := by rw [status_updateStatus, status_updateStatus, agree.status]

theorem Agree.create (users : List String) (spaces : List UInt64) (type : RSenReceiverType)
    (createTime : Int) (ok : Bool) :
    Agree mediaId (left.create mediaId users spaces type createTime ok)
      (right.create mediaId users spaces type createTime ok) where
  login := (localTo_create users spaces type createTime ok).login.trans
    (agree.login.trans (localTo_create users spaces type createTime ok).login.symm)
  task := by
    cases ok with
    | false => exact agree.task
    | true => exact (setTask_self mediaId _ _).trans (setTask_self mediaId _ _).symm
  status := by rw [status_create, status_create, agree.status]

theorem Agree.createSignalSpace (users : List String) (spaces : List UInt64) :
    Agree mediaId (left.createSignalSpace mediaId users spaces) (right.createSignalSpace mediaId users spaces) := by
  simp only [SpaceTasks.createSignalSpace, agree.login]
  exact (agree.transmit _ _).setTask rfl

theorem Agree.uploadComplete (isOK ok : Bool) (type : RSenReceiverType) (users : List String)
    (spaces : List UInt64) :
    Agree mediaId (left.uploadComplete mediaId isOK ok type users spaces)
      (right.uploadComplete mediaId isOK ok type users spaces) := by
  have taken := agree.setTask (rfl : none = none)
  have updated := taken.updateStatus ok .creating
  cases isOK with
  | false => exact taken
  | true =>
      cases ok with
      | false => exact updated
      | true =>
          cases type with
          | receiverTypeCreator => exact updated.transmit _ _
          | receiverTypeCreatorFriend => exact updated.transmit _ _
          | _ => exact updated.createSignalSpace users spaces

theorem Agree.answer (i : Nat) (success ok : Bool) (zipped : ColdSignal RSSpaceRequest)
    (answers : List (Option Bool)) :
    Agree mediaId (left.answer mediaId i success ok zipped answers)
      (right.answer mediaId i success ok zipped answers) := by
  simp only [SpaceTasks.answer]
  split_ifs
  · exact (agree.setTask rfl).updateStatus ok .finish
  · exact agree.setTask rfl
  · exact agree

end

theorem Agree.step {left right : SpaceTasks} {event : SpaceTaskEvent}
    (agree : Agree event.mediaId left right) :
    Agree event.mediaId (SpaceTasks.step left event) (SpaceTasks.step right event) := by
  cases event with
  | create mediaId users spaces type createTime ok => exact agree.create users spaces type createTime ok
  | uploaded mediaId isOK ok =>
      simp only [SpaceTasks.step, show left.tasks mediaId = right.tasks mediaId from agree.task]
      split
      · exact agree.uploadComplete isOK ok _ _ _
      · exact agree
  | answered mediaId i success ok =>
      simp only [SpaceTasks.step, show left.tasks mediaId = right.tasks mediaId from agree.task]
      split
      · exact agree.answer i success ok _ _
      · exact agree

/-! ## Runs -/

theorem agree_run {mediaId : String} {left right : SpaceTasks} (agree : Agree mediaId left right)
    {events : List SpaceTaskEvent} (frames : EveryStep step Frame left events) :
    Agree mediaId (run step left events) (run step right (ownEvents mediaId events)) := by
  induction events generalizing left right with
  | nil => exact agree
  | cons event events ih =>
      by_cases own : event.mediaId = mediaId
      · subst own
        have kept : ownEvents event.mediaId (event :: events) = event :: ownEvents event.mediaId events :=
          List.filter_cons_of_pos (by simp)
        rw [kept]
        exact ih agree.step frames.2
      · have dropped : ownEvents mediaId (event :: events) = ownEvents mediaId events :=
          List.filter_cons_of_neg (by simpa using own)
        rw [dropped]
        exact ih (agree.frame (Ne.symm own) frames.1) frames.2

theorem statusIsolated_iff (start : SpaceTasks) (events : List SpaceTaskEvent) :
    StatusIsolated start events ↔ EveryStep step OthersAgree start events := by
  have same : EveryStep step Frame start events ↔ EveryStep step OthersAgree start events :=
    ⟨.mono fun state event => (frame_iff_othersAgree state event).mp,
      .mono fun state event => (frame_iff_othersAgree state event).mpr⟩
  constructor
  · rintro ⟨frames, -⟩
    exact same.mp frames
  · intro agree
    have frames := same.mpr agree
    refine ⟨frames, ?_⟩
    rintro reached ⟨rest, rfl⟩ mediaId
    exact (agree_run ⟨rfl, rfl, rfl⟩ (everyStep_append.mp frames).1).status

def aliceTasks : SpaceTasks where
  login := RSLoginService.updateWithLoginResp { userName := "alice", sessionKey := [1] } {}
  rows := ∅

-- two pictures for bob, and the upload of the first finishes
def twoPictures : List SpaceTaskEvent :=
  [.create "sea" ["bob"] [] .receiverTypeList 0 true, .create "hill" ["bob"] [] .receiverTypeList 1 true,
    .uploaded "sea" true true]

theorem upload_marks_other_task :
    status "hill" (run step aliceTasks twoPictures) = some .creating ∧
    status "hill" (run step aliceTasks (ownEvents "hill" twoPictures)) = some .init ∧
    ¬ StatusIsolated aliceTasks twoPictures := by
  have others : status "hill" (run step aliceTasks twoPictures) = some .creating := by decide
  have own : status "hill" (run step aliceTasks (ownEvents "hill" twoPictures)) = some .init := by decide
  refine ⟨others, own, ?_⟩
  rintro ⟨-, byOwnEvents⟩
  have same := byOwnEvents twoPictures (List.prefix_refl twoPictures) "hill"
  rw [others, own] at same
  cases same

end RealSocial.Proof
