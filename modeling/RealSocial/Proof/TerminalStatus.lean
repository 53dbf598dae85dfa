import RealSocial.Library.LastWrite
import RealSocial.Proof.SpaceSend
import RealSocial.Proof.SpaceStatus
import RealSocial.System.SpaceRuns

namespace RealSocial.Proof

open Library SpaceRuns

/-! # The status of a task of which nothing is in flight -/

/-- Once nothing of the task is in flight, its row says how it ended. -/
def TerminalStatus (mediaId : String) (state : SpaceRuns) : Prop :=
  Quiescent mediaId state →
    (Succeeded mediaId state → status mediaId state = some .finish) ∧
    (¬ Succeeded mediaId state → status mediaId state = some .fail)

/-- The status that a step gives the row of a task: `Init` when it inserts the row, or what it writes to
all rows. -/
def rowWrites (mediaId : String) (state : SpaceRuns) : SpaceRunEvent → Option RSSpaceCreateModelStatus
  | .task (.create name _ _ _ _ ok) => if ok ∧ name = mediaId then some .init else none
  | .task event => statusWritten state.tasks event
  | .logged .. => none

def lastStatus (mediaId : String) (login : RSLoginService) (events : List SpaceRunEvent) :
    Option RSSpaceCreateModelStatus :=
  lastWrite step (rowWrites mediaId) (start login) events

/-! ## The row has the last status that was written -/

theorem tasks_step (state : SpaceRuns) (event : SpaceTaskEvent) :
    (step state (.task event)).tasks = state.tasks.step event := rfl

theorem status_logged (state : SpaceRuns) (name mediaId : String) (i : Nat) (success : Bool) :
    status name (step state (.logged mediaId i success)) = status name state := by
  rw [step]
  split_ifs
  · rfl
  · rfl

theorem status_rowWrites {mediaId : String} {state : SpaceRuns} {event : SpaceRunEvent}
    {written now : RSSpaceCreateModelStatus} (writes : rowWrites mediaId state event = some written)
    (after : status mediaId (step state event) = some now) : now = written := by
  have mapped : ∀ {before : Option RSSpaceCreateModelStatus},
      writeStatus (some written) before = some now → now = written := by
    intro before same
    cases before with
    | none => cases same
    | some old => exact (Option.some.inj same).symm
  cases event with
  | logged name i success => cases writes
  | task event =>
      rw [status, tasks_step] at after
      cases event with
      | create name users spaces type createTime ok =>
          rw [SpaceTasks.step, SpaceTasks.status_create] at after
          rw [rowWrites] at writes
          split_ifs at writes with created
          rw [if_pos created] at after
          exact (Option.some.inj after).symm.trans (Option.some.inj writes)
      | uploaded name isOK ok =>
          rw [status_uploaded, show statusWritten state.tasks (.uploaded name isOK ok) = some written from writes] at after
          exact mapped after
      | answered name i success ok =>
          rw [status_answered, show statusWritten state.tasks (.answered name i success ok) = some written from writes] at after
          exact mapped after

theorem status_unwritten {mediaId : String} {state : SpaceRuns} {event : SpaceRunEvent}
    (writes : rowWrites mediaId state event = none) :
    status mediaId (step state event) = status mediaId state := by
  cases event with
  | logged name i success => exact status_logged state mediaId name i success
  | task event =>
      rw [status, tasks_step]
      cases event with
      | create name users spaces type createTime ok =>
          rw [rowWrites] at writes
          split_ifs at writes with created
          rw [SpaceTasks.step, SpaceTasks.status_create, if_neg created]
          rfl
      | uploaded name isOK ok =>
          rw [status_uploaded, show statusWritten state.tasks (.uploaded name isOK ok) = none from writes]
          rfl
      | answered name i success ok =>
          rw [status_answered, show statusWritten state.tasks (.answered name i success ok) = none from writes]
          rfl

theorem status_eq_lastStatus {mediaId : String} {login : RSLoginService} {events : List SpaceRunEvent}
    {now : RSSpaceCreateModelStatus} (found : status mediaId (run step (start login) events) = some now) :
    lastStatus mediaId login events = some now := by
  have kept : ∀ (last : Option RSSpaceCreateModelStatus) (state : SpaceRuns) (event : SpaceRunEvent),
      (∀ now, status mediaId state = some now → last = some now) →
      ∀ now, status mediaId (step state event) = some now → (rowWrites mediaId state event).or last = some now := by
    intro last state event agrees now after
    cases writes : rowWrites mediaId state event with
    | none => exact agrees now ((status_unwritten writes).symm.trans after)
    | some written => rw [status_rowWrites writes after, Option.some_or]
  have reached := lastWrite_run (R := fun last state => ∀ now, status mediaId state = some now → last = some now)
    kept (w := none) (s := start login) (fun now absent => by cases absent) events now found
  rwa [Option.or_none] at reached

theorem statusWritten_ne_fail (state : SpaceTasks) (event : SpaceTaskEvent) :
    statusWritten state event ≠ some .fail := by
  cases event with
  | create mediaId users spaces type createTime ok => exact nofun
  | uploaded mediaId isOK ok =>
      rcases task : state.tasks mediaId with _ | ⟨type, users, spaces⟩ | ⟨zipped, answers⟩
      · simp [statusWritten, task]
      · simp [statusWritten, task]
      · simp [statusWritten, task]
  | answered mediaId i success ok =>
      rcases task : state.tasks mediaId with _ | ⟨type, users, spaces⟩ | ⟨zipped, answers⟩
      · simp [statusWritten, task]
      · simp [statusWritten, task]
      · simp [statusWritten, task]

theorem rowWrites_ne_fail (mediaId : String) (state : SpaceRuns) (event : SpaceRunEvent) :
    rowWrites mediaId state event ≠ some .fail := by
  cases event with
  | logged name i success => exact nofun
  | task event =>
      cases event with
      | create name users spaces type createTime ok =>
          rw [rowWrites]
          split_ifs <;> exact nofun
      | uploaded name isOK ok => exact statusWritten_ne_fail state.tasks (.uploaded name isOK ok)
      | answered name i success ok => exact statusWritten_ne_fail state.tasks (.answered name i success ok)

theorem lastStatus_ne_fail (mediaId : String) (login : RSLoginService) (events : List SpaceRunEvent) :
    lastStatus mediaId login events ≠ some .fail := by
  intro fails
  obtain ⟨before, event, -, -, written, -⟩ := lastWrite_eq_some.mp fails
  exact rowWrites_ne_fail mediaId _ event written

theorem terminalStatus_iff_last (mediaId : String) (login : RSLoginService) (events : List SpaceRunEvent) :
    TerminalStatus mediaId (run step (start login) events) ↔
      (Quiescent mediaId (run step (start login) events) →
        Succeeded mediaId (run step (start login) events) ∧
          lastStatus mediaId login events = some .finish) := by
  apply imp_congr_right
  intro quiescent
  obtain ⟨now, found⟩ := Option.ne_none_iff_exists'.mp quiescent.created
  have last := status_eq_lastStatus found
  rw [found, last]
  have notFail : now ≠ .fail := fun fail => lastStatus_ne_fail mediaId login events (fail ▸ last)
  constructor
  · rintro ⟨finishes, fails⟩
    by_cases succeeded : Succeeded mediaId (run step (start login) events)
    · exact ⟨succeeded, finishes succeeded⟩
    · exact absurd (Option.some.inj (fails succeeded)) notFail
  · rintro ⟨succeeded, finish⟩
    exact ⟨fun _ => finish, fun failed => absurd succeeded failed⟩

/-! ## A task on its own -/

/-- A step whose status would be written does write it. -/
def WriteSucceeds (state : SpaceRuns) : SpaceRunEvent → Prop
  | .task (.uploaded mediaId isOK ok) =>
      statusWritten state.tasks (.uploaded mediaId isOK true) ≠ none → ok = true
  | .task (.answered mediaId i success ok) =>
      statusWritten state.tasks (.answered mediaId i success true) ≠ none → ok = true
  | _ => True

/-- The receivers that are reached with one request, and not by lists. -/
def IsCreator (type : RSenReceiverType) : Prop :=
  type = .receiverTypeCreator ∨ type = .receiverTypeCreatorFriend

def OwnStep (mediaId : String) (event : SpaceRunEvent) : Prop :=
  event.mediaId = mediaId ∧
    ∀ name users spaces type createTime ok, event ≠ .task (.create name users spaces type createTime ok)

abbrev AllSucceeded (requests : List RSSpaceRequest) (answers : List (Option Bool)) : Prop :=
  requests ≠ [] ∧ ∀ answer ∈ answers, answer = some true

/-- How far a task is whose row no other task writes; `sound` says that every status write so far
succeeded. -/
inductive TaskPhase (mediaId : String) (type : RSenReceiverType) (users : List String)
    (spaces : List UInt64) (sound : Prop) (state : SpaceRuns) : Prop where
  | uploading (task : state.tasks.tasks mediaId = some (.uploading type users spaces))
      (init : status mediaId state = some .init) (writes : sound)
  | stopped (task : state.tasks.tasks mediaId = none) (init : status mediaId state = some .init)
      (cause : state.uploads mediaId = some false ∨ ¬ sound)
  | single (creator : IsCreator type) (task : state.tasks.tasks mediaId = none)
      (creating : status mediaId state = some .creating)
  | zipped (list : ¬ IsCreator type) (requests : List RSSpaceRequest) (answers : List (Option Bool))
      (nobody : requests = [] ↔ users = [] ∧ spaces = []) (all : answers.length = requests.length)
      (task : state.tasks.tasks mediaId = some (.requesting (.zip (requests.map .request)) answers))
      (waiting : ¬ AllSucceeded requests answers → sound ∧ status mediaId state = some .creating)
      (finished : AllSucceeded requests answers →
        sound ∧ status mediaId state = some .finish ∨ ¬ sound ∧ status mediaId state = some .creating)

section Phases

variable {mediaId : String} {type : RSenReceiverType} {users : List String} {spaces : List UInt64}
variable {sound : Prop} {state : SpaceRuns}

theorem TaskPhase.frame {sound' : Prop} {after : SpaceRuns} (phase : TaskPhase mediaId type users spaces sound state)
    (task : after.tasks.tasks mediaId = state.tasks.tasks mediaId)
    (kept : status mediaId after = status mediaId state) (upload : after.uploads mediaId = state.uploads mediaId)
    (same : sound ↔ sound') : TaskPhase mediaId type users spaces sound' after := by
  have sounds : sound' = sound := propext same.symm
  subst sounds
  cases phase with
  | uploading uploads init writes => exact .uploading (task.trans uploads) (kept.trans init) writes
  | stopped none init cause => exact .stopped (task.trans none) (kept.trans init) (by rwa [upload])
  | single creator none creating => exact .single creator (task.trans none) (kept.trans creating)
  | zipped list requests answers nobody all waits waiting finished =>
      rw [← kept] at waiting finished
      exact .zipped list requests answers nobody all (task.trans waits) waiting finished

theorem step_uploaded_idle (isOK ok : Bool)
    (idle : ∀ type users spaces, state.tasks.tasks mediaId ≠ some (.uploading type users spaces)) :
    step state (.task (.uploaded mediaId isOK ok)) = state ∧
      WriteSucceeds state (.task (.uploaded mediaId isOK ok)) := by
  rcases task : state.tasks.tasks mediaId with _ | ⟨type, users, spaces⟩ | ⟨zipped, answers⟩
  · exact ⟨by simp [step, recorded, SpaceTasks.step, task], by simp [WriteSucceeds, statusWritten, task]⟩
  · exact absurd task (idle type users spaces)
  · exact ⟨by simp [step, recorded, SpaceTasks.step, task], by simp [WriteSucceeds, statusWritten, task]⟩

theorem step_answered_idle {i : Nat} (success ok : Bool)
    (idle : ∀ zipped answers, state.tasks.tasks mediaId = some (.requesting zipped answers) →
      answers[i]? ≠ some none) :
    step state (.task (.answered mediaId i success ok)) = state ∧
      WriteSucceeds state (.task (.answered mediaId i success ok)) := by
  rcases task : state.tasks.tasks mediaId with _ | ⟨type, users, spaces⟩ | ⟨zipped, answers⟩
  · exact ⟨by simp [step, recorded, SpaceTasks.step, task], by simp [WriteSucceeds, statusWritten, task]⟩
  · exact ⟨by simp [step, recorded, SpaceTasks.step, task], by simp [WriteSucceeds, statusWritten, task]⟩
  · have ended := idle zipped answers task
    exact ⟨by simp [step, recorded, SpaceTasks.step, SpaceTasks.answer, task, ended],
      by simp [WriteSucceeds, statusWritten, task, ended]⟩

theorem requesting_createSignalSpace (tasks : SpaceTasks) :
    (tasks.createSignalSpace mediaId users spaces).tasks mediaId =
      some (.requesting (.zip ((taskRequests tasks.login mediaId users spaces).map .request))
        ((taskRequests tasks.login mediaId users spaces).map fun _ => none)) := by
  rw [SpaceTasks.createSignalSpace, createSignalSpace_twice]
  simp only [SpaceTasks.setTask_self, ColdSignal.transmissions_zip_requests]

theorem uploadComplete_single (creator : IsCreator type) (tasks : SpaceTasks) :
    (tasks.uploadComplete mediaId true true type users spaces).tasks mediaId = none := by
  rcases creator with rfl | rfl
  · exact SpaceTasks.setTask_self mediaId tasks none
  · exact SpaceTasks.setTask_self mediaId tasks none

theorem uploadComplete_list (list : ¬ IsCreator type) (tasks : SpaceTasks) :
    tasks.uploadComplete mediaId true true type users spaces =
      ((tasks.setTask mediaId none).updateStatus true mediaId .creating).2.createSignalSpace
        mediaId users spaces := by
  cases type with
  | receiverTypeCreator => exact absurd (Or.inl rfl) list
  | receiverTypeCreatorFriend => exact absurd (Or.inr rfl) list
  | receiverTypeList => rfl
  | receiverTypeAuthor => rfl
  | receiverTypeAuthorFriend => rfl

theorem taskPhase_uploaded (task : state.tasks.tasks mediaId = some (.uploading type users spaces))
    (init : status mediaId state = some .init) (writes : sound) (isOK ok : Bool) :
    TaskPhase mediaId type users spaces (sound ∧ WriteSucceeds state (.task (.uploaded mediaId isOK ok)))
      (step state (.task (.uploaded mediaId isOK ok))) := by
  let after := step state (.task (.uploaded mediaId isOK ok))
  have tasks : after.tasks = state.tasks.uploadComplete mediaId isOK ok type users spaces := by
    show state.tasks.step (.uploaded mediaId isOK ok) = _
    rw [SpaceTasks.step, task]
  have upload : after.uploads mediaId = some isOK := by
    show (recorded state (.uploaded mediaId isOK ok)).uploads mediaId = _
    rw [recorded, task]
    exact Function.update_self mediaId (some isOK) state.uploads
  have written : status mediaId after = some (if isOK ∧ ok then .creating else .init) := by
    rw [status, tasks, SpaceTasks.status_uploadComplete, show state.tasks.status mediaId = some .init from init]
    split_ifs <;> rfl
  cases isOK with
  | false =>
      apply TaskPhase.stopped _ written (Or.inl upload)
      rw [tasks]
      exact SpaceTasks.setTask_self mediaId state.tasks none
  | true =>
      cases ok with
      | false =>
          apply TaskPhase.stopped _ written
          · right
            rintro ⟨-, succeeds⟩
            exact Bool.false_ne_true (succeeds (by simp [statusWritten, task]))
          · rw [tasks]
            exact SpaceTasks.setTask_self mediaId state.tasks none
      | true =>
          have sounds : sound ∧ WriteSucceeds state (.task (.uploaded mediaId true true)) :=
            ⟨writes, fun _ => rfl⟩
          by_cases creator : IsCreator type
          · apply TaskPhase.single creator _ written
            rw [tasks]
            exact uploadComplete_single creator state.tasks
          · have unanswered : ∀ requests : List RSSpaceRequest,
                ¬ AllSucceeded requests (requests.map fun _ => none) := by
              rintro requests ⟨some_request, succeeded⟩
              obtain ⟨request, member⟩ := List.exists_mem_of_ne_nil requests some_request
              exact absurd (succeeded none (List.mem_map.mpr ⟨request, member, rfl⟩)) (Option.some_ne_none true).symm
            apply TaskPhase.zipped creator (taskRequests state.tasks.login mediaId users spaces) _
              taskRequests_eq_nil (List.length_map _)
            · rw [tasks, uploadComplete_list creator]
              exact requesting_createSignalSpace _
            · exact fun _ => ⟨sounds, written⟩
            · exact fun succeeded => absurd succeeded (unanswered _)

theorem requesting_answer {answers : List (Option Bool)} {i : Nat} (unanswered : answers[i]? = some none)
    (success ok : Bool) (zipped : ColdSignal RSSpaceRequest) (tasks : SpaceTasks) :
    (tasks.answer mediaId i success ok zipped answers).tasks mediaId =
      some (.requesting zipped (answers.set i (some success))) := by
  simp only [SpaceTasks.answer, unanswered, if_true]
  split_ifs
  · exact SpaceTasks.setTask_self mediaId tasks _
  · exact SpaceTasks.setTask_self mediaId tasks _

theorem taskPhase_answered (list : ¬ IsCreator type) {requests : List RSSpaceRequest}
    {answers : List (Option Bool)} (nobody : requests = [] ↔ users = [] ∧ spaces = [])
    (all : answers.length = requests.length)
    (task : state.tasks.tasks mediaId = some (.requesting (.zip (requests.map .request)) answers))
    (waiting : sound ∧ status mediaId state = some .creating) {i : Nat} (unanswered : answers[i]? = some none)
    (success ok : Bool) :
    TaskPhase mediaId type users spaces
      (sound ∧ WriteSucceeds state (.task (.answered mediaId i success ok)))
      (step state (.task (.answered mediaId i success ok))) := by
  let after := step state (.task (.answered mediaId i success ok))
  let answered := answers.set i (some success)
  let zip := ColdSignal.zip (requests.map ColdSignal.request)
  have length : answered.length = requests.length := List.length_set.trans all
  have emits : zip.emitted answered = true ↔ AllSucceeded requests answered :=
    ColdSignal.emitted_zip_requests length
  have tasks : after.tasks = state.tasks.answer mediaId i success ok zip answers := by
    show state.tasks.step (.answered mediaId i success ok) = _
    rw [SpaceTasks.step, task]
  have waits : after.tasks.tasks mediaId = some (.requesting zip answered) := by
    rw [tasks]
    exact requesting_answer unanswered success ok zip state.tasks
  have written : status mediaId after =
      some (if zip.emitted answered = true ∧ ok = true then .finish else .creating) := by
    rw [status, tasks, SpaceTasks.status_answer, show state.tasks.status mediaId = some .creating from waiting.2]
    simp only [unanswered, true_and]
    split_ifs <;> rfl
  have writes : WriteSucceeds state (.task (.answered mediaId i success ok)) ↔
      (zip.emitted answered = true → ok = true) := by
    simp [WriteSucceeds, statusWritten, task, unanswered, zip, answered]
  apply TaskPhase.zipped list requests answered nobody length waits
  · intro notAll
    have silent : ¬ zip.emitted answered = true := mt emits.mp notAll
    rw [written, if_neg fun both => silent both.1]
    exact ⟨⟨waiting.1, writes.mpr fun emitted => absurd emitted silent⟩, rfl⟩
  · intro succeeded
    have emitted := emits.mpr succeeded
    cases ok with
    | true =>
        left
        rw [written, if_pos ⟨emitted, rfl⟩]
        exact ⟨⟨waiting.1, fun _ => rfl⟩, rfl⟩
    | false =>
        right
        rw [written, if_neg fun both => Bool.false_ne_true both.2]
        exact ⟨fun sounds => Bool.false_ne_true (writes.mp sounds.2 emitted), rfl⟩

/-! ## Its run -/

theorem taskPhase_step (phase : TaskPhase mediaId type users spaces sound state) {event : SpaceRunEvent}
    (own : OwnStep mediaId event) :
    TaskPhase mediaId type users spaces (sound ∧ WriteSucceeds state event) (step state event) := by
  obtain ⟨named, uncreated⟩ := own
  cases event with
  | logged name i success =>
      rw [step]
      split_ifs
      · exact phase.frame rfl rfl rfl (and_iff_left trivial).symm
      · exact phase.frame rfl rfl rfl (and_iff_left trivial).symm
  | task event =>
      cases event with
      | create name users spaces type createTime ok =>
          exact absurd rfl (uncreated name users spaces type createTime ok)
      | uploaded name isOK ok =>
          obtain rfl : name = mediaId := named
          by_cases idle : ∀ type users spaces, state.tasks.tasks name ≠ some (.uploading type users spaces)
          · obtain ⟨unchanged, writes⟩ := step_uploaded_idle isOK ok idle
            rw [unchanged]
            exact phase.frame rfl rfl rfl (and_iff_left writes).symm
          · cases phase with
            | uploading task init sounds => exact taskPhase_uploaded task init sounds isOK ok
            | stopped task _ _ => exact absurd (by simp [task]) idle
            | single _ task _ => exact absurd (by simp [task]) idle
            | zipped _ _ _ _ _ task _ _ => exact absurd (by simp [task]) idle
      | answered name i success ok =>
          obtain rfl : name = mediaId := named
          by_cases idle : ∀ zipped answers, state.tasks.tasks name = some (.requesting zipped answers) →
              answers[i]? ≠ some none
          · obtain ⟨unchanged, writes⟩ := step_answered_idle success ok idle
            rw [unchanged]
            exact phase.frame rfl rfl rfl (and_iff_left writes).symm
          · cases phase with
            | uploading task _ _ => exact absurd (by simp [task]) idle
            | stopped task _ _ => exact absurd (by simp [task]) idle
            | single _ task _ => exact absurd (by simp [task]) idle
            | zipped list requests answers nobody all task waiting _ =>
                have unanswered : answers[i]? = some none := by
                  simpa [task] using idle
                have notAll : ¬ AllSucceeded requests answers := fun succeeded =>
                  absurd (succeeded.2 none (List.mem_of_getElem? unanswered)) nofun
                exact taskPhase_answered list nobody all task (waiting notAll) unanswered success ok

theorem taskPhase_run (phase : TaskPhase mediaId type users spaces sound state) {own : List SpaceRunEvent}
    (alone : ∀ event ∈ own, OwnStep mediaId event) :
    TaskPhase mediaId type users spaces (sound ∧ EveryStep step WriteSucceeds state own) (run step state own) := by
  induction own generalizing sound state with
  | nil => exact phase.frame rfl rfl rfl (and_iff_left trivial).symm
  | cons event own ih =>
      rw [List.forall_mem_cons] at alone
      have next := ih (taskPhase_step phase alone.1) alone.2
      exact next.frame rfl rfl rfl and_assoc

theorem taskPhase_created (state : SpaceRuns) (createTime : Int) :
    TaskPhase mediaId type users spaces True (state.created mediaId users spaces type createTime) := by
  apply TaskPhase.uploading _ _ trivial
  · exact SpaceTasks.setTask_self mediaId _ _
  · exact (SpaceTasks.status_create mediaId state.tasks users spaces type createTime true mediaId).trans
      (if_pos ⟨rfl, rfl⟩)

theorem TaskPhase.terminalStatus_iff (phase : TaskPhase mediaId type users spaces sound state)
    (quiescent : Quiescent mediaId state) :
    TerminalStatus mediaId state ↔
      ¬ IsCreator type ∧ ¬ (users = [] ∧ spaces = []) ∧ Succeeded mediaId state ∧ sound := by
  have open_ended : ∀ {now : RSSpaceCreateModelStatus}, status mediaId state = some now → now ≠ .finish →
      now ≠ .fail → ¬ TerminalStatus mediaId state := by
    intro now found notFinish notFail terminal
    obtain ⟨finishes, fails⟩ := terminal quiescent
    rw [found] at finishes fails
    by_cases succeeded : Succeeded mediaId state
    · exact notFinish (Option.some.inj (finishes succeeded))
    · exact notFail (Option.some.inj (fails succeeded))
  cases phase with
  | uploading task _ _ => exact absurd task (quiescent.uploaded type users spaces)
  | stopped _ init cause =>
      refine iff_of_false (open_ended init nofun nofun) ?_
      rintro ⟨-, -, succeeded, sounds⟩
      rcases cause with failed | unsound
      · exact absurd (succeeded.uploaded.symm.trans failed) nofun
      · exact unsound sounds
  | single creator _ creating =>
      exact iff_of_false (open_ended creating nofun nofun) fun meets => meets.1 creator
  | zipped list requests answers nobody all task waiting finished =>
      have answered : state.zipped mediaId = answers := by
        rw [SpaceRuns.zipped, task]
      have stays : status mediaId state = some .creating → ¬ (AllSucceeded requests answers ∧ sound) →
          (TerminalStatus mediaId state ↔
            ¬ IsCreator type ∧ ¬ (users = [] ∧ spaces = []) ∧ Succeeded mediaId state ∧ sound) := by
        intro creating missing
        refine iff_of_false (open_ended creating nofun nofun) ?_
        rintro ⟨-, somebody, succeeded, sounds⟩
        exact missing ⟨⟨mt nobody.mp somebody, answered ▸ succeeded.zipped⟩, sounds⟩
      by_cases succeeded : AllSucceeded requests answers
      · rcases finished succeeded with ⟨sounds, finish⟩ | ⟨unsound, creating⟩
        · constructor
          · intro terminal
            refine ⟨list, mt nobody.mpr succeeded.1, ?_, sounds⟩
            by_contra failed
            exact absurd (finish.symm.trans ((terminal quiescent).2 failed)) nofun
          · rintro ⟨-, -, success, -⟩ -
            exact ⟨fun _ => finish, fun failed => absurd success failed⟩
        · exact stays creating fun both => unsound both.2
      · exact stays (waiting succeeded).2 fun both => succeeded both.1

end Phases

/-- A task's status is terminal exactly when it succeeded and the last status that was written since its
row was inserted, by any task, is `Finish`. Of a task on its own this says: it goes to lists that are not
both empty, it succeeded, and so did its status writes. -/
theorem terminal_status_iff (login : RSLoginService) (events : List SpaceRunEvent) (mediaId : String) :
    (TerminalStatus mediaId (run step (start login) events) ↔
      (Quiescent mediaId (run step (start login) events) →
        Succeeded mediaId (run step (start login) events) ∧
          lastStatus mediaId login events = some .finish)) ∧
    ∀ (before : SpaceRuns) (users : List String) (spaces : List UInt64)
      (type : RSenReceiverType) (createTime : Int) (own : List SpaceRunEvent),
      (∀ event ∈ own, OwnStep mediaId event) →
      Quiescent mediaId (run step (before.created mediaId users spaces type createTime) own) →
        (TerminalStatus mediaId (run step (before.created mediaId users spaces type createTime) own) ↔
          ¬ IsCreator type ∧ ¬ (users = [] ∧ spaces = []) ∧
            Succeeded mediaId (run step (before.created mediaId users spaces type createTime) own) ∧
            EveryStep step WriteSucceeds (before.created mediaId users spaces type createTime) own) := by
  constructor
  · exact terminalStatus_iff_last mediaId login events
  · intro before users spaces type createTime own alone quiescent
    have created : TaskPhase mediaId type users spaces True
        (before.created mediaId users spaces type createTime) := taskPhase_created before createTime
    rw [(taskPhase_run created alone).terminalStatus_iff quiescent, true_and]

-- a picture for the memories: the upload and the request succeed
def seaForMemories : List SpaceRunEvent :=
  [.task (.create "sea" [] [] .receiverTypeCreator 0 true), .task (.uploaded "sea" true true),
    .logged "sea" 0 true]

theorem memories_stay_creating :
    Succeeded "sea" (run step (start aliceTasks.login) seaForMemories) ∧
    status "sea" (run step (start aliceTasks.login) seaForMemories) = some .creating ∧
    ¬ TerminalStatus "sea" (run step (start aliceTasks.login) seaForMemories) := by
  have succeeded : Succeeded "sea" (run step (start aliceTasks.login) seaForMemories) :=
    ⟨by decide, by decide, by decide⟩
  have creating : status "sea" (run step (start aliceTasks.login) seaForMemories) = some .creating := by decide
  have quiescent : Quiescent "sea" (run step (start aliceTasks.login) seaForMemories) :=
    { created := by decide
      uploaded := nofun
      zipped := by decide
      logged := by decide }
  refine ⟨succeeded, creating, ?_⟩
  intro terminal
  exact absurd (creating.symm.trans ((terminal quiescent).1 succeeded)) nofun

end RealSocial.Proof
