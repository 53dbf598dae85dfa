import RealSocial.System.SpaceTasks

namespace RealSocial

open Library

/-! # Space-create tasks with the results of all their requests

Beside the zipped subscriptions, a request has one whose answer is only logged: the one of the single
request to the memories or to all friends, and the first one of each request to users and spaces. -/

structure SpaceRuns where
  tasks : SpaceTasks
  uploads : String → Option Bool := fun _ => none
  logged : String → List (Option Bool) := fun _ => []

inductive SpaceRunEvent where
  | task (event : SpaceTaskEvent)
  | logged (mediaId : String) (i : Nat) (success : Bool)

def SpaceRunEvent.mediaId : SpaceRunEvent → String
  | .task event => event.mediaId
  | .logged mediaId .. => mediaId

namespace SpaceRuns

def start (login : RSLoginService) : SpaceRuns where
  tasks := { login, rows := ∅ }

def onlyLogged (login : RSLoginService) (mediaId : String) (type : RSenReceiverType) (users : List String)
    (spaces : List UInt64) : Nat :=
  match type with
  | .receiverTypeCreator => (RSSpaceService.createSpaceWithMediaId login mediaId type).length
  | .receiverTypeCreatorFriend => (RSSpaceService.createSpaceWithMediaId login mediaId type).length
  | _ =>
      let (sent, zipped) := RSSpaceService.createSignalSpaceWithPictureId login mediaId users spaces
      sent.length - zipped.transmissions.length

def record (mediaId : String) (upload : Option Bool) (logged : List (Option Bool)) (state : SpaceRuns) :
    SpaceRuns :=
  { state with
    uploads := Function.update state.uploads mediaId upload
    logged := Function.update state.logged mediaId logged }

def recorded (state : SpaceRuns) : SpaceTaskEvent → SpaceRuns
  | .create mediaId _ _ _ _ ok => if ok then state.record mediaId none [] else state
  | .uploaded mediaId isOK ok =>
      match state.tasks.tasks mediaId with
      | some (.uploading type users spaces) =>
          let requests := onlyLogged state.tasks.login mediaId type users spaces
          state.record mediaId (some isOK) (if isOK && ok then List.replicate requests none else [])
      | _ => state
  | .answered .. => state

def step (state : SpaceRuns) : SpaceRunEvent → SpaceRuns
  | .task event => { recorded state event with tasks := state.tasks.step event }
  | .logged mediaId i success =>
      let answers := state.logged mediaId
      if answers[i]? = some none then
        { state with logged := Function.update state.logged mediaId (answers.set i (some success)) }
      else state

def created (mediaId : String) (users : List String) (spaces : List UInt64) (type : RSenReceiverType)
    (createTime : Int) (state : SpaceRuns) : SpaceRuns :=
  state.step (.task (.create mediaId users spaces type createTime true))

def status (mediaId : String) (state : SpaceRuns) : Option RSSpaceCreateModelStatus :=
  state.tasks.status mediaId

def zipped (mediaId : String) (state : SpaceRuns) : List (Option Bool) :=
  match state.tasks.tasks mediaId with
  | some (.requesting _ answers) => answers
  | _ => []

/-- Nothing of a task that was created is in flight; an error of one zipped subscription cancels the
others. -/
structure Quiescent (mediaId : String) (state : SpaceRuns) : Prop where
  created : state.status mediaId ≠ none
  uploaded : ∀ type users spaces, state.tasks.tasks mediaId ≠ some (.uploading type users spaces)
  zipped : none ∈ state.zipped mediaId → some false ∈ state.zipped mediaId
  logged : none ∉ state.logged mediaId

structure Succeeded (mediaId : String) (state : SpaceRuns) : Prop where
  uploaded : state.uploads mediaId = some true
  zipped : ∀ answer ∈ state.zipped mediaId, answer = some true
  logged : ∀ answer ∈ state.logged mediaId, answer = some true

end SpaceRuns

end RealSocial
