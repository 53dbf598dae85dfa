import RealSocial.Services.SpaceService

namespace RealSocial

open Library

/-! # Space-create tasks

What a task keeps in memory are the blocks of its upload and then of its zipped subscriptions. -/

inductive SpaceTask where
  | uploading (type : RSenReceiverType) (users : List String) (spaces : List UInt64)
  | requesting (zipped : ColdSignal RSSpaceRequest) (answers : List (Option Bool))

structure SpaceTasks where
  login : RSLoginService
  rows : SpaceCreateTable
  tasks : String → Option SpaceTask := fun _ => none
  transmitted : List (String × RSSpaceRequest) := []

/-- The flag `ok` of an event is the result of its database write. -/
inductive SpaceTaskEvent where
  | create (mediaId : String) (users : List String) (spaces : List UInt64) (type : RSenReceiverType)
      (createTime : Int) (ok : Bool)
  | uploaded (mediaId : String) (isOK : Bool) (ok : Bool)
  | answered (mediaId : String) (i : Nat) (success : Bool) (ok : Bool)

def SpaceTaskEvent.mediaId : SpaceTaskEvent → String
  | .create mediaId .. => mediaId
  | .uploaded mediaId .. => mediaId
  | .answered mediaId .. => mediaId

namespace SpaceTasks

open RSSpaceService

def setTask (mediaId : String) (task : Option SpaceTask) (state : SpaceTasks) : SpaceTasks :=
  { state with tasks := Function.update state.tasks mediaId task }

def transmit (mediaId : String) (requests : List RSSpaceRequest) (state : SpaceTasks) : SpaceTasks :=
  { state with transmitted := state.transmitted ++ requests.map fun request => (mediaId, request) }

def updateStatus (ok : Bool) (mediaId : String) (status : RSSpaceCreateModelStatus) (state : SpaceTasks) :
    Bool × SpaceTasks :=
  let (result, rows) := updateSpaceCreateModel ok mediaId status state.rows
  (result, { state with rows })

def create (mediaId : String) (users : List String) (spaces : List UInt64) (type : RSenReceiverType)
    (createTime : Int) (ok : Bool) (state : SpaceTasks) : SpaceTasks :=
  let (dbResult, rows) := WCDB.insertOrReplaceObject ok
    (spaceCreateModel state.login mediaId users spaces type createTime) state.rows
  let state := { state with rows }
  if dbResult then state.setTask mediaId (some (.uploading type users spaces)) else state

def createSignalSpace (mediaId : String) (users : List String) (spaces : List UInt64) (state : SpaceTasks) :
    SpaceTasks :=
  let (sent, zipped) := createSignalSpaceWithPictureId state.login mediaId users spaces
  (state.transmit mediaId sent).setTask mediaId
    (some (.requesting zipped (zipped.transmissions.map fun _ => none)))

def uploadComplete (mediaId : String) (isOK ok : Bool) (type : RSenReceiverType) (users : List String)
    (spaces : List UInt64) (state : SpaceTasks) : SpaceTasks :=
  let state := state.setTask mediaId none
  if !isOK then state
  else
    let (result, state) := state.updateStatus ok mediaId .creating
    if !result then state
    else match type with
      | .receiverTypeCreator => state.transmit mediaId (createSpaceWithMediaId state.login mediaId type)
      | .receiverTypeCreatorFriend => state.transmit mediaId (createSpaceWithMediaId state.login mediaId type)
      | _ => state.createSignalSpace mediaId users spaces

-- an answer to the zipped subscription `i`; the other subscriptions only log theirs
def answer (mediaId : String) (i : Nat) (success ok : Bool) (zipped : ColdSignal RSSpaceRequest)
    (answers : List (Option Bool)) (state : SpaceTasks) : SpaceTasks :=
  if answers[i]? = some none then
    let answers := answers.set i (some success)
    let state := state.setTask mediaId (some (.requesting zipped answers))
    if zipped.emitted answers then (state.updateStatus ok mediaId .finish).2 else state
  else state

def step (state : SpaceTasks) : SpaceTaskEvent → SpaceTasks
  | .create mediaId users spaces type createTime ok => state.create mediaId users spaces type createTime ok
  | .uploaded mediaId isOK ok =>
      match state.tasks mediaId with
      | some (.uploading type users spaces) => state.uploadComplete mediaId isOK ok type users spaces
      | _ => state
  | .answered mediaId i success ok =>
      match state.tasks mediaId with
      | some (.requesting zipped answers) => state.answer mediaId i success ok zipped answers
      | _ => state

def status (mediaId : String) (state : SpaceTasks) : Option RSSpaceCreateModelStatus :=
  (state.rows.find mediaId).map RSSpaceCreateModel.status

end SpaceTasks

end RealSocial
