import RealSocial.System.SpaceTasks

namespace RealSocial

open Library

namespace SpaceTasks

/-! # What the blocks of a task do -/

variable (mediaId : String) (state : SpaceTasks)

@[simp] theorem setTask_self (task : Option SpaceTask) :
    (state.setTask mediaId task).tasks mediaId = task := by
  simp only [setTask, Function.update_self]

@[simp] theorem status_setTask (task : Option SpaceTask) (name : String) :
    status name (state.setTask mediaId task) = status name state := rfl

theorem status_updateStatus (ok : Bool) (written : RSSpaceCreateModelStatus) (name : String) :
    status name (state.updateStatus ok mediaId written).2 =
      if ok then (status name state).map fun _ => written else status name state := by
  cases ok with
  | false => rfl
  | true =>
      change ((state.rows.mapRows (fun row => { row with status := written }) fun _ => rfl).find name).map _ = _
      rw [Table.find_mapRows, if_pos rfl, status, Option.map_map, Option.map_map]
      rfl

theorem status_create (users : List String) (spaces : List UInt64) (type : RSenReceiverType)
    (createTime : Int) (ok : Bool) (name : String) :
    status name (state.create mediaId users spaces type createTime ok) =
      if ok ∧ mediaId = name then some .init else status name state := by
  cases ok with
  | false => rfl
  | true =>
      let model := RSSpaceService.spaceCreateModel state.login mediaId users spaces type createTime
      change ((state.rows.insertOrReplace model).find name).map _ = _
      rw [Table.find_insertOrReplace]
      by_cases same : mediaId = name
      · rw [if_pos (show model.mediaId = name from same), if_pos ⟨rfl, same⟩]
        rfl
      · rw [if_neg (show model.mediaId ≠ name from same), if_neg fun both => same both.2]
        rfl

theorem status_uploadComplete (isOK ok : Bool) (type : RSenReceiverType) (users : List String)
    (spaces : List UInt64) (name : String) :
    status name (state.uploadComplete mediaId isOK ok type users spaces) =
      if isOK ∧ ok then (status name state).map fun _ => .creating else status name state := by
  cases isOK with
  | false => rfl
  | true =>
      have updated := status_updateStatus mediaId (state.setTask mediaId none) ok .creating name
      cases ok with
      | false => exact updated
      | true => cases type <;> exact updated

theorem status_answer (i : Nat) (success ok : Bool) (zipped : ColdSignal RSSpaceRequest)
    (answers : List (Option Bool)) (name : String) :
    status name (state.answer mediaId i success ok zipped answers) =
      if answers[i]? = some none ∧ zipped.emitted (answers.set i (some success)) ∧ ok then
        (status name state).map fun _ => .finish
      else status name state := by
  simp only [answer]
  by_cases waiting : answers[i]? = some none
  · by_cases emitted : zipped.emitted (answers.set i (some success))
    · rw [if_pos waiting, if_pos emitted, status_updateStatus]
      simp [waiting, emitted]
    · rw [if_pos waiting, if_neg emitted]
      simp [emitted]
  · simp [waiting]

/-! ## A block changes nothing of the other tasks' memory -/

def sentBy (mediaId : String) (state : SpaceTasks) : List RSSpaceRequest :=
  (state.transmitted.filter fun entry => entry.1 = mediaId).map Prod.snd

structure LocalTo (mediaId : String) (before after : SpaceTasks) : Prop where
  login : after.login = before.login
  tasks : ∀ name, name ≠ mediaId → after.tasks name = before.tasks name
  sent : ∀ name, name ≠ mediaId → sentBy name after = sentBy name before

theorem LocalTo.refl : LocalTo mediaId state state := ⟨rfl, fun _ _ => rfl, fun _ _ => rfl⟩

variable {mediaId} {state}

theorem LocalTo.trans {first second third : SpaceTasks} (here : LocalTo mediaId first second)
    (next : LocalTo mediaId second third) : LocalTo mediaId first third where
  login := next.login.trans here.login
  tasks name other := (next.tasks name other).trans (here.tasks name other)
  sent name other := (next.sent name other).trans (here.sent name other)

theorem sentBy_transmit (requests : List RSSpaceRequest) (name : String) :
    sentBy name (state.transmit mediaId requests) =
      sentBy name state ++ if mediaId = name then requests else [] := by
  rw [sentBy, transmit, List.filter_append, List.map_append, List.filter_map, List.map_map]
  congr 1
  by_cases same : mediaId = name
  · simp only [Function.comp_def, same, decide_true, List.filter_true, List.map_id', if_true]
  · simp only [Function.comp_def, same, decide_false, List.filter_false, List.map_nil, if_false]

theorem sentBy_create (users : List String) (spaces : List UInt64) (type : RSenReceiverType)
    (createTime : Int) (ok : Bool) (name : String) :
    sentBy name (state.create mediaId users spaces type createTime ok) = sentBy name state := by
  cases ok <;> rfl

theorem sentBy_answer (i : Nat) (success ok : Bool) (zipped : ColdSignal RSSpaceRequest)
    (answers : List (Option Bool)) (name : String) :
    sentBy name (state.answer mediaId i success ok zipped answers) = sentBy name state := by
  simp only [answer]
  split_ifs <;> rfl

theorem localTo_setTask (task : Option SpaceTask) : LocalTo mediaId state (state.setTask mediaId task) where
  login := rfl
  tasks name other := by simp only [setTask, Function.update_of_ne other]
  sent _ _ := rfl

theorem localTo_transmit (requests : List RSSpaceRequest) :
    LocalTo mediaId state (state.transmit mediaId requests) where
  login := rfl
  tasks _ _ := rfl
  sent name other := by rw [sentBy_transmit, if_neg other.symm, List.append_nil]

theorem localTo_updateStatus (ok : Bool) (status : RSSpaceCreateModelStatus) :
    LocalTo mediaId state (state.updateStatus ok mediaId status).2 :=
  ⟨rfl, fun _ _ => rfl, fun _ _ => rfl⟩

theorem localTo_create (users : List String) (spaces : List UInt64) (type : RSenReceiverType)
    (createTime : Int) (ok : Bool) :
    LocalTo mediaId state (state.create mediaId users spaces type createTime ok) := by
  cases ok with
  | false => exact .refl mediaId state
  | true =>
      have inserted : ∀ rows, LocalTo mediaId state { state with rows } :=
        fun _ => ⟨rfl, fun _ _ => rfl, fun _ _ => rfl⟩
      exact (inserted _).trans (localTo_setTask _)

theorem localTo_createSignalSpace (users : List String) (spaces : List UInt64) :
    LocalTo mediaId state (state.createSignalSpace mediaId users spaces) :=
  (localTo_transmit _).trans (localTo_setTask _)

theorem localTo_uploadComplete (isOK ok : Bool) (type : RSenReceiverType) (users : List String)
    (spaces : List UInt64) :
    LocalTo mediaId state (state.uploadComplete mediaId isOK ok type users spaces) := by
  have taken : LocalTo mediaId state (state.setTask mediaId none) := localTo_setTask none
  cases isOK with
  | false => exact taken
  | true =>
      have updated := taken.trans (localTo_updateStatus ok .creating)
      cases ok with
      | false => exact updated
      | true =>
          cases type with
          | receiverTypeCreator => exact updated.trans (localTo_transmit _)
          | receiverTypeCreatorFriend => exact updated.trans (localTo_transmit _)
          | _ => exact updated.trans (localTo_createSignalSpace users spaces)

theorem localTo_answer (i : Nat) (success ok : Bool) (zipped : ColdSignal RSSpaceRequest)
    (answers : List (Option Bool)) :
    LocalTo mediaId state (state.answer mediaId i success ok zipped answers) := by
  simp only [answer]
  split_ifs
  · exact (localTo_setTask _).trans (localTo_updateStatus ok .finish)
  · exact localTo_setTask _
  · exact .refl mediaId state

theorem localTo_step (state : SpaceTasks) (event : SpaceTaskEvent) :
    LocalTo event.mediaId state (step state event) := by
  cases event with
  | create mediaId users spaces type createTime ok => exact localTo_create users spaces type createTime ok
  | uploaded mediaId isOK ok =>
      rw [step]
      split
      · exact localTo_uploadComplete isOK ok _ _ _
      · exact .refl mediaId state
  | answered mediaId i success ok =>
      rw [step]
      split
      · exact localTo_answer i success ok _ _
      · exact .refl mediaId state

end SpaceTasks

end RealSocial
