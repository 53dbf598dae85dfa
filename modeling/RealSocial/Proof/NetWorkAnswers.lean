import RealSocial.Services.NetWorkService

namespace RealSocial.Proof

open Library RSNetWorkService

/-! # What a request delivers -/

variable {M : Type}

/-- The message that is read from the data of an answer: the data parse, and the server reports no error. -/
def accepted (respClass : RespClass M) (data : NSData) : Option M :=
  if data = [] then none
  else
    match respClass.parseFromData data with
    | .error _ => none
    | .ok resp =>
        match respClass.baseResp resp with
        | some baseResp => if baseResp.errCode = 0 then some resp else none
        | none => some resp

theorem accepted_nil (respClass : RespClass M) : accepted respClass [] = none := rfl

theorem accepted_error {respClass : RespClass M} {data : NSData} {error : NSError}
    (parsed : respClass.parseFromData data = .error error) : accepted respClass data = none := by
  unfold accepted
  rw [parsed]
  exact ite_self none

theorem accepted_ok {respClass : RespClass M} {data : NSData} {resp : M} (nonempty : data ≠ [])
    (parsed : respClass.parseFromData data = .ok resp) :
    accepted respClass data =
      match respClass.baseResp resp with
      | some baseResp => if baseResp.errCode = 0 then some resp else none
      | none => some resp := by
  unfold accepted
  rw [if_neg nonempty, parsed]

/-- What an answer with these data makes a request deliver that has a response class. -/
inductive Answered (respClass : RespClass M) (data : NSData) : Events M → Prop where
  | refused (error : NSError) (none : accepted respClass data = none) :
      Answered respClass data [.error error]
  | resp (resp : M) (some : accepted respClass data = some resp) :
      Answered respClass data [.next (.resp resp), .completed]

theorem sendResp_answered {respClass : RespClass M} {data : NSData} {resp : M} (nonempty : data ≠ [])
    (parsed : respClass.parseFromData data = .ok resp) :
    Answered respClass data (sendResp respClass resp) := by
  have answer := accepted_ok nonempty parsed
  unfold sendResp
  cases base : respClass.baseResp resp with
  | none =>
      rw [base] at answer
      exact .resp resp answer
  | some baseResp =>
      rw [base] at answer
      dsimp only at answer ⊢
      by_cases errCode : baseResp.errCode = 0
      · rw [if_neg (not_not_intro errCode)]
        rw [if_pos errCode] at answer
        exact .resp resp answer
      · rw [if_pos errCode]
        rw [if_neg errCode] at answer
        exact .refused _ answer

theorem completionHandler_answered (parsePKG : NSData → Option RSPKG) {request : RSRequest M}
    {respClass : RespClass M} (hasClass : request.respClass = some respClass) (responseObject : NSData) :
    Answered respClass ((responseOf parsePKG request responseObject).data.getD [])
      (completionHandler parsePKG request (.ok responseObject)) := by
  obtain ⟨data, dataIs⟩ : ∃ data, (responseOf parsePKG request responseObject).data.getD [] = data := ⟨_, rfl⟩
  rw [completionHandler, hasClass]
  dsimp only
  rw [dataIs]
  cases data with
  | nil => exact .refused _ (accepted_nil respClass)
  | cons byte bytes =>
      rw [if_neg (by simp)]
      cases parsed : respClass.parseFromData (byte :: bytes) with
      | error error => exact .refused error (accepted_error parsed)
      | ok resp => exact sendResp_answered (List.cons_ne_nil byte bytes) parsed

theorem completionHandler_without_class (parsePKG : NSData → Option RSPKG) {request : RSRequest M}
    (noClass : request.respClass = none) (responseObject : NSData) :
    completionHandler parsePKG request (.ok responseObject) =
      [.next (.response (responseOf parsePKG request responseObject)), .completed] := by
  rw [completionHandler, noClass]

theorem Answered.one_end {respClass : RespClass M} {data : NSData} {events : Events M}
    (answered : Answered respClass data events) :
    (∃ error, events = [.error error]) ∨ ∃ object, events = [.next object, .completed] := by
  cases answered with
  | refused error => exact .inl ⟨error, rfl⟩
  | resp resp => exact .inr ⟨.resp resp, rfl⟩

/-- Every exchange delivers either an error alone or one object before it completes. -/
theorem completionHandler_one_end (parsePKG : NSData → Option RSPKG) (request : RSRequest M)
    (outcome : Except NSError NSData) :
    (∃ error, completionHandler parsePKG request outcome = [.error error]) ∨
      ∃ object, completionHandler parsePKG request outcome = [.next object, .completed] := by
  cases outcome with
  | error error => exact .inl ⟨error, rfl⟩
  | ok responseObject =>
      cases hasClass : request.respClass with
      | none => exact .inr ⟨_, completionHandler_without_class parsePKG hasClass responseObject⟩
      | some respClass => exact (completionHandler_answered parsePKG hasClass responseObject).one_end

end RealSocial.Proof
