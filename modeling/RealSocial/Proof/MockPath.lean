import RealSocial.Proof.NetWorkAnswers
import RealSocial.Services.LoginService

namespace RealSocial.Proof

open Library RSNetWorkService

/-! # The debug path of a request and the real one -/

variable {M : Type}

theorem sendRequest_mocked (parsePKG : NSData → Option RSPKG) (request : RSRequest M) (body : NSData)
    (outcome : Except NSError NSData) :
    sendRequest parsePKG { request with mokeResponseData := some body } outcome =
      [.next (.response { data := some body }), .completed] := rfl

theorem sendRequest_real (parsePKG : NSData → Option RSPKG) (request : RSRequest M)
    (outcome : Except NSError NSData) :
    sendRequest parsePKG { request with mokeResponseData := none } outcome =
      completionHandler parsePKG request outcome := rfl

theorem responseOf_data (parsePKG : NSData → Option RSPKG) (request : RSRequest M) (body : NSData) :
    (responseOf parsePKG request body).data = some body ↔
      (request.requestClass = .RSPKGRequest → (parsePKG body).map RSPKG.data_p = some body) := by
  unfold responseOf
  cases request.requestClass with
  | RSRequest =>
      constructor
      · intro _ isPKG
        cases isPKG
      · intro _
        rfl
  | RSPKGRequest =>
      constructor
      · intro same _
        exact same
      · intro same
        exact same rfl

theorem mock_path_iff (parsePKG : NSData → Option RSPKG) (request : RSRequest M) (body : NSData)
    (outcome : Except NSError NSData) :
    sendRequest parsePKG { request with mokeResponseData := some body } outcome =
        sendRequest parsePKG { request with mokeResponseData := none } (.ok body) ↔
      request.respClass = none ∧
        (request.requestClass = .RSPKGRequest → (parsePKG body).map RSPKG.data_p = some body) := by
  rw [sendRequest_mocked, sendRequest_real, ← responseOf_data]
  cases hasClass : request.respClass with
  | none =>
      rw [completionHandler_without_class parsePKG hasClass]
      constructor
      · intro same
        injection same with first
        injection first with object
        injection object with response
        exact ⟨rfl, by rw [← response]⟩
      · rintro ⟨-, data⟩
        rw [← data]
  | some respClass =>
      constructor
      · intro same
        have answered := completionHandler_answered parsePKG hasClass body
        rw [← same] at answered
        cases answered
      · rintro ⟨noClass, -⟩
        cases noClass

/-- An empty body fails the login on the real path, and is delivered on the debug path. -/
theorem empty_body_differs :
    sendRequest (fun _ => none)
        (RSRequestFactory.requestWithReqResp true (some (RSLoginResp.respClass fun _ => .ok {})) (some [])) (.ok []) ≠
      sendRequest (fun _ => none)
        (RSRequestFactory.requestWithReqResp true (some (RSLoginResp.respClass fun _ => .ok {})) none) (.ok []) := by
  intro same
  have delivered : ([.next (.response { data := some [] }), .completed] : Events RSLoginResp) =
      [.error (.errorWithString "reponse data is empty")] := same
  injection delivered with first
  cases first

end RealSocial.Proof
