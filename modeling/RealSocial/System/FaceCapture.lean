import RealSocial.Features.RegisterFace
import RealSocial.Library.Run

namespace RealSocial

open Library

/-! # The pipeline of the face capture

The camera delivers frames while it runs. The detect queue tracks them one after another and hands each on to
the draw queue, which takes the snapshots. -/

/-- An upload of the image of a frame, which ends when it fails or completes. -/
structure FaceUpload where
  frame : CMSampleBuffer
  ended : Bool := false
  deriving DecidableEq, Repr

/-- `taken` and `started` count the snapshots and the uploads since the capture was started. -/
structure FaceCapture where
  controller : RSRegisterFaceViewController := {}
  running : Bool := true
  detectImageQueue : List CMSampleBuffer := []
  drawFaceQueue : List CMSampleBuffer := []
  uploads : List FaceUpload := []
  taken : Nat := 0
  started : Nat := 0
  deriving DecidableEq

inductive FaceCaptureEvent where
  | captureOutput (sampleBuffer : CMSampleBuffer)
  | detected
  | drawn
  | uploadFailed (i : Nat)
  | uploadCompleted (i : Nat)
  deriving DecidableEq

namespace FaceCapture

def detected (capture : FaceCapture) : FaceCapture :=
  match capture.detectImageQueue with
  | sampleBuffer :: waiting =>
      { capture with
        controller := capture.controller.trackSampleBuffer sampleBuffer
        detectImageQueue := waiting
        drawFaceQueue := capture.drawFaceQueue ++ [sampleBuffer] }
  | [] => capture

def uploadImage (sampleBuffer : CMSampleBuffer) (capture : FaceCapture) : FaceCapture :=
  if sampleBuffer.hasImage then
    { capture with
      uploads := capture.uploads ++ [{ frame := sampleBuffer }]
      started := capture.started + 1 }
  else capture

def drawn (capture : FaceCapture) : FaceCapture :=
  match capture.drawFaceQueue with
  | sampleBuffer :: waiting =>
      let (taken, controller) := capture.controller.displayWithfaceModel sampleBuffer
      let capture := { capture with controller, drawFaceQueue := waiting }
      if taken then { capture with running := false, taken := capture.taken + 1 }.uploadImage sampleBuffer
      else capture
  | [] => capture

def startRunning (capture : FaceCapture) : FaceCapture :=
  if capture.running then capture else { capture with running := true, taken := 0, started := 0 }

def uploadEnds (i : Nat) (failed : Bool) (capture : FaceCapture) : FaceCapture :=
  match capture.uploads[i]? with
  | some upload =>
      if upload.ended then capture
      else
        let capture := { capture with uploads := capture.uploads.set i { upload with ended := true } }
        if failed then capture.startRunning else capture
  | none => capture

def step (capture : FaceCapture) : FaceCaptureEvent → FaceCapture
  | .captureOutput sampleBuffer =>
      if capture.running then
        { capture with detectImageQueue := capture.detectImageQueue ++ [sampleBuffer] }
      else capture
  | .detected => capture.detected
  | .drawn => capture.drawn
  | .uploadFailed i => capture.uploadEnds i true
  | .uploadCompleted i => capture.uploadEnds i false

def AtMostOne (capture : FaceCapture) : Prop := capture.taken ≤ 1 ∧ capture.started ≤ 1

def UploadsQualify (capture : FaceCapture) : Prop :=
  ∀ upload ∈ capture.uploads, upload.frame.hasQualifyingFace = true

/-- The property holds however many of the frames that wait are drawn next. -/
def DrawnOut (P : FaceCapture → Prop) (capture : FaceCapture) : Prop :=
  ∀ n, P (run step capture (List.replicate n .drawn))

def Raised (sampleBuffer : CMSampleBuffer) (capture : FaceCapture) : Prop :=
  capture.controller.shouldShapshot = true ∨ capture.controller.raises sampleBuffer = true

/-- After a snapshot no frame is tracked that finds or sets the flag, as long as it or a frame before it is
still to be drawn. -/
def RaisesOnce (capture : FaceCapture) : FaceCaptureEvent → Prop
  | .detected => ∀ sampleBuffer, capture.detectImageQueue.head? = some sampleBuffer → capture.taken ≠ 0 →
      capture.Raised sampleBuffer → ∀ frame ∈ capture.drawFaceQueue ++ [sampleBuffer], frame.rendered = false
  | _ => True

/-- When a tracked frame finds or sets the flag, the first frame that is drawn next has a qualifying face, or no
image can be made from it. -/
def DrawsQualifying (capture : FaceCapture) : FaceCaptureEvent → Prop
  | .detected => ∀ sampleBuffer, capture.detectImageQueue.head? = some sampleBuffer →
      capture.Raised sampleBuffer → ∀ frame,
        (capture.drawFaceQueue ++ [sampleBuffer]).find? CMSampleBuffer.rendered = some frame →
          frame.hasImage = true → frame.hasQualifyingFace = true
  | _ => True

end FaceCapture

end RealSocial
