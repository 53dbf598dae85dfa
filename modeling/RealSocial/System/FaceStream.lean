import RealSocial.Features.RegisterFace
import RealSocial.Library.Run

namespace RealSocial

open Library

/-! # The frames of the camera one after another

Each frame is tracked and displayed before the next one comes. `recent` keeps the frames since the last snapshot,
the newest first. The count is interrupted if since the counter was last 0 there was a frame without a face or a
snapshot. -/

structure FaceStream where
  controller : RSRegisterFaceViewController := {}
  recent : List CMSampleBuffer := []
  interrupted : Bool := false
  deriving DecidableEq

namespace FaceStream

def takesSnapshot (stream : FaceStream) (sampleBuffer : CMSampleBuffer) : Bool :=
  ((stream.controller.trackSampleBuffer sampleBuffer).displayWithfaceModel sampleBuffer).1

def step (stream : FaceStream) (sampleBuffer : CMSampleBuffer) : FaceStream :=
  let tracked := stream.controller.trackSampleBuffer sampleBuffer
  let (taken, controller) := tracked.displayWithfaceModel sampleBuffer
  { controller
    recent := if taken then [] else sampleBuffer :: stream.recent
    interrupted :=
      if tracked.shouldShapshotCount = 0 then false
      else stream.interrupted || sampleBuffer.faces.isEmpty || taken }

def streak (frames : List CMSampleBuffer) : Nat :=
  (frames.takeWhile CMSampleBuffer.hasQualifyingFace).length

/-- A snapshot is taken only right after ten frames in a row with a qualifying face, all of them since the
snapshot before. -/
def Steady (stream : FaceStream) (sampleBuffer : CMSampleBuffer) : Prop :=
  stream.takesSnapshot sampleBuffer = true → 10 ≤ streak (sampleBuffer :: stream.recent)

-- a frame that brings the counter to ten is drawn, and nothing has interrupted the count
def Uninterrupted (stream : FaceStream) (sampleBuffer : CMSampleBuffer) : Prop :=
  stream.controller.raises sampleBuffer = true →
    sampleBuffer.rendered = true ∧ stream.interrupted = false

end FaceStream

end RealSocial
