import Mathlib.Algebra.Order.Ring.Rat

namespace RealSocial

structure MGFaceInfo where
  pitch : Rat
  yaw : Rat
  roll : Rat
  confidence : Rat
  deriving DecidableEq, Repr

def MGFaceInfo.qualifies (faceInfo : MGFaceInfo) : Bool :=
  faceInfo.pitch > -0.2 && faceInfo.pitch < 0.2 &&
    faceInfo.yaw > -0.2 && faceInfo.yaw < 0.2 &&
    faceInfo.roll > 0.75 && faceInfo.roll < 2.25 &&
    faceInfo.confidence = 1

/-- A frame of the camera: the faces that the detector finds in it, of which it reports at most one, whether
the renderer draws it, and whether an image can be made from it. -/
structure CMSampleBuffer where
  faces : List MGFaceInfo
  single : faces.length ≤ 1
  rendered : Bool := true
  hasImage : Bool := true
  deriving DecidableEq, Repr

def CMSampleBuffer.hasQualifyingFace (sampleBuffer : CMSampleBuffer) : Bool :=
  sampleBuffer.faces.any MGFaceInfo.qualifies

structure RSRegisterFaceViewController where
  shouldShapshot : Bool := false
  shouldShapshotCount : Nat := 0
  deriving DecidableEq, Repr

namespace RSRegisterFaceViewController

def trackFace (controller : RSRegisterFaceViewController) (faceInfo : MGFaceInfo) :
    RSRegisterFaceViewController :=
  if faceInfo.qualifies then
    let controller := { controller with shouldShapshotCount := controller.shouldShapshotCount + 1 }
    if controller.shouldShapshotCount ≥ 10 then { controller with shouldShapshot := true } else controller
  else { controller with shouldShapshotCount := 0 }

def trackSampleBuffer (sampleBuffer : CMSampleBuffer) (controller : RSRegisterFaceViewController) :
    RSRegisterFaceViewController :=
  sampleBuffer.faces.foldl trackFace controller

/-- The step on the draw queue, and whether it takes a snapshot of the frame. -/
def displayWithfaceModel (sampleBuffer : CMSampleBuffer) (controller : RSRegisterFaceViewController) :
    Bool × RSRegisterFaceViewController :=
  if sampleBuffer.rendered && controller.shouldShapshot then (true, { controller with shouldShapshot := false })
  else (false, controller)

/-- The frame brings the counter to 10 or further. -/
def raises (controller : RSRegisterFaceViewController) (sampleBuffer : CMSampleBuffer) : Bool :=
  sampleBuffer.hasQualifyingFace && decide (9 ≤ controller.shouldShapshotCount)

/-- What a frame can do to the counter: no face leaves it, and a face counts or starts it again. -/
inductive Tracked (sampleBuffer : CMSampleBuffer) (controller : RSRegisterFaceViewController) :
    RSRegisterFaceViewController → Prop where
  | faceless (none : sampleBuffer.faces = []) (unqualified : sampleBuffer.hasQualifyingFace = false) :
      Tracked sampleBuffer controller controller
  | counted (qualified : sampleBuffer.hasQualifyingFace = true) :
      Tracked sampleBuffer controller
        { shouldShapshot := controller.shouldShapshot || decide (9 ≤ controller.shouldShapshotCount)
          shouldShapshotCount := controller.shouldShapshotCount + 1 }
  | restarted (some : sampleBuffer.faces ≠ []) (unqualified : sampleBuffer.hasQualifyingFace = false) :
      Tracked sampleBuffer controller { controller with shouldShapshotCount := 0 }

theorem trackFace_qualified {faceInfo : MGFaceInfo} (qualified : faceInfo.qualifies = true)
    (controller : RSRegisterFaceViewController) :
    controller.trackFace faceInfo =
      { shouldShapshot := controller.shouldShapshot || decide (9 ≤ controller.shouldShapshotCount)
        shouldShapshotCount := controller.shouldShapshotCount + 1 } := by
  rw [trackFace, if_pos qualified]
  by_cases enough : 9 ≤ controller.shouldShapshotCount
  · dsimp only
    rw [if_pos (by omega), decide_eq_true enough, Bool.or_true]
  · dsimp only
    rw [if_neg (by omega), decide_eq_false enough, Bool.or_false]

theorem tracked_trackSampleBuffer (sampleBuffer : CMSampleBuffer) (controller : RSRegisterFaceViewController) :
    Tracked sampleBuffer controller (controller.trackSampleBuffer sampleBuffer) := by
  obtain ⟨faces, single, rendered, hasImage⟩ := sampleBuffer
  cases faces with
  | nil => exact .faceless rfl rfl
  | cons faceInfo others =>
      cases others with
      | cons other others => exact absurd single (by simp)
      | nil =>
          dsimp only [trackSampleBuffer, List.foldl_cons, List.foldl_nil]
          cases qualified : faceInfo.qualifies with
          | true =>
              rw [trackFace_qualified qualified]
              apply Tracked.counted
              simp [CMSampleBuffer.hasQualifyingFace, qualified]
          | false =>
              rw [trackFace, if_neg (by simp [qualified])]
              apply Tracked.restarted
              · simp
              · simp [CMSampleBuffer.hasQualifyingFace, qualified]

theorem Tracked.shouldShapshot {sampleBuffer : CMSampleBuffer} {controller after : RSRegisterFaceViewController}
    (tracked : Tracked sampleBuffer controller after) :
    after.shouldShapshot = (controller.shouldShapshot || controller.raises sampleBuffer) := by
  cases tracked with
  | faceless none unqualified => simp [raises, unqualified]
  | counted qualified => simp [raises, qualified]
  | restarted some unqualified => simp [raises, unqualified]

theorem shouldShapshot_trackSampleBuffer (sampleBuffer : CMSampleBuffer)
    (controller : RSRegisterFaceViewController) :
    (controller.trackSampleBuffer sampleBuffer).shouldShapshot =
      (controller.shouldShapshot || controller.raises sampleBuffer) :=
  (tracked_trackSampleBuffer sampleBuffer controller).shouldShapshot

theorem displayWithfaceModel_of_not {controller : RSRegisterFaceViewController} {sampleBuffer : CMSampleBuffer}
    (not : (sampleBuffer.rendered && controller.shouldShapshot) = false) :
    controller.displayWithfaceModel sampleBuffer = (false, controller) := by
  rw [displayWithfaceModel, not]
  rfl

theorem displayWithfaceModel_of_taken {controller : RSRegisterFaceViewController}
    {sampleBuffer : CMSampleBuffer} (rendered : sampleBuffer.rendered = true)
    (flag : controller.shouldShapshot = true) :
    controller.displayWithfaceModel sampleBuffer = (true, { controller with shouldShapshot := false }) := by
  rw [displayWithfaceModel, rendered, flag]
  rfl

end RSRegisterFaceViewController

end RealSocial
