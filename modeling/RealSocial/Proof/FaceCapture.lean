import RealSocial.Library.Attempts
import RealSocial.Proof.FaceStream
import RealSocial.System.FaceCapture

namespace RealSocial.Proof

open Library FaceCapture

/-! # The snapshots of the face capture -/

/-- The frame that the next snapshot is taken of, if no other frame is tracked before. -/
def nextSnapshot (capture : FaceCapture) : Option CMSampleBuffer :=
  if capture.controller.shouldShapshot then capture.drawFaceQueue.find? CMSampleBuffer.rendered else none

theorem nextSnapshot_of_flag {capture : FaceCapture} (flag : capture.controller.shouldShapshot = true) :
    nextSnapshot capture = capture.drawFaceQueue.find? CMSampleBuffer.rendered := by
  rw [nextSnapshot, if_pos flag]

theorem nextSnapshot_of_noFlag {capture : FaceCapture} (noFlag : capture.controller.shouldShapshot = false) :
    nextSnapshot capture = none := by
  rw [nextSnapshot, noFlag, if_neg Bool.false_ne_true]

def uploadOf (frame : CMSampleBuffer) : List FaceUpload := if frame.hasImage then [{ frame }] else []

theorem length_uploadOf (frame : CMSampleBuffer) : (uploadOf frame).length ≤ 1 := by
  unfold uploadOf
  split_ifs
  · exact Nat.le_refl 1
  · exact Nat.zero_le 1

/-- What the draws up to the next snapshot, and those after it, have changed. -/
inductive Ahead (capture after : FaceCapture) : Prop where
  | waiting (next : nextSnapshot after = nextSnapshot capture) (taken : after.taken = capture.taken)
      (started : after.started = capture.started) (uploads : after.uploads = capture.uploads) :
      Ahead capture after
  | took (frame : CMSampleBuffer) (frameIs : nextSnapshot capture = some frame)
      (next : nextSnapshot after = none) (taken : after.taken = capture.taken + 1)
      (started : after.started = capture.started + (uploadOf frame).length)
      (uploads : after.uploads = capture.uploads ++ uploadOf frame) : Ahead capture after

theorem uploadImage_eq (frame : CMSampleBuffer) (capture : FaceCapture) :
    capture.uploadImage frame =
      { capture with
        uploads := capture.uploads ++ uploadOf frame
        started := capture.started + (uploadOf frame).length } := by
  unfold uploadImage uploadOf
  split_ifs
  · rfl
  · simp

theorem Ahead.refl (capture : FaceCapture) : Ahead capture capture := .waiting rfl rfl rfl rfl

theorem Ahead.trans {first second third : FaceCapture} (ahead : Ahead first second) (on : Ahead second third) :
    Ahead first third := by
  cases ahead with
  | waiting next taken started uploads =>
      cases on with
      | waiting next' taken' started' uploads' =>
          exact .waiting (next'.trans next) (taken'.trans taken) (started'.trans started) (uploads'.trans uploads)
      | took frame frameIs next' taken' started' uploads' =>
          rw [taken] at taken'
          rw [started] at started'
          rw [uploads] at uploads'
          exact .took frame (next.symm.trans frameIs) next' taken' started' uploads'
  | took frame frameIs next taken started uploads =>
      cases on with
      | waiting next' taken' started' uploads' =>
          exact .took frame frameIs (next'.trans next) (taken'.trans taken) (started'.trans started)
            (uploads'.trans uploads)
      | took other otherIs next' taken' started' uploads' =>
          rw [next] at otherIs
          cases otherIs

theorem drawn_empty {capture : FaceCapture} (queue : capture.drawFaceQueue = []) : capture.drawn = capture := by
  unfold drawn
  rw [queue]

theorem drawn_skipped {capture : FaceCapture} {frame : CMSampleBuffer} {waiting : List CMSampleBuffer}
    (queue : capture.drawFaceQueue = frame :: waiting)
    (skipped : (frame.rendered && capture.controller.shouldShapshot) = false) :
    capture.drawn = { capture with drawFaceQueue := waiting } := by
  unfold drawn
  rw [queue]
  dsimp only
  rw [RSRegisterFaceViewController.displayWithfaceModel_of_not skipped]
  exact if_neg Bool.false_ne_true

theorem drawn_taken {capture : FaceCapture} {frame : CMSampleBuffer} {waiting : List CMSampleBuffer}
    (queue : capture.drawFaceQueue = frame :: waiting) (rendered : frame.rendered = true)
    (flag : capture.controller.shouldShapshot = true) :
    capture.drawn =
      { capture with
        controller := { capture.controller with shouldShapshot := false }
        drawFaceQueue := waiting
        running := false
        taken := capture.taken + 1
        uploads := capture.uploads ++ uploadOf frame
        started := capture.started + (uploadOf frame).length } := by
  unfold drawn
  rw [queue]
  dsimp only
  rw [RSRegisterFaceViewController.displayWithfaceModel_of_taken rendered flag]
  dsimp only
  rw [if_pos rfl, uploadImage_eq]

/-- A draw takes the next snapshot, or it skips a frame that the next snapshot is not taken of. -/
theorem ahead_drawn (capture : FaceCapture) : Ahead capture capture.drawn := by
  cases queue : capture.drawFaceQueue with
  | nil =>
      rw [drawn_empty queue]
      exact .refl capture
  | cons frame waiting =>
      cases taken : frame.rendered && capture.controller.shouldShapshot with
      | false =>
          rw [drawn_skipped queue taken]
          have next : nextSnapshot { capture with drawFaceQueue := waiting } = nextSnapshot capture := by
            dsimp only [nextSnapshot]
            cases flag : capture.controller.shouldShapshot with
            | false => rfl
            | true =>
                rw [flag, Bool.and_true] at taken
                rw [queue, List.find?_cons_of_neg (by simp [taken])]
          exact .waiting next rfl rfl rfl
      | true =>
          obtain ⟨rendered, flag⟩ := Bool.and_eq_true_iff.mp taken
          rw [drawn_taken queue rendered flag]
          have frameIs : nextSnapshot capture = some frame := by
            rw [nextSnapshot_of_flag flag, queue, List.find?_cons_of_pos rendered]
          exact .took frame frameIs (nextSnapshot_of_noFlag rfl) rfl rfl rfl

theorem drawFaceQueue_drawn (capture : FaceCapture) : capture.drawn.drawFaceQueue = capture.drawFaceQueue.tail := by
  cases queue : capture.drawFaceQueue with
  | nil =>
      rw [drawn_empty queue]
      exact queue
  | cons frame waiting =>
      cases taken : frame.rendered && capture.controller.shouldShapshot with
      | false => rw [drawn_skipped queue taken]; rfl
      | true =>
          obtain ⟨rendered, flag⟩ := Bool.and_eq_true_iff.mp taken
          rw [drawn_taken queue rendered flag]
          rfl

theorem ahead_run (n : Nat) (capture : FaceCapture) :
    Ahead capture (run step capture (List.replicate n .drawn)) := by
  induction n generalizing capture with
  | zero => exact .refl capture
  | succ n ih =>
      rw [List.replicate_succ, run_cons]
      exact (ahead_drawn capture).trans (ih (step capture .drawn))

theorem drawFaceQueue_run (n : Nat) (capture : FaceCapture) :
    (run step capture (List.replicate n .drawn)).drawFaceQueue = capture.drawFaceQueue.drop n := by
  induction n generalizing capture with
  | zero => rfl
  | succ n ih =>
      rw [List.replicate_succ, run_cons, ih, step, drawFaceQueue_drawn, List.drop_tail]

/-- Once all frames that wait are drawn, the next snapshot has been taken. -/
theorem takes_nextSnapshot {capture : FaceCapture} {frame : CMSampleBuffer}
    (next : nextSnapshot capture = some frame) :
    ∃ n, (run step capture (List.replicate n .drawn)).taken = capture.taken + 1 ∧
      (run step capture (List.replicate n .drawn)).uploads = capture.uploads ++ uploadOf frame := by
  have allDrawn := drawFaceQueue_run capture.drawFaceQueue.length capture
  rw [List.drop_length] at allDrawn
  refine ⟨capture.drawFaceQueue.length, ?_⟩
  cases ahead_run capture.drawFaceQueue.length capture with
  | waiting same taken started uploads =>
      have noneLeft : nextSnapshot (run step capture (List.replicate capture.drawFaceQueue.length .drawn)) = none := by
        rw [nextSnapshot, allDrawn, List.find?_nil, ite_self]
      rw [noneLeft, next] at same
      cases same
  | took other otherIs noneLeft taken started uploads =>
      rw [next] at otherIs
      cases otherIs
      exact ⟨taken, uploads⟩

/-! ## The properties once the waiting frames are drawn -/

theorem drawnOut_atMostOne {capture : FaceCapture} (fewer : capture.started ≤ capture.taken) :
    DrawnOut AtMostOne capture ↔
      capture.taken ≤ 1 ∧ (capture.taken ≠ 0 → nextSnapshot capture = none) := by
  constructor
  · intro drawnOut
    apply And.intro (drawnOut 0).1
    intro taken
    cases next : nextSnapshot capture with
    | none => rfl
    | some frame =>
        obtain ⟨n, more, -⟩ := takes_nextSnapshot next
        have atMostOne := (drawnOut n).1
        omega
  · rintro ⟨once, noneNext⟩ n
    cases ahead_run n capture with
    | waiting next taken started uploads => exact ⟨by omega, by omega⟩
    | took frame frameIs next taken started uploads =>
        have untaken : capture.taken = 0 := by
          by_contra taken
          rw [noneNext taken] at frameIs
          cases frameIs
        have single := length_uploadOf frame
        exact ⟨by omega, by omega⟩

theorem uploadsQualify_append {capture after : FaceCapture} {frame : CMSampleBuffer}
    (uploads : after.uploads = capture.uploads ++ uploadOf frame) :
    UploadsQualify after ↔
      UploadsQualify capture ∧ (frame.hasImage = true → frame.hasQualifyingFace = true) := by
  unfold UploadsQualify
  rw [uploads, List.forall_mem_append]
  apply and_congr_right
  intro _
  unfold uploadOf
  cases frame.hasImage with
  | false => simp
  | true => simp

theorem drawnOut_uploadsQualify (capture : FaceCapture) :
    DrawnOut UploadsQualify capture ↔
      UploadsQualify capture ∧ ∀ frame, nextSnapshot capture = some frame → frame.hasImage = true →
        frame.hasQualifyingFace = true := by
  constructor
  · intro drawnOut
    apply And.intro (drawnOut 0)
    intro frame next
    obtain ⟨n, -, uploads⟩ := takes_nextSnapshot next
    exact ((uploadsQualify_append uploads).mp (drawnOut n)).2
  · rintro ⟨qualify, next⟩ n
    cases ahead_run n capture with
    | waiting same taken started uploads =>
        unfold UploadsQualify
        rw [uploads]
        exact qualify
    | took frame frameIs noneNext taken started uploads =>
        exact (uploadsQualify_append uploads).mpr ⟨qualify, next frame frameIs⟩

/-! ## What the other steps do -/

/-- Nothing that the next snapshot depends on changes, but for a capture that starts again. -/
structure Keeps (capture after : FaceCapture) : Prop where
  next : nextSnapshot after = nextSnapshot capture
  counts : after.taken = capture.taken ∧ after.started = capture.started ∨ after.taken = 0 ∧ after.started = 0
  frames : after.uploads.map FaceUpload.frame = capture.uploads.map FaceUpload.frame

theorem Keeps.refl (capture : FaceCapture) : Keeps capture capture := ⟨rfl, .inl ⟨rfl, rfl⟩, rfl⟩

theorem keeps_captureOutput (frame : CMSampleBuffer) (capture : FaceCapture) :
    Keeps capture (step capture (.captureOutput frame)) := by
  unfold step
  dsimp only
  split_ifs
  · exact ⟨rfl, .inl ⟨rfl, rfl⟩, rfl⟩
  · exact .refl capture

theorem keeps_startRunning (capture : FaceCapture) : Keeps capture capture.startRunning := by
  unfold startRunning
  split_ifs
  · exact .refl capture
  · exact ⟨rfl, .inr ⟨rfl, rfl⟩, rfl⟩

theorem Keeps.settled {capture after : FaceCapture} {i : Nat} {upload : FaceUpload}
    (there : capture.uploads[i]? = some upload)
    (keeps : Keeps { capture with uploads := capture.uploads.set i { upload with ended := true } } after) :
    Keeps capture after :=
  ⟨keeps.next, keeps.counts, keeps.frames.trans (map_set_of_same there rfl)⟩

theorem keeps_uploadEnds (i : Nat) (failed : Bool) (capture : FaceCapture) :
    Keeps capture (capture.uploadEnds i failed) := by
  unfold uploadEnds
  cases there : capture.uploads[i]? with
  | none => exact .refl capture
  | some upload =>
      dsimp only
      split_ifs
      · exact .refl capture
      · exact .settled there (keeps_startRunning _)
      · exact .settled there (.refl _)

theorem uploadsQualify_frames (capture : FaceCapture) :
    UploadsQualify capture ↔
      ∀ frame ∈ capture.uploads.map FaceUpload.frame, frame.hasQualifyingFace = true := by
  rw [UploadsQualify, List.forall_mem_map]

theorem Keeps.uploadsQualify {capture after : FaceCapture} (keeps : Keeps capture after) :
    UploadsQualify after ↔ UploadsQualify capture := by
  rw [uploadsQualify_frames, uploadsQualify_frames, keeps.frames]

theorem detected_empty {capture : FaceCapture} (queue : capture.detectImageQueue = []) :
    capture.detected = capture := by
  unfold detected
  rw [queue]

theorem detected_cons {capture : FaceCapture} {frame : CMSampleBuffer} {waiting : List CMSampleBuffer}
    (queue : capture.detectImageQueue = frame :: waiting) :
    capture.detected =
      { capture with
        controller := capture.controller.trackSampleBuffer frame
        detectImageQueue := waiting
        drawFaceQueue := capture.drawFaceQueue ++ [frame] } := by
  unfold detected
  rw [queue]

/-- Where the flag is found or set, the next snapshot is taken of the first frame that gets drawn. -/
theorem nextSnapshot_detected {capture : FaceCapture} {frame : CMSampleBuffer} {waiting : List CMSampleBuffer}
    (queue : capture.detectImageQueue = frame :: waiting) (next : CMSampleBuffer) :
    nextSnapshot capture.detected = some next ↔
      capture.Raised frame ∧ (capture.drawFaceQueue ++ [frame]).find? CMSampleBuffer.rendered = some next := by
  rw [detected_cons queue, nextSnapshot, RSRegisterFaceViewController.shouldShapshot_trackSampleBuffer, Raised,
    ← Bool.or_eq_true]
  cases capture.controller.shouldShapshot || capture.controller.raises frame with
  | false => simp
  | true => simp

theorem nextSnapshot_detected_none {capture : FaceCapture} {frame : CMSampleBuffer}
    {waiting : List CMSampleBuffer} (queue : capture.detectImageQueue = frame :: waiting) :
    nextSnapshot capture.detected = none ↔
      (capture.Raised frame → ∀ waits ∈ capture.drawFaceQueue ++ [frame], waits.rendered = false) := by
  have undrawn : (∀ next, (capture.drawFaceQueue ++ [frame]).find? CMSampleBuffer.rendered ≠ some next) ↔
      ∀ waits ∈ capture.drawFaceQueue ++ [frame], waits.rendered = false := by
    rw [← Option.eq_none_iff_forall_ne_some, List.find?_eq_none]
    simp
  rw [← undrawn, Option.eq_none_iff_forall_ne_some]
  simp only [ne_eq, nextSnapshot_detected queue, not_and]
  exact forall_comm

theorem drawnOut_drawn {P : FaceCapture → Prop} {capture : FaceCapture} (drawnOut : DrawnOut P capture) :
    DrawnOut P (step capture .drawn) := by
  intro n
  exact drawnOut (n + 1)

/-! ## At most one snapshot -/

theorem started_le_taken_step (capture : FaceCapture) (event : FaceCaptureEvent)
    (fewer : capture.started ≤ capture.taken) :
    (step capture event).started ≤ (step capture event).taken := by
  have kept : ∀ {after : FaceCapture}, Keeps capture after → after.started ≤ after.taken := by
    intro after keeps
    rcases keeps.counts with ⟨taken, started⟩ | ⟨taken, started⟩
    · omega
    · omega
  cases event with
  | captureOutput frame => exact kept (keeps_captureOutput frame capture)
  | uploadFailed i => exact kept (keeps_uploadEnds i true capture)
  | uploadCompleted i => exact kept (keeps_uploadEnds i false capture)
  | detected =>
      dsimp only [step]
      cases queue : capture.detectImageQueue with
      | nil => rw [detected_empty queue]; exact fewer
      | cons frame waiting => rw [detected_cons queue]; exact fewer
  | drawn =>
      dsimp only [step]
      cases ahead_drawn capture with
      | waiting next taken started uploads => omega
      | took frame frameIs next taken started uploads =>
          have single := length_uploadOf frame
          omega

theorem Keeps.atMostOne {capture after : FaceCapture} (keeps : Keeps capture after)
    (fewer : capture.started ≤ capture.taken) (drawnOut : DrawnOut AtMostOne capture) :
    DrawnOut AtMostOne after := by
  obtain ⟨once, noneNext⟩ := (drawnOut_atMostOne fewer).mp drawnOut
  rcases keeps.counts with ⟨taken, started⟩ | ⟨taken, started⟩
  · apply (drawnOut_atMostOne (by omega)).mpr
    rw [taken, keeps.next]
    exact ⟨once, noneNext⟩
  · apply (drawnOut_atMostOne (by omega)).mpr
    rw [taken]
    exact ⟨Nat.zero_le 1, fun some => absurd rfl some⟩

theorem raisesOnce_iff (capture : FaceCapture) (event : FaceCaptureEvent)
    (fewer : capture.started ≤ capture.taken) (drawnOut : DrawnOut AtMostOne capture) :
    DrawnOut AtMostOne (step capture event) ↔ RaisesOnce capture event := by
  cases event with
  | captureOutput frame =>
      exact iff_of_true ((keeps_captureOutput frame capture).atMostOne fewer drawnOut) trivial
  | uploadFailed i => exact iff_of_true ((keeps_uploadEnds i true capture).atMostOne fewer drawnOut) trivial
  | uploadCompleted i =>
      exact iff_of_true ((keeps_uploadEnds i false capture).atMostOne fewer drawnOut) trivial
  | drawn => exact iff_of_true (drawnOut_drawn drawnOut) trivial
  | detected =>
      cases queue : capture.detectImageQueue with
      | nil =>
          have noFrame : RaisesOnce capture .detected := by
            intro frame first
            rw [queue] at first
            cases first
          dsimp only [step]
          rw [detected_empty queue]
          exact iff_of_true drawnOut noFrame
      | cons frame waiting =>
          have taken : capture.detected.taken = capture.taken := by rw [detected_cons queue]
          have started : capture.detected.started = capture.started := by rw [detected_cons queue]
          have once := ((drawnOut_atMostOne fewer).mp drawnOut).1
          dsimp only [step, RaisesOnce]
          rw [drawnOut_atMostOne (by omega), nextSnapshot_detected_none queue, taken, and_iff_right once, queue]
          simp only [List.head?_cons, Option.some.injEq, forall_eq']

theorem one_upload_per_capture_iff (events : List FaceCaptureEvent) :
    EveryState step (DrawnOut AtMostOne) {} events ↔ EveryStep step RaisesOnce {} events := by
  have initially : DrawnOut AtMostOne {} :=
    (drawnOut_atMostOne (Nat.le_refl 0)).mpr ⟨Nat.zero_le 1, fun some => absurd rfl some⟩
  have kept : ∀ capture event, capture.started ≤ capture.taken →
      (step capture event).started ≤ (step capture event).taken := started_le_taken_step
  exact everyState_iff_everyStep kept raisesOnce_iff (Nat.le_refl 0) initially events

def eleventhWaits : List FaceCaptureEvent :=
  List.replicate 11 (.captureOutput facing) ++ List.replicate 10 .detected ++ [.drawn, .detected, .drawn]

/-- The eleventh frame waits to be tracked while the snapshot of the first one is taken. -/
theorem frame_in_pipeline_uploads_again : ¬AtMostOne (run step {} eleventhWaits) := by
  rintro ⟨once, -⟩
  have twice : (run step {} eleventhWaits).taken = 2 := by decide +kernel
  rw [twice] at once
  omega

/-! ## The frames of the uploads -/

theorem Keeps.drawnOut_uploadsQualify {capture after : FaceCapture} (keeps : Keeps capture after)
    (drawnOut : DrawnOut UploadsQualify capture) : DrawnOut UploadsQualify after := by
  obtain ⟨qualify, next⟩ := (Proof.drawnOut_uploadsQualify capture).mp drawnOut
  apply (Proof.drawnOut_uploadsQualify after).mpr
  rw [keeps.next]
  exact ⟨keeps.uploadsQualify.mpr qualify, next⟩

theorem drawsQualifying_iff (capture : FaceCapture) (event : FaceCaptureEvent)
    (drawnOut : DrawnOut UploadsQualify capture) :
    DrawnOut UploadsQualify (step capture event) ↔ DrawsQualifying capture event := by
  cases event with
  | captureOutput frame =>
      exact iff_of_true ((keeps_captureOutput frame capture).drawnOut_uploadsQualify drawnOut) trivial
  | uploadFailed i =>
      exact iff_of_true ((keeps_uploadEnds i true capture).drawnOut_uploadsQualify drawnOut) trivial
  | uploadCompleted i =>
      exact iff_of_true ((keeps_uploadEnds i false capture).drawnOut_uploadsQualify drawnOut) trivial
  | drawn => exact iff_of_true (drawnOut_drawn drawnOut) trivial
  | detected =>
      cases queue : capture.detectImageQueue with
      | nil =>
          have noFrame : DrawsQualifying capture .detected := by
            intro frame first
            rw [queue] at first
            cases first
          dsimp only [step]
          rw [detected_empty queue]
          exact iff_of_true drawnOut noFrame
      | cons frame waiting =>
          have qualify : UploadsQualify capture.detected := by
            rw [detected_cons queue]
            exact ((drawnOut_uploadsQualify capture).mp drawnOut).1
          dsimp only [step, DrawsQualifying]
          rw [drawnOut_uploadsQualify, and_iff_right qualify, queue]
          simp only [List.head?_cons, Option.some.injEq, forall_eq', nextSnapshot_detected queue, and_imp]
          constructor
          · intro next raised first isFirst
            exact next first raised isFirst
          · intro first next raised isFirst
            exact first raised next isFirst

theorem uploaded_face_qualifies_iff (events : List FaceCaptureEvent) :
    EveryState step (DrawnOut UploadsQualify) {} events ↔ EveryStep step DrawsQualifying {} events := by
  have noUpload : UploadsQualify {} := by
    intro upload member
    cases member
  have initially : DrawnOut UploadsQualify {} := by
    apply (drawnOut_uploadsQualify {}).mpr
    apply And.intro noUpload
    intro frame next
    cases next
  apply everyState_iff_of_good (G := DrawnOut UploadsQualify)
  · intro capture drawnOut
    exact drawnOut
  · exact drawsQualifying_iff
  · intro capture event drawnOut draws
    exact (drawsQualifying_iff capture event drawnOut).mpr draws
  · exact initially

def facelessBeforeTenth : List FaceCaptureEvent :=
  List.replicate 9 (.captureOutput facing) ++ [.captureOutput faceless, .captureOutput facing] ++
    List.replicate 9 .detected ++ List.replicate 9 .drawn ++ [.detected, .detected, .drawn]

/-- The tenth qualifying frame sets the flag while one without a face is still to be drawn. -/
theorem faceless_frame_is_uploaded : ¬UploadsQualify (run step {} facelessBeforeTenth) := by
  intro qualify
  have unqualified : (run step {} facelessBeforeTenth).uploads.all (fun upload =>
      upload.frame.hasQualifyingFace) = false := by decide +kernel
  rw [List.all_eq_true.mpr qualify] at unqualified
  cases unqualified

end RealSocial.Proof
