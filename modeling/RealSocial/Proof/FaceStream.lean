import RealSocial.System.FaceStream

namespace RealSocial.Proof

open Library FaceStream

/-! # Snapshots of a stream of frames -/

theorem streak_qualified {frame : CMSampleBuffer} (qualified : frame.hasQualifyingFace = true)
    (frames : List CMSampleBuffer) : streak (frame :: frames) = streak frames + 1 := by
  rw [streak, List.takeWhile_cons_of_pos qualified, List.length_cons, streak]

theorem streak_unqualified {frame : CMSampleBuffer} (unqualified : frame.hasQualifyingFace = false)
    (frames : List CMSampleBuffer) : streak (frame :: frames) = 0 := by
  rw [streak, List.takeWhile_cons_of_neg (by simp [unqualified]), List.length_nil]

/-- What a frame does while the flag is not set. -/
inductive Processed (stream : FaceStream) (frame : CMSampleBuffer) : Bool → FaceStream → Prop where
  | faceless (unqualified : frame.hasQualifyingFace = false) :
      Processed stream frame false
        { stream with
          recent := frame :: stream.recent
          interrupted := decide (stream.controller.shouldShapshotCount ≠ 0) }
  | counted (qualified : frame.hasQualifyingFace = true)
      (few : stream.controller.shouldShapshotCount < 9) :
      Processed stream frame false
        { stream with
          controller := { shouldShapshotCount := stream.controller.shouldShapshotCount + 1 }
          recent := frame :: stream.recent }
  | taken (qualified : frame.hasQualifyingFace = true) (rendered : frame.rendered = true)
      (enough : 9 ≤ stream.controller.shouldShapshotCount) :
      Processed stream frame true
        { controller := { shouldShapshotCount := stream.controller.shouldShapshotCount + 1 }
          recent := []
          interrupted := true }
  | restarted (unqualified : frame.hasQualifyingFace = false) :
      Processed stream frame false { controller := {}, recent := frame :: stream.recent, interrupted := false }

theorem processed_step {stream : FaceStream} {frame : CMSampleBuffer}
    (noFlag : stream.controller.shouldShapshot = false)
    (drawn : stream.controller.raises frame = true → frame.rendered = true) :
    Processed stream frame (stream.takesSnapshot frame) (step stream frame) := by
  have tracked := RSRegisterFaceViewController.tracked_trackSampleBuffer frame stream.controller
  obtain ⟨after, afterIs⟩ : ∃ after, stream.controller.trackSampleBuffer frame = after := ⟨_, rfl⟩
  unfold takesSnapshot step
  rw [afterIs] at tracked ⊢
  dsimp only
  cases tracked with
  | faceless none unqualified =>
      rw [RSRegisterFaceViewController.displayWithfaceModel_of_not (by rw [noFlag, Bool.and_false])]
      have interrupted : (if stream.controller.shouldShapshotCount = 0 then false
          else stream.interrupted || frame.faces.isEmpty || false) =
            decide (stream.controller.shouldShapshotCount ≠ 0) := by
        rw [none]
        by_cases zero : stream.controller.shouldShapshotCount = 0
        · simp [zero]
        · simp [zero]
      dsimp only
      rw [interrupted]
      exact .faceless unqualified
  | restarted some unqualified =>
      rw [RSRegisterFaceViewController.displayWithfaceModel_of_not (by rw [noFlag, Bool.and_false])]
      dsimp only
      rw [noFlag]
      exact .restarted unqualified
  | counted qualified =>
      have someFace : frame.faces.isEmpty = false := by
        cases faces : frame.faces with
        | nil => simp [CMSampleBuffer.hasQualifyingFace, faces] at qualified
        | cons face others => rfl
      by_cases enough : 9 ≤ stream.controller.shouldShapshotCount
      · have rendered := drawn (by simp [RSRegisterFaceViewController.raises, qualified, enough])
        rw [RSRegisterFaceViewController.displayWithfaceModel_of_taken rendered (by simp [enough])]
        have interrupted : (if stream.controller.shouldShapshotCount + 1 = 0 then false
            else stream.interrupted || frame.faces.isEmpty || true) = true := by simp
        dsimp only
        rw [interrupted]
        exact .taken qualified rendered enough
      · rw [RSRegisterFaceViewController.displayWithfaceModel_of_not (by simp [noFlag, enough])]
        have interrupted : (if stream.controller.shouldShapshotCount + 1 = 0 then false
            else stream.interrupted || frame.faces.isEmpty || false) = stream.interrupted := by
          simp [someFace]
        dsimp only
        rw [interrupted, noFlag, decide_eq_false enough, Bool.or_false]
        exact .counted qualified (Nat.lt_of_not_le enough)

theorem Processed.drawn_noFlag {stream after : FaceStream} {frame : CMSampleBuffer} {taken : Bool}
    (processed : Processed stream frame taken after) (noFlag : stream.controller.shouldShapshot = false) :
    after.controller.shouldShapshot = false := by
  cases processed with
  | faceless unqualified => exact noFlag
  | counted qualified few => rfl
  | taken qualified rendered enough => rfl
  | restarted unqualified => rfl

theorem Processed.of_taken {stream after : FaceStream} {frame : CMSampleBuffer}
    (processed : Processed stream frame true after) :
    frame.hasQualifyingFace = true ∧ 9 ≤ stream.controller.shouldShapshotCount := by
  cases processed with
  | taken qualified rendered enough => exact ⟨qualified, enough⟩

/-! ## Where the condition is met -/

/-- No flag is pending, and an uninterrupted count is the streak. -/
structure CountsStreak (stream : FaceStream) : Prop where
  noFlag : stream.controller.shouldShapshot = false
  count : stream.interrupted = false → stream.controller.shouldShapshotCount = streak stream.recent

theorem CountsStreak.processed {stream after : FaceStream} {frame : CMSampleBuffer} {taken : Bool}
    (counts : CountsStreak stream) (processed : Processed stream frame taken after) : CountsStreak after := by
  apply CountsStreak.mk (processed.drawn_noFlag counts.noFlag)
  intro uninterrupted
  cases processed with
  | faceless unqualified =>
      dsimp only at uninterrupted ⊢
      rw [streak_unqualified unqualified]
      exact of_not_not (of_decide_eq_false uninterrupted)
  | counted qualified few =>
      dsimp only at uninterrupted ⊢
      rw [streak_qualified qualified, counts.count uninterrupted]
  | taken qualified rendered enough => cases uninterrupted
  | restarted unqualified => exact (streak_unqualified unqualified _).symm

theorem steady_of_uninterrupted {stream : FaceStream} {frame : CMSampleBuffer} (counts : CountsStreak stream)
    (uninterrupted : Uninterrupted stream frame) : Steady stream frame := by
  have processed := processed_step counts.noFlag fun raised => (uninterrupted raised).1
  intro takes
  rw [takes] at processed
  obtain ⟨qualified, enough⟩ := processed.of_taken
  have raised : stream.controller.raises frame = true := by
    simp [RSRegisterFaceViewController.raises, qualified, enough]
  have count := counts.count (uninterrupted raised).2
  rw [streak_qualified qualified]
  omega

/-! ## Where all frames are drawn -/

/-- An interrupted count is ahead of the streak, and from ten on each qualifying frame is a snapshot. -/
structure CountsAhead (stream : FaceStream) : Prop where
  noFlag : stream.controller.shouldShapshot = false
  ahead : stream.interrupted = true → streak stream.recent < stream.controller.shouldShapshotCount
  beyond : 10 ≤ stream.controller.shouldShapshotCount → streak stream.recent = 0

theorem CountsAhead.processed {stream after : FaceStream} {frame : CMSampleBuffer} {taken : Bool}
    (counts : CountsAhead stream) (processed : Processed stream frame taken after) : CountsAhead after := by
  apply CountsAhead.mk (processed.drawn_noFlag counts.noFlag)
  · intro interrupted
    cases processed with
    | faceless unqualified =>
        dsimp only at interrupted ⊢
        rw [streak_unqualified unqualified]
        exact Nat.pos_of_ne_zero (of_decide_eq_true interrupted)
    | counted qualified few =>
        dsimp only at interrupted ⊢
        rw [streak_qualified qualified]
        exact Nat.succ_lt_succ (counts.ahead interrupted)
    | taken qualified rendered enough => exact Nat.succ_pos _
    | restarted unqualified => cases interrupted
  · intro enough
    cases processed with
    | faceless unqualified => exact streak_unqualified unqualified _
    | counted qualified few =>
        dsimp only at enough
        omega
    | taken qualified rendered enough => rfl
    | restarted unqualified => exact streak_unqualified unqualified _

theorem uninterrupted_of_steady {stream : FaceStream} {frame : CMSampleBuffer} (counts : CountsAhead stream)
    (rendered : frame.rendered = true) (steady : Steady stream frame) : Uninterrupted stream frame := by
  intro raised
  apply And.intro rendered
  have flag : (stream.controller.trackSampleBuffer frame).shouldShapshot = true := by
    rw [RSRegisterFaceViewController.shouldShapshot_trackSampleBuffer, raised, Bool.or_true]
  have takes : stream.takesSnapshot frame = true := by
    rw [takesSnapshot, RSRegisterFaceViewController.displayWithfaceModel_of_taken rendered flag]
  have long := steady takes
  obtain ⟨qualified, enough⟩ := Bool.and_eq_true_iff.mp raised
  rw [streak_qualified qualified] at long
  cases interrupted : stream.interrupted with
  | false => rfl
  | true =>
      have ahead := counts.ahead interrupted
      have beyond := counts.beyond
      omega

theorem steady_snapshots (frames : List CMSampleBuffer) :
    (EveryStep step Uninterrupted {} frames → EveryStep step Steady {} frames) ∧
      ((∀ frame ∈ frames, frame.rendered = true) → EveryStep step Steady {} frames →
        EveryStep step Uninterrupted {} frames) := by
  constructor
  · intro uninterrupted
    have states : EveryState step CountsStreak {} frames := by
      apply everyState_of_steps _ ⟨rfl, fun _ => rfl⟩ uninterrupted
      intro stream frame counts here
      exact counts.processed (processed_step counts.noFlag fun raised => (here raised).1)
    apply everyStep_of_everyState _ states uninterrupted
    intro stream frame counts here
    exact steady_of_uninterrupted counts here
  · intro rendered steady
    have drawn : EveryStep step (fun _ frame => frame.rendered = true) {} frames :=
      everyStep_of_forall rendered _
    have states : EveryState step CountsAhead {} frames := by
      apply everyState_of_steps _ ⟨rfl, fun interrupted => Bool.noConfusion interrupted, fun _ => rfl⟩ drawn
      intro stream frame counts here
      exact counts.processed (processed_step counts.noFlag fun _ => here)
    apply everyStep_of_everyState _ states (drawn.and steady)
    intro stream frame counts here
    exact uninterrupted_of_steady counts here.1 here.2

def facing : CMSampleBuffer where
  faces := [{ pitch := 0, yaw := 0, roll := 1, confidence := 1 }]
  single := Nat.le_refl 1

def faceless : CMSampleBuffer where
  faces := []
  single := Nat.zero_le 1

/-- The tenth qualifying frame comes after one without a face. -/
theorem faceless_frame_keeps_count :
    ¬EveryStep step Steady {} (List.replicate 9 facing ++ [faceless, facing]) := by
  intro every
  have last := (everyStep_append.mp every).2.2.1
  have takes : (step (run step {} (List.replicate 9 facing)) faceless).takesSnapshot facing = true := by
    decide +kernel
  have short : ¬10 ≤ streak (facing :: (step (run step {} (List.replicate 9 facing)) faceless).recent) := by
    decide +kernel
  exact short (last takes)

end RealSocial.Proof
