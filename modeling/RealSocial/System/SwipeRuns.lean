import RealSocial.Features.SwipeDown
import RealSocial.Library.Run

namespace RealSocial

open Library

/-! # One pan gesture after another -/

/-- A gesture begins, changes any number of times, and ends or is cancelled. -/
structure PanGesture where
  first : CGPoint := {}
  changes : List CGPoint := []
  last : CGPoint := {}
  isCancelled : Bool := false
  deriving DecidableEq

namespace PanGesture

def changed (translation : CGPoint) : UIPanGestureRecognizer where
  state := .changed
  translation := translation

/-- The recognizer as its targets see it during the gesture. -/
def recognized (gesture : PanGesture) : List UIPanGestureRecognizer :=
  { state := .began, translation := gesture.first } ::
    (gesture.changes.map changed ++
      [{ state := if gesture.isCancelled then .cancelled else .ended, translation := gesture.last }])

/-- The gesture was not cancelled, and its last change was past the half. -/
def Completes (gesture : PanGesture) : Prop :=
  gesture.isCancelled = false ∧
    ∃ translation ∈ gesture.changes.getLast?, swipeFraction translation > 1 / 2

def Decides (gesture : PanGesture) (ends : List InteractiveEnd) : Prop :=
  (gesture.Completes → ends = [.finished]) ∧ (¬gesture.Completes → ends = [.cancelled])

/-- The gesture ends without a change, and the last change of the gestures before it was past the half. -/
def TakesOverHalf (before : List PanGesture) (gesture : PanGesture) : Prop :=
  gesture.isCancelled = false ∧ gesture.changes = [] ∧
    ∃ translation ∈ (before.flatMap changes).getLast?, swipeFraction translation > 1 / 2

end PanGesture

def RSUIViewController.pan (controller : RSUIViewController) (gesture : PanGesture) : RSUIViewController :=
  run RSUIViewController.actionBlock controller gesture.recognized

def RSSwipeDownInteractiveTransition.pan (transition : RSSwipeDownInteractiveTransition)
    (gesture : PanGesture) : RSSwipeDownInteractiveTransition :=
  run RSSwipeDownInteractiveTransition.handleGesture transition gesture.recognized

/-- Each gesture tells the transition of its own pop one end, and the right one. -/
def PopsDecided (gestures : List PanGesture) : Prop :=
  ∀ before gesture after, gestures = before ++ gesture :: after →
    ∃ transition, (run RSUIViewController.pan {} gestures).transitionOfPop before.length = some transition ∧
      gesture.Decides transition.ends

def NoneTakesOverHalf (gestures : List PanGesture) : Prop :=
  ∀ before gesture after, gestures = before ++ gesture :: after → ¬PanGesture.TakesOverHalf before gesture

end RealSocial
