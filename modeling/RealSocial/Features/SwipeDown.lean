import Mathlib.Algebra.Order.Ring.Rat

namespace RealSocial

structure CGPoint where
  x : ℚ := 0
  y : ℚ := 0
  deriving DecidableEq

inductive UIGestureRecognizerState where
  | possible
  | began
  | changed
  | ended
  | cancelled
  | failed
  deriving DecidableEq, Repr

/-- What the recognizer shows when it calls its targets. -/
structure UIPanGestureRecognizer where
  state : UIGestureRecognizerState
  translation : CGPoint
  deriving DecidableEq

inductive InteractiveEnd where
  | finished
  | cancelled
  deriving DecidableEq, Repr

/-- With the ends that it was told, in their order. -/
structure UIPercentDrivenInteractiveTransition where
  percentComplete : ℚ := 0
  ends : List InteractiveEnd := []
  deriving DecidableEq

namespace UIPercentDrivenInteractiveTransition

def updateInteractiveTransition (fraction : ℚ) (transition : UIPercentDrivenInteractiveTransition) :
    UIPercentDrivenInteractiveTransition :=
  { transition with percentComplete := fraction }

def finishInteractiveTransition (transition : UIPercentDrivenInteractiveTransition) :
    UIPercentDrivenInteractiveTransition :=
  { transition with ends := transition.ends ++ [.finished] }

def cancelInteractiveTransition (transition : UIPercentDrivenInteractiveTransition) :
    UIPercentDrivenInteractiveTransition :=
  { transition with ends := transition.ends ++ [.cancelled] }

end UIPercentDrivenInteractiveTransition

open UIPercentDrivenInteractiveTransition

def swipeFraction (translation : CGPoint) : ℚ := min (max (translation.y / 400) 0) 1

/-- `transitions` are all that were made, and the others refer to them. `pops` has for each pop that was started
its interaction controller. -/
structure RSUIViewController where
  interacting : Bool := false
  shouldComplete : Bool := false
  interactiveTransition : Option Nat := none
  transitions : List UIPercentDrivenInteractiveTransition := []
  pops : List (Option Nat) := []
  deriving DecidableEq

namespace RSUIViewController

def newTransition (controller : RSUIViewController) : RSUIViewController :=
  { controller with
    interactiveTransition := some controller.transitions.length
    transitions := controller.transitions ++ [{}] }

-- a message to nil does nothing
def toTransition (message : UIPercentDrivenInteractiveTransition → UIPercentDrivenInteractiveTransition)
    (controller : RSUIViewController) : RSUIViewController :=
  match controller.interactiveTransition with
  | none => controller
  | some number => { controller with transitions := controller.transitions.modify number message }

def interactionControllerForAnimationController (controller : RSUIViewController) : Option Nat :=
  controller.interactiveTransition

-- the navigation controller asks its delegate for the interaction controller
def popViewControllerAnimated (controller : RSUIViewController) : RSUIViewController :=
  { controller with pops := controller.pops ++ [controller.interactionControllerForAnimationController] }

def transitionOfPop (controller : RSUIViewController) (number : Nat) :
    Option UIPercentDrivenInteractiveTransition := do
  let interactionController ← controller.pops[number]?
  controller.transitions[← interactionController]?

/-- The block that `prepareGestureRecognizerInView:` gives to the recognizer. -/
def actionBlock (controller : RSUIViewController) (gestureRecognizer : UIPanGestureRecognizer) :
    RSUIViewController :=
  match gestureRecognizer.state with
  | .began => { controller with interacting := true }.newTransition.popViewControllerAnimated
  | .changed =>
      let fraction := swipeFraction gestureRecognizer.translation
      { controller with shouldComplete := fraction > 1 / 2 }.toTransition (updateInteractiveTransition fraction)
  | .ended | .cancelled =>
      let controller := { controller with interacting := false }
      let controller :=
        if !controller.shouldComplete ∨ gestureRecognizer.state = .cancelled then
          controller.toTransition cancelInteractiveTransition
        else controller.toTransition finishInteractiveTransition
      { controller with interactiveTransition := none }
  | _ => controller

end RSUIViewController

/-- The transition that a presented screen swipes down with, one object for all of its gestures, and how many
pops it asked for. -/
structure RSSwipeDownInteractiveTransition extends UIPercentDrivenInteractiveTransition where
  interacting : Bool := false
  shouldComplete : Bool := false
  pops : Nat := 0
  deriving DecidableEq

def RSSwipeDownInteractiveTransition.handleGesture (transition : RSSwipeDownInteractiveTransition)
    (gestureRecognizer : UIPanGestureRecognizer) : RSSwipeDownInteractiveTransition :=
  match gestureRecognizer.state with
  | .began => { transition with interacting := true, pops := transition.pops + 1 }
  | .changed =>
      let fraction := swipeFraction gestureRecognizer.translation
      { transition with
        shouldComplete := fraction > 1 / 2
        toUIPercentDrivenInteractiveTransition :=
          transition.toUIPercentDrivenInteractiveTransition.updateInteractiveTransition fraction }
  | .ended | .cancelled =>
      let transition := { transition with interacting := false }
      if !transition.shouldComplete ∨ gestureRecognizer.state = .cancelled then
        { transition with
          toUIPercentDrivenInteractiveTransition :=
            transition.toUIPercentDrivenInteractiveTransition.cancelInteractiveTransition }
      else
        { transition with
          toUIPercentDrivenInteractiveTransition :=
            transition.toUIPercentDrivenInteractiveTransition.finishInteractiveTransition }
  | _ => transition

end RealSocial
