import RealSocial.Library.Entries
import RealSocial.System.SwipeRuns

namespace RealSocial.Proof

open Library PanGesture UIPercentDrivenInteractiveTransition

/-! # Which swipes pop a screen -/

/-! ## The decisions, from the one flag that the gestures share -/

def pastHalf (translation : CGPoint) : Bool := swipeFraction translation > 1 / 2

def lastChange (gestures : List PanGesture) : Option CGPoint := (gestures.flatMap changes).getLast?

def flagAfter (flag : Bool) (change : Option CGPoint) : Bool := (change.map pastHalf).getD flag

def decision (flag : Bool) (gesture : PanGesture) : InteractiveEnd :=
  if !flagAfter flag gesture.changes.getLast? ∨ gesture.isCancelled = true then .cancelled else .finished

def decisions : Bool → List PanGesture → List InteractiveEnd
  | _, [] => []
  | flag, gesture :: gestures =>
      decision flag gesture :: decisions (flagAfter flag gesture.changes.getLast?) gestures

theorem flagAfter_or (flag : Bool) (earlier later : Option CGPoint) :
    flagAfter (flagAfter flag earlier) later = flagAfter flag (later.or earlier) := by
  cases later with
  | none => rfl
  | some translation => rfl

theorem lastChange_cons (gesture : PanGesture) (gestures : List PanGesture) :
    lastChange (gesture :: gestures) = (lastChange gestures).or gesture.changes.getLast? := by
  rw [lastChange, List.flatMap_cons, List.getLast?_append, lastChange]

theorem decisions_split (flag : Bool) (before after : List PanGesture) (gesture : PanGesture) :
    (decisions flag (before ++ gesture :: after))[before.length]? =
      some (decision (flagAfter flag (lastChange before)) gesture) := by
  induction before generalizing flag with
  | nil => rfl
  | cons first before ih =>
      rw [List.cons_append, decisions, List.length_cons, List.getElem?_cons_succ, ih, flagAfter_or,
        lastChange_cons]

theorem flagAfter_false (change : Option CGPoint) :
    flagAfter false change = true ↔ ∃ translation ∈ change, swipeFraction translation > 1 / 2 := by
  cases change with
  | none => simp [flagAfter]
  | some translation => simp [flagAfter, pastHalf]

theorem completes_iff (gesture : PanGesture) :
    gesture.Completes ↔ gesture.isCancelled = false ∧ flagAfter false gesture.changes.getLast? = true :=
  and_congr_right fun _ => (flagAfter_false _).symm

theorem takesOverHalf_iff (before : List PanGesture) (gesture : PanGesture) :
    TakesOverHalf before gesture ↔
      gesture.isCancelled = false ∧ gesture.changes = [] ∧ flagAfter false (lastChange before) = true :=
  and_congr_right fun _ => and_congr_right fun _ => (flagAfter_false _).symm

theorem decision_eq_finished {flag : Bool} {gesture : PanGesture} :
    decision flag gesture = .finished ↔
      gesture.isCancelled = false ∧ flagAfter flag gesture.changes.getLast? = true := by
  unfold decision
  cases gesture.isCancelled with
  | true => simp
  | false => simp

theorem decides_singleton {gesture : PanGesture} {ending : InteractiveEnd} :
    gesture.Decides [ending] ↔ (ending = .finished ↔ gesture.Completes) := by
  unfold Decides
  by_cases completes : gesture.Completes
  · simp [completes]
  · cases ending with
    | finished => simp [completes]
    | cancelled => simp [completes]

/-- The flag decides as the gesture does, unless the gesture has no change and an earlier one left it set. -/
theorem decision_decides_iff (before : List PanGesture) (gesture : PanGesture) :
    gesture.Decides [decision (flagAfter false (lastChange before)) gesture] ↔
      ¬TakesOverHalf before gesture := by
  rw [decides_singleton, decision_eq_finished, completes_iff, takesOverHalf_iff]
  cases change : gesture.changes.getLast? with
  | none =>
      have none : gesture.changes = [] := List.getLast?_eq_none_iff.mp change
      simp [none, flagAfter]
  | some translation =>
      have some : gesture.changes ≠ [] := by
        intro none
        rw [none] at change
        cases change
      simp [some, flagAfter]

theorem flagAfter_cons (flag : Bool) (translation : CGPoint) (changes : List CGPoint) :
    flagAfter flag (translation :: changes).getLast? = flagAfter (pastHalf translation) changes.getLast? := by
  rw [List.getLast?_cons]
  cases changes.getLast? with
  | none => rfl
  | some last => rfl

/-! ## The two recognizers make these decisions -/

/-- The controller while a gesture is in progress. -/
def interactive (flag : Bool) (earlier : List UIPercentDrivenInteractiveTransition)
    (transition : UIPercentDrivenInteractiveTransition) (pops : List (Option Nat)) : RSUIViewController where
  interacting := true
  shouldComplete := flag
  interactiveTransition := some earlier.length
  transitions := earlier ++ [transition]
  pops := pops

section Gesture

variable {flag : Bool} {earlier : List UIPercentDrivenInteractiveTransition}
  {transition : UIPercentDrivenInteractiveTransition} {pops : List (Option Nat)}

theorem toTransition_last {controller : RSUIViewController}
    (refers : controller.interactiveTransition = some earlier.length)
    (made : controller.transitions = earlier ++ [transition])
    (message : UIPercentDrivenInteractiveTransition → UIPercentDrivenInteractiveTransition) :
    controller.toTransition message = { controller with transitions := earlier ++ [message transition] } := by
  rw [RSUIViewController.toTransition, refers]
  dsimp only
  rw [made, modify_last]

theorem interactive_changed (translation : CGPoint) :
    (interactive flag earlier transition pops).actionBlock (changed translation) =
      interactive (pastHalf translation) earlier
        (transition.updateInteractiveTransition (swipeFraction translation)) pops := by
  change (interactive (pastHalf translation) earlier transition pops).toTransition
    (updateInteractiveTransition (swipeFraction translation)) = _
  rw [toTransition_last rfl rfl]
  rfl

theorem interactive_changes (changes : List CGPoint) :
    ∃ percentComplete,
      run RSUIViewController.actionBlock (interactive flag earlier transition pops) (changes.map changed) =
        interactive (flagAfter flag changes.getLast?) earlier { transition with percentComplete } pops := by
  induction changes generalizing flag transition with
  | nil => exact ⟨transition.percentComplete, rfl⟩
  | cons translation changes ih =>
      obtain ⟨percentComplete, reached⟩ := @ih (pastHalf translation)
        (transition.updateInteractiveTransition (swipeFraction translation))
      refine ⟨percentComplete, ?_⟩
      rw [List.map_cons, run_cons, interactive_changed, reached, flagAfter_cons]
      rfl

theorem interactive_ended (isCancelled : Bool) (translation : CGPoint) :
    (interactive flag earlier transition pops).actionBlock
        { state := if isCancelled then .cancelled else .ended, translation } =
      { shouldComplete := flag
        transitions := earlier ++ [{ transition with
          ends := transition.ends ++ [if !flag ∨ isCancelled = true then .cancelled else .finished] }]
        pops } := by
  have told (message : UIPercentDrivenInteractiveTransition → UIPercentDrivenInteractiveTransition) :
      RSUIViewController.toTransition message
          { interacting := false, shouldComplete := flag, interactiveTransition := some earlier.length,
            transitions := earlier ++ [transition], pops } = _ :=
    toTransition_last rfl rfl message
  cases isCancelled with
  | true => simp [RSUIViewController.actionBlock, interactive, told, cancelInteractiveTransition]
  | false =>
      cases flag with
      | true => simp [RSUIViewController.actionBlock, interactive, told, finishInteractiveTransition]
      | false => simp [RSUIViewController.actionBlock, interactive, told, cancelInteractiveTransition]

end Gesture

theorem pan_eq (controller : RSUIViewController) (gesture : PanGesture) :
    ∃ percentComplete, controller.pan gesture =
      { shouldComplete := flagAfter controller.shouldComplete gesture.changes.getLast?
        transitions := controller.transitions ++
          [{ percentComplete, ends := [decision controller.shouldComplete gesture] }]
        pops := controller.pops ++ [some controller.transitions.length] } := by
  obtain ⟨percentComplete, reached⟩ := @interactive_changes controller.shouldComplete
    controller.transitions {} (controller.pops ++ [some controller.transitions.length]) gesture.changes
  refine ⟨percentComplete, ?_⟩
  have began (translation : CGPoint) : controller.actionBlock { state := .began, translation } =
      interactive controller.shouldComplete controller.transitions {}
        (controller.pops ++ [some controller.transitions.length]) := rfl
  rw [RSUIViewController.pan, recognized, run_cons, began, run_append, reached, run_cons, interactive_ended]
  rfl

theorem run_pan_ends (controller : RSUIViewController) (gestures : List PanGesture) :
    (run RSUIViewController.pan controller gestures).transitions.map (·.ends) =
      controller.transitions.map (·.ends) ++ (decisions controller.shouldComplete gestures).map ([·]) := by
  induction gestures generalizing controller with
  | nil => exact (List.append_nil _).symm
  | cons gesture gestures ih =>
      obtain ⟨percentComplete, panned⟩ := pan_eq controller gesture
      rw [run_cons, ih, panned, List.map_append, List.append_assoc]
      rfl

def EachPopsItsOwn (controller : RSUIViewController) : Prop :=
  controller.pops = (List.range controller.transitions.length).map some

theorem pan_eachPopsItsOwn (controller : RSUIViewController) (gesture : PanGesture)
    (own : EachPopsItsOwn controller) : EachPopsItsOwn (controller.pan gesture) := by
  obtain ⟨percentComplete, panned⟩ := pan_eq controller gesture
  rw [panned, EachPopsItsOwn, List.length_append, List.length_singleton, List.range_succ, List.map_append, own]
  rfl

theorem EachPopsItsOwn.transitionOfPop {controller : RSUIViewController} (own : EachPopsItsOwn controller)
    (number : Nat) : controller.transitionOfPop number = controller.transitions[number]? := by
  rw [RSUIViewController.transitionOfPop, own, List.getElem?_map]
  by_cases inside : number < controller.transitions.length
  · rw [List.getElem?_range inside]
    rfl
  · rw [List.getElem?_eq_none (by simpa using inside), List.getElem?_eq_none (by simpa using inside)]
    rfl

theorem run_transitionOfPop (gestures : List PanGesture) (number : Nat) :
    (run RSUIViewController.pan {} gestures).transitionOfPop number =
      (run RSUIViewController.pan {} gestures).transitions[number]? := by
  have initially : EachPopsItsOwn {} := rfl
  have own := invariant_run pan_eachPopsItsOwn initially gestures
  exact own.transitionOfPop number

theorem handleGesture_changes (transition : RSSwipeDownInteractiveTransition) (changes : List CGPoint) :
    ∃ percentComplete,
      run RSSwipeDownInteractiveTransition.handleGesture transition (changes.map changed) =
        { transition with
          percentComplete, shouldComplete := flagAfter transition.shouldComplete changes.getLast? } := by
  induction changes generalizing transition with
  | nil => exact ⟨transition.percentComplete, rfl⟩
  | cons translation changes ih =>
      obtain ⟨percentComplete, reached⟩ := ih (transition.handleGesture (changed translation))
      refine ⟨percentComplete, ?_⟩
      rw [List.map_cons, run_cons, reached, flagAfter_cons]
      rfl

theorem handleGesture_ended (transition : RSSwipeDownInteractiveTransition) (isCancelled : Bool)
    (translation : CGPoint) :
    let ended := transition.handleGesture { state := if isCancelled then .cancelled else .ended, translation }
    ended.shouldComplete = transition.shouldComplete ∧
      ended.ends = transition.ends ++
        [if !transition.shouldComplete ∨ isCancelled = true then .cancelled else .finished] := by
  cases isCancelled with
  | true => simp [RSSwipeDownInteractiveTransition.handleGesture, cancelInteractiveTransition]
  | false =>
      cases flag : transition.shouldComplete with
      | true => simp [RSSwipeDownInteractiveTransition.handleGesture, flag, finishInteractiveTransition]
      | false => simp [RSSwipeDownInteractiveTransition.handleGesture, flag, cancelInteractiveTransition]

theorem handleGesture_pan (transition : RSSwipeDownInteractiveTransition) (gesture : PanGesture) :
    (transition.pan gesture).shouldComplete =
        flagAfter transition.shouldComplete gesture.changes.getLast? ∧
      (transition.pan gesture).ends = transition.ends ++ [decision transition.shouldComplete gesture] := by
  obtain ⟨percentComplete, reached⟩ :=
    handleGesture_changes (transition.handleGesture { state := .began, translation := gesture.first })
      gesture.changes
  rw [RSSwipeDownInteractiveTransition.pan, recognized, run_cons, run_append, reached]
  exact handleGesture_ended _ gesture.isCancelled gesture.last

theorem run_swipe_ends (transition : RSSwipeDownInteractiveTransition) (gestures : List PanGesture) :
    (run RSSwipeDownInteractiveTransition.pan transition gestures).ends =
      transition.ends ++ decisions transition.shouldComplete gestures := by
  induction gestures generalizing transition with
  | nil => exact (List.append_nil _).symm
  | cons gesture gestures ih =>
      obtain ⟨flag, ends⟩ := handleGesture_pan transition gesture
      rw [run_cons, ih, ends, flag, List.append_assoc]
      rfl

/-- The two recognizers decide alike, though one keeps a transition for each pop and the other one for all. -/
theorem swipe_ends_eq_pop_ends (gestures : List PanGesture) :
    (run RSSwipeDownInteractiveTransition.pan {} gestures).ends =
      (run RSUIViewController.pan {} gestures).transitions.flatMap (·.ends) := by
  rw [run_swipe_ends, List.flatMap_def, run_pan_ends]
  exact (List.flatMap_singleton' _).symm

/-! ## The result -/

theorem pop_decides_iff (before after : List PanGesture) (gesture : PanGesture) :
    (∃ transition, (run RSUIViewController.pan {} (before ++ gesture :: after)).transitionOfPop before.length =
        some transition ∧ gesture.Decides transition.ends) ↔ ¬TakesOverHalf before gesture := by
  have ends := congrArg (·[before.length]?) (run_pan_ends {} (before ++ gesture :: after))
  dsimp only at ends
  rw [List.map_nil, List.nil_append, List.getElem?_map, List.getElem?_map, decisions_split,
    Option.map_some, Option.map_eq_some_iff] at ends
  obtain ⟨transition, found, told⟩ := ends
  rw [← decision_decides_iff, run_transitionOfPop, found]
  constructor
  · rintro ⟨same, here, decides⟩
    cases here
    rw [told] at decides
    exact decides
  · intro decides
    refine ⟨transition, rfl, ?_⟩
    rw [told]
    exact decides

theorem swipes_decided_iff (gestures : List PanGesture) : PopsDecided gestures ↔ NoneTakesOverHalf gestures := by
  refine forall_congr' fun before => forall_congr' fun gesture => forall_congr' fun after => ?_
  apply imp_congr_right
  intro split
  rw [split]
  exact pop_decides_iff before after gesture

theorem cancelled_swipe_left_half : ¬PopsDecided [{ changes := [{ y := 300 }], isCancelled := true }, {}] := by
  intro decided
  obtain ⟨transition, found, decides⟩ :=
    decided [{ changes := [{ y := 300 }], isCancelled := true }] {} [] rfl
  have incomplete : ¬PanGesture.Completes {} := by
    rintro ⟨-, translation, last, -⟩
    cases last
  have finished : (run RSUIViewController.pan {}
      [{ changes := [{ y := 300 }], isCancelled := true }, {}]).transitionOfPop 1 =
        some { ends := [.finished] } := by
    decide +kernel
  cases found.symm.trans finished
  cases decides.2 incomplete

end RealSocial.Proof
