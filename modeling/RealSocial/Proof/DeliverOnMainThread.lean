import RealSocial.Proof.ReplaySubject
import RealSocial.ReactiveObjC.DeliverOnMainThread

namespace RealSocial.Proof

open Library SignalEvent RACReplaySubject DeliverOnMainThread

/-! # Screens that subscribe through `deliverOnMainThread` -/

section Deliver

variable {β : Type}

/-- What is counted is in the main queue or runs. Until the subscription is disposed the events are in order:
those sent to the subscriber, those in the main queue, those to come. -/
structure Delivering (events : List β) (state : DeliverOnMainThread β) (sent : List β) : Prop where
  counted : state.queueLength = state.mainQueue.length + if state.running then 1 else 0
  inOrder : state.disposed = false → sent ++ (state.mainQueue ++ state.coming) = events

theorem passthrough_undisposed {disposed : Bool} (undisposed : disposed = false) (event : β) :
    passthrough disposed event = [event] := by
  rw [passthrough, undisposed]
  rfl

theorem delivering_send {events sent : List β} {state : DeliverOnMainThread β}
    (delivering : Delivering events state sent) (isMainThread : Bool) :
    Delivering events (state.step (.send isMainThread)).1 (sent ++ (state.step (.send isMainThread)).2) := by
  obtain ⟨counted, inOrder⟩ := delivering
  rw [DeliverOnMainThread.step]
  cases comes : state.coming with
  | nil =>
      rw [List.append_nil]
      exact ⟨counted, inOrder⟩
  | cons event coming =>
      rw [comes] at inOrder
      simp only [performOnMainThread]
      by_cases now : (isMainThread && state.queueLength + 1 = 1) = true
      · rw [if_pos now]
        have none_queued : state.queueLength = 0 :=
          Nat.succ.inj (of_decide_eq_true ((Bool.and_eq_true _ _).mp now).2)
        have empty : state.mainQueue = [] :=
          List.eq_nil_of_length_eq_zero (Nat.eq_zero_of_add_eq_zero_right (counted.symm.trans none_queued))
        rw [empty] at inOrder
        constructor
        · simp [none_queued, empty]
        · intro undisposed
          have now_sent : passthrough state.disposed event = [event] := passthrough_undisposed undisposed event
          simpa [empty, now_sent] using inOrder undisposed
      · rw [if_neg now]
        constructor
        · simp only [List.length_append, List.length_singleton, counted]
          omega
        · intro undisposed
          simpa using inOrder undisposed

theorem delivering_step {events sent : List β} {state : DeliverOnMainThread β}
    (delivering : Delivering events state sent) (move : Move) :
    Delivering events (state.step move).1 (sent ++ (state.step move).2) := by
  have stays : Delivering events state (sent ++ []) := by rwa [List.append_nil]
  obtain ⟨counted, inOrder⟩ := delivering
  cases move with
  | send isMainThread => exact delivering_send ⟨counted, inOrder⟩ isMainThread
  | mainQueue =>
      cases runs : state.running with
      | true => simpa only [DeliverOnMainThread.step, runs] using stays
      | false =>
          cases queued : state.mainQueue with
          | nil => simpa only [DeliverOnMainThread.step, runs, queued] using stays
          | cons event mainQueue =>
              simp only [DeliverOnMainThread.step, runs, queued] at counted inOrder ⊢
              refine ⟨counted, fun undisposed => ?_⟩
              rw [passthrough_undisposed undisposed, List.append_assoc]
              exact inOrder undisposed
  | blockEnds =>
      rw [DeliverOnMainThread.step]
      by_cases runs : state.running = true
      · rw [if_pos runs, List.append_nil]
        rw [if_pos runs] at counted
        exact ⟨Nat.sub_eq_of_eq_add counted, inOrder⟩
      · rw [if_neg runs]
        exact stays
  | dispose => exact ⟨counted, fun undisposed => Bool.noConfusion undisposed⟩

theorem delivering_run (events : List β) (moves : List Move) :
    Delivering events (Machine.after DeliverOnMainThread.step { coming := events } moves) (delivered events moves) :=
  Machine.invariant (P := fun _ state sent => Delivering events state sent) ⟨rfl, fun _ => rfl⟩
    (fun _ _ _ move delivering => delivering_step delivering move) moves

/-! ## Disposing of the subscription -/

theorem disposed_step (state : DeliverOnMainThread β) (move : Move) :
    (state.step move).1.disposed = (state.disposed || move = .dispose) := by
  cases move with
  | send isMainThread =>
      cases comes : state.coming with
      | nil => simp [DeliverOnMainThread.step, comes]
      | cons event coming =>
          simp only [DeliverOnMainThread.step, comes, performOnMainThread]
          split_ifs
          · simp
          · simp
  | mainQueue =>
      cases runs : state.running with
      | true => simp [DeliverOnMainThread.step, runs]
      | false =>
          cases queued : state.mainQueue with
          | nil => simp [DeliverOnMainThread.step, runs, queued]
          | cons event mainQueue => simp [DeliverOnMainThread.step, runs, queued]
  | blockEnds =>
      rw [DeliverOnMainThread.step]
      split_ifs
      · simp
      · simp
  | dispose => simp [DeliverOnMainThread.step]

theorem undisposed_run {events : List β} {moves : List Move} (kept : .dispose ∉ moves) :
    (Machine.after DeliverOnMainThread.step { coming := events } moves).disposed = false := by
  induction moves using List.reverseRecOn with
  | nil => rfl
  | append_singleton moves move ih =>
      rw [List.mem_append, not_or, List.mem_singleton] at kept
      rw [Machine.after_snoc, disposed_step, ih kept.1]
      simp [Ne.symm kept.2]

theorem nothing_sent {state : DeliverOnMainThread β} (disposed : state.disposed = true) (move : Move) :
    (state.step move).2 = [] := by
  have dropped (event : β) : passthrough state.disposed event = [] := by rw [passthrough, if_pos disposed]
  cases move with
  | send isMainThread =>
      cases comes : state.coming with
      | nil => simp only [DeliverOnMainThread.step, comes]
      | cons event coming =>
          simp only [DeliverOnMainThread.step, comes, performOnMainThread]
          split_ifs
          · exact dropped event
          · rfl
  | mainQueue =>
      cases runs : state.running with
      | true => simp only [DeliverOnMainThread.step, runs]
      | false =>
          cases queued : state.mainQueue with
          | nil => simp only [DeliverOnMainThread.step, runs, queued]
          | cons event mainQueue => simp only [DeliverOnMainThread.step, runs, queued, dropped]
  | blockEnds =>
      rw [DeliverOnMainThread.step]
      split_ifs
      · rfl
      · rfl
  | dispose => rfl

theorem sent_disposed {state : DeliverOnMainThread β} (disposed : state.disposed = true) (moves : List Move) :
    Machine.sent DeliverOnMainThread.step state moves = [] := by
  induction moves generalizing state with
  | nil => rfl
  | cons move moves ih =>
      rw [Machine.sent_cons, nothing_sent disposed, List.nil_append]
      apply ih
      rw [disposed_step, disposed, Bool.true_or]

theorem sent_dispose (state : DeliverOnMainThread β) (rest : List Move) :
    Machine.sent DeliverOnMainThread.step state (.dispose :: rest) = [] := by
  rw [Machine.sent_cons]
  exact sent_disposed rfl rest

theorem delivered_dispose (events : List β) (moves rest : List Move) :
    delivered events (moves ++ .dispose :: rest) = delivered events moves := by
  rw [delivered, Machine.sent_append, sent_dispose, List.append_nil, delivered]

/-! ## Going through the main queue -/

/-- The main thread comes to the end of a block and takes so many others from its queue. -/
def taking (blocks : Nat) : List Move :=
  .blockEnds :: (List.replicate blocks [Move.mainQueue, .blockEnds]).flatten

theorem sent_taking {state : DeliverOnMainThread β} (undisposed : state.disposed = false)
    (idle : state.running = false) :
    Machine.sent DeliverOnMainThread.step state
      (List.replicate state.mainQueue.length [Move.mainQueue, .blockEnds]).flatten = state.mainQueue := by
  obtain ⟨coming, queueLength, mainQueue, running, disposed⟩ := state
  obtain rfl : running = false := idle
  obtain rfl : disposed = false := undisposed
  induction mainQueue generalizing queueLength with
  | nil => rfl
  | cons event mainQueue ih =>
      rw [List.length_cons, List.replicate_succ, List.flatten_cons]
      exact congrArg (event :: ·) (ih (queueLength - 1))

theorem delivered_taking {events : List β} {moves : List Move} (kept : .dispose ∉ moves)
    (sent : (Machine.after DeliverOnMainThread.step { coming := events } moves).coming = []) :
    delivered events (moves ++ taking
      (Machine.after DeliverOnMainThread.step { coming := events } moves).mainQueue.length) = events := by
  have undisposed : (Machine.after DeliverOnMainThread.step { coming := events } moves).disposed = false :=
    undisposed_run kept
  have inOrder := (delivering_run events moves).inOrder undisposed
  rw [delivered, Machine.sent_append, ← delivered]
  generalize Machine.after DeliverOnMainThread.step { coming := events } moves = state at sent undisposed inOrder
  rw [sent, List.append_nil] at inOrder
  refine (congrArg (_ ++ ·) ?_).trans inOrder
  rw [taking, Machine.sent_cons, DeliverOnMainThread.step]
  by_cases runs : state.running = true
  · rw [if_pos runs]
    have idle : ({ state with queueLength := state.queueLength - 1, running := false } :
        DeliverOnMainThread β).running = false := rfl
    exact sent_taking undisposed idle
  · rw [if_neg runs]
    exact sent_taking undisposed (Bool.eq_false_iff.mpr runs)

end Deliver

/-- A screen that subscribes to a replay subject through `deliverOnMainThread`, at any time: it is sent what the
subject keeps of what was sent before and then what is sent until it is unsubscribed from the subject, each event
once and in order, from whatever threads they come; all of it, once the main thread has gone through its queue;
and nothing from when it disposes of its own subscription. -/
theorem screen_handles {α ε : Type} (capacity : Option Nat) (subscription : Nat) {before : List (Event α ε)}
    (made : subscription < subscribed before) (first : ∀ event ∈ before, isAbout subscription event = false)
    (after : List (Event α ε)) (moves : List Move) :
    let events := heard capacity subscription (before ++ .block subscription none :: after)
    let state := Machine.after DeliverOnMainThread.step { coming := events } moves
    (Move.dispose ∉ moves → delivered events moves ++ (state.mainQueue ++ state.coming) =
        received (replayed capacity (sends before) ++ sendsUntil subscription after)) ∧
      (Move.dispose ∉ moves → state.coming = [] → delivered events (moves ++ taking state.mainQueue.length) =
        received (replayed capacity (sends before) ++ sendsUntil subscription after)) ∧
      ∀ rest, delivered events (moves ++ .dispose :: rest) = delivered events moves := by
  intro events state
  rw [← subscriber_heard capacity subscription made first after]
  refine ⟨fun kept => ?_, fun kept sent => delivered_taking kept sent, delivered_dispose events moves⟩
  exact (delivering_run events moves).inOrder (undisposed_run kept)

theorem screen_handles_late :
    let events := heard none 0 ([.subscribe, .send (.next 1), .send (.next 2)] ++ .block 0 none ::
      [.send (.next 3), .send (.completed : SignalEvent Nat Nat)])
    let moves := [.send true, .send false, .mainQueue, .blockEnds, .send true, .mainQueue]
    let state := Machine.after DeliverOnMainThread.step { coming := events } moves
    (Move.dispose ∉ moves → delivered events moves ++ (state.mainQueue ++ state.coming) =
        received (replayed none [.next 1, .next 2] ++ [.next 3, .completed])) ∧
      (Move.dispose ∉ moves → state.coming = [] → delivered events (moves ++ taking state.mainQueue.length) =
        received (replayed none [.next 1, .next 2] ++ [.next 3, .completed])) ∧
      ∀ rest, delivered events (moves ++ .dispose :: rest) = delivered events moves :=
  screen_handles none 0 (by decide) (by decide) _ _

end RealSocial.Proof
