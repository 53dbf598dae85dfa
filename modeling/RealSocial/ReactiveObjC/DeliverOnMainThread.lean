import RealSocial.Library.Machine

namespace RealSocial

open Library

/-! # `deliverOnMainThread`

A subscription: the events that its signal has yet to send, the blocks it has put on the main queue, and whether
one of its blocks runs. -/

structure DeliverOnMainThread (β : Type) where
  coming : List β
  queueLength : Nat := 0
  mainQueue : List β := []
  running : Bool := false
  disposed : Bool := false
  deriving DecidableEq, Repr

namespace DeliverOnMainThread

variable {β : Type}

inductive Move where
  | send (isMainThread : Bool)
  -- the main thread, when no block runs on it, takes the next from its queue
  | mainQueue
  | blockEnds
  | dispose
  deriving DecidableEq, Repr

-- `RACPassthroughSubscriber`, which stands between the blocks and the subscriber
def passthrough (disposed : Bool) (event : β) : List β := if disposed then [] else [event]

variable (state : DeliverOnMainThread β)

def performOnMainThread (event : β) (isMainThread : Bool) : DeliverOnMainThread β × List β :=
  let queued := state.queueLength + 1
  if isMainThread && queued = 1 then
    ({ state with queueLength := queued, running := true }, passthrough state.disposed event)
  else ({ state with queueLength := queued, mainQueue := state.mainQueue ++ [event] }, [])

/-- A step, and what is sent to the subscriber. -/
def step : Move → DeliverOnMainThread β × List β
  | .send isMainThread =>
      match state.coming with
      | [] => (state, [])
      | event :: coming => performOnMainThread { state with coming } event isMainThread
  | .mainQueue =>
      match state.running, state.mainQueue with
      | false, event :: mainQueue => ({ state with mainQueue, running := true }, passthrough state.disposed event)
      | _, _ => (state, [])
  | .blockEnds =>
      if state.running then ({ state with queueLength := state.queueLength - 1, running := false }, [])
      else (state, [])
  | .dispose => ({ state with disposed := true }, [])

/-- What the subscriber is sent in a run, of the events of the signal. -/
def delivered (events : List β) (moves : List Move) : List β := Machine.sent step { coming := events } moves

end DeliverOnMainThread

end RealSocial
