import RealSocial.Library.Machine
import RealSocial.Library.Stream

namespace RealSocial

open Library

/-! # `zipWith:` and `zip:`

The blocks of a subscription run under one lock, so the events of the signals come one after the other, in
whatever order. A subscriber takes nothing more once it has an end. -/

/-- What the blocks of `zipWith:` share, and whether its subscribers to the two signals have an end. -/
structure RACZipWith (α β : Type) where
  selfCompleted : Bool := false
  selfValues : List α := []
  otherCompleted : Bool := false
  otherValues : List β := []
  selfEnded : Bool := false
  otherEnded : Bool := false

namespace RACZipWith

variable {α β ε : Type} (state : RACZipWith α β)

def sendCompletedIfNecessary : List (SignalEvent (α × β) ε) :=
  let selfEmpty := state.selfCompleted && state.selfValues.length = 0
  let otherEmpty := state.otherCompleted && state.otherValues.length = 0
  if selfEmpty || otherEmpty then [.completed] else []

def sendNext : RACZipWith α β × List (SignalEvent (α × β) ε) :=
  match state.selfValues, state.otherValues with
  | x :: selfValues, y :: otherValues =>
      let state := { state with selfValues, otherValues }
      (state, .next (x, y) :: state.sendCompletedIfNecessary)
  | _, _ => (state, [])

def selfEvent : SignalEvent α ε → RACZipWith α β × List (SignalEvent (α × β) ε)
  | .next x => sendNext { state with selfValues := state.selfValues ++ [x] }
  | .error e => ({ state with selfEnded := true }, [.error e])
  | .completed =>
      let state := { state with selfCompleted := true, selfEnded := true }
      (state, state.sendCompletedIfNecessary)

def otherEvent : SignalEvent β ε → RACZipWith α β × List (SignalEvent (α × β) ε)
  | .next y => sendNext { state with otherValues := state.otherValues ++ [y] }
  | .error e => ({ state with otherEnded := true }, [.error e])
  | .completed =>
      let state := { state with otherCompleted := true, otherEnded := true }
      (state, state.sendCompletedIfNecessary)

def step : SignalEvent α ε ⊕ SignalEvent β ε → RACZipWith α β × List (SignalEvent (α × β) ε)
  | .inl event => if state.selfEnded then (state, []) else state.selfEvent event
  | .inr event => if state.otherEnded then (state, []) else state.otherEvent event

end RACZipWith

/-- The tuples that `join:block:` makes larger one by one: `(((1), 2), 3)`. -/
inductive RACTuple (α : Type) where
  | one (x : α)
  | pair (first : RACTuple α) (last : α)

/-- The loop of `join:block:` over the layers of a tuple. -/
def RACTuple.unwrap {α : Type} (values : List α) : RACTuple α → List α
  | .one x => x :: values
  | .pair first last => unwrap (last :: values) first

namespace RACZip

variable {α ε : Type}

/-- What the zips that `join:block:` makes of the signals from 0 to `n` keep. -/
inductive State (α : Type) : Nat → Type where
  | first : State α 0
  | join {n : Nat} (current : State α n) (zipWith : RACZipWith (RACTuple α) α) : State α (n + 1)

def start : (n : Nat) → State α n
  | 0 => .first
  | n + 1 => .join (start n) {}

/-- An event of the signal `input`, and what it makes the last of the signals in `join:block:` send. -/
def step : (n : Nat) → State α n → Nat × SignalEvent α ε → State α n × List (SignalEvent (RACTuple α) ε)
  | 0, .first, (input, event) => (.first, if input = 0 then [event.map .one] else [])
  | n + 1, .join current zipWith, (input, event) =>
      if input = n + 1 then
        let (zipWith, sent) := zipWith.step (.inr event)
        (.join current zipWith, sent.map (SignalEvent.map fun tuple => .pair tuple.1 tuple.2))
      else
        let (current, events) := step n current (input, event)
        (.join current (Machine.after RACZipWith.step zipWith (events.map .inl)),
          (Machine.sent RACZipWith.step zipWith (events.map .inl)).map
            (SignalEvent.map fun tuple => .pair tuple.1 tuple.2))

/-- What a subscriber to `zip:` of so many signals hears. -/
def heard : (signals : Nat) → List (Nat × SignalEvent α ε) → List (SignalEvent (List α) ε)
  -- no signal: `join:block:` answers `[self empty]`
  | 0, _ => [.completed]
  | n + 1, events =>
      SignalEvent.received ((Machine.sent (step n) (start n) events).map (SignalEvent.map (RACTuple.unwrap [])))

end RACZip

end RealSocial
