import RealSocial.Library.Machine
import RealSocial.Library.Signal

namespace RealSocial

open Library

/-! # `RACReplaySubject`

What it does under its lock is one step: the lock is recursive, but no subscriber here sends to the subject from
its handler. Subscriptions are numbered as `subscribe:` is called: the block that it schedules has still to run
or not, and what it returned is disposed or not. -/

structure RACSubscription where
  scheduled : Bool := true
  disposed : Bool := false
  deriving DecidableEq, Repr

structure RACReplaySubject (α ε : Type) where
  -- nothing if it is unlimited
  capacity : Option Nat := none
  valuesReceived : List α := []
  hasCompleted : Bool := false
  -- when it `hasError`
  error : Option ε := none
  subscriptions : List RACSubscription := []
  -- those of `RACSubject`
  subscribers : List Nat := []

namespace RACReplaySubject

variable {α ε : Type}

inductive Event (α ε : Type) where
  | subscribe
  -- the subscription may be disposed while its block runs, and this is seen when so many values have been sent
  | block (subscription : Nat) (disposed : Option Nat)
  | dispose (subscription : Nat)
  | send (event : SignalEvent α ε)

def removeOld (capacity : Option Nat) (values : List α) : List α :=
  match capacity with
  | none => values
  | some capacity => values.drop (values.length - capacity)

variable (subject : RACReplaySubject α ε)

-- what a subscriber is sent when the block of its subscription runs to its end
def replay : List (SignalEvent α ε) :=
  subject.valuesReceived.map .next ++
    if subject.hasCompleted then [.completed] else (subject.error.map .error).toList

def ranBlock (subscription : Nat) (disposed : Option Nat) :
    RACReplaySubject α ε × List (Nat × SignalEvent α ε) :=
  match disposed with
  | some seen =>
      ({ subject with
          subscriptions := subject.subscriptions.set subscription { scheduled := false, disposed := true } },
        ((subject.valuesReceived.take seen).map .next).map (subscription, ·))
  | none =>
      let ended := subject.hasCompleted || subject.error.isSome
      ({ subject with
          subscriptions := subject.subscriptions.set subscription { scheduled := false }
          subscribers := if ended then subject.subscribers else subject.subscribers ++ [subscription] },
        subject.replay.map (subscription, ·))

def enumerateSubscribers (event : SignalEvent α ε) : List (Nat × SignalEvent α ε) :=
  subject.subscribers.map (·, event)

def send (event : SignalEvent α ε) : RACReplaySubject α ε × List (Nat × SignalEvent α ε) :=
  match event with
  | .next value =>
      ({ subject with valuesReceived := removeOld subject.capacity (subject.valuesReceived ++ [value]) },
        subject.enumerateSubscribers event)
  | .completed => ({ subject with hasCompleted := true }, subject.enumerateSubscribers event)
  | .error e => ({ subject with error := some e }, subject.enumerateSubscribers event)

/-- A step, and what is sent to which subscriber. -/
def step : Event α ε → RACReplaySubject α ε × List (Nat × SignalEvent α ε)
  | .subscribe => ({ subject with subscriptions := subject.subscriptions ++ [{}] }, [])
  | .block subscription disposed =>
      if subject.subscriptions[subscription]? = some {} then subject.ranBlock subscription disposed
      else (subject, [])
  | .dispose subscription =>
      ({ subject with
          subscriptions := subject.subscriptions.modify subscription ({ · with disposed := true })
          subscribers := subject.subscribers.filter (· ≠ subscription) }, [])
  | .send event => subject.send event

def sentTo (subscription : Nat) (sent : List (Nat × SignalEvent α ε)) : List (SignalEvent α ε) :=
  sent.filterMap fun each => if each.1 = subscription then some each.2 else none

/-- What the subscriber of one subscription hears in a run. -/
def heard (capacity : Option Nat) (subscription : Nat) (events : List (Event α ε)) : List (SignalEvent α ε) :=
  SignalEvent.received (sentTo subscription (Machine.sent step { capacity } events))

end RACReplaySubject

end RealSocial
