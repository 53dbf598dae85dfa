import Mathlib.Data.List.Basic

namespace RealSocial.Library

/-! # What a subscriber hears of a signal

A signal delivers values and then at most one terminal event. What is sent to a subject after a terminal
event reaches no subscriber. -/

inductive SignalEvent (α ε : Type*) where
  | next (value : α)
  | error (error : ε)
  | completed
  deriving DecidableEq, Repr

namespace SignalEvent

variable {α ε : Type*}

def isTerminal : SignalEvent α ε → Bool
  | .next _ => false
  | .error _ => true
  | .completed => true

/-- What reaches a subscriber, of all the events that are sent. -/
def received : List (SignalEvent α ε) → List (SignalEvent α ε)
  | [] => []
  | event :: events => if event.isTerminal then [event] else event :: received events

def terminal (events : List (SignalEvent α ε)) : Option (SignalEvent α ε) :=
  events.find? isTerminal

@[simp] theorem received_nil : received ([] : List (SignalEvent α ε)) = [] := rfl

@[simp] theorem received_next (value : α) (events : List (SignalEvent α ε)) :
    received (.next value :: events) = .next value :: received events := rfl

@[simp] theorem received_error (error : ε) (events : List (SignalEvent α ε)) :
    received (.error error :: events) = [.error error] := rfl

@[simp] theorem received_completed (events : List (SignalEvent α ε)) :
    received (.completed :: events) = [.completed] := rfl

@[simp] theorem terminal_next (value : α) (events : List (SignalEvent α ε)) :
    terminal (.next value :: events) = terminal events := rfl

@[simp] theorem terminal_error (error : ε) (events : List (SignalEvent α ε)) :
    terminal (.error error :: events) = some (.error error) := rfl

@[simp] theorem terminal_completed (events : List (SignalEvent α ε)) :
    terminal (.completed :: events) = some .completed := rfl

/-- However often a subject is ended, its subscriber hears of one end, the first. -/
theorem filter_received (events : List (SignalEvent α ε)) :
    (received events).filter isTerminal = (terminal events).toList := by
  induction events with
  | nil => rfl
  | cons event events ih =>
      cases event with
      | next value => rw [received_next, terminal_next, ← ih]; rfl
      | error error => rfl
      | completed => rfl

theorem terminal_isSome {events : List (SignalEvent α ε)} :
    (terminal events).isSome = true ↔ ∃ event ∈ events, event.isTerminal = true :=
  List.find?_isSome

theorem terminal_snoc_isSome (events : List (SignalEvent α ε)) (event : SignalEvent α ε) :
    (terminal (events ++ [event])).isSome = true ↔
      (terminal events).isSome = true ∨ event.isTerminal = true := by
  rw [terminal_isSome, terminal_isSome]
  simp only [List.mem_append, List.mem_singleton, or_and_right, exists_or, exists_eq_left]

theorem filter_received_length (events : List (SignalEvent α ε)) :
    ((received events).filter isTerminal).length = 1 ↔ (terminal events).isSome = true := by
  rw [filter_received]
  cases terminal events with
  | none => simp
  | some event => simp

end SignalEvent

/-! ## Subjects in the order they were made -/

namespace Subjects

open SignalEvent

variable {α ε : Type*}

def sendTo (n : Nat) (event : SignalEvent α ε) (subjects : List (List (SignalEvent α ε))) :
    List (List (SignalEvent α ε)) :=
  subjects.modify n fun events => events ++ [event]

def Ended (n : Nat) (subjects : List (List (SignalEvent α ε))) : Prop :=
  ∃ events, subjects[n]? = some events ∧ (terminal events).isSome = true

@[simp] theorem length_sendTo (n : Nat) (event : SignalEvent α ε)
    (subjects : List (List (SignalEvent α ε))) : (sendTo n event subjects).length = subjects.length :=
  List.length_modify ..

theorem ended_sendTo_of_ne {m n : Nat} (different : n ≠ m) (event : SignalEvent α ε)
    (subjects : List (List (SignalEvent α ε))) : Ended m (sendTo n event subjects) ↔ Ended m subjects := by
  rw [Ended, sendTo, List.getElem?_modify_ne _ _ different]
  rfl

theorem ended_sendTo_self (n : Nat) (event : SignalEvent α ε) (subjects : List (List (SignalEvent α ε))) :
    Ended n (sendTo n event subjects) ↔
      Ended n subjects ∨ n < subjects.length ∧ event.isTerminal = true := by
  rw [Ended, sendTo, List.getElem?_modify_eq, Ended]
  by_cases inside : n < subjects.length
  · rw [List.getElem?_eq_getElem inside]
    simp [terminal_snoc_isSome, inside]
  · rw [List.getElem?_eq_none (Nat.le_of_not_lt inside)]
    simp [inside]

theorem ended_new (n : Nat) (subjects : List (List (SignalEvent α ε))) :
    Ended n (subjects ++ [[]]) ↔ Ended n subjects := by
  rw [Ended, Ended]
  by_cases inside : n < subjects.length
  · rw [List.getElem?_append_left inside]
  · have outside := Nat.le_of_not_lt inside
    rw [List.getElem?_append_right outside, List.getElem?_eq_none outside]
    cases n - subjects.length with
    | zero => simp [terminal]
    | succ k => simp

end Subjects

end RealSocial.Library
