import RealSocial.Library.Signal

namespace RealSocial.Library

/-! # Values and ends of a signal -/

theorem zip_ahead {α β : Type*} {xs : List α} {ys : List β} (ahead : ys.length ≤ xs.length) (more : List α) :
    (xs ++ more).zip ys = xs.zip ys := by
  induction xs generalizing ys with
  | nil =>
      obtain rfl := List.eq_nil_of_length_eq_zero (Nat.le_zero.mp ahead)
      simp
  | cons x xs ih =>
      cases ys with
      | nil => rfl
      | cons y ys => exact congrArg ((x, y) :: ·) (ih (Nat.le_of_succ_le_succ ahead))

theorem zip_behind {α β : Type*} {xs : List α} {ys rest : List β} {y : β} (behind : ys.drop xs.length = y :: rest)
    (x : α) : (xs ++ [x]).zip ys = xs.zip ys ++ [(x, y)] := by
  induction xs generalizing ys with
  | nil =>
      obtain rfl : ys = y :: rest := behind
      simp
  | cons first xs ih =>
      cases ys with
      | nil => cases behind
      | cons second ys => exact congrArg ((first, second) :: ·) (ih behind)

theorem zip_longer {α β : Type*} (xs more : List α) (ys : List β) : xs.zip ys <+: (xs ++ more).zip ys := by
  induction xs generalizing ys with
  | nil => exact List.nil_prefix
  | cons x xs ih =>
      cases ys with
      | nil => exact List.nil_prefix
      | cons y ys => exact List.prefix_cons_inj (x, y) |>.mpr (ih ys)

namespace SignalEvent

variable {α β ε : Type*}

def values : List (SignalEvent α ε) → List α
  | [] => []
  | .next value :: events => value :: values events
  | .error _ :: events => values events
  | .completed :: events => values events

def map (f : α → β) : SignalEvent α ε → SignalEvent β ε
  | .next value => .next (f value)
  | .error e => .error e
  | .completed => .completed

theorem values_append (events others : List (SignalEvent α ε)) :
    values (events ++ others) = values events ++ values others := by
  induction events with
  | nil => rfl
  | cons event events ih =>
      cases event with
      | next value => exact congrArg (value :: ·) ih
      | error error => exact ih
      | completed => exact ih

theorem terminal_append (events others : List (SignalEvent α ε)) :
    terminal (events ++ others) = (terminal events).or (terminal others) := List.find?_append

theorem terminal_map (f : α → β) (events : List (SignalEvent α ε)) :
    terminal (events.map (map f)) = (terminal events).map (map f) := by
  induction events with
  | nil => rfl
  | cons event events ih =>
      cases event with
      | next value => exact ih
      | error e => rfl
      | completed => rfl

theorem received_map (f : α → β) (events : List (SignalEvent α ε)) :
    received (events.map (map f)) = (received events).map (map f) := by
  induction events with
  | nil => rfl
  | cons event events ih =>
      cases event with
      | next value => exact congrArg (.next (f value) :: ·) ih
      | error e => rfl
      | completed => rfl

theorem values_map (f : α → β) (events : List (SignalEvent α ε)) :
    values (events.map (map f)) = (values events).map f := by
  induction events with
  | nil => rfl
  | cons event events ih =>
      cases event with
      | next value => exact congrArg (f value :: ·) ih
      | error e => exact ih
      | completed => exact ih

theorem values_map_next (xs : List α) : values (xs.map (.next : α → SignalEvent α ε)) = xs := by
  induction xs with
  | nil => rfl
  | cons x xs ih => exact congrArg (x :: ·) ih

theorem terminal_map_next (xs : List α) : terminal (xs.map (.next : α → SignalEvent α ε)) = none := by
  induction xs with
  | nil => rfl
  | cons x xs ih => exact ih

theorem values_ended (xs : List α) {event : SignalEvent α ε} (ends : event.isTerminal = true) :
    values (xs.map .next ++ [event]) = xs := by
  rw [values_append, values_map_next]
  cases event with
  | next value => cases ends
  | error e => exact List.append_nil xs
  | completed => exact List.append_nil xs

theorem terminal_ended (xs : List α) {event : SignalEvent α ε} (ends : event.isTerminal = true) :
    terminal (xs.map .next ++ [event]) = some event := by
  rw [terminal_append, terminal_map_next, Option.none_or]
  exact List.find?_cons_of_pos ends

theorem received_append_of_ended {events : List (SignalEvent α ε)}
    (ended : (terminal events).isSome = true) (others : List (SignalEvent α ε)) :
    received (events ++ others) = received events := by
  induction events with
  | nil => cases ended
  | cons event events ih =>
      cases event with
      | next value => exact congrArg (.next value :: ·) (ih ended)
      | error error => rfl
      | completed => rfl

theorem received_append_of_going {events : List (SignalEvent α ε)} (going : terminal events = none)
    (others : List (SignalEvent α ε)) : received (events ++ others) = events ++ received others := by
  induction events with
  | nil => rfl
  | cons event events ih =>
      cases event with
      | next value => exact congrArg (.next value :: ·) (ih going)
      | error error => cases going
      | completed => cases going

theorem received_of_going {events : List (SignalEvent α ε)} (going : terminal events = none) :
    received events = events := by
  have whole := received_append_of_going going []
  rwa [List.append_nil, received_nil, List.append_nil] at whole

theorem terminal_received (events : List (SignalEvent α ε)) : terminal (received events) = terminal events := by
  induction events with
  | nil => rfl
  | cons event events ih =>
      cases event with
      | next value => exact ih
      | error error => rfl
      | completed => rfl

theorem received_part (events : List (SignalEvent α ε)) : received events <+: events := by
  induction events with
  | nil => exact List.prefix_rfl
  | cons event events ih =>
      cases event with
      | next value => exact (List.prefix_cons_inj _).mpr ih
      | error e => exact (List.prefix_cons_inj _).mpr List.nil_prefix
      | completed => exact (List.prefix_cons_inj _).mpr List.nil_prefix

theorem received_eq (events : List (SignalEvent α ε)) :
    received events = (values (received events)).map .next ++ (terminal events).toList := by
  induction events with
  | nil => rfl
  | cons event events ih =>
      cases event with
      | next value => exact congrArg (.next value :: ·) ih
      | error e => rfl
      | completed => rfl

end SignalEvent

end RealSocial.Library
