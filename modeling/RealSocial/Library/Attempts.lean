import RealSocial.Library.Entries

namespace RealSocial.Library

/-! # Attempts at keyed jobs

The attempts of all keys are in one list in the order they were started, and each has its outcome once
it has ended. -/

structure Attempt (κ ο : Type*) where
  key : κ
  outcome : Option ο := none
  deriving DecidableEq, Repr

namespace Attempt

variable {κ ο : Type*} [DecidableEq κ]

def latest (k : κ) (attempts : List (Attempt κ ο)) : Option (Attempt κ ο) :=
  attempts.reverse.find? fun attempt => attempt.key = k

def Pending (n : Nat) (k : κ) (attempts : List (Attempt κ ο)) : Prop := attempts[n]? = some { key := k }

def Superseded (n : Nat) (k : κ) (attempts : List (Attempt κ ο)) : Prop :=
  ∃ attempt ∈ attempts.drop (n + 1), attempt.key = k

instance (n : Nat) (k : κ) (attempts : List (Attempt κ ο)) : Decidable (Superseded n k attempts) :=
  inferInstanceAs (Decidable (∃ attempt ∈ attempts.drop (n + 1), attempt.key = k))

theorem latest_append (k : κ) (attempts later : List (Attempt κ ο)) :
    latest k (attempts ++ later) = (latest k later).or (latest k attempts) := by
  rw [latest, List.reverse_append, List.find?_append]
  rfl

theorem latest_singleton (k : κ) (attempt : Attempt κ ο) :
    latest k [attempt] = if attempt.key = k then some attempt else none := by
  rw [latest, List.reverse_singleton, List.find?_singleton]
  simp

theorem latest_eq_none {k : κ} {attempts : List (Attempt κ ο)} :
    latest k attempts = none ↔ ∀ attempt ∈ attempts, attempt.key ≠ k := by
  simp [latest]

theorem latest_start (k k' : κ) (attempts : List (Attempt κ ο)) :
    latest k' (attempts ++ [{ key := k }]) = if k = k' then some { key := k } else latest k' attempts := by
  rw [latest_append, latest_singleton]
  split_ifs with same
  · rfl
  · rfl

theorem latest_split (k : κ) (before after : List (Attempt κ ο)) (attempt : Attempt κ ο) :
    latest k (before ++ attempt :: after) =
      (latest k after).or (if attempt.key = k then some attempt else latest k before) := by
  rw [← List.singleton_append, latest_append, latest_append, latest_singleton, Option.or_assoc]
  split_ifs <;> rfl

theorem superseded_iff {n : Nat} {k : κ} {attempts : List (Attempt κ ο)} :
    Superseded n k attempts ↔ latest k (attempts.drop (n + 1)) ≠ none := by
  rw [ne_eq, latest_eq_none]
  simp [Superseded]

theorem latest_of_pending {n : Nat} {k : κ} {attempts : List (Attempt κ ο)} (pending : Pending n k attempts)
    (last : ¬ Superseded n k attempts) : latest k attempts = some { key := k } := by
  have none_later := not_not.mp (mt superseded_iff.mpr last)
  rw [eq_take_cons_drop pending, latest_split, none_later, if_pos rfl]
  rfl

/-- The outcome of an attempt shows in its own key, unless a later attempt was started. -/
theorem latest_settle {n : Nat} {k : κ} {attempts : List (Attempt κ ο)}
    (pending : Pending n k attempts) (outcome : ο) (k' : κ) :
    latest k' (attempts.set n { key := k, outcome := some outcome }) =
      if k = k' ∧ ¬ Superseded n k attempts then some { key := k, outcome := some outcome }
      else latest k' attempts := by
  have inside : n < attempts.length := (List.getElem?_eq_some_iff.mp pending).1
  have settled : attempts.set n { key := k, outcome := some outcome } =
      attempts.take n ++ { key := k, outcome := some outcome } :: attempts.drop (n + 1) :=
    List.set_eq_take_append_cons_drop.trans (if_pos inside)
  have old := congrArg (latest k') (eq_take_cons_drop pending)
  rw [settled, latest_split, old, latest_split]
  by_cases same : k = k'
  · subst same
    cases later : latest k (attempts.drop (n + 1)) with
    | none => simp [superseded_iff, later]
    | some attempt => simp [superseded_iff, later]
  · simp [same]

end Attempt

end RealSocial.Library
