import Mathlib.Data.List.Basic

namespace RealSocial.Library

/-! # Cold request signals

A request signal transmits its request each time it is subscribed. A zip subscribes to its two
inputs, and emits once both have emitted. -/

inductive ColdSignal (R : Type) where
  | empty
  | request (r : R)
  | zipWith (left right : ColdSignal R)

namespace ColdSignal

variable {R : Type}

/-- What one subscription transmits, in order. -/
def transmissions : ColdSignal R → List R
  | .empty => []
  | .request r => [r]
  | .zipWith left right => left.transmissions ++ right.transmissions

/-- Whether a subscription has emitted, given the answers to its transmissions so far: nothing yet,
an error, or a response. -/
def emitted : ColdSignal R → List (Option Bool) → Bool
  | .empty, _ => false
  | .request _, answers => answers.head? = some (some true)
  | .zipWith left right, answers =>
      left.emitted (answers.take left.transmissions.length) &&
        right.emitted (answers.drop left.transmissions.length)

def zip : List (ColdSignal R) → ColdSignal R
  | [] => .empty
  | signal :: signals => signals.foldl .zipWith signal

theorem transmissions_foldl (signals : List (ColdSignal R)) (signal : ColdSignal R) :
    (signals.foldl .zipWith signal).transmissions =
      signal.transmissions ++ signals.flatMap transmissions := by
  induction signals generalizing signal with
  | nil => simp
  | cons next signals ih => simp [ih, transmissions]

theorem transmissions_zip (signals : List (ColdSignal R)) :
    (zip signals).transmissions = signals.flatMap transmissions := by
  cases signals with
  | nil => rfl
  | cons signal signals => exact transmissions_foldl signals signal

@[simp] theorem transmissions_zip_requests (requests : List R) :
    (zip (requests.map .request)).transmissions = requests := by
  rw [transmissions_zip, List.flatMap_map]
  simp [transmissions]

theorem emitted_foldl_requests (requests : List R) (signal : ColdSignal R) (answers : List (Option Bool))
    (all : answers.length = signal.transmissions.length + requests.length) :
    ((requests.map .request).foldl .zipWith signal).emitted answers = true ↔
      signal.emitted (answers.take signal.transmissions.length) = true ∧
        ∀ answer ∈ answers.drop signal.transmissions.length, answer = some true := by
  induction requests generalizing signal with
  | nil =>
      have short : answers.length ≤ signal.transmissions.length := Nat.le_of_eq all
      rw [List.map_nil, List.foldl_nil, List.take_of_length_le short, List.drop_of_length_le short]
      simp
  | cons request requests ih =>
      obtain ⟨here, length⟩ : ∃ here, signal.transmissions.length = here := ⟨_, rfl⟩
      rw [length] at all ⊢
      have inside : here < answers.length := by
        rw [all, List.length_cons]
        omega
      have split : answers.drop here = answers[here] :: answers.drop (here + 1) :=
        List.drop_eq_getElem_cons inside
      have one : (answers.take (here + 1)).drop here = [answers[here]] := by
        rw [List.drop_take, split, Nat.add_sub_cancel_left]
        rfl
      have both : (ColdSignal.zipWith signal (.request request)).transmissions.length = here + 1 := by
        rw [transmissions, List.length_append, length]
        rfl
      have rest := ih (.zipWith signal (.request request)) (by rw [both, all, List.length_cons]; omega)
      rw [List.map_cons, List.foldl_cons, rest, both, emitted, Bool.and_eq_true, length, List.take_take,
        Nat.min_eq_left (Nat.le_succ here), one, split, List.forall_mem_cons, and_assoc]
      simp [emitted]

/-- A zip of requests emits once all of them have answered with a response, if there is one. -/
theorem emitted_zip_requests {requests : List R} {answers : List (Option Bool)}
    (all : answers.length = requests.length) :
    (zip (requests.map .request)).emitted answers = true ↔
      requests ≠ [] ∧ ∀ answer ∈ answers, answer = some true := by
  cases requests with
  | nil => simp [zip, emitted]
  | cons request requests =>
      have folded := emitted_foldl_requests requests (.request request) answers
        (by rw [all, List.length_cons, transmissions, List.length_singleton]; omega)
      rw [List.map_cons, zip, folded]
      cases answers with
      | nil => cases all
      | cons answer answers => simp [emitted, transmissions]

end ColdSignal

end RealSocial.Library
