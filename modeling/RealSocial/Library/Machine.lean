import Mathlib.Data.List.Induction

namespace RealSocial.Library

/-! # Machines that send something at each step -/

/-- What is found in a list that has grown at its end. -/
theorem getElem?_snoc {α : Type*} {l : List α} {a b : α} {i : Nat} (here : (l ++ [a])[i]? = some b) :
    l[i]? = some b ∨ i = l.length ∧ b = a := by
  by_cases inside : i < l.length
  · exact .inl ((List.getElem?_append_left inside).symm.trans here)
  · have bound := (List.getElem?_eq_some_iff.mp here).1
    rw [List.length_append] at bound
    obtain rfl : i = l.length := Nat.le_antisymm (Nat.le_of_lt_succ bound) (Nat.le_of_not_lt inside)
    rw [List.getElem?_concat_length, Option.some.injEq] at here
    exact .inr ⟨rfl, here.symm⟩

namespace Machine

variable {σ ι ο : Type*} (step : σ → ι → σ × List ο)

def after (s : σ) (inputs : List ι) : σ := inputs.foldl (fun s input => (step s input).1) s

def sent : σ → List ι → List ο
  | _, [] => []
  | s, input :: inputs => (step s input).2 ++ sent (step s input).1 inputs

@[simp] theorem after_nil (s : σ) : after step s [] = s := rfl

@[simp] theorem sent_nil (s : σ) : sent step s [] = [] := rfl

theorem sent_cons (s : σ) (input : ι) (inputs : List ι) :
    sent step s (input :: inputs) = (step s input).2 ++ sent step (step s input).1 inputs := rfl

theorem after_append (s : σ) (first second : List ι) :
    after step s (first ++ second) = after step (after step s first) second := List.foldl_append

theorem sent_append (s : σ) (first second : List ι) :
    sent step s (first ++ second) = sent step s first ++ sent step (after step s first) second := by
  induction first generalizing s with
  | nil => rfl
  | cons input first ih => rw [List.cons_append, sent, ih, sent, List.append_assoc]; rfl

theorem after_snoc (s : σ) (inputs : List ι) (input : ι) :
    after step s (inputs ++ [input]) = (step (after step s inputs) input).1 := after_append step s inputs [input]

theorem sent_snoc (s : σ) (inputs : List ι) (input : ι) :
    sent step s (inputs ++ [input]) = sent step s inputs ++ (step (after step s inputs) input).2 := by
  rw [sent_append, sent, sent, List.append_nil]

variable {step}

/-- What holds at the start and is kept by each step holds of every run: of what came in, of the state and of
what was sent. -/
theorem invariant {P : List ι → σ → List ο → Prop} {s : σ} (start : P [] s [])
    (kept : ∀ inputs s outputs input, P inputs s outputs →
      P (inputs ++ [input]) (step s input).1 (outputs ++ (step s input).2))
    (inputs : List ι) : P inputs (after step s inputs) (sent step s inputs) := by
  induction inputs using List.reverseRecOn with
  | nil => exact start
  | append_singleton inputs input ih =>
      rw [after_snoc, sent_snoc]
      exact kept inputs _ _ input ih

end Machine

end RealSocial.Library
