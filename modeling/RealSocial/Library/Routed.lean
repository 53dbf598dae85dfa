import Mathlib

namespace RealSocial.Library

/-! # Folds whose steps go to one half of the state

The steps of one half are as if the others were not there. -/

section Routed

variable {α σ τ : Type*} (mine : α → Prop) [DecidablePred mine] (f : σ → α → Option σ) (g : τ → α → Option τ)

def routed (state : σ × τ) (a : α) : Option (σ × τ) :=
  if mine a then (f state.1 a).map fun s => (s, state.2) else (g state.2 a).map fun t => (state.1, t)

theorem foldlM_routed (steps : List α) (s : σ) (t : τ) :
    steps.foldlM (routed mine f g) (s, t) =
      ((steps.filter fun a => mine a).foldlM f s).bind fun s =>
        ((steps.filter fun a => ¬ mine a).foldlM g t).map fun t => (s, t) := by
  induction steps generalizing s t with
  | nil => rfl
  | cons a steps ih =>
      rw [List.foldlM_cons, routed]
      by_cases here : mine a
      · rw [if_pos here, List.filter_cons_of_pos (by simpa using here),
          List.filter_cons_of_neg (by simpa using here), List.foldlM_cons]
        cases f s a with
        | none => rfl
        | some s => exact ih s t
      · rw [if_neg here, List.filter_cons_of_neg (by simpa using here),
          List.filter_cons_of_pos (by simpa using here), List.foldlM_cons]
        cases g t a with
        | none => cases (steps.filter fun a => mine a).foldlM f s <;> rfl
        | some t => exact ih s t

end Routed

/-! ## Folds that add to a size, below a limit -/

section Weight

variable {α σ : Type*} {f : σ → α → Option σ} {size : σ → Nat} {weight : α → Nat} {limit : Nat}

theorem foldlM_weight {steps : List α}
    (step : ∀ a ∈ steps, ∀ s t, f s a = some t → size s + weight a < limit → size t ≤ size s + weight a)
    {s t : σ} (folded : steps.foldlM f s = some t)
    (below : size s + (steps.map weight).sum < limit) : size t ≤ size s + (steps.map weight).sum := by
  induction steps generalizing s with
  | nil =>
      obtain rfl := Option.some.inj folded
      exact Nat.le_add_right _ _
  | cons a steps ih =>
      obtain ⟨next, first, rest⟩ := Option.bind_eq_some_iff.mp folded
      rw [List.map_cons, List.sum_cons] at below ⊢
      have grown := step a List.mem_cons_self s next first (by omega)
      have later := ih (fun b member => step b (List.mem_cons_of_mem a member)) rest (by omega)
      omega

end Weight

end RealSocial.Library
