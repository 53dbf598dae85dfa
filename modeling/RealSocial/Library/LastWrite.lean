import RealSocial.Library.Run

namespace RealSocial.Library

/-! # A cell that some of the steps of a run write -/

variable {σ ε α : Type*} (step : σ → ε → σ)

def lastWrite (writes : σ → ε → Option α) : σ → List ε → Option α
  | _, [] => none
  | s, e :: es => (lastWrite writes (step s e) es).or (writes s e)

variable {step} {writes : σ → ε → Option α}

theorem lastWrite_append (s : σ) (es fs : List ε) :
    lastWrite step writes s (es ++ fs) =
      (lastWrite step writes (run step s es) fs).or (lastWrite step writes s es) := by
  induction es generalizing s with
  | nil => simp [lastWrite]
  | cons e es ih => simp [lastWrite, ih, Option.or_assoc]

theorem lastWrite_eq_none {s : σ} {es : List ε} :
    lastWrite step writes s es = none ↔ EveryStep step (fun s e => writes s e = none) s es := by
  induction es generalizing s with
  | nil => simp [lastWrite, EveryStep]
  | cons e es ih => simp [lastWrite, EveryStep, ih, and_comm]

theorem lastWrite_eq_some {s : σ} {es : List ε} {a : α} :
    lastWrite step writes s es = some a ↔ ∃ before e after, es = before ++ e :: after ∧
      writes (run step s before) e = some a ∧
      EveryStep step (fun s e => writes s e = none) (step (run step s before) e) after := by
  constructor
  · intro last
    induction es generalizing s with
    | nil => cases last
    | cons e es ih =>
        rw [lastWrite, Option.or_eq_some_iff] at last
        rcases last with later | ⟨none, here⟩
        · obtain ⟨before, f, after, rfl, written, untouched⟩ := ih later
          exact ⟨e :: before, f, after, rfl, written, untouched⟩
        · exact ⟨[], e, es, rfl, here, lastWrite_eq_none.mp none⟩
  · rintro ⟨before, e, after, rfl, written, untouched⟩
    rw [lastWrite_append, lastWrite, lastWrite_eq_none.mpr untouched, written]
    rfl

/-- What each step keeps of a state and the last write so far holds after a run. -/
theorem lastWrite_run {R : Option α → σ → Prop}
    (kept : ∀ w s e, R w s → R ((writes s e).or w) (step s e)) {w : Option α} {s : σ} (initially : R w s)
    (es : List ε) : R ((lastWrite step writes s es).or w) (run step s es) := by
  induction es generalizing w s with
  | nil => exact initially
  | cons e es ih =>
      rw [run_cons, lastWrite, Option.or_assoc]
      exact ih (kept w s e initially)

end RealSocial.Library
