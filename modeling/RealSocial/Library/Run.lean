import Mathlib.Data.List.Basic
import Mathlib.Logic.Relation

namespace RealSocial.Library

/-! # Runs of a system that takes one event after another -/

variable {σ ε : Type*} (step : σ → ε → σ)

def run (start : σ) (events : List ε) : σ := events.foldl step start

def EveryState (P : σ → Prop) : σ → List ε → Prop
  | s, [] => P s
  | s, e :: es => P s ∧ EveryState P (step s e) es

def EveryStep (Q : σ → ε → Prop) : σ → List ε → Prop
  | _, [] => True
  | s, e :: es => Q s e ∧ EveryStep Q (step s e) es

@[simp] theorem run_nil (s : σ) : run step s [] = s := rfl

@[simp] theorem run_cons (s : σ) (e : ε) (es : List ε) :
    run step s (e :: es) = run step (step s e) es := rfl

theorem run_append (s : σ) (es fs : List ε) :
    run step s (es ++ fs) = run step (run step s es) fs := List.foldl_append

variable {step}

theorem EveryState.first {P : σ → Prop} {s : σ} {es : List ε} (every : EveryState step P s es) : P s := by
  cases es with
  | nil => exact every
  | cons e es => exact every.1

theorem EveryState.last {P : σ → Prop} {s : σ} {es : List ε} (every : EveryState step P s es) :
    P (run step s es) := by
  induction es generalizing s with
  | nil => exact every
  | cons e es ih => exact ih every.2

theorem EveryState.mono {P P' : σ → Prop} (weaker : ∀ s, P s → P' s) {s : σ} {es : List ε}
    (every : EveryState step P s es) : EveryState step P' s es := by
  induction es generalizing s with
  | nil => exact weaker s every
  | cons e es ih => exact ⟨weaker s every.1, ih every.2⟩

theorem everyState_congr {Inv P P' : σ → Prop} (same : ∀ s, Inv s → (P s ↔ P' s)) {s : σ} {es : List ε}
    (states : EveryState step Inv s es) : EveryState step P s es ↔ EveryState step P' s es := by
  induction es generalizing s with
  | nil => exact same s states
  | cons e es ih => exact and_congr (same s states.1) (ih states.2)

theorem EveryStep.mono {Q Q' : σ → ε → Prop} (weaker : ∀ s e, Q s e → Q' s e) {s : σ} {es : List ε}
    (every : EveryStep step Q s es) : EveryStep step Q' s es := by
  induction es generalizing s with
  | nil => trivial
  | cons e es ih => exact ⟨weaker s e every.1, ih every.2⟩

theorem everyState_of_steps {Inv : σ → Prop} {Q : σ → ε → Prop}
    (preserved : ∀ s e, Inv s → Q s e → Inv (step s e)) {s : σ} {es : List ε}
    (initially : Inv s) (steps : EveryStep step Q s es) : EveryState step Inv s es := by
  induction es generalizing s with
  | nil => exact initially
  | cons e es ih => exact ⟨initially, ih (preserved s e initially steps.1) steps.2⟩

theorem EveryStep.and {Q Q' : σ → ε → Prop} {s : σ} {es : List ε} (first : EveryStep step Q s es)
    (second : EveryStep step Q' s es) : EveryStep step (fun s e => Q s e ∧ Q' s e) s es := by
  induction es generalizing s with
  | nil => trivial
  | cons e es ih => exact ⟨⟨first.1, second.1⟩, ih first.2 second.2⟩

theorem everyStep_iff_forall {Q : ε → Prop} {s : σ} {es : List ε} :
    EveryStep step (fun _ e => Q e) s es ↔ ∀ e ∈ es, Q e := by
  induction es generalizing s with
  | nil => simp [EveryStep]
  | cons e es ih => rw [EveryStep, ih, List.forall_mem_cons]

theorem everyStep_of_forall {Q : ε → Prop} {es : List ε} (every : ∀ e ∈ es, Q e) (s : σ) :
    EveryStep step (fun _ e => Q e) s es :=
  everyStep_iff_forall.mpr every

theorem run_of_events {Inv : σ → Prop} {Q : ε → Prop} (preserved : ∀ s e, Inv s → Q e → Inv (step s e))
    {s : σ} {es : List ε} (initially : Inv s) (every : ∀ e ∈ es, Q e) : Inv (run step s es) :=
  (everyState_of_steps preserved initially (everyStep_of_forall every s)).last

theorem everyStep_append {Q : σ → ε → Prop} {s : σ} {es fs : List ε} :
    EveryStep step Q s (es ++ fs) ↔ EveryStep step Q s es ∧ EveryStep step Q (run step s es) fs := by
  induction es generalizing s with
  | nil => simp [EveryStep]
  | cons e es ih => simp [EveryStep, ih, and_assoc]

theorem everyStep_true (s : σ) (es : List ε) : EveryStep step (fun _ _ => True) s es :=
  everyStep_of_forall (fun _ _ => trivial) s

/-- Where a step from a good state keeps the property exactly when it meets `Q`, and then leads to a good
state, a run has the property throughout exactly when all its steps meet `Q`. -/
theorem everyState_iff_of_good {G P : σ → Prop} {Q : σ → ε → Prop} (sound : ∀ s, G s → P s)
    (precise : ∀ s e, G s → (P (step s e) ↔ Q s e)) (kept : ∀ s e, G s → Q s e → G (step s e))
    {s : σ} (initially : G s) (es : List ε) : EveryState step P s es ↔ EveryStep step Q s es := by
  induction es generalizing s with
  | nil => exact ⟨fun _ => trivial, fun _ => sound s initially⟩
  | cons e es ih =>
      rw [EveryState, EveryStep, ← precise s e initially]
      constructor
      · rintro ⟨-, rest⟩
        have next := kept s e initially ((precise s e initially).mp rest.first)
        exact ⟨rest.first, (ih next).mp rest⟩
      · rintro ⟨now, rest⟩
        have next := kept s e initially ((precise s e initially).mp now)
        exact ⟨sound s initially, (ih next).mpr rest⟩

/-- Where each step from a good state leads to a good one exactly when it meets `Q`, a run stays good
exactly when all its steps meet `Q`. -/
theorem everyState_iff_everyStep {Inv P : σ → Prop} {Q : σ → ε → Prop}
    (preserved : ∀ s e, Inv s → Inv (step s e))
    (precise : ∀ s e, Inv s → P s → (P (step s e) ↔ Q s e)) {s : σ} (initially : Inv s) (good : P s)
    (es : List ε) : EveryState step P s es ↔ EveryStep step Q s es := by
  apply everyState_iff_of_good (G := fun s => Inv s ∧ P s)
  · intro s inv
    exact inv.2
  · intro s e inv
    exact precise s e inv.1 inv.2
  · intro s e inv meets
    exact ⟨preserved s e inv.1, (precise s e inv.1 inv.2).mpr meets⟩
  · exact ⟨initially, good⟩

theorem everyState_of_invariant {Inv : σ → Prop} (preserved : ∀ s e, Inv s → Inv (step s e))
    {s : σ} (initially : Inv s) (es : List ε) : EveryState step Inv s es :=
  everyState_of_steps (fun s e inv _ => preserved s e inv) initially (everyStep_true s es)

theorem invariant_run {Inv : σ → Prop} (preserved : ∀ s e, Inv s → Inv (step s e))
    {s : σ} (initially : Inv s) (es : List ε) : Inv (run step s es) :=
  (everyState_of_invariant preserved initially es).last

theorem everyStep_of_everyState {Inv : σ → Prop} {Q R : σ → ε → Prop}
    (gives : ∀ s e, Inv s → Q s e → R s e) {s : σ} {es : List ε}
    (states : EveryState step Inv s es) (steps : EveryStep step Q s es) : EveryStep step R s es := by
  induction es generalizing s with
  | nil => trivial
  | cons e es ih => exact ⟨gives s e states.1 steps.1, ih states.2 steps.2⟩

theorem everyStep_congr {N Q R : σ → ε → Prop} (same : ∀ s e, N s e → (Q s e ↔ R s e)) {s : σ}
    {es : List ε} (all : EveryStep step N s es) :
    EveryStep step Q s es ↔ EveryStep step R s es := by
  induction es generalizing s with
  | nil => exact Iff.rfl
  | cons e es ih => exact and_congr (same s e all.1) (ih all.2)

theorem everyStep_iff_of_good {G : σ → Prop} {Q R : σ → ε → Prop}
    (precise : ∀ s e, G s → (Q s e ↔ R s e)) (kept : ∀ s e, G s → R s e → G (step s e)) {s : σ}
    (initially : G s) (es : List ε) : EveryStep step Q s es ↔ EveryStep step R s es := by
  induction es generalizing s with
  | nil => exact Iff.rfl
  | cons e es ih =>
      rw [EveryStep, EveryStep, precise s e initially]
      apply and_congr_right
      intro here
      exact ih (kept s e initially here)

/-- Where a step leads to an `E` state exactly from an `E` state and with `Q`, a run ends in one exactly when
it starts in one and has `Q` at each step. -/
theorem run_iff_everyStep {Inv E : σ → Prop} {Q : σ → ε → Prop} (kept : ∀ s e, Inv s → Inv (step s e))
    (precise : ∀ s e, Inv s → (E (step s e) ↔ E s ∧ Q s e)) {s : σ} (initially : Inv s) (es : List ε) :
    E (run step s es) ↔ E s ∧ EveryStep step Q s es := by
  induction es generalizing s with
  | nil => exact ⟨fun here => ⟨here, trivial⟩, fun both => both.1⟩
  | cons e es ih =>
      rw [run_cons, ih (kept s e initially), precise s e initially, EveryStep, and_assoc]

theorem run_reflTransGen {α : Type*} {R : α → α → Prop} {f : σ → α} {s : σ} {es : List ε}
    (steps : EveryStep step (fun s e => Relation.ReflTransGen R (f s) (f (step s e))) s es) :
    Relation.ReflTransGen R (f s) (f (run step s es)) := by
  induction es generalizing s with
  | nil => exact .refl
  | cons e es ih => exact steps.1.trans (ih steps.2)

end RealSocial.Library
