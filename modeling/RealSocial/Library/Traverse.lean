import Mathlib.Data.List.Basic

namespace RealSocial.Library

/-! # Lists of results that may fail -/

variable {α β : Type*} {f : α → Option β}

theorem mapM_eq_some_iff {xs : List α} {ys : List β} : xs.mapM f = some ys ↔ xs.map f = ys.map some := by
  induction xs generalizing ys with
  | nil => simp
  | cons x xs ih =>
      rw [List.mapM_cons, List.map_cons]
      cases ys with
      | nil => cases f x <;> cases xs.mapM f <;> simp
      | cons y ys =>
          rw [List.map_cons, List.cons.injEq, ← ih]
          cases f x <;> cases xs.mapM f <;> simp

theorem mapM_exists_iff {xs : List α} : (∃ ys, xs.mapM f = some ys) ↔ ∀ x ∈ xs, (f x).isSome := by
  constructor
  · rintro ⟨ys, mapped⟩ x member
    have there : f x ∈ ys.map some := mapM_eq_some_iff.mp mapped ▸ List.mem_map_of_mem member
    obtain ⟨y, -, same⟩ := List.mem_map.mp there
    rw [← same]
    rfl
  · intro every
    induction xs with
    | nil => exact ⟨[], rfl⟩
    | cons x xs ih =>
        obtain ⟨y, found⟩ := Option.isSome_iff_exists.mp (every x List.mem_cons_self)
        obtain ⟨ys, mapped⟩ := ih fun z member => every z (List.mem_cons_of_mem x member)
        exact ⟨y :: ys, by rw [List.mapM_cons, found, mapped]; rfl⟩

end RealSocial.Library
