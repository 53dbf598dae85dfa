import Mathlib.Data.Multiset.AddSub

namespace RealSocial.Library

/-! # A view that shows some elements of a collection, up to a fixed number -/

section Capped

variable {α : Type*}

def Capped (cap : Nat) (shown all : Multiset α) : Prop :=
  shown.card = min cap all.card ∧ shown ≤ all

theorem capped_zero (cap : Nat) : Capped cap (0 : Multiset α) 0 :=
  ⟨(Nat.min_zero cap).symm, le_refl 0⟩

namespace Capped

variable {cap : Nat} {shown all : Multiset α} {a : α}

theorem eq_of_le (capped : Capped cap shown all) (few : all.card ≤ cap) : shown = all := by
  apply Multiset.eq_of_le_of_card_le capped.2
  rw [capped.1, min_eq_right few]

theorem cons_of_lt (capped : Capped cap shown all) (room : shown.card < cap) (a : α) :
    Capped cap (a ::ₘ shown) (a ::ₘ all) := by
  obtain ⟨card, le⟩ := capped
  constructor
  · rw [Multiset.card_cons, Multiset.card_cons]
    omega
  · exact (Multiset.cons_le_cons_iff a).mpr le

theorem cons_of_le (capped : Capped cap shown all) (full : cap ≤ shown.card) (a : α) :
    Capped cap shown (a ::ₘ all) := by
  obtain ⟨card, le⟩ := capped
  constructor
  · rw [Multiset.card_cons]
    omega
  · exact le.trans (Multiset.le_cons_self all a)

variable [DecidableEq α]

/-- An element that goes takes its copy in the view along exactly when the view shows everything or had no
copy of it. -/
theorem erase_iff (capped : Capped cap shown all) (member : a ∈ all) :
    Capped cap (shown.erase a) (all.erase a) ↔ all.card ≤ cap ∨ a ∉ shown := by
  by_cases few : all.card ≤ cap
  · rw [capped.eq_of_le few]
    have fewer := Multiset.card_erase_le (a := a) (s := all)
    exact ⟨fun _ => .inl few, fun _ => ⟨(min_eq_right (fewer.trans few)).symm, le_refl _⟩⟩
  · obtain ⟨card, le⟩ := capped
    have left : (all.erase a).card = all.card - 1 := Multiset.card_erase_of_mem member
    unfold Capped
    constructor
    · rintro ⟨card', -⟩
      apply Or.inr
      intro there
      have gone := Multiset.card_erase_lt_of_mem there
      rw [left] at card'
      omega
    · intro either
      have hidden := either.resolve_left few
      rw [Multiset.erase_of_notMem hidden, left]
      refine ⟨by omega, ?_⟩
      rw [← Multiset.erase_of_notMem hidden]
      exact Multiset.erase_le_erase a le

/-- A view that does not react is right exactly when the element is one of those it does not show. -/
theorem keep_iff (capped : Capped cap shown all) (member : a ∈ all) :
    Capped cap shown (all.erase a) ↔ cap < all.card ∧ shown.count a < all.count a := by
  obtain ⟨card, le⟩ := capped
  have left : (all.erase a).card = all.card - 1 := Multiset.card_erase_of_mem member
  have positive := Multiset.card_pos_iff_exists_mem.mpr ⟨a, member⟩
  have some_there := Multiset.count_pos.mpr member
  unfold Capped
  rw [left]
  constructor
  · rintro ⟨card', le'⟩
    have counted := Multiset.le_iff_count.mp le' a
    rw [Multiset.count_erase_self] at counted
    exact ⟨by omega, by omega⟩
  · rintro ⟨many, hidden⟩
    refine ⟨by omega, ?_⟩
    rw [Multiset.le_iff_count]
    intro b
    by_cases same : b = a
    · rw [same, Multiset.count_erase_self]
      omega
    · rw [Multiset.count_erase_of_ne same]
      exact Multiset.le_iff_count.mp le b

end Capped

end Capped

end RealSocial.Library
