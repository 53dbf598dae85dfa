import Mathlib.Data.List.Basic

namespace RealSocial.Library

/-! # Entries of a list by their number -/

theorem eq_take_cons_drop {α : Type*} {n : Nat} {x : α} {xs : List α} (there : xs[n]? = some x) :
    xs = xs.take n ++ x :: xs.drop (n + 1) := by
  obtain ⟨inside, here⟩ := List.getElem?_eq_some_iff.mp there
  rw [← here, ← List.drop_eq_getElem_cons inside, List.take_append_drop]

theorem map_set_of_same {α β : Type*} {f : α → β} {xs : List α} {n : Nat} {x y : α} (there : xs[n]? = some x)
    (same : f y = f x) : (xs.set n y).map f = xs.map f := by
  have image : (xs.map f)[n]? = some (f y) := by
    rw [List.getElem?_map, there, same]
    rfl
  obtain ⟨inside, here⟩ := List.getElem?_eq_some_iff.mp image
  rw [List.map_set, ← here, List.set_getElem_self]

theorem mem_set_of_ne {α : Type*} {items : List α} {row : Nat} {x y z : α} (tapped : items[row]? = some x)
    (member : y ∈ items) (other : y ≠ x) : y ∈ items.set row z := by
  obtain ⟨j, found⟩ := List.mem_iff_getElem?.mp member
  have apart : row ≠ j := by
    intro same
    subst same
    exact other (Option.some.inj (found.symm.trans tapped))
  apply List.mem_iff_getElem?.mpr
  exact ⟨j, (List.getElem?_set_ne apart).trans found⟩

theorem modify_last {α : Type*} (entries : List α) (entry : α) (f : α → α) :
    (entries ++ [entry]).modify entries.length f = entries ++ [f entry] :=
  List.modifyTailIdx_add (List.modifyHead f) 0 entries [entry]

end RealSocial.Library
