import RealSocial.Library.Entries

namespace RealSocial.Library

/-! # Lists with a selection and a running count

`chosen` is what the user picked and has not put back, by name, whatever the list shows. -/

class Selectable (ι : Type*) (κ : outParam Type*) where
  name : ι → κ
  isSelected : ι → Bool
  select : Bool → ι → ι
  isSelected_select : ∀ (on : Bool) (x : ι), isSelected (select on x) = on
  name_select : ∀ (on : Bool) (x : ι), name (select on x) = name x

open Selectable

attribute [simp] Selectable.isSelected_select Selectable.name_select

structure SelectionList (ι : Type*) {κ : Type*} [Selectable ι κ] where
  items : List ι := []
  count : Int := 0
  chosen : List κ := []

namespace SelectionList

variable {ι κ : Type*} [Selectable ι κ]

def selected (s : SelectionList ι) : Nat := s.items.countP isSelected

def pick [DecidableEq κ] (items : List ι) (row : Nat) (chosen : List κ) : List κ :=
  match items[row]? with
  | none => chosen
  | some x => if isSelected x then chosen.filter (· ≠ name x) else name x :: chosen

def tap [DecidableEq κ] (row : Nat) (s : SelectionList ι) : SelectionList ι :=
  match s.items[row]? with
  | none => s
  | some x =>
      { items := s.items.set row (select (!isSelected x) x)
        count := if isSelected x then s.count - 1 else s.count + 1
        chosen := pick s.items row s.chosen }

def unselectAll (s : SelectionList ι) : SelectionList ι where
  items := s.items.map (select false)
  count := s.count - s.selected
  chosen := []

def reload (items : List ι) (s : SelectionList ι) : SelectionList ι := { s with items }

def CountAgrees (s : SelectionList ι) : Prop := s.count = s.selected

def Kept (s : SelectionList ι) : Prop :=
  ∀ x ∈ s.items, name x ∈ s.chosen → ∃ y ∈ s.items, name y = name x ∧ isSelected y = true

theorem tap_none [DecidableEq κ] {s : SelectionList ι} {row : Nat} (outside : s.items[row]? = none) :
    s.tap row = s := by
  unfold tap
  rw [outside]

theorem tap_on [DecidableEq κ] {s : SelectionList ι} {row : Nat} {x : ι} (tapped : s.items[row]? = some x)
    (off : isSelected x = false) :
    s.tap row =
      { items := s.items.set row (select true x)
        count := s.count + 1
        chosen := name x :: s.chosen } := by
  simp [tap, pick, tapped, off]

theorem tap_off [DecidableEq κ] {s : SelectionList ι} {row : Nat} {x : ι} (tapped : s.items[row]? = some x)
    (on : isSelected x = true) :
    s.tap row =
      { items := s.items.set row (select false x)
        count := s.count - 1
        chosen := s.chosen.filter (· ≠ name x) } := by
  simp [tap, pick, tapped, on]

/-- A list of items with a count of its own takes a tap when the items and the count go along with it. -/
theorem eq_tap [DecidableEq κ] {s s' : SelectionList ι} {row : Nat}
    (picked : s'.chosen = pick s.items row s.chosen)
    (outside : s.items[row]? = none → s'.items = s.items ∧ s'.count = s.count)
    (inside : ∀ x, s.items[row]? = some x →
      s'.items = s.items.set row (select (!isSelected x) x) ∧
        s'.count = if isSelected x then s.count - 1 else s.count + 1) :
    s' = s.tap row := by
  obtain ⟨items', count', chosen'⟩ := s'
  cases tapped : s.items[row]? with
  | none =>
      obtain ⟨rfl, rfl⟩ := outside tapped
      have kept : pick s.items row s.chosen = s.chosen := by
        rw [pick, tapped]
      have same : chosen' = s.chosen := picked.trans kept
      rw [tap_none tapped, same]
  | some x =>
      obtain ⟨rfl, rfl⟩ := inside x tapped
      obtain rfl := picked
      rw [tap, tapped]

theorem selected_map_false (items : List ι) :
    (items.map (select false)).countP isSelected = 0 := by
  apply List.countP_eq_zero.mpr
  intro y member
  obtain ⟨x, -, rfl⟩ := List.mem_map.mp member
  simp

theorem selected_set {items : List ι} {row : Nat} {x : ι} (tapped : items[row]? = some x) (on : Bool) :
    (items.set row (select on x)).countP isSelected =
      items.countP isSelected - (if isSelected x then 1 else 0) + (if on then 1 else 0) := by
  obtain ⟨inside, here⟩ := List.getElem?_eq_some_iff.mp tapped
  rw [List.countP_set inside, here, isSelected_select]

theorem named_of_mem_set {items : List ι} {row : Nat} {x y : ι} {on : Bool} (tapped : items[row]? = some x)
    (member : y ∈ items.set row (select on x)) : ∃ z ∈ items, name z = name y := by
  rcases List.mem_or_eq_of_mem_set member with old | new
  · exact ⟨y, old, rfl⟩
  · exact ⟨x, List.mem_of_getElem? tapped, by rw [new, name_select]⟩

theorem mem_tap [DecidableEq κ] {s : SelectionList ι} {row : Nat} {y : ι} (member : y ∈ (s.tap row).items) :
    y ∈ s.items ∨ ∃ x, s.items[row]? = some x ∧ y = select (!isSelected x) x := by
  cases tapped : s.items[row]? with
  | none =>
      rw [tap_none tapped] at member
      exact Or.inl member
  | some x =>
      unfold tap at member
      rw [tapped] at member
      apply (List.mem_or_eq_of_mem_set member).imp_right
      intro toggled
      exact ⟨x, rfl, toggled⟩

/-! The count goes along with every tap and with clearing the list, and a new list is the only thing
that can bring it out of step. -/

theorem CountAgrees.nonneg {s : SelectionList ι} (agrees : s.CountAgrees) : 0 ≤ s.count := by
  have counted : s.count = s.selected := agrees
  rw [counted]
  exact Int.natCast_nonneg _

theorem CountAgrees.tap [DecidableEq κ] {s : SelectionList ι} (agrees : s.CountAgrees) (row : Nat) :
    (s.tap row).CountAgrees := by
  have counted : s.count = s.items.countP isSelected := agrees
  cases tapped : s.items[row]? with
  | none =>
      rw [tap_none tapped]
      exact agrees
  | some x =>
      have toggled := selected_set tapped
      cases on : isSelected x with
      | false =>
          rw [tap_on tapped on, CountAgrees, selected, toggled]
          simp [on, counted]
      | true =>
          have positive : 0 < s.items.countP isSelected :=
            List.countP_pos_iff.mpr ⟨x, List.mem_of_getElem? tapped, on⟩
          have less : ((s.items.countP isSelected - 1 : Nat) : Int) = s.items.countP isSelected - 1 := by
            omega
          rw [tap_off tapped on, CountAgrees, selected, toggled]
          simp [on, counted, less]

theorem CountAgrees.unselectAll {s : SelectionList ι} (agrees : s.CountAgrees) :
    s.unselectAll.CountAgrees := by
  show s.count - (s.selected : Int) = ((s.items.map (select false)).countP isSelected : Int)
  rw [selected_map_false, show s.count = s.selected from agrees, Int.sub_self]
  rfl

theorem CountAgrees.reload_iff {s : SelectionList ι} (agrees : s.CountAgrees) (items : List ι) :
    (s.reload items).CountAgrees ↔ items.countP isSelected = s.selected := by
  show s.count = (items.countP isSelected : Int) ↔ _
  rw [show s.count = s.selected from agrees, Int.natCast_inj]
  exact eq_comm

/-! The same for what the user picked. -/

theorem Kept.tap [DecidableEq κ] {s : SelectionList ι} (kept : s.Kept) (row : Nat) : (s.tap row).Kept := by
  cases tapped : s.items[row]? with
  | none =>
      rw [tap_none tapped]
      exact kept
  | some x =>
      have inside : row < s.items.length := (List.getElem?_eq_some_iff.mp tapped).1
      cases on : isSelected x with
      | false =>
          rw [tap_on tapped on]
          intro y member picked
          by_cases same : name y = name x
          · exact ⟨select true x, List.mem_set inside _, by rw [name_select, same], isSelected_select true x⟩
          · obtain ⟨z, old, named⟩ := named_of_mem_set tapped member
            obtain ⟨w, stays, called, chosen⟩ :=
              kept z old (named ▸ (List.mem_cons.mp picked).resolve_left same)
            refine ⟨w, mem_set_of_ne tapped stays ?_, called.trans named, chosen⟩
            intro equal
            rw [equal, on] at chosen
            contradiction
      | true =>
          rw [tap_off tapped on]
          intro y member picked
          obtain ⟨still, other⟩ := List.mem_filter.mp picked
          obtain ⟨z, old, named⟩ := named_of_mem_set tapped member
          obtain ⟨w, stays, called, chosen⟩ := kept z old (named ▸ still)
          refine ⟨w, mem_set_of_ne tapped stays ?_, called.trans named, chosen⟩
          intro equal
          apply of_decide_eq_true other
          rw [← named, ← called, equal]

theorem Kept.unselectAll (s : SelectionList ι) : s.unselectAll.Kept := by
  intro x _ picked
  exact absurd picked List.not_mem_nil

end SelectionList

end RealSocial.Library
