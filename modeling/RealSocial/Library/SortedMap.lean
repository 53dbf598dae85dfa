import Mathlib

namespace RealSocial.Library

/-! # Maps that are kept in the order of their keys -/

@[ext] structure SortedMap (κ β : Type*) [LinearOrder κ] where
  entries : List (κ × β)
  sorted : entries.Pairwise fun a b => a.1 < b.1

namespace SortedMap

variable {κ β : Type*} [LinearOrder κ]

instance : EmptyCollection (SortedMap κ β) := ⟨⟨[], List.Pairwise.nil⟩⟩

instance [DecidableEq β] : DecidableEq (SortedMap κ β) :=
  fun m n => decidable_of_iff (m.entries = n.entries) SortedMap.ext_iff.symm

def findIn (k : κ) : List (κ × β) → Option β
  | [] => none
  | (j, b) :: entries => if j = k then some b else findIn k entries

def find (m : SortedMap κ β) (k : κ) : Option β := findIn k m.entries

def alterIn (k : κ) (f : Option β → β) : List (κ × β) → List (κ × β)
  | [] => [(k, f none)]
  | (j, b) :: entries =>
      if k < j then (k, f none) :: (j, b) :: entries
      else if j = k then (j, f (some b)) :: entries
      else (j, b) :: alterIn k f entries

theorem key_mem_alterIn {k : κ} {f : Option β → β} {entries : List (κ × β)} {entry : κ × β}
    (member : entry ∈ alterIn k f entries) : entry.1 = k ∨ ∃ old ∈ entries, old.1 = entry.1 := by
  induction entries with
  | nil =>
      rw [alterIn, List.mem_singleton] at member
      exact Or.inl (congrArg Prod.fst member)
  | cons head entries ih =>
      obtain ⟨j, b⟩ := head
      rw [alterIn] at member
      split_ifs at member with before same
      · cases List.mem_cons.mp member with
        | inl here => exact Or.inl (congrArg Prod.fst here)
        | inr there => exact Or.inr ⟨entry, there, rfl⟩
      · cases List.mem_cons.mp member with
        | inl here => exact Or.inl ((congrArg Prod.fst here).trans same)
        | inr there => exact Or.inr ⟨entry, List.mem_cons_of_mem _ there, rfl⟩
      · cases List.mem_cons.mp member with
        | inl here => exact Or.inr ⟨(j, b), List.mem_cons_self, congrArg Prod.fst here.symm⟩
        | inr there =>
            cases ih there with
            | inl new => exact Or.inl new
            | inr old =>
                obtain ⟨old, known, same⟩ := old
                exact Or.inr ⟨old, List.mem_cons_of_mem _ known, same⟩

theorem alterIn_sorted (k : κ) (f : Option β → β) {entries : List (κ × β)}
    (sorted : entries.Pairwise fun a b => a.1 < b.1) :
    (alterIn k f entries).Pairwise fun a b => a.1 < b.1 := by
  induction entries with
  | nil => exact List.pairwise_singleton _ _
  | cons head entries ih =>
      obtain ⟨j, b⟩ := head
      obtain ⟨first, rest⟩ := List.pairwise_cons.mp sorted
      rw [alterIn]
      split_ifs with before same
      · apply List.pairwise_cons.mpr
        refine ⟨?_, sorted⟩
        intro entry member
        cases List.mem_cons.mp member with
        | inl here => exact here ▸ before
        | inr there => exact lt_trans before (first entry there)
      · exact List.pairwise_cons.mpr ⟨first, rest⟩
      · apply List.pairwise_cons.mpr
        refine ⟨?_, ih rest⟩
        intro entry member
        cases key_mem_alterIn member with
        | inl new => exact new ▸ lt_of_le_of_ne (not_lt.mp before) same
        | inr old =>
            obtain ⟨old, known, same⟩ := old
            exact same ▸ first old known

def alter (m : SortedMap κ β) (k : κ) (f : Option β → β) : SortedMap κ β :=
  ⟨alterIn k f m.entries, alterIn_sorted k f m.sorted⟩

theorem findIn_of_before {k : κ} {entries : List (κ × β)} (before : ∀ entry ∈ entries, k < entry.1) :
    findIn k entries = none := by
  induction entries with
  | nil => rfl
  | cons head entries ih =>
      have later := before head List.mem_cons_self
      rw [findIn, if_neg later.ne']
      exact ih fun entry member => before entry (List.mem_cons_of_mem _ member)

theorem findIn_alterIn (k j : κ) (f : Option β → β) {entries : List (κ × β)}
    (sorted : entries.Pairwise fun a b => a.1 < b.1) :
    findIn j (alterIn k f entries) = if j = k then some (f (findIn k entries)) else findIn j entries := by
  induction entries with
  | nil =>
      by_cases same : j = k
      · subst same
        simp [alterIn, findIn]
      · simp [alterIn, findIn, same, Ne.symm same]
  | cons head entries ih =>
      obtain ⟨i, b⟩ := head
      obtain ⟨first, rest⟩ := List.pairwise_cons.mp sorted
      rw [alterIn]
      by_cases before : k < i
      · have absent : findIn k ((i, b) :: entries) = none := by
          apply findIn_of_before
          intro entry member
          cases List.mem_cons.mp member with
          | inl head => exact head ▸ before
          | inr there => exact lt_trans before (first entry there)
        rw [if_pos before, absent]
        by_cases same : j = k
        · subst same
          simp [findIn]
        · simp [findIn, same, Ne.symm same]
      · rw [if_neg before]
        by_cases here : i = k
        · subst here
          by_cases same : j = i
          · subst same
            simp [findIn]
          · simp [findIn, same, Ne.symm same]
        · rw [if_neg here]
          by_cases same : j = k
          · subst same
            simp [findIn, here, ih rest]
          · simp [findIn, same, ih rest]

theorem find_alter (m : SortedMap κ β) (k j : κ) (f : Option β → β) :
    (m.alter k f).find j = if j = k then some (f (m.find k)) else m.find j :=
  findIn_alterIn k j f m.sorted

@[simp] theorem find_empty (k : κ) : (∅ : SortedMap κ β).find k = none := rfl

theorem ext_find {m n : SortedMap κ β} (same : ∀ k, m.find k = n.find k) : m = n := by
  obtain ⟨entries, sorted⟩ := m
  obtain ⟨others, sortedOthers⟩ := n
  have equal : entries = others := by
    induction entries generalizing others with
    | nil =>
        cases others with
        | nil => rfl
        | cons head others =>
            have absent := same head.1
            simp [find, findIn] at absent
    | cons head entries ih =>
        obtain ⟨j, b⟩ := head
        obtain ⟨first, rest⟩ := List.pairwise_cons.mp sorted
        cases others with
        | nil =>
            have absent := same j
            simp [find, findIn] at absent
        | cons other others =>
            obtain ⟨i, c⟩ := other
            obtain ⟨firstOther, restOthers⟩ := List.pairwise_cons.mp sortedOthers
            have atJ := same j
            have atI := same i
            simp only [find, findIn, if_pos] at atJ atI
            have keys : i = j := by
              rcases lt_trichotomy i j with less | equal | more
              · rw [if_neg less.ne', findIn_of_before fun entry member =>
                  lt_trans less (first entry member)] at atI
                cases atI
              · exact equal
              · rw [if_neg more.ne', findIn_of_before fun entry member =>
                  lt_trans more (firstOther entry member)] at atJ
                cases atJ
            subst keys
            rw [if_pos rfl, Option.some.injEq] at atJ
            have tails : entries = others := by
              apply ih rest others restOthers
              intro k
              have atK := same k
              simp only [find, findIn] at atK ⊢
              by_cases head : i = k
              · subst head
                rw [findIn_of_before first, findIn_of_before firstOther]
              · rwa [if_neg head, if_neg head] at atK
            rw [atJ, tails]
  subst equal
  rfl

section Items

variable {α : Type*} (key : α → κ) (items : κ → β → List α) (keyed : ∀ k b, ∀ x ∈ items k b, key x = k)

include keyed in
/-- Items that are listed under their keys are found under the key that they have. -/
theorem filter_flatMap (m : SortedMap κ β) (k : κ) (p : α → Bool) (only : ∀ x, p x → key x = k) :
    (m.entries.flatMap fun entry => items entry.1 entry.2).filter p =
      ((m.find k).elim [] (items k)).filter p := by
  have elsewhere : ∀ j b, j ≠ k → (items j b).filter p = [] := by
    intro j b apart
    apply List.filter_eq_nil_iff.mpr
    intro x member holds
    exact apart ((keyed j b x member).symm.trans (only x holds))
  obtain ⟨entries, sorted⟩ := m
  simp only [find]
  induction entries with
  | nil => rfl
  | cons head entries ih =>
      obtain ⟨j, b⟩ := head
      obtain ⟨first, rest⟩ := List.pairwise_cons.mp sorted
      have tail := ih rest
      rw [List.flatMap_cons, List.filter_append, tail, findIn]
      by_cases here : j = k
      · subst here
        rw [if_pos rfl, findIn_of_before first]
        simp
      · rw [if_neg here, elsewhere j b here, List.nil_append]

end Items

end SortedMap

end RealSocial.Library
