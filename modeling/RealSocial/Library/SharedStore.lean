import Mathlib.Data.List.Basic

namespace RealSocial.Library

/-! # Maps that share one store

Values are saved under names, and names with one code share one place. The saves are listed with the
newest first. -/

section Last

variable {ν κ α : Type*} [DecidableEq κ] (code : ν → κ)

def lastAtCode (k : κ) (saves : List (ν × α)) : Option (ν × α) :=
  saves.find? fun save => code save.1 = k

theorem lastAtCode_cons (k : κ) (save : ν × α) (saves : List (ν × α)) :
    lastAtCode code k (save :: saves) = if code save.1 = k then some save else lastAtCode code k saves := by
  unfold lastAtCode
  by_cases same : code save.1 = k
  · rw [List.find?_cons_of_pos (by simpa using same), if_pos same]
  · rw [List.find?_cons_of_neg (by simpa using same), if_neg same]

variable {code}

theorem mem_of_lastAtCode {k : κ} {save : ν × α} {saves : List (ν × α)}
    (last : lastAtCode code k saves = some save) : save ∈ saves ∧ code save.1 = k := by
  refine ⟨List.mem_of_find?_eq_some last, ?_⟩
  simpa using List.find?_some last

variable [DecidableEq ν]

/-- What a map of its own for each name would hold. -/
def lastSaved (name : ν) (saves : List (ν × α)) : Option α :=
  (saves.find? fun save => save.1 = name).map Prod.snd

theorem lastSaved_cons (name : ν) (save : ν × α) (saves : List (ν × α)) :
    lastSaved name (save :: saves) = if save.1 = name then some save.2 else lastSaved name saves := by
  unfold lastSaved
  by_cases same : save.1 = name
  · rw [List.find?_cons_of_pos (by simpa using same), if_pos same]
    rfl
  · rw [List.find?_cons_of_neg (by simpa using same), if_neg same]

theorem lastSaved_eq_none_of_code {name : ν} {saves : List (ν × α)}
    (nothing : lastAtCode code (code name) saves = none) : lastSaved name saves = none := by
  induction saves with
  | nil => rfl
  | cons save saves ih =>
      rw [lastAtCode_cons] at nothing
      split_ifs at nothing with same
      have other : save.1 ≠ name := fun equal => same (congrArg code equal)
      rw [lastSaved_cons, if_neg other]
      exact ih nothing

/-- Where the last save at the place of a name is the name's own, it is the last one of the name. -/
theorem lastSaved_of_own {name : ν} {value : α} {saves : List (ν × α)}
    (own : lastAtCode code (code name) saves = some (name, value)) : lastSaved name saves = some value := by
  induction saves with
  | nil => cases own
  | cons save saves ih =>
      rw [lastAtCode_cons] at own
      split_ifs at own with same
      · obtain rfl := Option.some.inj own
        rw [lastSaved_cons, if_pos rfl]
      · have other : save.1 ≠ name := fun equal => same (congrArg code equal)
        rw [lastSaved_cons, if_neg other]
        exact ih own

end Last

/-! Codes that put a separator between two texts. -/

theorem append_cons_inj {α : Type*} {separator : α} {front front' back back' : List α}
    (same : front ++ separator :: back = front' ++ separator :: back')
    (clean : separator ∉ back) (clean' : separator ∉ back') : front = front' ∧ back = back' := by
  rcases List.append_eq_append_iff.mp same with ⟨mid, longer, rest⟩ | ⟨mid, longer, rest⟩
  · cases mid with
    | nil =>
        rw [List.append_nil] at longer
        exact ⟨longer.symm, (List.cons.inj rest).2⟩
    | cons head mid =>
        rw [(List.cons.inj rest).2] at clean
        exact absurd (List.mem_append_right mid List.mem_cons_self) clean
  · cases mid with
    | nil =>
        rw [List.append_nil] at longer
        exact ⟨longer, (List.cons.inj rest).2.symm⟩
    | cons head mid =>
        rw [(List.cons.inj rest).2] at clean'
        exact absurd (List.mem_append_right mid List.mem_cons_self) clean'

end RealSocial.Library
