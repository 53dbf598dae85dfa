import Mathlib.Logic.Function.Basic

namespace RealSocial.Library

/-! # Look-aside caches

A lookup answers from the cache and fills it from the backing map; writes go to the backing
map alone. -/

@[ext] structure LookAside (κ ν : Type*) where
  backing : κ → Option ν
  cache : κ → Option ν

namespace LookAside

variable {κ ν : Type*} [DecidableEq κ]

def lookup (s : LookAside κ ν) (k : κ) : Option ν × LookAside κ ν :=
  match s.cache k with
  | some v => (some v, s)
  | none =>
      match s.backing k with
      | some v => (some v, { s with cache := Function.update s.cache k (some v) })
      | none => (none, s)

def write (s : LookAside κ ν) (backing : κ → Option ν) : LookAside κ ν := { s with backing }

def Coherent (s : LookAside κ ν) : Prop := ∀ k, (s.lookup k).1 = s.backing k

theorem lookup_backing (s : LookAside κ ν) (k : κ) : (s.lookup k).2.backing = s.backing := by
  unfold lookup
  cases s.cache k with
  | some v => rfl
  | none => cases s.backing k <;> rfl

theorem coherent_iff {s : LookAside κ ν} :
    s.Coherent ↔ ∀ k v, s.cache k = some v → s.backing k = some v := by
  constructor
  · intro coherent k v cached
    rw [← coherent k, lookup, cached]
  · intro agrees k
    unfold lookup
    cases cached : s.cache k with
    | some v => exact (agrees k v cached).symm
    | none =>
        cases held : s.backing k with
        | some v => rfl
        | none => rfl

theorem Coherent.lookup {s : LookAside κ ν} (coherent : s.Coherent) (k : κ) : (s.lookup k).2.Coherent := by
  rw [coherent_iff] at coherent ⊢
  intro k' v
  rw [lookup_backing]
  unfold LookAside.lookup
  cases s.cache k with
  | some v' => exact coherent k' v
  | none =>
      cases held : s.backing k with
      | none => exact coherent k' v
      | some v' =>
          by_cases same : k' = k
          · subst same
            simp [held]
          · simpa [same] using coherent k' v

theorem Coherent.write_iff {s : LookAside κ ν} (coherent : s.Coherent) (backing : κ → Option ν) :
    (s.write backing).Coherent ↔ ∀ k, s.cache k ≠ none → backing k = s.backing k := by
  rw [coherent_iff] at coherent ⊢
  constructor
  · intro agrees k cached
    obtain ⟨v, cached⟩ := Option.ne_none_iff_exists'.mp cached
    exact (agrees k v cached).trans (coherent k v cached).symm
  · intro keeps k v cached
    change s.cache k = some v at cached
    have kept := keeps k (by simp [cached])
    exact kept.trans (coherent k v cached)

end LookAside

end RealSocial.Library
