import Mathlib.Order.Lattice
import RealSocial.Library.Table

namespace RealSocial.Library

/-! # The newest version of each key

A version replaces an older one only when its time is strictly greater, so among versions of one
time the first one received stays. -/

section Newest

variable {ρ κ τ : Type*} [DecidableEq κ] [LinearOrder τ] {key : ρ → κ} {time : ρ → τ}

def newer (time : ρ → τ) : Option ρ → ρ → ρ
  | none, r => r
  | some old, r => if time old < time r then r else old

def newest (key : ρ → κ) (time : ρ → τ) (k : κ) : Option ρ → List ρ → Option ρ
  | old, [] => old
  | old, r :: rs => newest key time k (if key r = k then some (newer time old r) else old) rs

def Table.insertIfNewer (time : ρ → τ) (t : Table key) (r : ρ) : Table key :=
  match t.find (key r) with
  | some old => if time old < time r then t.insertOrReplace r else t
  | none => t.insertOrReplace r

theorem Table.find_insertIfNewer (t : Table key) (r : ρ) (k : κ) :
    (t.insertIfNewer time r).find k = if key r = k then some (newer time (t.find k) r) else t.find k := by
  unfold insertIfNewer
  cases found : t.find (key r) with
  | none =>
      rw [find_insertOrReplace]
      by_cases same : key r = k
      · subst same
        simp [newer, found]
      · simp [same]
  | some old =>
      by_cases later : time old < time r
      · simp only [later, if_true, find_insertOrReplace]
        by_cases same : key r = k
        · subst same
          simp [newer, found, later]
        · simp [same]
      · simp only [later, if_false]
        by_cases same : key r = k
        · subst same
          simp [newer, found, later]
        · simp [same]

theorem Table.find_insertAllIfNewer (t : Table key) (rs : List ρ) (k : κ) :
    (rs.foldl (insertIfNewer time) t).find k = newest key time k (t.find k) rs := by
  induction rs generalizing t with
  | nil => rfl
  | cons r rs ih => rw [List.foldl_cons, ih, find_insertIfNewer, newest]

/-- A version that no earlier one of its key reaches and no later one exceeds. -/
def IsNewest (key : ρ → κ) (time : ρ → τ) (rs : List ρ) (v : ρ) : Prop :=
  ∃ before after, rs = before ++ v :: after ∧
    (∀ w ∈ before, key w = key v → time w < time v) ∧
    ∀ w ∈ after, key w = key v → time w ≤ time v

omit [DecidableEq κ] in
theorem IsNewest.mem {rs : List ρ} {v : ρ} (isNewest : IsNewest key time rs v) : v ∈ rs := by
  obtain ⟨before, after, rfl, -, -⟩ := isNewest
  simp

theorem newest_of_le {k : κ} {v : ρ} (rs : List ρ) (bounded : ∀ w ∈ rs, key w = k → time w ≤ time v) :
    newest key time k (some v) rs = some v := by
  induction rs with
  | nil => rfl
  | cons r rs ih =>
      rw [List.forall_mem_cons] at bounded
      rw [newest, newer]
      by_cases same : key r = k
      · rw [if_pos same, if_neg (not_lt.mpr (bounded.1 same))]
        exact ih bounded.2
      · rw [if_neg same]
        exact ih bounded.2

theorem newest_append (old : Option ρ) (rs ss : List ρ) (k : κ) :
    newest key time k old (rs ++ ss) = newest key time k (newest key time k old rs) ss := by
  induction rs generalizing old with
  | nil => rfl
  | cons r rs ih => exact ih _

theorem newest_eq_none {old : Option ρ} {rs : List ρ} {k : κ}
    (missing : newest key time k old rs = none) : old = none := by
  induction rs generalizing old with
  | nil => exact missing
  | cons r rs ih =>
      have next := ih missing
      split_ifs at next
      exact next

theorem newest_mem {old : Option ρ} {rs : List ρ} {k : κ} {v : ρ}
    (found : newest key time k old rs = some v) : old = some v ∨ v ∈ rs ∧ key v = k := by
  induction rs generalizing old with
  | nil => exact .inl found
  | cons r rs ih =>
      rw [newest] at found
      rcases ih found with here | ⟨member, same⟩
      · by_cases same : key r = k
        · rw [if_pos same, Option.some.injEq] at here
          cases old with
          | none => exact .inr ⟨by simp [← here, newer], by rw [← here]; exact same⟩
          | some o =>
              rw [newer] at here
              split_ifs at here with later
              · exact .inr ⟨by simp [here], by rw [← here]; exact same⟩
              · exact .inl (congrArg some here)
        · rw [if_neg same] at here
          exact .inl here
      · exact .inr ⟨List.mem_cons_of_mem r member, same⟩

theorem le_newer (old : Option ρ) (r : ρ) : time r ≤ time (newer time old r) := by
  cases old with
  | none => exact le_refl _
  | some o =>
      rw [newer]
      split_ifs with later
      · exact le_refl _
      · exact not_lt.mp later

theorem old_le_newer (o r : ρ) : time o ≤ time (newer time (some o) r) := by
  rw [newer]
  split_ifs with later
  · exact le_of_lt later
  · exact le_refl _

theorem newest_cases {old : Option ρ} {rs : List ρ} {k : κ} {v : ρ}
    (found : newest key time k old rs = some v) :
    old = some v ∧ (∀ w ∈ rs, key w = k → time w ≤ time v) ∨
    ∃ before after, rs = before ++ v :: after ∧ key v = k ∧ (∀ o, old = some o → time o < time v) ∧
      (∀ w ∈ before, key w = k → time w < time v) ∧ ∀ w ∈ after, key w = k → time w ≤ time v := by
  induction rs generalizing old with
  | nil => exact .inl ⟨found, by simp⟩
  | cons r rs ih =>
      rw [newest] at found
      by_cases same : key r = k
      · rw [if_pos same] at found
        rcases ih found with ⟨here, bounded⟩ | ⟨before, after, rfl, named, above, smaller, bounded⟩
        · rw [Option.some.injEq] at here
          cases old with
          | none =>
              have first : r = v := here
              subst first
              exact .inr ⟨[], rs, rfl, same, by simp, by simp, bounded⟩
          | some o =>
              rw [newer] at here
              split_ifs at here with later
              · subst here
                refine .inr ⟨[], rs, rfl, same, ?_, by simp, bounded⟩
                intro o' isOld
                rw [← Option.some.inj isOld]
                exact later
              · subst here
                refine .inl ⟨rfl, ?_⟩
                rw [List.forall_mem_cons]
                exact ⟨fun _ => not_lt.mp later, bounded⟩
        · have above' := above _ rfl
          refine .inr ⟨r :: before, after, rfl, named, ?_, ?_, bounded⟩
          · intro o isOld
            subst isOld
            exact lt_of_le_of_lt (old_le_newer o r) above'
          · rw [List.forall_mem_cons]
            exact ⟨fun _ => lt_of_le_of_lt (le_newer old r) above', smaller⟩
      · rw [if_neg same] at found
        rcases ih found with ⟨here, bounded⟩ | ⟨before, after, rfl, named, above, smaller, bounded⟩
        · refine .inl ⟨here, ?_⟩
          rw [List.forall_mem_cons]
          exact ⟨fun named => absurd named same, bounded⟩
        · refine .inr ⟨r :: before, after, rfl, named, above, ?_, bounded⟩
          rw [List.forall_mem_cons]
          exact ⟨fun named => absurd named same, smaller⟩

theorem le_newest {old : Option ρ} {rs : List ρ} {k : κ} {v : ρ}
    (found : newest key time k old rs = some v) {w : ρ} (member : w ∈ rs) (named : key w = k) :
    time w ≤ time v := by
  rcases newest_cases found with ⟨-, bounded⟩ | ⟨before, after, rfl, -, -, smaller, bounded⟩
  · exact bounded w member named
  · rcases List.mem_append.mp member with early | late
    · exact le_of_lt (smaller w early named)
    · rcases List.mem_cons.mp late with rfl | late
      · exact le_refl _
      · exact bounded w late named

theorem newest_eq_some_iff {rs : List ρ} {k : κ} {v : ρ} :
    newest key time k none rs = some v ↔ key v = k ∧ IsNewest key time rs v := by
  constructor
  · intro found
    rcases newest_cases found with ⟨none_held, -⟩ | ⟨before, after, split, named, -, smaller, bounded⟩
    · contradiction
    · subst named
      exact ⟨rfl, before, after, split, smaller, bounded⟩
  · rintro ⟨rfl, before, after, rfl, smaller, bounded⟩
    have taken : newer time (newest key time (key v) none before) v = v := by
      cases held : newest key time (key v) none before with
      | none => rfl
      | some o =>
          rcases newest_mem held with none_held | ⟨member, same⟩
          · contradiction
          · rw [newer, if_pos (smaller o member same)]
    rw [newest_append, newest, if_pos rfl, taken]
    exact newest_of_le after bounded

theorem newest_cons_old {o : ρ} {rs : List ρ} {k : κ} (named : key o = k) :
    newest key time k none (o :: rs) = newest key time k (some o) rs := by
  rw [newest, if_pos named]
  rfl

theorem newest_eq_of_absent {old : Option ρ} {rs : List ρ} {k : κ} (absent : ∀ r ∈ rs, key r ≠ k) :
    newest key time k old rs = old := by
  induction rs with
  | nil => rfl
  | cons r rs ih =>
      rw [List.forall_mem_cons] at absent
      rw [newest, if_neg absent.1]
      exact ih absent.2

theorem newest_eq_foldl (old : Option ρ) (rs : List ρ) (k : κ) :
    newest key time k old rs =
      rs.foldl (fun old r => if key r = k then some (newer time old r) else old) old := by
  induction rs generalizing old with
  | nil => rfl
  | cons r rs ih => exact ih _

theorem newer_comm {v w : ρ} (old : Option ρ) (distinct : time v = time w → v = w) :
    newer time (some (newer time old v)) w = newer time (some (newer time old w)) v := by
  rcases lt_trichotomy (time v) (time w) with less | same | less
  · cases old with
    | none => simp [newer, less, not_lt_of_gt less]
    | some o =>
        by_cases above : time o < time v
        · simp [newer, less, not_lt_of_gt less, above, above.trans less]
        · have below := not_lt.mp above
          by_cases aboveW : time o < time w
          · simp [newer, above, aboveW, not_lt_of_gt less]
          · simp [newer, above, aboveW]
  · rw [distinct same]
  · cases old with
    | none => simp [newer, less, not_lt_of_gt less]
    | some o =>
        by_cases above : time o < time w
        · simp [newer, less, not_lt_of_gt less, above, above.trans less]
        · by_cases aboveV : time o < time v
          · simp [newer, above, aboveV, not_lt_of_gt less]
          · simp [newer, above, aboveV]

/-- Where no two different versions of a key have one time, the order of the versions does not matter. -/
theorem newest_perm {old : Option ρ} {rs ss : List ρ} (perm : rs.Perm ss) (k : κ)
    (distinct : ∀ v ∈ rs, ∀ w ∈ rs, key v = key w → time v = time w → v = w) :
    newest key time k old rs = newest key time k old ss := by
  rw [newest_eq_foldl, newest_eq_foldl]
  apply perm.foldl_eq'
  intro v memV w memW held
  by_cases namedV : key v = k
  · by_cases namedW : key w = k
    · rw [if_pos namedV, if_pos namedW, if_pos namedW, if_pos namedV]
      exact congrArg some (newer_comm held (distinct v memV w memW (namedV.trans namedW.symm)))
    · rw [if_pos namedV, if_neg namedW, if_neg namedW, if_pos namedV]
  · by_cases namedW : key w = k
    · simp only [if_neg namedV, if_pos namedW]
    · simp only [if_neg namedV, if_neg namedW]

/-- The table has a version of the row's key that is at least as new. -/
def Table.Holds (time : ρ → τ) (t : Table key) (r : ρ) : Prop :=
  ∃ v, t.find (key r) = some v ∧ time r ≤ time v

theorem Table.insertIfNewer_of_holds {t : Table key} {r : ρ} (holds : t.Holds time r) :
    t.insertIfNewer time r = t := by
  obtain ⟨v, found, newEnough⟩ := holds
  simp only [insertIfNewer, found]
  rw [if_neg (not_lt.mpr newEnough)]

theorem Table.holds_insertIfNewer (t : Table key) (r x : ρ) :
    (t.insertIfNewer time r).Holds time x ↔ t.Holds time x ∨ key r = key x ∧ time x ≤ time r := by
  unfold Holds
  rw [find_insertIfNewer]
  by_cases same : key r = key x
  · rw [if_pos same]
    cases found : t.find (key x) with
    | none => simp [newer, same]
    | some v =>
        by_cases later : time v < time r
        · simp only [newer, later, if_true, Option.some.injEq, exists_eq_left', same, true_and]
          exact ⟨.inr, fun either => either.elim (fun before => before.trans later.le) id⟩
        · simp only [newer, later, if_false, Option.some.injEq, exists_eq_left', same, true_and]
          exact ⟨.inl, fun either => either.elim id fun here => here.trans (not_lt.mp later)⟩
  · rw [if_neg same]
    simp [same]

theorem Table.foldl_insertIfNewer_of_holds {t : Table key} {rs : List ρ}
    (holds : ∀ r ∈ rs, t.Holds time r) : rs.foldl (insertIfNewer time) t = t := by
  induction rs with
  | nil => rfl
  | cons r rs ih =>
      rw [List.forall_mem_cons] at holds
      rw [List.foldl_cons, insertIfNewer_of_holds holds.1]
      exact ih holds.2

theorem Table.holds_foldl_insertIfNewer {t : Table key} {rs : List ρ} {r : ρ} (member : r ∈ rs) :
    (rs.foldl (insertIfNewer time) t).Holds time r := by
  have known : newest key time (key r) (t.find (key r)) rs ≠ none := by
    obtain ⟨before, after, rfl⟩ := List.append_of_mem member
    rw [newest_append, newest, if_pos rfl]
    intro missing
    cases newest_eq_none missing
  obtain ⟨v, found⟩ := Option.ne_none_iff_exists'.mp known
  exact ⟨v, (find_insertAllIfNewer t rs (key r)).trans found, le_newest found member rfl⟩

/-- Saving the versions again changes nothing. -/
theorem Table.foldl_insertIfNewer_idem (t : Table key) (rs : List ρ) :
    rs.foldl (insertIfNewer time) (rs.foldl (insertIfNewer time) t) = rs.foldl (insertIfNewer time) t :=
  foldl_insertIfNewer_of_holds fun _ member => holds_foldl_insertIfNewer member

end Newest

end RealSocial.Library
